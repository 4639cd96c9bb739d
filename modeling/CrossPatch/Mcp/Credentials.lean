import CrossPatch.Mcp.Auth

/-!
# What the middleware makes of a credential

`MCPAuthMiddleware` answers a refused request with its status and lets every exception
other than `MCPAuthError` through.  The refusals cover everything short of three kinds of
credentials: one that is no ASCII text up to its signature, a signed one that is nested too
deeply, and a signed one that expires after the last date.  What a `TokenIssuer` has issued
is accepted from its issue to the second of its expiry, if that second is a date.
-/

namespace CrossPatch.Mcp.Credentials

open CrossPatch.Domain.Failure CrossPatch.Domain.Text
open CrossPatch.Library CrossPatch.Library.Attempt CrossPatch.Library.Calendar
open CrossPatch.Library.JsonReader CrossPatch.Library.JsonText CrossPatch.Library.Octets
open CrossPatch.Library.Sha256
open CrossPatch.Mcp.Auth

variable (policy : AuthPolicy)

/-! ## The middleware -/

/-- `authorize` reads the clock once for the claims and once for the sessions. -/
def authorize (request : Request) (active : Bool) (now later : Instant) (state : Sessions) :
    Except AuthFailure AuthenticatedIdentity × Sessions :=
  match identify policy request active now with
  | .error failure => (.error failure, state)
  | .ok identity =>
      let (answer, next) := authorizeLocked policy identity request.sessionId later state
      (answer.map fun _ => identity, next)

structure Scope where
  headers : List (Bytes × Bytes)
  queryString : Bytes

def latin1 (bytes : Bytes) : String := String.ofList (bytes.map fun byte => Char.ofNat byte.toNat)

/-- Decoding that leaves out what is not ASCII. -/
def asciiText (bytes : Bytes) : String :=
  latin1 (bytes.filter fun byte => decide (byte.toNat < 128))

/-- Of several headers of one name the last one counts. -/
def headerValue (scope : Scope) (name : String) : Option String :=
  (scope.headers.reverse.find? fun header => policy.lower (latin1 header.1) == name).map
    fun header => latin1 header.2

def bearer (authorization : String) : Option String :=
  if "Bearer ".toList.isPrefixOf authorization.toList then
    some (String.ofList (authorization.toList.drop 7))
  else none

/-- `parseQs` lists the names that a query string gives a value. -/
def requestOf (parseQs : String → List String) (scope : Scope) : Request where
  credential :=
    if "access_token" ∈ parseQs (asciiText scope.queryString) then none
    else (headerValue policy scope "authorization").bind bearer
  host := (headerValue policy scope "host").getD ""
  origin := headerValue policy scope "origin"
  sessionId := headerValue policy scope "mcp-session-id"

inductive Reply where
  | refused (statusCode : Nat) (body : String)
  | forwarded (identity : AuthenticatedIdentity)
  | raised (error : Raised)

def refusalBody : String := "\x7b\"error\": \"MCP authorization failed\"\x7d"

def replyOf : Except AuthFailure AuthenticatedIdentity → Reply
  | .ok identity => .forwarded identity
  | .error (.mcpAuthError _ statusCode) => .refused statusCode refusalBody
  | .error (.raised error) => .raised error

def respond (parseQs : String → List String) (scope : Scope) (active : Bool) (now later : Instant)
    (state : Sessions) : Reply × Sessions :=
  let (answer, next) := authorize policy (requestOf policy parseQs scope) active now later state
  (replyOf answer, next)

def statuses : List Nat := [401, 403, 503]

/-- The request is passed on, or refused in the one form that clients know. -/
def Reply.Stable : Reply → Prop
  | .refused statusCode body => statusCode ∈ statuses ∧ body = refusalBody
  | .forwarded _ => True
  | .raised _ => False

instance (reply : Reply) : Decidable reply.Stable :=
  match reply with
  | .refused _ _ => inferInstanceAs (Decidable (_ ∧ _))
  | .forwarded _ => .isTrue trivial
  | .raised _ => .isFalse id

/-! ## What is not refused -/

/-- The middleware catches `MCPAuthError` only, and clients know three statuses. -/
def handled : AuthFailure → Bool
  | .mcpAuthError _ statusCode => decide (statusCode ∈ statuses)
  | .raised _ => false

def Loads (part : List Char) (result : Except Flaw Json) : Prop :=
  ∃ bytes, base64urlDecode part = .ok bytes ∧
    policy.decoder.loads rejectDuplicates bytes = result

/-- The signature is that of the ASCII text in front of it. -/
def Signed (header claims signature : List Char) : Prop :=
  isAscii (String.ofList (header ++ '.' :: claims)) = true ∧
    base64urlDecode signature = .ok (hmacSha256 policy.config.signingSecret
      (utf8 (String.ofList (header ++ '.' :: claims))))

/-- Everything that is asked of claims, short of the expiry being a date. -/
structure Accepted (claims : Claims) (now : Instant) (subject jti : String)
    (issuedAt expiresAt : Int) : Prop where
  names : (claims.all fun claim => (requiredClaims policy).contains claim.1) = true ∧
    ((requiredClaims policy).all fun name => (claims.lookup name).isSome) = true
  named : textClaim claims "sub" = some subject
  jti : textClaim claims "jti" = some jti ∧ isIdentifier jti = true
  issued : intClaim claims "iat" = some issuedAt
  expiry : intClaim claims "exp" = some expiresAt
  incident : policy.config.incidentScoped = true →
    (textClaim claims "incident_id").any isIncidentId = true
  current : wholeSeconds now < expiresAt ∧ issuedAt ≤ wholeSeconds now + maxClockSkewSeconds
  lifetime : policy.config.maxTokenLifetimeSeconds.all (fun lifetime =>
    decide (expiresAt - issuedAt ≤ lifetime)) = true
  zone : textClaim claims "iss" = some policy.config.issuer ∧
    textClaim claims "aud" = some policy.config.audience ∧
    textClaim claims "zone" = some policy.config.zone ∧ subject ∈ policy.config.allowedSubjects

/-- The credentials on which the verification trips. -/
inductive Trips (credential : String) (now : Instant) : Prop where
  | foreign (header claims signature : List Char)
      (split : credential.toList.splitOn '.' = [header, claims, signature])
      (foreign : isAscii (String.ofList (header ++ '.' :: claims)) = false)
  | nestedHeader (header claims signature : List Char)
      (split : credential.toList.splitOn '.' = [header, claims, signature])
      (signed : Signed policy header claims signature)
      (nested : Loads policy header (.error .nesting))
  | nestedClaims (header claims signature : List Char)
      (split : credential.toList.splitOn '.' = [header, claims, signature])
      (signed : Signed policy header claims signature) (value : Json)
      (read : Loads policy header (.ok value)) (nested : Loads policy claims (.error .nesting))
  | undated (header claims signature : List Char)
      (split : credential.toList.splitOn '.' = [header, claims, signature])
      (signed : Signed policy header claims signature) (value : Json)
      (read : Loads policy header (.ok value)) (expected : isHeader value = true)
      (members : Claims) (readClaims : Loads policy claims (.ok (.obj members)))
      (subject jti : String) (issuedAt expiresAt : Int)
      (accepted : Accepted policy members now subject jti issuedAt expiresAt)
      (late : (lastDay + 1) * 86400 ≤ expiresAt)

/-- The request gets as far as its credential. -/
def Presents (request : Request) (credential : String) : Prop :=
  hostName policy request.host ∈ policy.config.allowedHosts.map (hostName policy) ∧
    allowOrigin policy request.origin = .ok () ∧ request.credential = some credential ∧
      credential ≠ ""

variable {policy}

@[simp]
theorem escapes_refuse {α : Type} {statusCode : Nat} (known : statusCode ∈ statuses)
    (message : String) : ¬ Escapes handled (refuse message statusCode : Except AuthFailure α) := by
  simp [refuse, handled, known]

@[simp]
theorem escapes_demand (condition : Prop) [Decidable condition] (message : String)
    {statusCode : Nat} (known : statusCode ∈ statuses) :
    ¬ Escapes handled (demand condition message statusCode) := by
  simp [demand, handled, known]

@[simp]
theorem demand_eq_ok {condition : Prop} [Decidable condition] {message : String}
    {statusCode : Nat} {result : Unit} :
    demand condition message statusCode = .ok result ↔ condition := require_eq_ok

@[simp]
theorem escapes_base64urlDecode (text : List Char) : ¬ Escapes handled (base64urlDecode text) := by
  unfold base64urlDecode
  split <;> simp +decide

theorem loadPart_eq_ok {part : List Char} {value : Json} :
    loadPart policy part = .ok value ↔ Loads policy part (.ok value) := by
  unfold loadPart Loads
  rw [bind_eq_ok]
  refine exists_congr fun bytes => and_congr_right fun _ => ?_
  cases policy.decoder.loads rejectDuplicates bytes with
  | ok read => simp
  | error flaw => cases flaw <;> simp [refuse]

theorem loadPart_escapes {part : List Char} :
    Escapes handled (loadPart policy part) ↔ Loads policy part (.error .nesting) := by
  unfold loadPart Loads
  rw [escapes_bind]
  simp only [escapes_base64urlDecode, false_or]
  refine exists_congr fun bytes => and_congr_right fun _ => ?_
  cases policy.decoder.loads rejectDuplicates bytes with
  | ok read => simp
  | error flaw => cases flaw <;> simp +decide

/-- What decoding asks of a token before it reads the parts. -/
theorem decode_split {token : String} {header claims signature : List Char}
    (split : token.toList.splitOn '.' = [header, claims, signature]) :
    decode policy token = (do
      require (isAscii (String.ofList (header ++ '.' :: claims)) = true)
        (.raised ⟨.unicodeEncodeError, "ordinal not in range(128)"⟩)
      let given ← base64urlDecode signature
      demand (given = hmacSha256 policy.config.signingSecret
        (utf8 (String.ofList (header ++ '.' :: claims)))) "invalid bearer token signature" 401
      let headerValue ← loadPart policy header
      let claimsValue ← loadPart policy claims
      demand (isHeader headerValue = true) "unsupported bearer token header" 401
      match claimsValue with
      | .obj members => .ok members
      | _ => refuse "malformed bearer token claims" 401) := by
  unfold decode
  rewrite [split]
  rfl

theorem decode_eq_ok {token : String} {members : Claims}
    (decoded : decode policy token = .ok members) : ∃ header claims signature value,
      token.toList.splitOn '.' = [header, claims, signature] ∧
      Signed policy header claims signature ∧ Loads policy header (.ok value) ∧
      isHeader value = true ∧ Loads policy claims (.ok (.obj members)) := by
  unfold decode at decoded
  split at decoded
  · rename_i header claims signature split
    obtain ⟨_, ascii, decoded⟩ := bind_eq_ok.mp decoded
    obtain ⟨given, mac, decoded⟩ := bind_eq_ok.mp decoded
    obtain ⟨_, same, decoded⟩ := bind_eq_ok.mp decoded
    obtain ⟨value, read, decoded⟩ := bind_eq_ok.mp decoded
    obtain ⟨body, readClaims, decoded⟩ := bind_eq_ok.mp decoded
    obtain ⟨_, expected, decoded⟩ := bind_eq_ok.mp decoded
    rw [require_eq_ok] at ascii
    rw [demand_eq_ok] at same expected
    rw [loadPart_eq_ok] at read readClaims
    refine ⟨header, claims, signature, value, split, ⟨ascii, same ▸ mac⟩, read, expected, ?_⟩
    split at decoded
    · cases decoded
      exact readClaims
    · cases decoded
  · cases decoded

theorem decode_escapes {token : String} : Escapes handled (decode policy token) ↔
    ∃ header claims signature, token.toList.splitOn '.' = [header, claims, signature] ∧
      (isAscii (String.ofList (header ++ '.' :: claims)) = false ∨
        Signed policy header claims signature ∧ (Loads policy header (.error .nesting) ∨
          ∃ value, Loads policy header (.ok value) ∧ Loads policy claims (.error .nesting))) := by
  constructor
  · intro escapes
    unfold decode at escapes
    split at escapes
    · rename_i header claims signature split
      refine ⟨header, claims, signature, split, ?_⟩
      simp +decide only [escapes_bind, escapes_require, escapes_base64urlDecode, escapes_demand, false_or,
        require_eq_ok, demand_eq_ok, loadPart_escapes, loadPart_eq_ok] at escapes
      rcases escapes with ⟨foreign, _⟩ | ⟨_, ascii, given, mac, _, same, nested | later⟩
      · exact Or.inl (Bool.of_not_eq_true foreign)
      · exact Or.inr ⟨⟨ascii, same ▸ mac⟩, Or.inl nested⟩
      · obtain ⟨value, read, nested | ⟨body, _, _, _, escapes⟩⟩ := later
        · exact Or.inr ⟨⟨ascii, same ▸ mac⟩, Or.inr ⟨value, read, nested⟩⟩
        · split at escapes <;> simp +decide at escapes
    · simp +decide at escapes
  · rintro ⟨header, claims, signature, split, rest⟩
    rw [decode_split split]
    simp +decide only [escapes_bind, escapes_require, escapes_base64urlDecode, escapes_demand, false_or,
      require_eq_ok, demand_eq_ok, loadPart_escapes, loadPart_eq_ok]
    rcases rest with foreign | ⟨⟨ascii, mac⟩, nested | ⟨value, read, nested⟩⟩
    · exact Or.inl ⟨by rw [foreign]; decide, trivial⟩
    · exact Or.inr ⟨(), ascii, _, mac, (), rfl, Or.inl nested⟩
    · exact Or.inr ⟨(), ascii, _, mac, (), rfl, Or.inr ⟨value, read, Or.inl nested⟩⟩

/-! ## The claims -/

theorem identityClaims_eq_ok {claims : Claims} {subject jti : String} :
    identityClaims claims = .ok (subject, jti) ↔
      textClaim claims "sub" = some subject ∧ textClaim claims "jti" = some jti ∧
        isIdentifier jti = true := by
  unfold identityClaims
  cases textClaim claims "sub" with
  | none => simp [refuse]
  | some given =>
      cases textClaim claims "jti" with
      | none => simp [refuse]
      | some id =>
          dsimp only
          split
          · rename_i valid
            constructor
            · intro same
              cases same
              exact ⟨rfl, rfl, valid⟩
            · rintro ⟨named, identified, _⟩
              cases named
              cases identified
              rfl
          · rename_i invalid
            constructor
            · intro same
              cases same
            · rintro ⟨_, identified, valid⟩
              cases identified
              exact absurd valid invalid

theorem integerClaim_eq_ok {claims : Claims} {name message : String} {value : Int} :
    integerClaim claims name message = .ok value ↔ intClaim claims name = some value := by
  unfold integerClaim
  cases intClaim claims name <;> simp [refuse]

@[simp]
theorem escapes_identityClaims (claims : Claims) : ¬ Escapes handled (identityClaims claims) := by
  unfold identityClaims
  split
  · split <;> simp +decide
  · simp +decide

@[simp]
theorem escapes_integerClaim (claims : Claims) (name message : String) :
    ¬ Escapes handled (integerClaim claims name message) := by
  unfold integerClaim
  split <;> simp +decide

/-- Accepted claims are verified when their expiry is a date. -/
theorem Accepted.verifyClaims {claims : Claims} {now : Instant} {subject jti : String}
    {issuedAt expiresAt : Int}
    (accepted : Accepted policy claims now subject jti issuedAt expiresAt) :
    verifyClaims policy claims now = (do
      let expiry ← fromTimestamp expiresAt
      .ok ⟨subject, jti, expiry, textClaim claims "incident_id"⟩) := by
  have identity := identityClaims_eq_ok.mpr ⟨accepted.named, accepted.jti⟩
  unfold Auth.verifyClaims demand
  rw [require_true accepted.names, identity, integerClaim_eq_ok.mpr accepted.issued,
    integerClaim_eq_ok.mpr accepted.expiry]
  simp only [ok_bind]
  rw [require_true accepted.incident, require_true accepted.current,
    require_true accepted.lifetime, require_true accepted.zone]
  rfl

/-- Claims that are not accepted are refused. -/
theorem accepted_of_verifyClaims {claims : Claims} {now : Instant}
    (verifies : (∃ verified, verifyClaims policy claims now = .ok verified) ∨
      Escapes handled (verifyClaims policy claims now)) :
    ∃ subject jti issuedAt expiresAt,
      Accepted policy claims now subject jti issuedAt expiresAt := by
  unfold verifyClaims at verifies
  simp +decide only [bind_eq_ok, escapes_bind, escapes_demand, escapes_identityClaims,
    escapes_integerClaim, false_or, demand_eq_ok, integerClaim_eq_ok] at verifies
  rcases verifies with ⟨verified, _, names, ⟨subject, jti⟩, identity, issuedAt, issued, expiresAt,
    expiry, _, incident, _, current, _, lifetime, _, zone, _⟩ | ⟨_, names, ⟨subject, jti⟩, identity,
    issuedAt, issued, expiresAt, expiry, _, incident, _, current, _, lifetime, _, zone, _⟩
  all_goals
    obtain ⟨named, jtiNamed, valid⟩ := identityClaims_eq_ok.mp identity
    exact ⟨subject, jti, issuedAt, expiresAt, names, named, ⟨jtiNamed, valid⟩, issued, expiry,
      incident, current, lifetime, zone⟩

/-- The nearest double may be the whole number of seconds further from the epoch. -/
theorem wholeSeconds_bounds (instant : Instant) :
    (0 ≤ instant.micros → instant.micros / 1000000 ≤ wholeSeconds instant ∧
        wholeSeconds instant ≤ (instant.micros + 999999) / 1000000) ∧
      (instant.micros < 0 → -((-instant.micros + 999999) / 1000000) ≤ wholeSeconds instant ∧
        wholeSeconds instant ≤ -(-instant.micros / 1000000)) := by
  have low := Doubles.wholePart_low instant.micros.natAbs (show 0 < 1000000 by decide)
  have high : Doubles.wholePart instant.micros.natAbs 1000000 ≤
      ((instant.micros.natAbs : Int) + 999999) / 1000000 :=
    Doubles.wholePart_high (by decide) (by omega)
  unfold wholeSeconds
  generalize Doubles.wholePart instant.micros.natAbs 1000000 = whole at low high ⊢
  constructor
  · intro late
    obtain zero | positive := late.eq_or_lt
    · rw [← zero, Int.sign_zero, Int.zero_mul]
      decide
    · rw [Int.sign_eq_one_of_pos positive]
      omega
  · intro early
    rw [Int.sign_eq_neg_one_of_neg early]
    omega

theorem wholeSeconds_low (now : Instant) : firstDay * 86400 ≤ wholeSeconds now := by
  obtain ⟨late, early⟩ := wholeSeconds_bounds now
  have low := now.low
  unfold firstDay dayMicros at *
  omega

/-- From 9999-12-31T23:59:59.999985 on, the seconds are rounded up to the year 10000. -/
def latestExpiry : Int := 253402300799999985

theorem wholeSeconds_late (instant : Instant) :
    (lastDay + 1) * 86400 ≤ wholeSeconds instant ↔ latestExpiry ≤ instant.micros := by
  obtain ⟨late, early⟩ := wholeSeconds_bounds instant
  have high := instant.high
  unfold lastDay dayMicros latestExpiry at *
  by_cases last : 253402300799000000 ≤ instant.micros
  · -- In the last second the doubles are multiples of `2 ^ -15`.
    obtain ⟨count, micros⟩ := Int.eq_ofNat_of_zero_le (by omega : 0 ≤ instant.micros)
    have whole : count / 1000000 = 253402300799 := by omega
    have places : Doubles.places count 1000000 = 15 := by
      rw [Doubles.places, whole]
      decide
    have sign : instant.micros.sign = 1 := Int.sign_eq_one_of_pos (by omega)
    rw [wholeSeconds, sign, micros, Int.natAbs_natCast, Doubles.wholePart, places]
    unfold Decimals.Context.roundHalfEven
    dsimp only
    split_ifs <;> omega
  · omega

/-- What is no date is too late. -/
theorem fromTimestamp_escapes {now : Instant} {expiresAt : Int}
    (current : wholeSeconds now < expiresAt) :
    Escapes handled (fromTimestamp expiresAt) ↔ (lastDay + 1) * 86400 ≤ expiresAt := by
  have low := wholeSeconds_low now
  have started : firstDay * dayMicros ≤ expiresAt * 1000000 := by
    unfold firstDay dayMicros at *
    omega
  have bound : expiresAt * 1000000 < (lastDay + 1) * dayMicros ↔
      ¬ (lastDay + 1) * 86400 ≤ expiresAt := by
    unfold lastDay dayMicros
    omega
  unfold fromTimestamp
  rw [dif_pos started]
  split
  · rename_i high
    simp [bound.mp high]
  · rename_i late
    rw [bound, not_not] at late
    simp [handled, late]

theorem verifyClaims_escapes {claims : Claims} {now : Instant} :
    Escapes handled (verifyClaims policy claims now) ↔ ∃ subject jti issuedAt expiresAt,
      Accepted policy claims now subject jti issuedAt expiresAt ∧
        (lastDay + 1) * 86400 ≤ expiresAt := by
  constructor
  · intro escapes
    obtain ⟨subject, jti, issuedAt, expiresAt, accepted⟩ :=
      accepted_of_verifyClaims (Or.inr escapes)
    refine ⟨subject, jti, issuedAt, expiresAt, accepted, ?_⟩
    rw [accepted.verifyClaims, escapes_bind] at escapes
    rcases escapes with escapes | ⟨_, _, escapes⟩
    · exact (fromTimestamp_escapes accepted.current.1).mp escapes
    · simp at escapes
  · rintro ⟨subject, jti, issuedAt, expiresAt, accepted, late⟩
    rw [accepted.verifyClaims, escapes_bind]
    exact Or.inl ((fromTimestamp_escapes accepted.current.1).mpr late)

/-! ## Requests -/

theorem trips_iff {credential : String} {now : Instant} : Trips policy credential now ↔
    Escapes handled (decode policy credential) ∨
      ∃ claims, decode policy credential = .ok claims ∧
        Escapes handled (verifyClaims policy claims now) := by
  constructor
  · intro trips
    cases trips with
    | foreign header claims signature split foreign =>
        exact Or.inl (decode_escapes.mpr ⟨header, claims, signature, split, Or.inl foreign⟩)
    | nestedHeader header claims signature split signed nested =>
        exact Or.inl (decode_escapes.mpr
          ⟨header, claims, signature, split, Or.inr ⟨signed, Or.inl nested⟩⟩)
    | nestedClaims header claims signature split signed value read nested =>
        exact Or.inl (decode_escapes.mpr
          ⟨header, claims, signature, split, Or.inr ⟨signed, Or.inr ⟨value, read, nested⟩⟩⟩)
    | undated header claims signature split signed value read expected members readClaims subject
        jti issuedAt expiresAt accepted late =>
        refine Or.inr ⟨members, ?_,
          verifyClaims_escapes.mpr ⟨subject, jti, issuedAt, expiresAt, accepted, late⟩⟩
        rw [decode_split split, require_true signed.1, loadPart_eq_ok.mpr read,
          loadPart_eq_ok.mpr readClaims, signed.2]
        simp only [ok_bind, demand, require_true, expected]
  · rintro (escapes | ⟨members, decoded, escapes⟩)
    · obtain ⟨header, claims, signature, split, foreign | ⟨signed, nested | ⟨value, read, nested⟩⟩⟩ :=
        decode_escapes.mp escapes
      · exact .foreign header claims signature split foreign
      · exact .nestedHeader header claims signature split signed nested
      · exact .nestedClaims header claims signature split signed value read nested
    · obtain ⟨header, claims, signature, value, split, signed, read, expected, readClaims⟩ :=
        decode_eq_ok decoded
      obtain ⟨subject, jti, issuedAt, expiresAt, accepted, late⟩ := verifyClaims_escapes.mp escapes
      exact .undated header claims signature split signed value read expected members readClaims
        subject jti issuedAt expiresAt accepted late

@[simp]
theorem escapes_allowOrigin (origin : Option String) :
    ¬ Escapes handled (allowOrigin policy origin) := by
  unfold allowOrigin
  split <;> simp +decide

theorem identify_escapes {request : Request} {active : Bool} {now : Instant} :
    Escapes handled (identify policy request active now) ↔
      ∃ credential, Presents policy request credential ∧ Trips policy credential now := by
  unfold identify Presents
  simp +decide only [escapes_bind, escapes_demand, escapes_allowOrigin, false_or, demand_eq_ok]
  cases request.credential with
  | none => simp +decide
  | some credential =>
      simp +decide only [escapes_bind, escapes_demand, false_or, demand_eq_ok, escapes_ok, and_false,
        exists_const, exists_false, or_false, Option.some.injEq]
      constructor
      · rintro ⟨host, _, origin, some, escapes⟩
        exact ⟨credential, ⟨host, origin, rfl, some⟩, trips_iff.mpr escapes⟩
      · rintro ⟨_, ⟨host, origin, rfl, some⟩, trips⟩
        exact ⟨host, (), origin, some, trips_iff.mp trips⟩

/-- Under the lock every failure is a refusal. -/
theorem authorizeLocked_handled (identity : AuthenticatedIdentity) (sessionId : Option String)
    (now : Instant) (state : Sessions) :
    ¬ Escapes handled (authorizeLocked policy identity sessionId now state).1 := by
  unfold authorizeLocked
  cases sessionId with
  | none =>
      dsimp only [admitUnbound]
      split
      · simp
      · split
        · simp +decide
        · split <;> simp +decide
  | some id =>
      dsimp only [resume]
      split
      · simp +decide
      · split <;> simp +decide

theorem stable_replyOf (answer : Except AuthFailure AuthenticatedIdentity) :
    (replyOf answer).Stable ↔ ¬ Escapes handled answer := by
  cases answer with
  | ok identity => simp [replyOf, Reply.Stable]
  | error failure =>
      cases failure with
      | mcpAuthError message statusCode => simp [replyOf, Reply.Stable, handled]
      | raised error => simp [replyOf, Reply.Stable, handled]

theorem escapes_map {α β : Type} {caught : AuthFailure → Bool} (function : α → β)
    (attempt : Except AuthFailure α) :
    Escapes caught (attempt.map function) ↔ Escapes caught attempt := by
  cases attempt <;> simp [Except.map]

theorem authorize_escapes {request : Request} {active : Bool} {now later : Instant}
    {state : Sessions} : Escapes handled (authorize policy request active now later state).1 ↔
      ∃ credential, Presents policy request credential ∧ Trips policy credential now := by
  rw [← @identify_escapes policy request active now]
  unfold authorize
  cases identified : identify policy request active now with
  | error failure => exact Iff.rfl
  | ok identity =>
      dsimp only
      rw [escapes_map]
      simp only [escapes_ok, iff_false]
      exact authorizeLocked_handled identity request.sessionId later state

/-! ## Issued tokens -/

/-- The claims that an issuer signs, in the order of their names. -/
def issuedClaims (config : AuthConfig) (subject jti : String) (issuedAt expiresAt : Int)
    (incidentId : Option String) : Claims :=
  [("aud", .str config.audience), ("exp", .int expiresAt), ("iat", .int issuedAt)] ++
    incidentId.toList.map (fun incident => ("incident_id", .str incident)) ++
    [("iss", .str config.issuer), ("jti", .str jti), ("sub", .str subject),
      ("zone", .str config.zone)]

theorem issue_eq_ok {config : AuthConfig} {subject jti token : String}
    {issuedAt expiresAt : Instant} {incidentId : Option String}
    (issued : issue config subject jti issuedAt expiresAt incidentId = .ok token) :
    isIdentifier jti = true ∧ config.incidentScoped = incidentId.isSome ∧
      (∀ incident, incidentId = some incident → isIncidentId incident = true) ∧
      token = sign config (issuedClaims config subject jti (wholeSeconds issuedAt)
        (wholeSeconds expiresAt) incidentId) := by
  unfold issue at issued
  obtain ⟨_, identifier, issued⟩ := bind_eq_ok.mp issued
  obtain ⟨_, _, issued⟩ := bind_eq_ok.mp issued
  rw [require_eq_ok] at identifier
  cases flag : config.incidentScoped with
  | true =>
      rw [flag] at issued
      cases incidentId with
      | none => cases issued
      | some incident =>
          dsimp only at issued
          split at issued
          · rename_i valid
            refine ⟨identifier, rfl, ?_, (Except.ok.inj issued).symm⟩
            intro other same
            cases same
            exact valid
          · cases issued
  | false =>
      rw [flag] at issued
      cases incidentId with
      | none =>
          refine ⟨identifier, rfl, ?_, (Except.ok.inj issued).symm⟩
          intro other same
          cases same
      | some incident => cases issued

theorem wholeSeconds_digits (instant : Instant) :
    (Nat.toDigits 10 (wholeSeconds instant).natAbs).length ≤ 640 := by
  obtain ⟨late, early⟩ := wholeSeconds_bounds instant
  have low := instant.low
  have high := instant.high
  unfold firstDay lastDay dayMicros at *
  have small : (wholeSeconds instant).natAbs < 10 ^ 12 := by omega
  have length := (Nat.length_toDigits_le_iff (by decide) (by decide)).mpr small
  omega

theorem issuedClaims_portable (subject jti : String) (issuedAt expiresAt : Instant)
    (incidentId : Option String) :
    Portable policy (issuedClaims policy.config subject jti (wholeSeconds issuedAt)
      (wholeSeconds expiresAt) incidentId) := by
  obtain ⟨digits, depth⟩ := policy.decoder.roomy
  have short (instant : Instant) : (Nat.toDigits 10 (wholeSeconds instant).natAbs).length ≤
      policy.decoder.maxDigits := (wholeSeconds_digits instant).trans digits
  refine ⟨by simp [issuedClaims], ?_⟩
  cases incidentId with
  | none =>
      simp only [issuedClaims, Option.toList_none, List.map_nil, List.nil_append, List.cons_append,
        Readable, ReadableMembers, true_and, and_true, Decoder.hooked_hook]
      exact ⟨by omega, rejectDuplicates_nodup (by simp), short expiresAt, short issuedAt⟩
  | some incident =>
      simp only [issuedClaims, Option.toList_some, List.map_cons, List.map_nil, List.nil_append,
        List.cons_append, Readable, ReadableMembers, true_and, and_true, Decoder.hooked_hook]
      exact ⟨by omega, rejectDuplicates_nodup (by simp), short expiresAt, short issuedAt⟩

/-- The names of issued claims and what stands under them. -/
theorem issuedClaims_accepted {subject jti : String} {issuedAt expiresAt now : Instant}
    {incidentId : Option String} (identifier : isIdentifier jti = true)
    (scopes : policy.config.incidentScoped = incidentId.isSome)
    (valid : ∀ incident, incidentId = some incident → isIncidentId incident = true)
    (allowed : subject ∈ policy.config.allowedSubjects)
    (lifetime : ∀ lifetime, policy.config.maxTokenLifetimeSeconds = some lifetime →
      wholeSeconds expiresAt - wholeSeconds issuedAt ≤ lifetime)
    (started : issuedAt ≤ now) (current : wholeSeconds now < wholeSeconds expiresAt) :
    Accepted policy (issuedClaims policy.config subject jti (wholeSeconds issuedAt)
      (wholeSeconds expiresAt) incidentId) now subject jti (wholeSeconds issuedAt)
      (wholeSeconds expiresAt) ∧
    textClaim (issuedClaims policy.config subject jti (wholeSeconds issuedAt)
      (wholeSeconds expiresAt) incidentId) "incident_id" = incidentId := by
  have begun : wholeSeconds issuedAt ≤ wholeSeconds now + maxClockSkewSeconds := by
    obtain ⟨late, early⟩ := wholeSeconds_bounds issuedAt
    obtain ⟨late', early'⟩ := wholeSeconds_bounds now
    rw [Instant.le_iff] at started
    unfold maxClockSkewSeconds
    omega
  have bounded : policy.config.maxTokenLifetimeSeconds.all (fun limit =>
      decide (wholeSeconds expiresAt - wholeSeconds issuedAt ≤ limit)) = true := by
    cases limited : policy.config.maxTokenLifetimeSeconds with
    | none => rfl
    | some limit => exact decide_eq_true (lifetime limit limited)
  cases incidentId with
  | none =>
      have open_scope : policy.config.incidentScoped = false := scopes
      have required : requiredClaims policy = ["iss", "aud", "sub", "zone", "iat", "exp", "jti"] := by
        rw [requiredClaims, open_scope]
        rfl
      refine ⟨⟨?_, rfl, ⟨rfl, identifier⟩, rfl, rfl, ?_, ⟨current, begun⟩, bounded,
        ⟨rfl, rfl, rfl, allowed⟩⟩, rfl⟩
      · rw [required]
        exact ⟨rfl, rfl⟩
      · intro flag
        rw [open_scope] at flag
        cases flag
  | some incident =>
      have incident_scope : policy.config.incidentScoped = true := scopes
      have required : requiredClaims policy =
          ["iss", "aud", "sub", "zone", "iat", "exp", "jti", "incident_id"] := by
        rw [requiredClaims, incident_scope]
        rfl
      refine ⟨⟨?_, rfl, ⟨rfl, identifier⟩, rfl, rfl, fun _ => valid incident rfl,
        ⟨current, begun⟩, bounded, ⟨rfl, rfl, rfl, allowed⟩⟩, rfl⟩
      rw [required]
      exact ⟨rfl, rfl⟩

theorem fromTimestamp_wholeSeconds {instant : Instant}
    (dated : ¬ (lastDay + 1) * 86400 ≤ wholeSeconds instant) :
    ∃ expiry, fromTimestamp (wholeSeconds instant) = .ok expiry ∧
      expiry.micros = wholeSeconds instant * 1000000 := by
  have low := wholeSeconds_low instant
  have started : firstDay * dayMicros ≤ wholeSeconds instant * 1000000 := by
    unfold firstDay dayMicros at *
    omega
  have ended : wholeSeconds instant * 1000000 < (lastDay + 1) * dayMicros := by
    unfold lastDay dayMicros at *
    omega
  refine ⟨⟨wholeSeconds instant * 1000000, started, ended⟩, ?_, rfl⟩
  rw [fromTimestamp, dif_pos started, dif_pos ended]

/-- The token decodes, and its claims are those of the issue. -/
def Verified (policy : AuthPolicy) (token : String) (now : Instant) (subject jti : String)
    (incidentId : Option String) (expiresAt : Instant) : Prop :=
  ∃ claims verified, decode policy token = .ok claims ∧
    verifyClaims policy claims now = .ok verified ∧ verified.subject = subject ∧
      verified.jti = jti ∧ verified.incidentId = incidentId ∧
        verified.expiresAt.micros = wholeSeconds expiresAt * 1000000

/-- Between its issue and the second of its expiry a token verifies if that second is a date. -/
theorem issued_verified {subject jti token : String} {issuedAt expiresAt now : Instant}
    {incidentId : Option String} (allowed : subject ∈ policy.config.allowedSubjects)
    (issued : issue policy.config subject jti issuedAt expiresAt incidentId = .ok token)
    (lifetime : ∀ lifetime, policy.config.maxTokenLifetimeSeconds = some lifetime →
      wholeSeconds expiresAt - wholeSeconds issuedAt ≤ lifetime)
    (started : issuedAt ≤ now) (current : wholeSeconds now < wholeSeconds expiresAt) :
    Verified policy token now subject jti incidentId expiresAt ↔
      expiresAt.micros < latestExpiry := by
  obtain ⟨identifier, scopes, valid, rfl⟩ := issue_eq_ok issued
  obtain ⟨accepted, scope⟩ := issuedClaims_accepted identifier scopes valid allowed lifetime started
    current
  have decoded := decode_sign (@issuedClaims_portable policy subject jti issuedAt
    expiresAt incidentId)
  rw [← not_le, ← wholeSeconds_late]
  constructor
  · rintro ⟨claims, verified, decoded', verifies, _⟩ late
    rw [decoded] at decoded'
    cases decoded'
    rw [accepted.verifyClaims] at verifies
    obtain ⟨expiry, dated, _⟩ := bind_eq_ok.mp verifies
    have escapes := (fromTimestamp_escapes current).mpr late
    rw [dated] at escapes
    exact escapes_ok _ escapes
  · intro dated
    obtain ⟨expiry, read, micros⟩ := fromTimestamp_wholeSeconds dated
    refine ⟨_, ⟨subject, jti, expiry, incidentId⟩, decoded, ?_, rfl, rfl, rfl, micros⟩
    rw [accepted.verifyClaims, read, scope]
    rfl

/-! ## The middleware answers -/

/-- A reply is stable unless the credential is one of those on which the verification trips; and
an issued token is verified from its issue to the second of its expiry unless that second is
rounded up to the year 10000. -/
theorem stable_iff_not_trips (policy : AuthPolicy) (parseQs : String → List String) :
    (∀ scope active now later state,
      (respond policy parseQs scope active now later state).1.Stable ↔
        ¬ ∃ credential, Presents policy (requestOf policy parseQs scope) credential ∧
          Trips policy credential now) ∧
    ∀ subject jti token issuedAt expiresAt incidentId,
      subject ∈ policy.config.allowedSubjects →
      issue policy.config subject jti issuedAt expiresAt incidentId = .ok token →
      (∀ lifetime, policy.config.maxTokenLifetimeSeconds = some lifetime →
        wholeSeconds expiresAt - wholeSeconds issuedAt ≤ lifetime) →
      ∀ now, issuedAt ≤ now → wholeSeconds now < wholeSeconds expiresAt →
        (Verified policy token now subject jti incidentId expiresAt ↔
          expiresAt.micros < latestExpiry) := by
  constructor
  · intro scope active now later state
    rw [respond, stable_replyOf, authorize_escapes]
  · intro subject jti token issuedAt expiresAt incidentId allowed issued lifetime now started current
    exact issued_verified allowed issued lifetime started current

/-- A credential of three parts, the first one the letter e with an acute accent. -/
def accentedScope : Scope where
  headers := [(utf8 "host", utf8 "mcp.local"), (utf8 "authorization", utf8 "Bearer " ++ [0xe9, 46, 46])]
  queryString := []

theorem accented_unstable : ¬ ∀ scope active now later state,
    (respond samplePolicy (fun _ => []) scope active now later state).1.Stable := by
  intro stable
  have here := stable accentedScope false (seconds 10) (seconds 10) Sessions.empty
  revert here
  decide +kernel

end CrossPatch.Mcp.Credentials
