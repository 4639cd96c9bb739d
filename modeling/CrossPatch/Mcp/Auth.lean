import CrossPatch.Domain.Failure
import CrossPatch.Domain.Text
import CrossPatch.Library.Base64
import CrossPatch.Library.Calendar
import CrossPatch.Library.Doubles
import CrossPatch.Library.JsonReader
import CrossPatch.Library.Sha256
import CrossPatch.Library.Table

/-!
# Service tokens

An `AuthPolicy` verifies bearer tokens, remembers the token ids that it has seen and
binds sessions to them.  `identify` is the part of `authorize` before the lock, the
other functions are the sections under the lock.  A refused call keeps what its
clean-up has removed.
-/

namespace CrossPatch.Mcp.Auth

open CrossPatch.Domain.Failure CrossPatch.Domain.Text
open CrossPatch.Library CrossPatch.Library.Attempt CrossPatch.Library.Calendar
open CrossPatch.Library.JsonReader CrossPatch.Library.JsonText CrossPatch.Library.Octets
open CrossPatch.Library.Sha256

inductive AuthFailure where
  | mcpAuthError (message : String) (statusCode : Nat)
  | raised (error : Raised)
  deriving DecidableEq

def refuse {α : Type} (message : String) (statusCode : Nat) : Except AuthFailure α :=
  .error (.mcpAuthError message statusCode)

def demand (condition : Prop) [Decidable condition] (message : String) (statusCode : Nat) :
    Except AuthFailure Unit :=
  require condition (.mcpAuthError message statusCode)

/-! ## Configuration -/

structure AuthConfig where
  issuer : String
  audience : String
  zone : String
  allowedSubjects : List String
  signingSecret : Bytes
  allowedHosts : List String
  allowedOrigins : List String
  maxTokenLifetimeSeconds : Option Int
  allowMissingOrigin : Bool
  incidentScoped : Bool
  secretLength : 32 ≤ signingSecret.length
  named : issuer ≠ "" ∧ audience ≠ "" ∧ zone ≠ ""
  listed : allowedSubjects ≠ [] ∧ allowedHosts ≠ []
  lifetimePositive : ∀ lifetime, maxTokenLifetimeSeconds = some lifetime → 1 ≤ lifetime

/-- The policy, with the parts of the runtime that it relies on: the decoder of `json.loads`,
`str.lower`, and the comparison of two timestamps, taken as floats, that decides whether a
session is idle. -/
structure AuthPolicy where
  config : AuthConfig
  hasJudgeTokens : Bool
  maxReplayEntries : Nat
  maxSessionEntries : Nat
  allowRegisteredTokenReuse : Bool
  decoder : Decoder
  lower : String → String
  idle : Instant → Instant → Bool
  limits : 1 ≤ maxReplayEntries ∧ 1 ≤ maxSessionEntries
  revocable : allowRegisteredTokenReuse = true → hasJudgeTokens = true ∧ config.zone = "judge"

/-! ## Tokens -/

def urlSafe (character : Char) : Char :=
  if character = '-' then '+' else if character = '_' then '/' else character

def base64urlDecode (text : List Char) : Except AuthFailure Bytes :=
  match Base64.decode (text.map urlSafe ++ List.replicate ((4 - text.length % 4) % 4) '=') with
  | some bytes => .ok bytes
  | none => refuse "malformed bearer token" 401

abbrev Claims := List (String × Json)

/-- The header `{"alg": "HS256", "typ": "JWT"}`, with its members in any order. -/
def isHeader : Json → Bool
  | .obj members =>
      members.length == 2 &&
        (match members.lookup "alg", members.lookup "typ" with
        | some (.str algorithm), some (.str kind) => algorithm == "HS256" && kind == "JWT"
        | _, _ => false)
  | _ => false

variable (policy : AuthPolicy)

/-- A part that is nested too deeply raises what the handler lets through. -/
def loadPart (text : List Char) : Except AuthFailure Json := do
  let bytes ← base64urlDecode text
  match policy.decoder.loads rejectDuplicates bytes with
  | .ok value => .ok value
  | .error .nesting => .error (.raised ⟨.recursionError, "maximum recursion depth exceeded"⟩)
  | .error _ => refuse "malformed bearer token" 401

def decode (token : String) : Except AuthFailure Claims :=
  match token.toList.splitOn '.' with
  | [header, claims, signature] => do
      require (isAscii (String.ofList (header ++ '.' :: claims)) = true)
        (.raised ⟨.unicodeEncodeError, "ordinal not in range(128)"⟩)
      let given ← base64urlDecode signature
      demand (given = hmacSha256 policy.config.signingSecret
        (utf8 (String.ofList (header ++ '.' :: claims)))) "invalid bearer token signature" 401
      let headerValue ← loadPart policy header
      let claimsValue ← loadPart policy claims
      demand (isHeader headerValue = true) "unsupported bearer token header" 401
      match claimsValue with
      | .obj members => .ok members
      | _ => refuse "malformed bearer token claims" 401
  | _ => refuse "malformed bearer token" 401

/-! ## Issued tokens -/

def urlUnsafe (character : Char) : Char :=
  if character = '+' then '-' else if character = '/' then '_' else character

def base64urlEncode (bytes : Bytes) : List Char :=
  ((Base64.encode bytes).map urlUnsafe).rdropWhile (· == '=')

/-- The header with its members in the order of their names. -/
def header : Json := .obj [("alg", .str "HS256"), ("typ", .str "JWT")]

def sign (config : AuthConfig) (claims : Claims) : String :=
  let signingInput := base64urlEncode (encodeAscii header) ++
    '.' :: base64urlEncode (encodeAscii (.obj claims))
  String.ofList (signingInput ++
    '.' :: base64urlEncode (hmacSha256 config.signingSecret (utf8 (String.ofList signingInput))))

/-! ## Claims -/

def requiredClaims : List String :=
  ["iss", "aud", "sub", "zone", "iat", "exp", "jti"] ++
    if policy.config.incidentScoped then ["incident_id"] else []

def textClaim (claims : Claims) (name : String) : Option String :=
  match claims.lookup name with
  | some (.str text) => some text
  | _ => none

/-- Booleans are not integers here. -/
def intClaim (claims : Claims) (name : String) : Option Int :=
  match claims.lookup name with
  | some (.int value) => some value
  | _ => none

/-- The pattern `[A-Za-z0-9][A-Za-z0-9._-]{0,127}`. -/
def isIncidentId (text : String) : Bool := isIdentifier text && !text.toList.contains ':'

/-- `int(instant.timestamp())`: the seconds as a double, cut towards the epoch. -/
def wholeSeconds (instant : Instant) : Int :=
  instant.micros.sign * Doubles.wholePart instant.micros.natAbs 1000000

def maxClockSkewSeconds : Int := 30

/-- What a count of seconds raises that is no date: `time_t` has 64 bits, and `gmtime` keeps
the year in 32. -/
def dateError (seconds : Int) : Raised :=
  if seconds < -2 ^ 63 ∨ 2 ^ 63 ≤ seconds then
    ⟨.overflowError, "timestamp out of range for platform time_t"⟩
  else if seconds < -67768040609740800 ∨ 67768036191676800 ≤ seconds then
    ⟨.osError, "[Errno 75] Value too large for defined data type"⟩
  else ⟨.valueError, s!"year {(civilOfDays (seconds / 86400)).year} is out of range"⟩

def fromTimestamp (seconds : Int) : Except AuthFailure Instant :=
  if low : firstDay * dayMicros ≤ seconds * 1000000 then
    if high : seconds * 1000000 < (lastDay + 1) * dayMicros then
      .ok ⟨seconds * 1000000, low, high⟩
    else .error (.raised (dateError seconds))
  else .error (.raised (dateError seconds))

/-- `TokenIssuer.issue`; the claims stand in the order of their names. -/
def issue (config : AuthConfig) (subject jti : String) (issuedAt expiresAt : Instant)
    (incidentId : Option String) : Attempt String := do
  require (isIdentifier jti = true) ⟨.valueError, "invalid MCP token JTI"⟩
  require (issuedAt < expiresAt) ⟨.valueError, "MCP token must expire after it is issued"⟩
  let scope : Claims ← match config.incidentScoped, incidentId with
    | true, some incident =>
        if isIncidentId incident then .ok [("incident_id", .str incident)]
        else raise .valueError "incident-scoped MCP token requires a valid incident ID"
    | true, none => raise .valueError "incident-scoped MCP token requires a valid incident ID"
    | false, some _ => raise .valueError "unscoped MCP token cannot include an incident ID"
    | false, none => .ok []
  .ok (sign config ([("aud", .str config.audience), ("exp", .int (wholeSeconds expiresAt)),
    ("iat", .int (wholeSeconds issuedAt))] ++ scope ++ [("iss", .str config.issuer),
    ("jti", .str jti), ("sub", .str subject), ("zone", .str config.zone)]))

structure VerifiedClaims where
  subject : String
  jti : String
  expiresAt : Instant
  incidentId : Option String
  deriving DecidableEq

def identityClaims (claims : Claims) : Except AuthFailure (String × String) :=
  match textClaim claims "sub", textClaim claims "jti" with
  | some subject, some jti =>
      if isIdentifier jti then .ok (subject, jti)
      else refuse "bearer token identity is invalid" 401
  | _, _ => refuse "bearer token identity is invalid" 401

def integerClaim (claims : Claims) (name message : String) : Except AuthFailure Int :=
  match intClaim claims name with
  | some value => .ok value
  | none => refuse message 401

def verifyClaims (claims : Claims) (now : Instant) : Except AuthFailure VerifiedClaims := do
  demand ((claims.all fun claim => (requiredClaims policy).contains claim.1) ∧
    (requiredClaims policy).all fun name => (claims.lookup name).isSome)
    "bearer token claim set is invalid" 401
  let (subject, jti) ← identityClaims claims
  let issuedAt ← integerClaim claims "iat" "bearer token issued-at is invalid"
  let expiresAt ← integerClaim claims "exp" "bearer token expiry is invalid"
  let incidentId := textClaim claims "incident_id"
  demand (policy.config.incidentScoped = true → incidentId.any isIncidentId = true)
    "bearer token incident scope is invalid" 401
  demand (wholeSeconds now < expiresAt ∧ issuedAt ≤ wholeSeconds now + maxClockSkewSeconds)
    "bearer token is expired or not yet valid" 401
  demand (policy.config.maxTokenLifetimeSeconds.all fun lifetime =>
    decide (expiresAt - issuedAt ≤ lifetime)) "bearer token lifetime exceeds zone policy" 401
  demand (textClaim claims "iss" = some policy.config.issuer ∧
    textClaim claims "aud" = some policy.config.audience ∧
    textClaim claims "zone" = some policy.config.zone ∧ subject ∈ policy.config.allowedSubjects)
    "bearer token is not valid for this trust zone" 401
  let expiry ← fromTimestamp expiresAt
  .ok ⟨subject, jti, expiry, incidentId⟩

/-! ## Requests -/

structure AuthenticatedIdentity where
  subject : String
  jti : String
  tokenDigest : String
  origin : Option String
  expiresAt : Instant
  incidentId : Option String
  deriving DecidableEq

structure Request where
  credential : Option String
  host : String
  origin : Option String
  sessionId : Option String

def hostName (host : String) : String :=
  String.ofList ((policy.lower host).toList.rdropWhile (· == '.'))

def allowOrigin (origin : Option String) : Except AuthFailure Unit :=
  match origin with
  | none => demand (policy.config.allowMissingOrigin = true) "request origin is required" 403
  | some origin => demand (origin ∈ policy.config.allowedOrigins) "request origin is not allowed" 403

/-- `authorize` before the lock, at the first reading of the clock; `active` is what the
registry of judge tokens answers. -/
def identify (request : Request) (active : Bool) (now : Instant) :
    Except AuthFailure AuthenticatedIdentity := do
  demand (hostName policy request.host ∈ policy.config.allowedHosts.map (hostName policy))
    "request host is not allowed" 403
  allowOrigin policy request.origin
  match request.credential with
  | none => refuse "bearer token is required" 401
  | some credential => do
      demand (credential ≠ "") "bearer token is required" 401
      let claims ← decode policy credential
      let verified ← verifyClaims policy claims now
      demand (policy.hasJudgeTokens = true → active = true)
        "judge token is revoked or unavailable" 401
      .ok
        { subject := verified.subject
          jti := verified.jti
          tokenDigest := hexdigest (utf8 credential)
          origin := request.origin
          expiresAt := verified.expiresAt
          incidentId := verified.incidentId }

/-! ## Sessions -/

/-- An entry of `_jti_sessions`. -/
structure ReplayState where
  jti : String
  sessionId : Option String
  expiresAt : Instant

/-- An entry of `_sessions`. -/
structure SessionBinding where
  id : String
  subject : String
  jti : String
  tokenDigest : String
  origin : Option String
  expiresAt : Instant
  lastSeenAt : Instant
  incidentId : Option String

structure Sessions where
  jtiSessions : Table ReplayState.jti
  sessions : Table SessionBinding.id

def Sessions.empty : Sessions := ⟨.empty, .empty⟩

def bindingOf (identity : AuthenticatedIdentity) (sessionId : String) (seenAt : Instant) :
    SessionBinding where
  id := sessionId
  subject := identity.subject
  jti := identity.jti
  tokenDigest := identity.tokenDigest
  origin := identity.origin
  expiresAt := identity.expiresAt
  lastSeenAt := seenAt
  incidentId := identity.incidentId

/-- An expired token takes its session along. -/
def dropToken (state : Sessions) (jti : String) : Sessions :=
  match state.jtiSessions.find jti with
  | none => state
  | some replay =>
      { jtiSessions := state.jtiSessions.remove jti
        sessions := match replay.sessionId with
          | some sessionId => state.sessions.remove sessionId
          | none => state.sessions }

/-- The token of a removed session no longer names it. -/
def unname (jtiSessions : Table ReplayState.jti) (jti sessionId : String) :
    Table ReplayState.jti :=
  match jtiSessions.find jti with
  | none => jtiSessions
  | some replay =>
      if replay.sessionId = some sessionId then
        jtiSessions.put { replay with sessionId := none }
      else jtiSessions

def dropSession (state : Sessions) (sessionId : String) : Sessions :=
  match state.sessions.find sessionId with
  | none => state
  | some binding =>
      { jtiSessions := unname state.jtiSessions binding.jti sessionId
        sessions := state.sessions.remove sessionId }

def expiredTokens (state : Sessions) (now : Instant) : List String :=
  (state.jtiSessions.rows.filter fun replay => replay.expiresAt ≤ now).map (·.jti)

def idleSessions (state : Sessions) (now : Instant) : List String :=
  (state.sessions.rows.filter fun binding =>
    decide (binding.expiresAt ≤ now) || policy.idle binding.lastSeenAt now).map (·.id)

def cleanup (now : Instant) (state : Sessions) : Sessions :=
  let swept := (expiredTokens state now).foldl dropToken state
  (idleSessions policy swept now).foldl dropSession swept

/-- What makes a binding that of another token or request. -/
def Mismatch (binding : SessionBinding) (identity : AuthenticatedIdentity) : Prop :=
  binding.subject ≠ identity.subject ∨ binding.jti ≠ identity.jti ∨
    binding.tokenDigest ≠ identity.tokenDigest ∨ binding.origin ≠ identity.origin ∨
      binding.incidentId ≠ identity.incidentId

instance (binding : SessionBinding) (identity : AuthenticatedIdentity) :
    Decidable (Mismatch binding identity) := inferInstanceAs (Decidable (_ ∨ _))

abbrev Answer := Except AuthFailure Unit × Sessions

/-- A request without a session uses up its token id. -/
def admitUnbound (identity : AuthenticatedIdentity) (state : Sessions) : Answer :=
  if policy.allowRegisteredTokenReuse then (.ok (), state)
  else match state.jtiSessions.find identity.jti with
    | some _ => (refuse "bearer token replay detected" 403, state)
    | none =>
        if policy.maxReplayEntries ≤ state.jtiSessions.rows.length then
          (refuse "MCP replay state capacity exhausted" 503, state)
        else
          (.ok (), { state with
            jtiSessions := state.jtiSessions.put ⟨identity.jti, none, identity.expiresAt⟩ })

/-- The token id may stand for the session. -/
def replayMatches (state : Sessions) (jti sessionId : String) : Bool :=
  policy.allowRegisteredTokenReuse ||
    match state.jtiSessions.find jti with
    | some replay => replay.sessionId == some sessionId
    | none => false

def resume (identity : AuthenticatedIdentity) (sessionId : String) (now : Instant)
    (state : Sessions) : Answer :=
  match state.sessions.find sessionId with
  | none => (refuse "MCP session identity does not match" 403, state)
  | some binding =>
      if Mismatch binding identity ∨ replayMatches policy state identity.jti sessionId = false then
        (refuse "MCP session identity does not match" 403, state)
      else
        (.ok (), { state with sessions := state.sessions.put (bindingOf identity sessionId now) })

/-- `authorize` under the lock, with the second reading of the clock. -/
def authorizeLocked (identity : AuthenticatedIdentity) (sessionId : Option String) (now : Instant)
    (state : Sessions) : Answer :=
  match sessionId with
  | none => admitUnbound policy identity (cleanup policy now state)
  | some sessionId => resume policy identity sessionId now (cleanup policy now state)

/-- The checks and the write that both modes of `bind_session` share. -/
def bindTo (identity : AuthenticatedIdentity) (sessionId : String) (seenAt : Instant)
    (jtiSessions : Table ReplayState.jti) (state : Sessions) : Answer :=
  let bound : Sessions := ⟨jtiSessions, state.sessions.put (bindingOf identity sessionId seenAt)⟩
  match state.sessions.find sessionId with
  | some binding =>
      if Mismatch binding identity ∨ binding.expiresAt ≠ identity.expiresAt then
        (refuse "MCP session identity does not match" 403, state)
      else (.ok (), bound)
  | none =>
      if policy.maxSessionEntries ≤ state.sessions.rows.length then
        (refuse "MCP session state capacity exhausted" 503, state)
      else (.ok (), bound)

def bindLocked (identity : AuthenticatedIdentity) (sessionId : String) (seenAt : Instant)
    (state : Sessions) : Answer :=
  if policy.allowRegisteredTokenReuse then
    bindTo policy identity sessionId seenAt state.jtiSessions state
  else match state.jtiSessions.find identity.jti with
    | none => (refuse "MCP replay state is missing" 403, state)
    | some replay =>
        if replay.sessionId ≠ none ∧ replay.sessionId ≠ some sessionId then
          (refuse "bearer token replay detected" 403, state)
        else bindTo policy identity sessionId seenAt
          (state.jtiSessions.put ⟨identity.jti, some sessionId, identity.expiresAt⟩) state

/-- `seenAt` is read before the lock, `now` under it. -/
def bindSession (identity : AuthenticatedIdentity) (sessionId : String) (seenAt now : Instant)
    (state : Sessions) : Answer :=
  if sessionId = "" then (refuse "MCP session identifier is missing" 403, state)
  else bindLocked policy identity sessionId seenAt (cleanup policy now state)

def releaseSession (sessionId : String) (now : Instant) (state : Sessions) : Sessions :=
  if sessionId = "" then state else dropSession (cleanup policy now state) sessionId

/-! ## Issued tokens are read back -/

theorem urlUnsafe_alphabet : ∀ character ∈ Base64.alphabet,
    urlSafe (urlUnsafe character) = character ∧ urlUnsafe character ≠ '.' ∧
      urlUnsafe character ≠ '=' ∧ (urlUnsafe character).toNat < 128 := by
  have all : Base64.alphabet.all (fun character =>
      urlSafe (urlUnsafe character) == character && urlUnsafe character != '.' &&
        urlUnsafe character != '=' && decide ((urlUnsafe character).toNat < 128)) = true := by
    decide
  intro character member
  have here := List.all_eq_true.mp all character member
  simp only [Bool.and_eq_true, beq_iff_eq, bne_iff_ne, decide_eq_true_eq] at here
  exact ⟨here.1.1.1, here.1.1.2, here.1.2, here.2⟩

/-- The symbols of an encoding, without its padding. -/
theorem base64urlEncode_eq (bytes : Bytes) : ∃ body, (∀ character ∈ body, character ∈ Base64.alphabet) ∧
    base64urlEncode bytes = body.map urlUnsafe ∧
    Base64.encode bytes = body ++ List.replicate ((4 - body.length % 4) % 4) '=' := by
  obtain ⟨body, symbols, split⟩ := Base64.encode_split bytes
  refine ⟨body, symbols, ?_, split⟩
  have padding : urlUnsafe '=' = '=' := by decide
  have kept : (body.map urlUnsafe).rdropWhile (· == '=') = body.map urlUnsafe := by
    rw [List.rdropWhile_eq_self_iff]
    intro some
    obtain ⟨character, member, same⟩ := List.mem_map.mp (List.getLast_mem some)
    rw [← same, beq_iff_eq]
    exact (urlUnsafe_alphabet character (symbols character member)).2.2.1
  rw [base64urlEncode, split, List.map_append, List.map_replicate, padding]
  generalize (4 - body.length % 4) % 4 = count
  induction count with
  | zero => rw [List.replicate_zero, List.append_nil, kept]
  | succ previous ih =>
      rw [List.replicate_succ', ← List.append_assoc, List.rdropWhile_concat_pos _ _ _ rfl, ih]

theorem base64urlDecode_encode (bytes : Bytes) :
    base64urlDecode (base64urlEncode bytes) = .ok bytes := by
  obtain ⟨body, symbols, encoded, split⟩ := base64urlEncode_eq bytes
  have back : (body.map urlUnsafe).map urlSafe = body := by
    rw [List.map_map]
    conv_rhs => rw [← List.map_id body]
    exact List.map_congr_left fun character member =>
      (urlUnsafe_alphabet character (symbols character member)).1
  unfold base64urlDecode
  rw [encoded, back, List.length_map, ← split, Base64.decode_encode]

theorem base64urlEncode_plain (bytes : Bytes) : ∀ character ∈ base64urlEncode bytes,
    character ≠ '.' ∧ character.toNat < 128 := by
  obtain ⟨body, symbols, encoded, _⟩ := base64urlEncode_eq bytes
  intro character member
  rw [encoded] at member
  obtain ⟨symbol, listed, rfl⟩ := List.mem_map.mp member
  obtain ⟨_, dot, _, ascii⟩ := urlUnsafe_alphabet symbol (symbols symbol listed)
  exact ⟨dot, ascii⟩

/-- The claims can be written and read again. -/
structure Portable (claims : Claims) : Prop where
  some : claims ≠ []
  readable : Readable (policy.decoder.hooked rejectDuplicates) policy.decoder.maxDepth (.obj claims)

variable {policy} in
theorem loads_header : policy.decoder.loads rejectDuplicates (encodeAscii header) = .ok header := by
  refine loads_encodeAscii policy.decoder rejectDuplicates (List.cons_ne_nil _ _) ?_
  have roomy := policy.decoder.roomy.2
  simp only [Readable, ReadableMembers, and_true, Decoder.hooked_hook]
  exact ⟨by omega, rejectDuplicates_nodup (by decide)⟩

variable {policy} in
/-- A policy reads back the claims that its issuer has signed. -/
theorem decode_sign {claims : Claims} (portable : Portable policy claims) :
    decode policy (sign policy.config claims) = .ok claims := by
  have readsClaims := loads_encodeAscii policy.decoder rejectDuplicates portable.some
    portable.readable
  unfold decode sign
  have parts (mac : Bytes) : (base64urlEncode (encodeAscii header) ++
      '.' :: base64urlEncode (encodeAscii (.obj claims)) ++
      '.' :: base64urlEncode mac).splitOn '.' =
        [base64urlEncode (encodeAscii header), base64urlEncode (encodeAscii (.obj claims)),
          base64urlEncode mac] := by
    have undotted : ∀ part ∈ [base64urlEncode (encodeAscii header),
        base64urlEncode (encodeAscii (.obj claims)), base64urlEncode mac], '.' ∉ part := by
      simp only [List.forall_mem_cons, List.not_mem_nil, false_implies, implies_true, and_true]
      exact ⟨fun member => (base64urlEncode_plain _ _ member).1 rfl,
        fun member => (base64urlEncode_plain _ _ member).1 rfl,
        fun member => (base64urlEncode_plain _ _ member).1 rfl⟩
    have cut := List.splitOn_intercalate '.' undotted (List.cons_ne_nil _ _)
    simpa [List.intercalate] using cut
  have ascii : isAscii (String.ofList (base64urlEncode (encodeAscii header) ++
      '.' :: base64urlEncode (encodeAscii (.obj claims)))) = true := by
    apply isAscii_of_forall
    intro character member
    rw [String.toList_ofList, List.mem_append, List.mem_cons] at member
    rcases member with inHeader | rfl | inClaims
    · exact (base64urlEncode_plain _ _ inHeader).2
    · decide
    · exact (base64urlEncode_plain _ _ inClaims).2
  rw [String.toList_ofList, parts]
  dsimp only
  rw [ascii, base64urlDecode_encode]
  simp only [loadPart, base64urlDecode_encode, demand, require_true, ok_bind, loads_header,
    readsClaims]
  rfl

theorem sign_ne_empty (config : AuthConfig) (claims : Claims) : sign config claims ≠ "" := by
  intro empty
  have none := congrArg String.toList empty
  simp [sign] at none

variable {policy} in
/-- A request is identified when it passes each check. -/
theorem identify_ok {request : Request} {active : Bool} {now : Instant} {credential : String}
    {claims : Claims} {verified : VerifiedClaims}
    (host : hostName policy request.host ∈ policy.config.allowedHosts.map (hostName policy))
    (origin : allowOrigin policy request.origin = .ok ())
    (presented : request.credential = some credential) (some : credential ≠ "")
    (decoded : decode policy credential = .ok claims)
    (verifies : verifyClaims policy claims now = .ok verified)
    (registered : policy.hasJudgeTokens = true → active = true) :
    identify policy request active now = .ok
      { subject := verified.subject
        jti := verified.jti
        tokenDigest := hexdigest (utf8 credential)
        origin := request.origin
        expiresAt := verified.expiresAt
        incidentId := verified.incidentId } := by
  unfold identify demand
  rw [require_true host, origin, presented]
  simp only [ok_bind]
  rw [require_true some, decoded]
  simp only [ok_bind, verifies]
  rw [require_true registered]
  rfl

/-! ## Examples -/

def sampleSecret : Bytes := List.replicate 32 (UInt8.ofNat 7)

def sampleConfig : AuthConfig where
  issuer := "crosspatch"
  audience := "evidence"
  zone := "evidence"
  allowedSubjects := ["inspector"]
  signingSecret := sampleSecret
  allowedHosts := ["mcp.local"]
  allowedOrigins := []
  maxTokenLifetimeSeconds := some 300
  allowMissingOrigin := true
  incidentScoped := false
  secretLength := by decide
  named := by decide
  listed := by decide
  lifetimePositive := by decide

def seconds (count : Nat) : Instant where
  micros := (count % 100000 : Nat) * 1000000
  low := by
    simp only [firstDay, dayMicros]
    omega
  high := by
    have small : count % 100000 < 100000 := Nat.mod_lt _ (by decide)
    simp only [lastDay, dayMicros]
    omega

def sampleClaims : Claims :=
  [("aud", .str "evidence"), ("exp", .int 100), ("iat", .int 10), ("iss", .str "crosspatch"),
   ("jti", .str "token-1"), ("sub", .str "inspector"), ("zone", .str "evidence")]

def sampleToken : String := sign sampleConfig sampleClaims

def samplePolicy : AuthPolicy where
  config := sampleConfig
  hasJudgeTokens := false
  maxReplayEntries := 4
  maxSessionEntries := 4
  allowRegisteredTokenReuse := false
  decoder := .plain
  lower := String.toLower
  idle seen now := decide (seen.micros + 600000000 ≤ now.micros)
  limits := by decide
  revocable := by decide

def sampleRequest (sessionId : Option String) : Request :=
  ⟨some sampleToken, "mcp.local", none, sessionId⟩

def sampleIdentity : AuthenticatedIdentity where
  subject := "inspector"
  jti := "token-1"
  tokenDigest := hexdigest (utf8 sampleToken)
  origin := none
  expiresAt := seconds 100
  incidentId := none

theorem sample_portable : Portable samplePolicy sampleClaims := by
  refine ⟨List.cons_ne_nil _ _, ?_⟩
  simp only [sampleClaims, Readable, ReadableMembers, true_and, and_true, Decoder.hooked_hook]
  exact ⟨by decide, rejectDuplicates_nodup (by decide), by decide, by decide⟩

theorem sample_decoded : decode samplePolicy sampleToken = .ok sampleClaims :=
  @decode_sign samplePolicy sampleClaims sample_portable

theorem sample_verified : verifyClaims samplePolicy sampleClaims (seconds 99) =
    .ok ⟨"inspector", "token-1", seconds 100, none⟩ := by
  decide

theorem sample_identified (sessionId : Option String) :
    identify samplePolicy (sampleRequest sessionId) false (seconds 99) = .ok sampleIdentity := by
  have hosted : hostName samplePolicy "mcp.local" ∈
      samplePolicy.config.allowedHosts.map (hostName samplePolicy) := by decide +kernel
  have some : sampleToken ≠ "" := sign_ne_empty sampleConfig sampleClaims
  exact @identify_ok samplePolicy (sampleRequest sessionId) false (seconds 99) sampleToken
    sampleClaims ⟨"inspector", "token-1", seconds 100, none⟩ hosted rfl rfl some sample_decoded
    sample_verified (by decide)

end CrossPatch.Mcp.Auth
