import CrossPatch.Library.Pairing
import CrossPatch.Library.Runs
import CrossPatch.Mcp.Auth

/-!
# Session binding

Callers of one policy interleave: each verifies its token, reads the clock again and
takes the lock.  Without registered reuse of tokens, sessions and token ids stay paired,
both maps stay within their capacity, and a session serves only the token and the
request that it was bound with.
-/

namespace CrossPatch.Mcp.Sessions

open CrossPatch.Library CrossPatch.Library.Calendar CrossPatch.Library.Pairing
open CrossPatch.Library.Runs
open CrossPatch.Mcp.Auth

/-! ## Interleaved calls -/

/-- A call of `authorize` that has verified its token, and its second clock reading. -/
structure Flight where
  identity : AuthenticatedIdentity
  sessionId : Option String
  readAt : Option Instant

structure Desk where
  sessions : Auth.Sessions
  clock : Instant
  flights : Nat → Option Flight

def Desk.start (clock : Instant) : Desk := ⟨.empty, clock, fun _ => none⟩

inductive Action where
  | verify (caller : Nat) (request : Request) (active : Bool) (now : Instant)
  | look (caller : Nat) (now : Instant)
  | enter (caller : Nat)
  | bind (identity : AuthenticatedIdentity) (sessionId : String) (seenAt now : Instant)
  | release (sessionId : String) (now : Instant)

inductive Event where
  | authorized (identity : AuthenticatedIdentity) (sessionId : Option String)
  | bound (identity : AuthenticatedIdentity) (sessionId : String)
  | released (sessionId : String)
  | refused (error : AuthFailure)
  deriving DecidableEq

def conclude (desk : Desk) (event : Event) (answer : Answer) : Desk × List Event :=
  match answer with
  | (.ok (), sessions) => ({ desk with sessions := sessions }, [event])
  | (.error error, sessions) => ({ desk with sessions := sessions }, [.refused error])

variable (policy : AuthPolicy)

/-- A step reads the clock, which does not run backwards, or takes the lock. -/
def step (desk : Desk) : Action → Desk × List Event
  | .verify caller request active now =>
      if now < desk.clock then (desk, [])
      else match identify policy request active now with
        | .error error => ({ desk with clock := now }, [.refused error])
        | .ok identity =>
            ({ desk with
              clock := now
              flights := Function.update desk.flights caller
                (some ⟨identity, request.sessionId, none⟩) }, [])
  | .look caller now =>
      if now < desk.clock then (desk, [])
      else match desk.flights caller with
        | none => (desk, [])
        | some flight =>
            ({ desk with
              clock := now
              flights := Function.update desk.flights caller
                (some { flight with readAt := some now }) }, [])
  | .enter caller =>
      match desk.flights caller with
      | some ⟨identity, sessionId, some now⟩ =>
          conclude { desk with flights := Function.update desk.flights caller none }
            (.authorized identity sessionId)
            (authorizeLocked policy identity sessionId now desk.sessions)
      | _ => (desk, [])
  | .bind identity sessionId seenAt now =>
      if now < desk.clock ∨ now < seenAt then (desk, [])
      else conclude { desk with clock := now } (.bound identity sessionId)
        (bindSession policy identity sessionId seenAt now desk.sessions)
  | .release sessionId now =>
      if now < desk.clock then (desk, [])
      else
        ({ desk with
          clock := now
          sessions := releaseSession policy sessionId now desk.sessions }, [.released sessionId])

def calls : Machine Desk Action Event := ⟨step policy⟩

/-! ## The two maps -/

/-- The token id of a session. -/
def tokenOf (state : Auth.Sessions) (sessionId : String) : Option String :=
  (state.sessions.find sessionId).map (·.jti)

/-- The session that a token id names. -/
def sessionOf (state : Auth.Sessions) (jti : String) : Option String :=
  (state.jtiSessions.find jti).bind (·.sessionId)

def Linked (state : Auth.Sessions) : Prop := Paired (tokenOf state) (sessionOf state)

/-- No session and no token id is new. -/
structure Shrinks (before after : Auth.Sessions) : Prop where
  sessions : ∀ sessionId, before.sessions.find sessionId = none →
    after.sessions.find sessionId = none
  tokens : ∀ jti, before.jtiSessions.find jti = none → after.jtiSessions.find jti = none
  sessionCount : after.sessions.rows.length ≤ before.sessions.rows.length
  tokenCount : after.jtiSessions.rows.length ≤ before.jtiSessions.rows.length

theorem Shrinks.refl (state : Auth.Sessions) : Shrinks state state :=
  ⟨fun _ absent => absent, fun _ absent => absent, le_rfl, le_rfl⟩

theorem Shrinks.trans {first second third : Auth.Sessions} (earlier : Shrinks first second)
    (later : Shrinks second third) : Shrinks first third where
  sessions sessionId absent := later.sessions sessionId (earlier.sessions sessionId absent)
  tokens jti absent := later.tokens jti (earlier.tokens jti absent)
  sessionCount := later.sessionCount.trans earlier.sessionCount
  tokenCount := later.tokenCount.trans earlier.tokenCount

/-- Sessions that remain are those of before. -/
def Retains (before after : Auth.Sessions) : Prop :=
  ∀ sessionId binding, after.sessions.find sessionId = some binding →
    before.sessions.find sessionId = some binding

theorem Retains.of_remove {state next : Auth.Sessions} {gone : String}
    (removed : next.sessions = state.sessions.remove gone) : Retains state next := by
  intro sessionId binding found
  rw [removed, Table.find_remove] at found
  split at found
  · cases found
  · exact found

/-! ## Clean-up -/

variable {policy} {state : Auth.Sessions}

theorem tokenOf_remove {next : Auth.Sessions} {gone : String}
    (removed : next.sessions = state.sessions.remove gone) :
    tokenOf next = Function.update (tokenOf state) gone none := by
  funext sessionId
  rw [tokenOf, removed, Table.find_remove, Function.update_apply]
  split <;> rfl

theorem sessionOf_put {next : Auth.Sessions} {replay : ReplayState}
    (written : next.jtiSessions = state.jtiSessions.put replay) :
    sessionOf next = Function.update (sessionOf state) replay.jti replay.sessionId := by
  funext jti
  rw [sessionOf, written, Table.find_put, Function.update_apply]
  split <;> rfl

theorem tokenOf_put {next : Auth.Sessions} {binding : SessionBinding}
    (written : next.sessions = state.sessions.put binding) :
    tokenOf next = Function.update (tokenOf state) binding.id (some binding.jti) := by
  funext sessionId
  rw [tokenOf, written, Table.find_put, Function.update_apply]
  split <;> rfl

/-- What one removal of a clean-up does. -/
structure Cleans (before after : Auth.Sessions) : Prop where
  linked : Linked before → Linked after
  shrinks : Shrinks before after
  retains : Retains before after

theorem Cleans.refl (state : Auth.Sessions) : Cleans state state :=
  ⟨id, .refl state, fun _ _ found => found⟩

theorem Cleans.trans {first second third : Auth.Sessions} (earlier : Cleans first second)
    (later : Cleans second third) : Cleans first third where
  linked linked := later.linked (earlier.linked linked)
  shrinks := earlier.shrinks.trans later.shrinks
  retains sessionId binding found :=
    earlier.retains sessionId binding (later.retains sessionId binding found)

theorem dropToken_cleans (state : Auth.Sessions) (jti : String) :
    Cleans state (dropToken state jti) := by
  unfold dropToken
  cases found : state.jtiSessions.find jti with
  | none => exact .refl state
  | some replay =>
      have named : sessionOf state jti = replay.sessionId := by
        rw [sessionOf, found]
        rfl
      have forgotten (sessions : Table SessionBinding.id) :
          sessionOf ⟨state.jtiSessions.remove jti, sessions⟩ =
            Function.update (sessionOf state) jti none := by
        funext other
        rw [sessionOf, Table.find_remove, Function.update_apply]
        split <;> rfl
      have fewer := Table.length_remove_le state.jtiSessions jti
      have gone (other : String) (absent : state.jtiSessions.find other = none) :
          (state.jtiSessions.remove jti).find other = none := by
        rw [Table.find_remove, absent, ite_self]
      dsimp only
      cases session : replay.sessionId with
      | none =>
          refine ⟨fun linked => ?_, ⟨fun _ absent => absent, gone, le_rfl, fewer⟩,
            fun _ _ present => present⟩
          rw [session] at named
          unfold Linked
          rw [forgotten, Function.update_eq_self_iff.mpr named.symm]
          exact linked
      | some sessionId =>
          refine ⟨fun linked => ?_, ⟨fun other absent => ?_, gone,
            Table.length_remove_le _ _, fewer⟩, Retains.of_remove rfl⟩
          · rw [session] at named
            unfold Linked
            rw [forgotten, tokenOf_remove rfl]
            exact linked.unlink ((linked sessionId jti).mpr named)
          · rw [Table.find_remove, absent, ite_self]

theorem unname_of_linked (linked : Linked state) {binding : SessionBinding}
    (found : state.sessions.find binding.id = some binding) :
    ∃ replay, state.jtiSessions.find binding.jti = some replay ∧
      unname state.jtiSessions binding.jti binding.id =
        state.jtiSessions.put { replay with sessionId := none } := by
  have named : sessionOf state binding.jti = some binding.id := by
    refine (linked binding.id binding.jti).mp ?_
    rw [tokenOf, found]
    rfl
  obtain ⟨replay, present, holds⟩ := Option.bind_eq_some_iff.mp named
  refine ⟨replay, present, ?_⟩
  unfold unname
  rw [present]
  dsimp only
  rw [if_pos holds]

theorem unname_absent {jtiSessions : Table ReplayState.jti} {jti sessionId other : String}
    (absent : jtiSessions.find other = none) :
    (unname jtiSessions jti sessionId).find other = none := by
  unfold unname
  cases found : jtiSessions.find jti with
  | none => exact absent
  | some replay =>
      dsimp only
      split
      · rw [Table.find_put, absent, if_neg]
        rintro rfl
        rw [Table.key_of_find found, found] at absent
        cases absent
      · exact absent

theorem length_unname (jtiSessions : Table ReplayState.jti) (jti sessionId : String) :
    (unname jtiSessions jti sessionId).rows.length = jtiSessions.rows.length := by
  unfold unname
  cases found : jtiSessions.find jti with
  | none => rfl
  | some replay =>
      obtain rfl := Table.key_of_find found
      dsimp only
      split
      · exact Table.length_put_of_find found
      · rfl

theorem dropSession_cleans (state : Auth.Sessions) (sessionId : String) :
    Cleans state (dropSession state sessionId) := by
  unfold dropSession
  cases found : state.sessions.find sessionId with
  | none => exact .refl state
  | some binding =>
      obtain rfl := Table.key_of_find found
      refine ⟨fun linked => ?_, ⟨fun other absent => ?_, fun other absent => unname_absent absent,
        Table.length_remove_le _ _, (length_unname _ _ _).le⟩, Retains.of_remove rfl⟩
      · obtain ⟨replay, present, same⟩ := unname_of_linked linked found
        have token : tokenOf state binding.id = some replay.jti := by
          rw [tokenOf, found, Table.key_of_find present]
          rfl
        unfold Linked
        dsimp only
        rw [same, tokenOf_remove rfl, sessionOf_put rfl]
        exact linked.unlink token
      · rw [Table.find_remove, absent, ite_self]

theorem foldl_cleans {drop : Auth.Sessions → String → Auth.Sessions}
    (cleans : ∀ state gone, Cleans state (drop state gone)) (gone : List String)
    (state : Auth.Sessions) : Cleans state (gone.foldl drop state) := by
  induction gone generalizing state with
  | nil => exact .refl state
  | cons first rest ih => exact (cleans state first).trans (ih (drop state first))

theorem cleanup_cleans (now : Instant) (state : Auth.Sessions) :
    Cleans state (cleanup policy now state) := by
  unfold cleanup
  exact (foldl_cleans dropToken_cleans _ state).trans (foldl_cleans dropSession_cleans _ _)

theorem releaseSession_cleans (sessionId : String) (now : Instant) (state : Auth.Sessions) :
    Cleans state (releaseSession policy sessionId now state) := by
  unfold releaseSession
  split
  · exact .refl state
  · exact (cleanup_cleans now state).trans (dropSession_cleans _ sessionId)

/-! ## Accepted calls -/

/-- The fields by which a session knows its token and its request. -/
abbrev Party := String × String × String × Option String × Option String

def partyOf (identity : AuthenticatedIdentity) : Party :=
  (identity.subject, identity.jti, identity.tokenDigest, identity.origin, identity.incidentId)

def partyOfBinding (binding : SessionBinding) : Party :=
  (binding.subject, binding.jti, binding.tokenDigest, binding.origin, binding.incidentId)

theorem party_of_not_mismatch {binding : SessionBinding} {identity : AuthenticatedIdentity}
    (fits : ¬ Mismatch binding identity) : partyOfBinding binding = partyOf identity := by
  simp only [Mismatch, not_or, not_not] at fits
  obtain ⟨subject, jti, digest, origin, incident⟩ := fits
  rw [partyOfBinding, partyOf, subject, jti, digest, origin, incident]

/-- Both maps stay within their capacity. -/
def Fits (policy : AuthPolicy) (state : Auth.Sessions) : Prop :=
  state.jtiSessions.rows.length ≤ policy.maxReplayEntries ∧
    state.sessions.rows.length ≤ policy.maxSessionEntries

theorem Fits.shrinks {next : Auth.Sessions} (fits : Fits policy state)
    (shrinks : Shrinks state next) : Fits policy next :=
  ⟨shrinks.tokenCount.trans fits.1, shrinks.sessionCount.trans fits.2⟩

/-- The parties that sessions are bound to by `known` are those that they are kept for. -/
def Known (known : String → Option Party) (state : Auth.Sessions) : Prop :=
  ∀ sessionId binding, state.sessions.find sessionId = some binding →
    known sessionId = some (partyOfBinding binding)

theorem Known.retains {known : String → Option Party} {next : Auth.Sessions}
    (bound : Known known state) (retains : Retains state next) : Known known next :=
  fun sessionId binding found => bound sessionId binding (retains sessionId binding found)

/-- What the maps satisfy between calls. -/
structure Sound (policy : AuthPolicy) (known : String → Option Party) (state : Auth.Sessions) :
    Prop where
  linked : Linked state
  fits : Fits policy state
  bound : Known known state

theorem Sound.cleans {known : String → Option Party} {next : Auth.Sessions}
    (sound : Sound policy known state) (cleans : Cleans state next) : Sound policy known next :=
  ⟨cleans.linked sound.linked, sound.fits.shrinks cleans.shrinks,
    sound.bound.retains cleans.retains⟩

/-- An accepted call keeps the maps sound, a refused one adds nothing. -/
def Meets (policy : AuthPolicy) (known : String → Option Party) (before : Auth.Sessions)
    (answer : Answer) : Prop :=
  match answer.1 with
  | .ok () => Sound policy known answer.2
  | .error _ => Cleans before answer.2

theorem admit_meets (single : policy.allowRegisteredTokenReuse = false)
    {known : String → Option Party} {identity : AuthenticatedIdentity}
    (sound : Sound policy known state) :
    Meets policy known state (admitUnbound policy identity state) := by
  unfold admitUnbound
  rw [single, if_neg Bool.false_ne_true]
  cases found : state.jtiSessions.find identity.jti with
  | some replay => exact Cleans.refl state
  | none =>
      dsimp only
      split
      · exact Cleans.refl state
      · rename_i room
        have unnamed : sessionOf state identity.jti = none := by
          rw [sessionOf, found]
          rfl
        refine ⟨?_, ⟨?_, sound.fits.2⟩, sound.bound⟩
        · unfold Linked
          rw [sessionOf_put rfl, Function.update_eq_self_iff.mpr unnamed.symm]
          exact sound.linked
        · dsimp only
          rw [Table.length_put_of_fresh found]
          omega

theorem resume_meets {known : String → Option Party} {identity : AuthenticatedIdentity}
    {sessionId : String} {now : Instant} (sound : Sound policy known state) :
    Meets policy known state (resume policy identity sessionId now state) ∧
      ((resume policy identity sessionId now state).1 = .ok () →
        known sessionId = some (partyOf identity)) := by
  unfold resume
  cases found : state.sessions.find sessionId with
  | none => exact ⟨Cleans.refl state, (by intro impossible; cases impossible)⟩
  | some binding =>
      dsimp only
      split
      · exact ⟨Cleans.refl state, (by intro impossible; cases impossible)⟩
      · rename_i accepted
        rw [not_or] at accepted
        have party := party_of_not_mismatch accepted.1
        have serves : known sessionId = some (partyOf identity) := by
          rw [sound.bound sessionId binding found, party]
        have token : tokenOf state sessionId = some identity.jti := by
          rw [tokenOf, found, Option.map_some]
          exact congrArg some (Prod.ext_iff.mp (Prod.ext_iff.mp party).2).1
        refine ⟨⟨?_, ⟨sound.fits.1, ?_⟩, ?_⟩, fun _ => serves⟩
        · have same : Function.update (tokenOf state) sessionId (some identity.jti) =
              tokenOf state := Function.update_eq_self_iff.mpr token.symm
          unfold Linked
          rw [tokenOf_put rfl]
          change Paired (Function.update (tokenOf state) sessionId (some identity.jti)) _
          rw [same]
          exact sound.linked
        · dsimp only
          rw [Table.length_put_of_find found]
          exact sound.fits.2
        · intro other binding' present
          rw [Table.find_put] at present
          split at present
          · rename_i same
            cases present
            rw [same]
            exact serves
          · exact sound.bound other binding' present

theorem Known.put {known : String → Option Party} {jtiSessions : Table ReplayState.jti}
    {identity : AuthenticatedIdentity} {sessionId : String} {seenAt : Instant}
    (bound : Known known state) :
    Known (Function.update known sessionId (some (partyOf identity)))
      ⟨jtiSessions, state.sessions.put (bindingOf identity sessionId seenAt)⟩ := by
  intro other binding present
  rw [Table.find_put] at present
  rw [Function.update_apply]
  split at present
  · rename_i same
    cases present
    exact if_pos same
  · rename_i differs
    rw [if_neg (show ¬ other = sessionId from differs)]
    exact bound other binding present

/-- A session id is bound anew only when neither it nor the token id is taken. -/
theorem bindTo_meets {known : String → Option Party} {identity : AuthenticatedIdentity}
    {sessionId : String} {seenAt : Instant} {replay : ReplayState}
    (sound : Sound policy known state)
    (found : state.jtiSessions.find identity.jti = some replay)
    (free : replay.sessionId = none ∨ replay.sessionId = some sessionId) :
    let answer := bindTo policy identity sessionId seenAt
      (state.jtiSessions.put ⟨identity.jti, some sessionId, identity.expiresAt⟩) state
    (answer.1 = .ok () →
      Sound policy (Function.update known sessionId (some (partyOf identity))) answer.2) ∧
    (answer.1 ≠ .ok () → answer.2 = state) := by
  have kept : (state.jtiSessions.put ⟨identity.jti, some sessionId, identity.expiresAt⟩).rows.length ≤
      policy.maxReplayEntries := by
    rw [Table.length_put_of_find found]
    exact sound.fits.1
  have names : sessionOf state identity.jti = replay.sessionId := by
    rw [sessionOf, found]
    rfl
  unfold bindTo
  cases present : state.sessions.find sessionId with
  | some binding =>
      dsimp only
      split
      · exact ⟨(by intro impossible; cases impossible), fun _ => rfl⟩
      · rename_i accepted
        rw [not_or] at accepted
        have party := party_of_not_mismatch accepted.1
        have token : tokenOf state sessionId = some identity.jti := by
          rw [tokenOf, present, Option.map_some]
          exact congrArg some (Prod.ext_iff.mp (Prod.ext_iff.mp party).2).1
        refine ⟨fun _ => ⟨?_, ⟨kept, ?_⟩, sound.bound.put⟩, fun refused => absurd rfl refused⟩
        · unfold Linked
          rw [tokenOf_put rfl, sessionOf_put rfl]
          exact sound.linked.relink token
        · dsimp only
          rw [Table.length_put_of_find present]
          exact sound.fits.2
  | none =>
      dsimp only
      split
      · exact ⟨(by intro impossible; cases impossible), fun _ => rfl⟩
      · rename_i room
        have unbound : tokenOf state sessionId = none := by
          rw [tokenOf, present]
          rfl
        have unnamed : sessionOf state identity.jti = none := by
          rw [names]
          refine free.resolve_right fun taken => ?_
          rw [taken, ← sound.linked sessionId identity.jti, unbound] at names
          cases names
        refine ⟨fun _ => ⟨?_, ⟨kept, ?_⟩, sound.bound.put⟩, fun refused => absurd rfl refused⟩
        · unfold Linked
          rw [tokenOf_put rfl, sessionOf_put rfl]
          exact sound.linked.link unbound unnamed
        · dsimp only
          rw [Table.length_put_of_fresh present]
          omega

theorem bindSession_meets (single : policy.allowRegisteredTokenReuse = false)
    {known : String → Option Party} {identity : AuthenticatedIdentity} {sessionId : String}
    {seenAt now : Instant} (sound : Sound policy known state) :
    let answer := bindSession policy identity sessionId seenAt now state
    (answer.1 = .ok () →
      Sound policy (Function.update known sessionId (some (partyOf identity))) answer.2) ∧
    (answer.1 ≠ .ok () → Cleans state answer.2) := by
  have cleaned := @cleanup_cleans policy now state
  unfold bindSession
  split
  · exact ⟨(by intro impossible; cases impossible), fun _ => .refl state⟩
  · unfold bindLocked
    rw [single, if_neg Bool.false_ne_true]
    cases found : (cleanup policy now state).jtiSessions.find identity.jti with
    | none => exact ⟨(by intro impossible; cases impossible), fun _ => cleaned⟩
    | some replay =>
        dsimp only
        split
        · exact ⟨(by intro impossible; cases impossible), fun _ => cleaned⟩
        · rename_i free
          have unnamed : replay.sessionId = none ∨ replay.sessionId = some sessionId := by
            by_contra taken
            rw [not_or] at taken
            exact free taken
          obtain ⟨accepts, refuses⟩ := @bindTo_meets policy _ known identity sessionId seenAt replay
            (sound.cleans cleaned) found unnamed
          exact ⟨accepts, fun refused => (refuses refused).symm ▸ cleaned⟩

theorem authorizeLocked_meets (single : policy.allowRegisteredTokenReuse = false)
    {known : String → Option Party} {identity : AuthenticatedIdentity}
    {sessionId : Option String} {now : Instant} (sound : Sound policy known state) :
    let answer := authorizeLocked policy identity sessionId now state
    (answer.1 = .ok () → Sound policy known answer.2 ∧
      ∀ resumed, sessionId = some resumed → known resumed = some (partyOf identity)) ∧
    (answer.1 ≠ .ok () → Cleans state answer.2) := by
  have cleaned := @cleanup_cleans policy now state
  have sound' := sound.cleans cleaned
  unfold authorizeLocked
  cases sessionId with
  | none =>
      have meets := @admit_meets policy _ single known identity sound'
      dsimp only
      unfold Meets at meets
      cases answer : admitUnbound policy identity (cleanup policy now state) with
      | mk outcome next =>
          rw [answer] at meets
          cases outcome with
          | ok done =>
              refine ⟨fun _ => ⟨meets, ?_⟩, fun refused => absurd rfl refused⟩
              intro resumed impossible
              cases impossible
          | error error =>
              exact ⟨(by intro impossible; cases impossible), fun _ => cleaned.trans meets⟩
  | some sessionId =>
      obtain ⟨meets, serves⟩ := @resume_meets policy _ known identity sessionId now sound'
      dsimp only
      unfold Meets at meets
      cases answer : resume policy identity sessionId now (cleanup policy now state) with
      | mk outcome next =>
          rw [answer] at meets serves
          cases outcome with
          | ok done =>
              refine ⟨fun _ => ⟨meets, ?_⟩, fun refused => absurd rfl refused⟩
              intro resumed same
              cases same
              exact serves rfl
          | error error =>
              exact ⟨(by intro impossible; cases impossible), fun _ => cleaned.trans meets⟩

/-! ## Runs -/

def boundTo (sessionId : String) : Event → Option AuthenticatedIdentity
  | .bound identity boundId => if boundId = sessionId then some identity else none
  | _ => none

/-- The identity that a session was last bound with. -/
def lastBound (log : List Event) (sessionId : String) : Option AuthenticatedIdentity :=
  (log.filterMap (boundTo sessionId)).getLast?

def known (log : List Event) (sessionId : String) : Option Party :=
  (lastBound log sessionId).map partyOf

/-- A session is used by the party that it was bound with. -/
def Served (log : List Event) : Prop :=
  ∀ before after identity sessionId,
    log = before ++ .authorized identity (some sessionId) :: after →
    known before sessionId = some (partyOf identity)

theorem known_append {log : List Event} {event : Event}
    (beside : ∀ identity sessionId, event ≠ .bound identity sessionId) :
    known (log ++ [event]) = known log := by
  funext sessionId
  have silent : [event].filterMap (boundTo sessionId) = [] := by
    cases event with
    | bound identity boundId => exact absurd rfl (beside identity boundId)
    | authorized | released | refused => rfl
  rw [known, lastBound, List.filterMap_append, silent, List.append_nil]
  rfl

theorem known_append_bound (log : List Event) (identity : AuthenticatedIdentity)
    (sessionId : String) : known (log ++ [.bound identity sessionId]) =
      Function.update (known log) sessionId (some (partyOf identity)) := by
  funext other
  rw [known, lastBound, List.filterMap_append, Function.update_apply]
  by_cases same : other = sessionId
  · subst same
    have hit : [Event.bound identity other].filterMap (boundTo other) = [identity] := by
      simp [boundTo]
    rw [if_pos rfl, hit, List.getLast?_concat]
    rfl
  · have silent : [Event.bound identity sessionId].filterMap (boundTo other) = [] := by
      simp [boundTo, Ne.symm same]
    rw [if_neg same, silent, List.append_nil]
    rfl

theorem Served.append {log : List Event} {event : Event} (served : Served log)
    (serves : ∀ identity sessionId, event = .authorized identity (some sessionId) →
      known log sessionId = some (partyOf identity)) : Served (log ++ [event]) := by
  intro before after identity sessionId split
  rcases List.eq_nil_or_concat after with rfl | ⟨middle, last, rfl⟩
  · obtain ⟨rfl, same⟩ := List.append_inj' split rfl
    exact serves identity sessionId (List.singleton_inj.mp same)
  · rw [List.concat_eq_append, ← List.cons_append, ← List.append_assoc] at split
    obtain ⟨earlier, _⟩ := List.append_inj' split rfl
    exact served before middle identity sessionId earlier

structure Bookkept (policy : AuthPolicy) (desk : Desk) (log : List Event) : Prop where
  sound : Sound policy (known log) desk.sessions
  served : Served log

theorem Bookkept.silent {desk next : Desk} {log : List Event} (kept : Bookkept policy desk log)
    (same : next.sessions = desk.sessions) : Bookkept policy next (log ++ []) := by
  rw [List.append_nil]
  exact ⟨same ▸ kept.sound, kept.served⟩

/-- Events other than bindings and uses of a session keep the books if the maps only lose
entries. -/
theorem Bookkept.cleaned {desk next : Desk} {log : List Event} {event : Event}
    (kept : Bookkept policy desk log) (cleans : Cleans desk.sessions next.sessions)
    (beside : ∀ identity sessionId, event ≠ .bound identity sessionId)
    (unused : ∀ identity sessionId, event ≠ .authorized identity sessionId) :
    Bookkept policy next (log ++ [event]) := by
  constructor
  · rw [known_append beside]
    exact kept.sound.cleans cleans
  · exact kept.served.append fun identity sessionId same => absurd same (unused identity sessionId)

/-- What a step keeps: the books, and no refused call adds an entry. -/
def Keeps (policy : AuthPolicy) (desk : Desk) (log : List Event)
    (stepped : Desk × List Event) : Prop :=
  Bookkept policy stepped.1 (log ++ stepped.2) ∧
    ∀ error, stepped.2 = [.refused error] → Cleans desk.sessions stepped.1.sessions

theorem Keeps.silent {desk next : Desk} {log : List Event} (kept : Bookkept policy desk log)
    (same : next.sessions = desk.sessions) : Keeps policy desk log (next, []) := by
  refine ⟨kept.silent same, fun error impossible => ?_⟩
  cases impossible

theorem Keeps.refused {desk next : Desk} {log : List Event} {error : AuthFailure}
    (kept : Bookkept policy desk log) (cleans : Cleans desk.sessions next.sessions) :
    Keeps policy desk log (next, [.refused error]) :=
  ⟨kept.cleaned cleans (fun _ _ => nofun) (fun _ _ => nofun), fun _ _ => cleans⟩

theorem enter_keeps (single : policy.allowRegisteredTokenReuse = false) {desk current : Desk}
    {log : List Event} (kept : Bookkept policy desk log) {identity : AuthenticatedIdentity}
    {sessionId : Option String} {now : Instant} :
    Keeps policy desk log (conclude current (.authorized identity sessionId)
      (authorizeLocked policy identity sessionId now desk.sessions)) := by
  obtain ⟨accepts, refuses⟩ := @authorizeLocked_meets policy _ single (known log) identity
    sessionId now kept.sound
  cases answer : authorizeLocked policy identity sessionId now desk.sessions with
  | mk outcome next =>
      rw [answer] at accepts refuses
      cases outcome with
      | ok done =>
          obtain ⟨sound, serves⟩ := accepts rfl
          refine ⟨⟨?_, kept.served.append ?_⟩, fun error impossible => ?_⟩
          · dsimp only [conclude]
            rw [known_append (by intro _ _ impossible; cases impossible)]
            exact sound
          · intro user resumed same
            cases same
            exact serves resumed rfl
          · cases impossible
      | error error => exact .refused kept (refuses nofun)

theorem bind_keeps (single : policy.allowRegisteredTokenReuse = false) {desk current : Desk}
    {log : List Event} (kept : Bookkept policy desk log) {identity : AuthenticatedIdentity}
    {sessionId : String} {seenAt now : Instant} :
    Keeps policy desk log (conclude current (.bound identity sessionId)
      (bindSession policy identity sessionId seenAt now desk.sessions)) := by
  obtain ⟨accepts, refuses⟩ := @bindSession_meets policy _ single (known log) identity sessionId
    seenAt now kept.sound
  cases answer : bindSession policy identity sessionId seenAt now desk.sessions with
  | mk outcome next =>
      rw [answer] at accepts refuses
      cases outcome with
      | ok done =>
          refine ⟨⟨?_, kept.served.append ?_⟩, fun error impossible => ?_⟩
          · dsimp only [conclude]
            rw [known_append_bound]
            exact accepts rfl
          · intro user resumed same
            cases same
          · cases impossible
      | error error => exact .refused kept (refuses nofun)

theorem step_keeps (single : policy.allowRegisteredTokenReuse = false) {desk : Desk}
    {log : List Event} (kept : Bookkept policy desk log) (action : Action) :
    Keeps policy desk log (step policy desk action) := by
  cases action with
  | verify caller request active now =>
      unfold step
      dsimp only
      split
      · exact .silent kept rfl
      · split
        · exact .refused kept (.refl _)
        · exact .silent kept rfl
  | look caller now =>
      unfold step
      dsimp only
      split
      · exact .silent kept rfl
      · split
        · exact .silent kept rfl
        · exact .silent kept rfl
  | enter caller =>
      unfold step
      dsimp only
      split
      · exact enter_keeps single kept
      · exact .silent kept rfl
  | bind identity sessionId seenAt now =>
      unfold step
      dsimp only
      split
      · exact .silent kept rfl
      · exact bind_keeps single kept
  | release sessionId now =>
      unfold step
      dsimp only
      split
      · exact .silent kept rfl
      · have cleaned := @releaseSession_cleans policy sessionId now desk.sessions
        exact ⟨kept.cleaned cleaned (fun _ _ => nofun) (fun _ _ => nofun), fun _ _ => cleaned⟩

theorem bookkept_start (clock : Instant) : Bookkept policy (Desk.start clock) [] := by
  refine ⟨⟨Paired.empty, ⟨Nat.zero_le _, Nat.zero_le _⟩, ?_⟩, ?_⟩
  · intro sessionId binding found
    cases found
  · intro before after identity sessionId split
    exact absurd split.symm (by simp)

theorem run_bookkept (single : policy.allowRegisteredTokenReuse = false) (clock : Instant)
    (actions : List Action) : Bookkept policy ((calls policy).run (Desk.start clock) actions)
      ((calls policy).log (Desk.start clock) actions) :=
  (calls policy).run_log_invariant (Bookkept policy)
    (fun _ action _ kept => (step_keeps single kept action).1) (bookkept_start clock) actions

/-- After any interleaving of calls: a session has a token id exactly if the token id names
the session, both maps are within their capacity, a session was used by the party that it
was last bound with, and a refused call adds no session and no token id. -/
theorem sessions_bound (policy : AuthPolicy) (single : policy.allowRegisteredTokenReuse = false)
    (clock : Instant) (actions : List Action) :
    let desk := (calls policy).run (Desk.start clock) actions
    (∀ sessionId jti, tokenOf desk.sessions sessionId = some jti ↔
      sessionOf desk.sessions jti = some sessionId) ∧
    Fits policy desk.sessions ∧
    (∀ before after identity sessionId, (calls policy).log (Desk.start clock) actions =
        before ++ .authorized identity (some sessionId) :: after →
      (lastBound before sessionId).map partyOf = some (partyOf identity)) ∧
    ∀ action error, (calls policy).events desk action = [.refused error] →
      Shrinks desk.sessions ((calls policy).next desk action).sessions := by
  have kept := @run_bookkept policy single clock actions
  refine ⟨kept.sound.linked, kept.sound.fits, kept.served, ?_⟩
  intro action error refused
  exact ((step_keeps single kept action).2 error refused).shrinks

/-! ## Examples -/

/-- A call that verifies its token at second 99 and takes the lock at a later reading. -/
def presented (caller : Nat) (read : Nat) : List Action :=
  [.verify caller (sampleRequest none) false (seconds 99), .look caller (seconds read),
    .enter caller]

/-- A token that is admitted and bound to a session. -/
def served : List Action :=
  presented 0 99 ++ [.bind sampleIdentity "session-1" (seconds 99) (seconds 99)]

/-- A call that has verified the token and not yet read the clock again. -/
def verified (desk : Desk) (caller : Nat) : Desk :=
  { desk with
    clock := seconds 99
    flights := Function.update desk.flights caller (some ⟨sampleIdentity, none, none⟩) }

/-- The first reading finds the token valid. -/
theorem step_verify_sample {desk : Desk} (caller : Nat) (early : ¬ seconds 99 < desk.clock) :
    (calls samplePolicy).step desk (.verify caller (sampleRequest none) false (seconds 99)) =
      (verified desk caller, []) := by
  dsimp only [calls, step]
  rw [if_neg early, sample_identified]
  rfl

theorem run_verify_sample {desk : Desk} (caller : Nat) (early : ¬ seconds 99 < desk.clock)
    (actions : List Action) :
    (calls samplePolicy).run desk
        (.verify caller (sampleRequest none) false (seconds 99) :: actions) =
      (calls samplePolicy).run (verified desk caller) actions := by
  rw [Machine.run_cons, Machine.next, step_verify_sample caller early]

theorem log_verify_sample {desk : Desk} (caller : Nat) (early : ¬ seconds 99 < desk.clock)
    (actions : List Action) :
    (calls samplePolicy).log desk
        (.verify caller (sampleRequest none) false (seconds 99) :: actions) =
      (calls samplePolicy).log (verified desk caller) actions := by
  rw [Machine.log_cons, Machine.events, Machine.next, step_verify_sample caller early,
    List.nil_append]

theorem verified_served : tokenOf ((calls samplePolicy).run (verified (Desk.start (seconds 0)) 0)
    [.look 0 (seconds 99), .enter 0,
      .bind sampleIdentity "session-1" (seconds 99) (seconds 99)]).sessions "session-1" =
    some "token-1" := by
  decide

theorem served_bound :
    Fits samplePolicy ((calls samplePolicy).run (Desk.start (seconds 0)) served).sessions ∧
      tokenOf ((calls samplePolicy).run (Desk.start (seconds 0)) served).sessions "session-1" =
        some "token-1" ∧
      sessionOf ((calls samplePolicy).run (Desk.start (seconds 0)) served).sessions "token-1" =
        some "session-1" := by
  obtain ⟨linked, fits, _⟩ := sessions_bound samplePolicy rfl (seconds 0) served
  have token : tokenOf ((calls samplePolicy).run (Desk.start (seconds 0)) served).sessions
      "session-1" = some "token-1" := by
    have early : ¬ seconds 99 < (Desk.start (seconds 0)).clock := by decide
    rw [served, presented, List.cons_append, run_verify_sample 0 early]
    exact verified_served
  exact ⟨fits, token, (linked "session-1" "token-1").mp token⟩

end CrossPatch.Mcp.Sessions
