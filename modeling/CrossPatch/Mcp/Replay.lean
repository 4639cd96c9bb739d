import CrossPatch.Mcp.Sessions

/-!
# Replayed tokens

A token is verified before the lock, and its entry is forgotten under the lock once a
clock reading has reached its expiry.  A call that falls between the two admits its
token a second time.  Calls that take the lock before any reading has reached the
expiry of their token let in every token id at most once.
-/

namespace CrossPatch.Mcp.Replay

open CrossPatch.Library CrossPatch.Library.Calendar CrossPatch.Library.Runs
open CrossPatch.Mcp.Auth CrossPatch.Mcp.Sessions

variable {policy : AuthPolicy} {state : Auth.Sessions} {jti : String} {expiresAt now : Instant}

/-! ## Entries that are kept -/

/-- The token id has an entry that expires at this time. -/
def Remembers (jti : String) (expiresAt : Instant) (state : Auth.Sessions) : Prop :=
  ∃ replay, state.jtiSessions.find jti = some replay ∧ replay.expiresAt = expiresAt

theorem dropToken_remembers (remembers : Remembers jti expiresAt state) {gone : String}
    (differs : gone ≠ jti) : Remembers jti expiresAt (dropToken state gone) := by
  obtain ⟨replay, found, expires⟩ := remembers
  unfold dropToken
  cases state.jtiSessions.find gone with
  | none => exact ⟨replay, found, expires⟩
  | some other =>
      refine ⟨replay, ?_, expires⟩
      rw [Table.find_remove, if_neg (Ne.symm differs)]
      exact found

theorem dropSession_remembers (remembers : Remembers jti expiresAt state) (sessionId : String) :
    Remembers jti expiresAt (dropSession state sessionId) := by
  obtain ⟨replay, found, expires⟩ := remembers
  unfold dropSession
  cases state.sessions.find sessionId with
  | none => exact ⟨replay, found, expires⟩
  | some binding =>
      unfold unname
      dsimp only
      cases present : state.jtiSessions.find binding.jti with
      | none => exact ⟨replay, found, expires⟩
      | some named =>
          have key := Table.key_of_find present
          by_cases holds : named.sessionId = some sessionId
          · by_cases same : jti = named.jti
            · rw [same, key, present, Option.some.injEq] at found
              refine ⟨{ named with sessionId := none }, ?_, found ▸ expires⟩
              dsimp only
              rw [if_pos holds, Table.find_put, if_pos same]
            · refine ⟨replay, ?_, expires⟩
              dsimp only
              rw [if_pos holds, Table.find_put, if_neg same]
              exact found
          · refine ⟨replay, ?_, expires⟩
            dsimp only
            rw [if_neg holds]
            exact found

/-- A clean-up forgets no token before its expiry. -/
theorem cleanup_remembers (remembers : Remembers jti expiresAt state) (early : now < expiresAt) :
    Remembers jti expiresAt (cleanup policy now state) := by
  have spared : jti ∉ expiredTokens state now := by
    intro listed
    obtain ⟨other, member, same⟩ := List.mem_map.mp listed
    obtain ⟨inside, expired⟩ := List.mem_filter.mp member
    obtain ⟨replay, found, expires⟩ := remembers
    have present := Table.find_of_mem inside
    rw [same, found, Option.some.injEq] at present
    rw [← present, expires, decide_eq_true_eq] at expired
    exact Instant.not_lt.mpr expired early
  have swept : Remembers jti expiresAt ((expiredTokens state now).foldl dropToken state) := by
    generalize expiredTokens state now = expired at spared
    induction expired generalizing state with
    | nil => exact remembers
    | cons first rest ih =>
        rw [List.mem_cons, not_or] at spared
        exact ih (dropToken_remembers remembers (Ne.symm spared.1)) spared.2
  unfold cleanup
  dsimp only
  generalize (expiredTokens state now).foldl dropToken state = current at swept
  generalize idleSessions policy current now = idle
  induction idle generalizing current with
  | nil => exact swept
  | cons first rest ih => exact ih (dropSession current first) (dropSession_remembers swept first)

/-! ## Locked sections -/

theorem admit_remembers {identity : AuthenticatedIdentity}
    (remembers : Remembers jti expiresAt state) :
    Remembers jti expiresAt (admitUnbound policy identity state).2 := by
  obtain ⟨replay, found, expires⟩ := remembers
  unfold admitUnbound
  split
  · exact ⟨replay, found, expires⟩
  · cases other : state.jtiSessions.find identity.jti with
    | some entry => exact ⟨replay, found, expires⟩
    | none =>
        dsimp only
        split
        · exact ⟨replay, found, expires⟩
        · refine ⟨replay, ?_, expires⟩
          rw [Table.find_put, if_neg]
          · exact found
          · rintro rfl
            rw [found] at other
            cases other

theorem resume_remembers {identity : AuthenticatedIdentity} {sessionId : String}
    (remembers : Remembers jti expiresAt state) :
    Remembers jti expiresAt (resume policy identity sessionId now state).2 := by
  unfold resume
  split
  · exact remembers
  · split
    · exact remembers
    · exact remembers

theorem authorizeLocked_remembers {identity : AuthenticatedIdentity} {sessionId : Option String}
    (remembers : Remembers jti expiresAt state) (early : now < expiresAt) :
    Remembers jti expiresAt (authorizeLocked policy identity sessionId now state).2 := by
  have cleaned := @cleanup_remembers policy _ _ _ _ remembers early
  unfold authorizeLocked
  split
  · exact admit_remembers cleaned
  · exact resume_remembers cleaned

/-- Binding a token id renews its entry with the expiry of the bound identity. -/
theorem bindSession_remembers {identity : AuthenticatedIdentity} {sessionId : String}
    {seenAt : Instant} (remembers : Remembers jti expiresAt state) (early : now < expiresAt)
    (shared : identity.jti = jti → identity.expiresAt = expiresAt) :
    Remembers jti expiresAt (bindSession policy identity sessionId seenAt now state).2 := by
  have cleaned := @cleanup_remembers policy _ _ _ _ remembers early
  have renewed : Remembers jti expiresAt
      ⟨(cleanup policy now state).jtiSessions.put
        ⟨identity.jti, some sessionId, identity.expiresAt⟩,
        (cleanup policy now state).sessions.put (bindingOf identity sessionId seenAt)⟩ := by
    obtain ⟨replay, found, expires⟩ := cleaned
    by_cases same : jti = identity.jti
    · refine ⟨⟨identity.jti, some sessionId, identity.expiresAt⟩, ?_, shared same.symm⟩
      rw [Table.find_put, if_pos same]
    · refine ⟨replay, ?_, expires⟩
      rw [Table.find_put, if_neg same]
      exact found
  unfold bindSession bindLocked bindTo
  split
  · exact remembers
  · split
    · split
      · split
        · exact cleaned
        · exact cleaned
      · split
        · exact cleaned
        · exact cleaned
    · split
      · exact cleaned
      · split
        · exact cleaned
        · split
          · split
            · exact cleaned
            · exact renewed
          · split
            · exact cleaned
            · exact renewed

theorem releaseSession_remembers {sessionId : String} (remembers : Remembers jti expiresAt state)
    (early : now < expiresAt) :
    Remembers jti expiresAt (releaseSession policy sessionId now state) := by
  unfold releaseSession
  split
  · exact remembers
  · exact dropSession_remembers (cleanup_remembers remembers early) sessionId

/-! ## Admissions -/

def admits (jti : String) : Event → Bool
  | .authorized identity none => identity.jti == jti
  | _ => false

/-- All identities of one token id expire together, and a call without a session takes the
lock before any clock reading has reached the expiry of its token. -/
def Timely (expiry : String → Instant) (desk : Desk) : Action → Prop
  | .enter caller => ∀ identity now, desk.flights caller = some ⟨identity, none, some now⟩ →
      identity.expiresAt = expiry identity.jti ∧ desk.clock < identity.expiresAt
  | .bind identity _ _ _ => identity.expiresAt = expiry identity.jti
  | _ => True

/-- Every second reading lies in the past. -/
def Read (desk : Desk) : Prop :=
  ∀ caller identity sessionId now,
    desk.flights caller = some ⟨identity, sessionId, some now⟩ → now ≤ desk.clock

variable {expiry : String → Instant} {desk : Desk}

/-- What a call reports of its locked section. -/
def report (event : Event) : Except AuthFailure Unit → Event
  | .ok () => event
  | .error error => .refused error

theorem conclude_eq (event : Event) (answer : Answer) :
    conclude desk event answer =
      ({ desk with sessions := answer.2 }, [report event answer.1]) := by
  obtain ⟨outcome, sessions⟩ := answer
  cases outcome with
  | ok done => rfl
  | error error => rfl

theorem admits_report {event : Event} {outcome : Except AuthFailure Unit}
    (hit : admits jti (report event outcome) = true) :
    admits jti event = true ∧ outcome = .ok () := by
  cases outcome with
  | ok done => exact ⟨hit, rfl⟩
  | error error => cases hit

/-- A token id is admitted when it has no entry, and then it has one. -/
theorem admit_ok (single : policy.allowRegisteredTokenReuse = false)
    {identity : AuthenticatedIdentity} (accepted : (admitUnbound policy identity state).1 = .ok ()) :
    state.jtiSessions.find identity.jti = none ∧
      Remembers identity.jti identity.expiresAt (admitUnbound policy identity state).2 := by
  unfold admitUnbound at accepted ⊢
  rw [single, if_neg Bool.false_ne_true] at accepted ⊢
  cases found : state.jtiSessions.find identity.jti with
  | some replay =>
      rw [found] at accepted
      cases accepted
  | none =>
      rw [found] at accepted
      dsimp only at accepted ⊢
      split at accepted
      · cases accepted
      · rename_i room
        refine ⟨rfl, ⟨identity.jti, none, identity.expiresAt⟩, ?_, rfl⟩
        rw [if_neg room, Table.find_put, if_pos rfl]

/-- Only the locked section of a call without a session admits a token id. -/
theorem admitted_of_step {action : Action}
    (fired : 0 < (step policy desk action).2.countP (admits jti)) :
    ∃ caller identity now, action = .enter caller ∧
      desk.flights caller = some ⟨identity, none, some now⟩ ∧ identity.jti = jti ∧
      (admitUnbound policy identity (cleanup policy now desk.sessions)).1 = .ok () ∧
      (step policy desk action).1.sessions =
        (admitUnbound policy identity (cleanup policy now desk.sessions)).2 := by
  cases action with
  | verify caller request active now =>
      unfold step at fired
      dsimp only at fired
      split at fired
      · cases fired
      · split at fired
        · cases fired
        · cases fired
  | look caller now =>
      unfold step at fired
      dsimp only at fired
      split at fired
      · cases fired
      · split at fired
        · cases fired
        · cases fired
  | bind identity sessionId seenAt now =>
      unfold step at fired
      dsimp only at fired
      split at fired
      · cases fired
      · rw [conclude_eq, List.countP_singleton] at fired
        split at fired
        · rename_i hit
          exact absurd (admits_report hit).1 (by simp [admits])
        · cases fired
  | release sessionId now =>
      unfold step at fired
      dsimp only at fired
      split at fired
      · cases fired
      · cases fired
  | enter caller =>
      unfold step at fired ⊢
      dsimp only at fired ⊢
      cases flying : desk.flights caller with
      | none =>
          rw [flying] at fired
          cases fired
      | some flight =>
          obtain ⟨identity, sessionId, readAt⟩ := flight
          rw [flying] at fired
          cases readAt with
          | none => cases fired
          | some now =>
              dsimp only at fired ⊢
              rw [conclude_eq, List.countP_singleton] at fired
              split at fired
              · rename_i hit
                obtain ⟨named, accepted⟩ := admits_report hit
                cases sessionId with
                | some resumed => cases named
                | none =>
                    refine ⟨caller, identity, now, rfl, flying, beq_iff_eq.mp named, accepted, ?_⟩
                    rw [conclude_eq]
                    rfl
              · cases fired

/-! ## Steps -/

/-- The token id can no longer be admitted in time. -/
def Spent (expiry : String → Instant) (jti : String) (desk : Desk) : Prop :=
  expiry jti ≤ desk.clock ∨ Remembers jti (expiry jti) desk.sessions

theorem Spent.later {next : Desk} (spent : Spent expiry jti desk)
    (clock : desk.clock ≤ next.clock) (same : next.sessions = desk.sessions) :
    Spent expiry jti next := by
  rcases spent with passed | remembers
  · exact Or.inl (Int.le_trans passed clock)
  · exact Or.inr (same ▸ remembers)

/-- A section that keeps entries until their expiry, entered at a reading that is past. -/
theorem Spent.section {next : Desk} (spent : Spent expiry jti desk)
    (clock : desk.clock ≤ next.clock) (past : now ≤ next.clock)
    (keeps : Remembers jti (expiry jti) desk.sessions → now < expiry jti →
      Remembers jti (expiry jti) next.sessions) : Spent expiry jti next := by
  rcases spent with passed | remembers
  · exact Or.inl (Int.le_trans passed clock)
  · by_cases early : now < expiry jti
    · exact Or.inr (keeps remembers early)
    · exact Or.inl (Int.le_trans (Instant.not_lt.mp early) past)

theorem step_spent {action : Action} (timely : Timely expiry desk action) (read : Read desk)
    (spent : Spent expiry jti desk) : Spent expiry jti (step policy desk action).1 := by
  cases action with
  | verify caller request active now =>
      unfold step
      dsimp only
      split
      · exact spent
      · rename_i late
        split
        · exact spent.later (Instant.not_lt.mp late) rfl
        · exact spent.later (Instant.not_lt.mp late) rfl
  | look caller now =>
      unfold step
      dsimp only
      split
      · exact spent
      · rename_i late
        split
        · exact spent
        · exact spent.later (Instant.not_lt.mp late) rfl
  | enter caller =>
      unfold step
      dsimp only
      split
      · rename_i identity sessionId now flying
        rw [conclude_eq]
        exact spent.section (Int.le_refl _) (read caller identity sessionId now flying)
          authorizeLocked_remembers
      · exact spent
  | bind identity sessionId seenAt now =>
      unfold step
      dsimp only
      split
      · exact spent
      · rename_i late
        rw [not_or] at late
        rw [conclude_eq]
        refine spent.section (Instant.not_lt.mp late.1) (Int.le_refl _) fun remembers early => ?_
        refine bindSession_remembers remembers early ?_
        rintro rfl
        exact timely
  | release sessionId now =>
      unfold step
      dsimp only
      split
      · exact spent
      · rename_i late
        exact spent.section (Instant.not_lt.mp late) (Int.le_refl _) releaseSession_remembers

theorem step_read {action : Action} (read : Read desk) : Read (step policy desk action).1 := by
  cases action with
  | verify caller request active now =>
      unfold step
      dsimp only
      split
      · exact read
      · rename_i late
        split
        · exact fun other identity sessionId at_ flying =>
            Int.le_trans (read other identity sessionId at_ flying) (Instant.not_lt.mp late)
        · intro other identity sessionId at_ flying
          dsimp only at flying
          rw [Function.update_apply] at flying
          split at flying
          · cases flying
          · exact Int.le_trans (read other identity sessionId at_ flying) (Instant.not_lt.mp late)
  | look caller now =>
      unfold step
      dsimp only
      split
      · exact read
      · rename_i late
        split
        · exact read
        · intro other identity sessionId at_ flying
          dsimp only at flying
          rw [Function.update_apply] at flying
          split at flying
          · cases flying
            exact Int.le_refl _
          · exact Int.le_trans (read other identity sessionId at_ flying) (Instant.not_lt.mp late)
  | enter caller =>
      unfold step
      dsimp only
      split
      · rw [conclude_eq]
        intro other identity sessionId at_ flying
        dsimp only at flying
        rw [Function.update_apply] at flying
        split at flying
        · cases flying
        · exact read other identity sessionId at_ flying
      · exact read
  | bind identity sessionId seenAt now =>
      unfold step
      dsimp only
      split
      · exact read
      · rename_i late
        rw [not_or] at late
        rw [conclude_eq]
        exact fun other identity sessionId at_ flying =>
          Int.le_trans (read other identity sessionId at_ flying) (Instant.not_lt.mp late.1)
  | release sessionId now =>
      unfold step
      dsimp only
      split
      · exact read
      · rename_i late
        exact fun other identity sessionId at_ flying =>
          Int.le_trans (read other identity sessionId at_ flying) (Instant.not_lt.mp late)

/-! ## Runs -/

theorem admission_gate (single : policy.allowRegisteredTokenReuse = false)
    (expiry : String → Instant) (jti : String) :
    (calls policy).Gate (fun desk action => Timely expiry desk action ∧ Read desk) (admits jti)
      (Spent expiry jti) where
  stays desk action allowed spent := step_spent allowed.1 allowed.2 spent
  silent desk action allowed spent := by
    refine Nat.eq_zero_of_not_pos fun fired => ?_
    obtain ⟨caller, identity, now, rfl, flying, rfl, accepted, _⟩ := admitted_of_step fired
    obtain ⟨shared, early⟩ := allowed.1 identity now flying
    have past := allowed.2 caller identity none now flying
    rcases spent with passed | remembers
    · rw [← shared] at passed
      exact Instant.not_lt.mpr passed early
    · rw [← shared] at remembers
      obtain ⟨replay, found, _⟩ :=
        @cleanup_remembers policy _ _ _ now remembers (Int.lt_of_le_of_lt past early)
      rw [(admit_ok single accepted).1] at found
      cases found
  once desk action := by
    change (step policy desk action).2.countP (admits jti) ≤ 1
    refine le_trans List.countP_le_length ?_
    unfold step
    split
    · split
      · exact Nat.zero_le 1
      · split
        · exact le_rfl
        · exact Nat.zero_le 1
    · split
      · exact Nat.zero_le 1
      · split
        · exact Nat.zero_le 1
        · exact Nat.zero_le 1
    · split
      · rw [conclude_eq]
        exact le_rfl
      · exact Nat.zero_le 1
    · split
      · exact Nat.zero_le 1
      · rw [conclude_eq]
        exact le_rfl
    · split
      · exact Nat.zero_le 1
      · exact le_rfl
  closes desk action allowed fired := by
    obtain ⟨caller, identity, now, rfl, flying, rfl, accepted, sessions⟩ := admitted_of_step fired
    obtain ⟨shared, _⟩ := allowed.1 identity now flying
    right
    change Remembers _ _ (step policy desk (.enter caller)).1.sessions
    rw [sessions, ← shared]
    exact (admit_ok single accepted).2

/-- Timely calls let in every token id at most once over the whole life of the policy. -/
theorem timely_token_admitted_once (policy : AuthPolicy)
    (single : policy.allowRegisteredTokenReuse = false) (expiry : String → Instant)
    (clock : Instant) (actions : List Action)
    (timely : (calls policy).Follows (Timely expiry) (Desk.start clock) actions) (jti : String) :
    ((calls policy).log (Desk.start clock) actions).countP (admits jti) ≤ 1 := by
  have initial : Read (Desk.start clock) := by
    intro caller identity sessionId now flying
    cases flying
  exact (admission_gate single expiry jti).log_le_one
    (@Machine.Follows.strengthen _ _ _ (calls policy) (Timely expiry) Read
      (fun _ _ _ read => step_read read) _ initial _ timely)

/-! ## Examples -/

/-- Two calls that verify before the expiry at second 100, the second of which reads the
clock again at second 100, when the clean-up forgets the first one. -/
def straddling : List Action :=
  [.verify 0 (sampleRequest none) false (seconds 99), .verify 1 (sampleRequest none) false (seconds 99),
   .look 0 (seconds 99), .enter 0, .look 1 (seconds 100), .enter 1]

theorem verified_straddling :
    ((calls samplePolicy).log (verified (verified (Desk.start (seconds 0)) 0) 1)
      [.look 0 (seconds 99), .enter 0, .look 1 (seconds 100), .enter 1]).countP
        (admits "token-1") = 2 := by
  decide

theorem straddling_admitted_twice :
    ¬ ∀ (policy : AuthPolicy) (clock : Instant) (actions : List Action) (jti : String),
      policy.allowRegisteredTokenReuse = false →
      ((calls policy).log (Desk.start clock) actions).countP (admits jti) ≤ 1 := by
  intro once
  have twice : ((calls samplePolicy).log (Desk.start (seconds 0)) straddling).countP
      (admits "token-1") = 2 := by
    have early : ¬ seconds 99 < (Desk.start (seconds 0)).clock := by decide
    have later : ¬ seconds 99 < (verified (Desk.start (seconds 0)) 0).clock := by decide
    rw [straddling, log_verify_sample 0 early, log_verify_sample 1 later]
    exact verified_straddling
  have bound := once samplePolicy (seconds 0) straddling "token-1" rfl
  omega

/-- Two calls that present the token before its expiry and read the clock at second 99. -/
def replayed : List Action :=
  [.verify 0 (sampleRequest none) false (seconds 99), .verify 1 (sampleRequest none) false (seconds 99),
   .look 0 (seconds 99), .enter 0, .look 1 (seconds 99), .enter 1]

/-- A call of the sample token that read the clock before the expiry. -/
theorem timely_flight {desk : Desk} {caller : Nat} (early : desk.clock < seconds 100)
    (flying : desk.flights caller = some ⟨sampleIdentity, none, some (seconds 99)⟩) :
    Timely (fun _ => seconds 100) desk (.enter caller) := by
  intro identity now present
  rw [flying, Option.some.injEq, Flight.mk.injEq] at present
  obtain ⟨rfl, _, _⟩ := present
  exact ⟨rfl, early⟩

theorem replayed_timely :
    (calls samplePolicy).Follows (Timely fun _ => seconds 100) (Desk.start (seconds 0))
      replayed := by
  have early : ¬ seconds 99 < (Desk.start (seconds 0)).clock := by decide
  have later : ¬ seconds 99 < (verified (Desk.start (seconds 0)) 0).clock := by decide
  refine ⟨trivial, ?_⟩
  rw [Machine.next, step_verify_sample 0 early]
  refine ⟨trivial, ?_⟩
  rw [Machine.next, step_verify_sample 1 later]
  refine ⟨trivial, ?_, trivial, ?_, trivial⟩
  · exact timely_flight (by decide) rfl
  · exact timely_flight (by decide) rfl

theorem verified_replayed :
    (calls samplePolicy).log (verified (verified (Desk.start (seconds 0)) 0) 1)
      [.look 0 (seconds 99), .enter 0, .look 1 (seconds 99), .enter 1] =
        [.authorized sampleIdentity none,
          .refused (.mcpAuthError "bearer token replay detected" 403)] :=
  rfl

/-- The second call is refused. -/
theorem presented_admitted_once :
    ((calls samplePolicy).log (Desk.start (seconds 0)) replayed).countP (admits "token-1") ≤ 1 ∧
      (calls samplePolicy).log (Desk.start (seconds 0)) replayed =
        [.authorized sampleIdentity none,
          .refused (.mcpAuthError "bearer token replay detected" 403)] := by
  have early : ¬ seconds 99 < (Desk.start (seconds 0)).clock := by decide
  have later : ¬ seconds 99 < (verified (Desk.start (seconds 0)) 0).clock := by decide
  refine ⟨timely_token_admitted_once samplePolicy rfl (fun _ => seconds 100) (seconds 0)
    replayed replayed_timely "token-1", ?_⟩
  rw [replayed, log_verify_sample 0 early, log_verify_sample 1 later]
  exact verified_replayed

end CrossPatch.Mcp.Replay
