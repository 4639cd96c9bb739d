import CrossPatch.Runner.Supervisor

/-!
# The black-box verifier

`PostgresHttpBlackBoxVerifier` starts an exercise of the candidate in `prepare` and takes
its result in `verify`, where it counts the rows in the database itself.
-/

namespace CrossPatch.Runner.Supervisor

open CrossPatch.Domain.Failure CrossPatch.Domain.Hashing CrossPatch.Domain.Text
open CrossPatch.Library CrossPatch.Library.Attempt CrossPatch.Library.JsonText
open CrossPatch.Library.Procedure CrossPatch.Runner.Catalog CrossPatch.Runner.Results

/-- The fields of the verifier, and the exercise tasks of the event loop that still run.
Tasks are numbered as they are started. -/
structure VerifierState where
  exerciseTask : Option Nat
  exerciseProfile : Option OracleProfile
  running : List Nat
  started : Nat
  numbered : ∀ task ∈ running, task < started

def VerifierState.idle : VerifierState where
  exerciseTask := none
  exerciseProfile := none
  running := []
  started := 0
  numbered _ member := absurd member List.not_mem_nil

/-- The result of an exercise. -/
structure ReproductionResult where
  lockStateReached : Bool
  counts : List (String × Int)
  responseStatuses : List Int

/-- What the two calls of the verifier meet in one run: the secrets drawn, whether the rows of
the event could be cleared, the tasks that end while the executor is awaited, how awaiting the
exercise ends (a result, or the name of the class of what was raised), and the rows counted. -/
structure Exercise where
  eventToken : String
  signingSecret : String
  cleared : Attempt Unit
  ended : Nat → Bool
  outcome : Except String ReproductionResult
  observed : Attempt (Nat × Nat × Nat)

/-! ## The state -/

/-- `asyncio.create_task`. -/
def VerifierState.start (state : VerifierState) (profile : OracleProfile) : VerifierState where
  exerciseTask := some state.started
  exerciseProfile := some profile
  running := state.started :: state.running
  started := state.started + 1
  numbered := List.forall_mem_cons.mpr ⟨Nat.lt_succ_self _,
    fun task member => Nat.lt_succ_of_lt (state.numbered task member)⟩

/-- Some tasks end. -/
def VerifierState.endTasks (state : VerifierState) (ended : Nat → Bool) : VerifierState where
  exerciseTask := state.exerciseTask
  exerciseProfile := state.exerciseProfile
  running := state.running.filter fun task => !ended task
  started := state.started
  numbered := fun task member => state.numbered task (List.mem_of_mem_filter member)

def VerifierState.release (state : VerifierState) : VerifierState where
  exerciseTask := none
  exerciseProfile := none
  running := state.running
  started := state.started
  numbered := state.numbered

/-! ## The two calls -/

section Calls

variable (tables : UnicodeTables) (provider : String) (exercise : Exercise)

def reuseError : Raised :=
  ⟨.supervisorPolicyViolation, "HTTP verifier cannot be reused concurrently"⟩

def eventId : String := "cpv-" ++ exercise.eventToken

/-- The profiles that have an exercise. -/
def exercisedProfile (plan : ExecutionPlan) : Attempt OracleProfile :=
  match plan.oracleProfile with
  | some .duplicateRace => .ok .duplicateRace
  | some .payloadEquivalence =>
      if plan.expectedStatuses = none then
        .error ⟨.supervisorPolicyViolation,
          "payload-equivalence oracle omitted expected HTTP statuses"⟩
      else .ok .payloadEquivalence
  | none => .error ⟨.supervisorPolicyViolation, "candidate plan has no trusted HTTP oracle"⟩

/-- A challenge whose fields are checked when it is built. -/
def challengeOf : Attempt SupervisorChallenge := do
  let environment := [("CROSSPATCH_VERIFICATION_SCOPE_EVENT_ID", eventId exercise),
    ("CROSSPATCH_VERIFICATION_SCOPE_PROVIDER", provider),
    ("CROSSPATCH_VERIFICATION_SIGNING_SECRET", exercise.signingSecret)]
  require ((eventId exercise).length ≤ 128) ⟨.validationError, "challenge_id"⟩
  require (∀ item ∈ environment, item.2 ≠ "" ∧ Char.ofNat 0 ∉ item.2.toList)
    ⟨.validationError, "verification environment values must be non-empty"⟩
  .ok ⟨eventId exercise, environment⟩

def prepare (plan : ExecutionPlan) : Procedure Raised VerifierState SupervisorChallenge := do
  ofExcept (require (plan.expectedCounts ≠ none)
    ⟨.supervisorPolicyViolation, "black-box plan omitted expected counts"⟩)
  let state ← get
  ofExcept (require (state.exerciseTask = none) reuseError)
  let profile ← ofExcept (exercisedProfile plan)
  ofExcept exercise.cleared
  modify (·.start profile)
  ofExcept (challengeOf provider exercise)

/-- `result_counts`; a missing name is a `KeyError`. -/
def reportedCounts (result : ReproductionResult) : Attempt (Int × Int × Int) := do
  let count (name : String) : Attempt Int :=
    match result.counts.lookup name with
    | some count => .ok count
    | none => .error ⟨.keyError, name⟩
  let receipts ← count "receipts"
  let jobs ← count "jobs"
  let deliveries ← count "deliveries"
  .ok (receipts, jobs, deliveries)

def resultCounts : Except String ReproductionResult → Attempt (Option (Int × Int × Int))
  | .error _ => .ok none
  | .ok result => some <$> reportedCounts result

def profileInvariant (plan : ExecutionPlan) (result : Option ReproductionResult) : Bool :=
  match plan.oracleProfile, result with
  | some .duplicateRace, some result =>
      result.lockStateReached && result.responseStatuses.all fun status => status == 200 || status == 202
  | some .payloadEquivalence, some result =>
      result.lockStateReached && plan.expectedStatuses == some result.responseStatuses
  | _, _ => false

/-- The counts come from the database, so that they are never negative. -/
def commonInvariant (plan : ExecutionPlan) (prepared : Option OracleProfile)
    (outcome : Except String ReproductionResult) (reported : Option (Int × Int × Int))
    (observed : Nat × Nat × Nat) : Bool :=
  let counted : Int × Int × Int := (observed.1, observed.2.1, observed.2.2)
  (match outcome with
    | .ok _ => true
    | .error _ => false) &&
    plan.expectedCounts == some counted && reported == plan.expectedCounts &&
    prepared == plan.oracleProfile

/-- The observation that is handed on, with its digest. -/
def trustedObservationOf (observed : Nat × Nat × Nat) (statuses : Option (List Int)) :
    Attempt (Option (TrustedObservation × String)) :=
  match statuses with
  | none => .ok none
  | some statuses =>
      if statuses ≠ [] ∧ ∀ status ∈ statuses, 100 ≤ status ∧ status ≤ 599 then do
        require (statuses.length ≤ 32) ⟨.validationError, "response_statuses"⟩
        let observation : TrustedObservation :=
          ⟨⟨observed.1, observed.2.1, observed.2.2⟩, statuses.map Int.toNat⟩
        let digest ← trustedObservationDigest tables observation
        .ok (some (observation, digest))
      else .ok none

def optional {α : Type} (json : α → Json) : Option α → Json
  | none => .null
  | some value => json value

def profileText (profile : Option OracleProfile) : Json := optional (fun known => .str known.value) profile

/-- The verification of an exercise, given how it ended and the rows counted. -/
def verificationOf (plan : ExecutionPlan) (challengeId : String) (prepared : Option OracleProfile)
    (outcome : Except String ReproductionResult) (observed : Nat × Nat × Nat) :
    Attempt BlackBoxVerification := do
  let result := outcome.toOption
  let reported ← resultCounts outcome
  let statuses := result.map ReproductionResult.responseStatuses
  let verified := commonInvariant plan prepared outcome reported observed &&
    profileInvariant plan result
  let trusted ← trustedObservationOf tables observed statuses
  let observationSha256 ← sha256Hex tables (.obj
    [("challenge_id", .str challengeId), ("expected", countsJson plan.expectedCounts),
     ("expected_http_statuses", optional integers plan.expectedStatuses),
     ("failure", match outcome with
       | .error failure => .str failure
       | .ok _ => .null),
     ("http_statuses", optional integers statuses),
     ("lock_state_reached", .bool ((result.map ReproductionResult.lockStateReached).getD false)),
     ("oracle_profile", profileText plan.oracleProfile),
     ("observed", integers [observed.1, observed.2.1, observed.2.2]),
     ("prepared_oracle_profile", profileText prepared),
     ("reported_counts", countsJson reported),
     ("source", .str "trusted-supervisor-http-postgres")])
  .ok {
    verified := verified
    code := if verified then "TRUSTED_HTTP_POSTGRES_INVARIANT_MATCHED"
      else "TRUSTED_HTTP_POSTGRES_INVARIANT_MISMATCH"
    observationSha256 := observationSha256
    trustedObservation := trusted.map Prod.fst
    trustedObservationSha256 := trusted.map Prod.snd }

/-- How the exercise ended, as `verify` sees it. -/
def awaited (task : Option Nat) : Except String ReproductionResult :=
  match task with
  | none => .error "exercise-not-started"
  | some _ => exercise.outcome

/-- Waiting for the exercise ends it: it has returned or raised, or it is cancelled when the
time is over or the waiting itself is cancelled. -/
def verify (plan : ExecutionPlan) (challenge : SupervisorChallenge) :
    Procedure Raised VerifierState BlackBoxVerification := do
  let state ← get
  modify VerifierState.release
  modify (·.endTasks fun task => state.exerciseTask == some task)
  let observed ← ofExcept exercise.observed
  ofExcept (verificationOf tables plan challenge.challengeId state.exerciseProfile
    (awaited exercise state.exerciseTask) observed)

def postgresHttp : BlackBoxVerifier VerifierState where
  prepare := prepare provider exercise
  meanwhile := (·.endTasks exercise.ended)
  verify plan challenge _ := verify tables exercise plan challenge

end Calls

/-! ## A verified exercise -/

section Verified

variable {tables : UnicodeTables} {provider : String} {exercise : Exercise} {plan : ExecutionPlan}

/-- What the profile of the plan requires of the result. -/
structure Required (plan : ExecutionPlan) (result : ReproductionResult) : Prop where
  locked : result.lockStateReached = true
  statuses : (plan.oracleProfile = some .duplicateRace ∧
      ∀ status ∈ result.responseStatuses, status = 200 ∨ status = 202) ∨
    (plan.oracleProfile = some .payloadEquivalence ∧
      plan.expectedStatuses = some result.responseStatuses)

/-- The exercise has returned a result that the database and the plan agree with. -/
structure Matched (plan : ExecutionPlan) (prepared : Option OracleProfile)
    (outcome : Except String ReproductionResult) (observed : Nat × Nat × Nat)
    (result : ReproductionResult) : Prop where
  returned : outcome = .ok result
  expected : plan.expectedCounts = some (↑observed.1, ↑observed.2.1, ↑observed.2.2)
  reported : reportedCounts result = .ok (↑observed.1, ↑observed.2.1, ↑observed.2.2)
  profile : prepared = plan.oracleProfile
  required : Required plan result

theorem profileInvariant_iff {result : ReproductionResult} :
    profileInvariant plan (some result) = true ↔ Required plan result := by
  unfold profileInvariant
  constructor
  · intro invariant
    cases profile : plan.oracleProfile with
    | none =>
        rw [profile] at invariant
        cases invariant
    | some known =>
        rw [profile] at invariant
        cases known with
        | duplicateRace =>
            simp only [Bool.and_eq_true, List.all_eq_true, Bool.or_eq_true, beq_iff_eq] at invariant
            exact ⟨invariant.1, .inl ⟨profile, invariant.2⟩⟩
        | payloadEquivalence =>
            simp only [Bool.and_eq_true, beq_iff_eq] at invariant
            exact ⟨invariant.1, .inr ⟨profile, invariant.2⟩⟩
  · rintro ⟨locked, ⟨profile, statuses⟩ | ⟨profile, statuses⟩⟩
    · rw [profile]
      simp only [Bool.and_eq_true, List.all_eq_true, Bool.or_eq_true, beq_iff_eq]
      exact ⟨locked, statuses⟩
    · rw [profile]
      simp only [Bool.and_eq_true, beq_iff_eq]
      exact ⟨locked, statuses⟩

theorem verificationOf_verified {challengeId : String} {prepared : Option OracleProfile}
    {outcome : Except String ReproductionResult} {observed : Nat × Nat × Nat}
    {verification : BlackBoxVerification}
    (built : verificationOf tables plan challengeId prepared outcome observed = .ok verification) :
    verification.verified = true ↔ ∃ result, Matched plan prepared outcome observed result := by
  unfold verificationOf at built
  dsimp only at built
  simp only [bind_eq_ok] at built
  obtain ⟨reported, counted, _, _, _, _, built⟩ := built
  cases built
  cases outcome with
  | error failure =>
      constructor
      · intro verified
        cases verified
      · rintro ⟨_, matched⟩
        cases matched.returned
  | ok result =>
      obtain ⟨counts, read, rfl⟩ := map_eq_ok.mp counted
      dsimp only [Except.toOption]
      rw [Bool.and_eq_true, profileInvariant_iff]
      simp only [commonInvariant, Bool.true_and, Bool.and_eq_true, beq_iff_eq]
      constructor
      · rintro ⟨⟨⟨expected, same⟩, profile⟩, required⟩
        rw [expected, Option.some.injEq] at same
        exact ⟨result, rfl, expected, same ▸ read, profile, required⟩
      · rintro ⟨result', matched⟩
        cases matched.returned
        have same := matched.reported
        rw [read, Except.ok.injEq] at same
        refine ⟨⟨⟨matched.expected, ?_⟩, matched.profile⟩, matched.required⟩
        rw [same, matched.expected]

end Verified

end CrossPatch.Runner.Supervisor
