import CrossPatch.Runner.Verifier

/-!
# Supervised runs

What a passed receipt rests on, and what a run leaves behind in its verifier.
-/

namespace CrossPatch.Runner.Supervisor

open CrossPatch.Domain.Failure CrossPatch.Domain.Hashing CrossPatch.Domain.Text
open CrossPatch.Library CrossPatch.Library.Attempt CrossPatch.Library.Calendar
open CrossPatch.Library.JsonText CrossPatch.Library.Procedure
open CrossPatch.Runner.Catalog CrossPatch.Runner.Results

variable {tables : UnicodeTables} {executor : CandidateExecutor} {provider : String}
  {exercise : Exercise} {plan : ExecutionPlan} {site : Surroundings} {state : VerifierState}

/-! ## The calls of the verifier -/

theorem prepare_ok {challenge : SupervisorChallenge} {middle : VerifierState}
    (prepared : (prepare provider exercise plan).run state = (.ok challenge, middle)) :
    ∃ profile, plan.oracleProfile = some profile ∧ state.exerciseTask = none ∧
      middle = state.start profile := by
  simp only [prepare, run_bind_ok, run_ofExcept_ok, run_modify_ok, run_get_ok, require_eq_ok]
    at prepared
  obtain ⟨_, _, ⟨_, rfl⟩, _, _, ⟨rfl, rfl⟩, _, _, ⟨free, rfl⟩, profile, _, ⟨known, rfl⟩, _, _,
    ⟨_, rfl⟩, _, _, rfl, _, rfl⟩ := prepared
  refine ⟨profile, ?_, free, rfl⟩
  unfold exercisedProfile at known
  split at known
  · rename_i same
    cases known
    exact same
  · rename_i same
    split at known
    · cases known
    · cases known
      exact same
  · cases known

/-- Whatever becomes of the verification, the verifier has let go of its exercise. -/
theorem verify_meets (challenge : SupervisorChallenge) (state : VerifierState) :
    (verify tables exercise plan challenge).Meets state
      (fun _ next => next = state.release.endTasks fun task => state.exerciseTask == some task)
      fun _ next => next = state.release.endTasks fun task => state.exerciseTask == some task := by
  simp only [verify, meets_bind, meets_get, meets_modify, meets_ofExcept]
  cases exercise.observed with
  | error error => trivial
  | ok observed =>
      dsimp only
      split
      · trivial
      · trivial

theorem verify_verified {challenge : SupervisorChallenge} {last : VerifierState}
    {verification : BlackBoxVerification} {task : Nat} (held : state.exerciseTask = some task)
    (done : (verify tables exercise plan challenge).run state = (.ok verification, last)) :
    ∃ observed, exercise.observed = .ok observed ∧ (verification.verified = true ↔
      ∃ result, Matched plan state.exerciseProfile exercise.outcome observed result) := by
  simp only [verify, run_bind_ok, run_ofExcept_ok, run_modify_ok, run_get_ok] at done
  obtain ⟨_, _, ⟨rfl, rfl⟩, _, _, rfl, _, _, rfl, observed, _, ⟨counted, rfl⟩, built, _⟩ := done
  rw [held, awaited] at built
  exact ⟨observed, counted, verificationOf_verified built⟩

/-! ## Receipts that pass -/

/-- The facts that the supervisor, the snapshots and the database agree on. -/
structure Trusted (executor : CandidateExecutor) (plan : ExecutionPlan) (site : Surroundings)
    (exercise : Exercise) (attempt : CandidateAttempt) (prepared : Option OracleProfile) :
    Prop where
  sound : Sound executor attempt
  contextKept : site.contextAfter = site.contextBefore
  contextVerified : site.contextStillVerified = .ok ()
  workspaceKept : site.workspaceAfter = site.workspaceBefore
  exercised : ∃ observed result, exercise.observed = .ok observed ∧
    Matched plan prepared exercise.outcome observed result

/-- The attempt with other output of the candidate. -/
def CandidateAttempt.withOutput (attempt : CandidateAttempt) (stdoutSha256 stderrSha256 : String)
    (stdoutBytes stderrBytes : Int) : CandidateAttempt :=
  { attempt with
    stdoutSha256 := stdoutSha256
    stderrSha256 := stderrSha256
    stdoutBytes := stdoutBytes
    stderrBytes := stderrBytes }

theorem passed_of_run {receipt : ProcessReceipt} {last : VerifierState}
    (done : (run tables executor plan (postgresHttp tables provider exercise) site).run state =
      (.ok receipt, last)) :
    ∃ attempt challenge middle, site.attempt = .ok attempt ∧
      (prepare provider exercise plan).run state = (.ok challenge, middle) ∧
      (receipt.passed = true ↔
        Trusted executor plan site exercise attempt middle.exerciseProfile) := by
  obtain ⟨challenge, middle, attempt, verification, prepared, attempted, verified, passes⟩ :=
    run_passed done
  refine ⟨attempt, challenge, middle, attempted, prepared, ?_⟩
  obtain ⟨profile, _, _, rfl⟩ := prepare_ok prepared
  obtain ⟨observed, counted, matched⟩ := verify_verified rfl verified
  rw [passes, matched]
  constructor
  · rintro ⟨sound, ⟨kept, still⟩, workspace, result, agrees⟩
    exact ⟨sound, kept, still, workspace, observed, result, counted, agrees⟩
  · rintro ⟨sound, kept, still, workspace, observed', result, counted', agrees⟩
    rw [counted, Except.ok.injEq] at counted'
    exact ⟨sound, ⟨kept, still⟩, workspace, result, counted' ▸ agrees⟩

/-- A receipt passes exactly on trusted facts, and not on what the candidate writes. -/
theorem passed_iff_trusted {receipt : ProcessReceipt} {last : VerifierState}
    (done : (run tables executor plan (postgresHttp tables provider exercise) site).run state =
      (.ok receipt, last)) :
    ∃ attempt challenge middle, site.attempt = .ok attempt ∧
      (prepare provider exercise plan).run state = (.ok challenge, middle) ∧
      (receipt.passed = true ↔
        Trusted executor plan site exercise attempt middle.exerciseProfile) ∧
      ∀ (stdoutSha256 stderrSha256 : String) (stdoutBytes stderrBytes : Int)
        (receipt' : ProcessReceipt) (last' : VerifierState),
        (run tables executor plan (postgresHttp tables provider exercise)
          { site with attempt := .ok (attempt.withOutput stdoutSha256 stderrSha256 stdoutBytes
            stderrBytes) }).run state = (.ok receipt', last') →
        receipt'.passed = receipt.passed := by
  obtain ⟨attempt, challenge, middle, attempted, prepared, passes⟩ := passed_of_run done
  refine ⟨attempt, challenge, middle, attempted, prepared, passes, ?_⟩
  intro stdoutSha256 stderrSha256 stdoutBytes stderrBytes receipt' last' done'
  obtain ⟨attempt', challenge', middle', attempted', prepared', passes'⟩ := passed_of_run done'
  cases attempted'
  rw [prepared, Prod.mk.injEq] at prepared'
  rw [← prepared'.2] at passes'
  have same : Trusted executor plan
      { site with attempt := .ok (attempt.withOutput stdoutSha256 stderrSha256 stdoutBytes
        stderrBytes) } exercise (attempt.withOutput stdoutSha256 stderrSha256 stdoutBytes
        stderrBytes) middle.exerciseProfile ↔
      Trusted executor plan site exercise attempt middle.exerciseProfile := by
    constructor
    · rintro ⟨sound, kept, still, workspace, exercised⟩
      exact ⟨⟨sound.identity, sound.isolated, sound.readOnly, sound.capabilityAbsent,
        sound.externalAuthority, sound.teardown, sound.booted, sound.replaced, sound.distinct,
        sound.finished, sound.succeeded⟩, kept, still, workspace, exercised⟩
    · rintro ⟨sound, kept, still, workspace, exercised⟩
      exact ⟨⟨sound.identity, sound.isolated, sound.readOnly, sound.capabilityAbsent,
        sound.externalAuthority, sound.teardown, sound.booted, sound.replaced, sound.distinct,
        sound.finished, sound.succeeded⟩, kept, still, workspace, exercised⟩
  rw [Bool.eq_iff_iff, passes', passes, same]

def sampleExecutor : CandidateExecutor := ⟨1001, true, true, true, true⟩

def sampleAttempt : CandidateAttempt where
  planId := "candidate-race"
  candidateUid := 1001
  runtimeId := "runtime-00000001"
  pidNamespaceIsolated := true
  workspaceReadOnly := true
  contextCapabilityAbsent := true
  externalReceiptAuthority := true
  exitCode := some 0
  timedOut := false
  startedAt := Instant.epoch
  finishedAt := ⟨1000000, by decide, by decide⟩
  stdoutSha256 := zeroSha256
  stderrSha256 := zeroSha256
  stdoutBytes := 0
  stderrBytes := 0
  teardownVerified := true
  executorBootSha256 := String.ofList (List.replicate 64 'a')
  replacementBootSha256 := String.ofList (List.replicate 64 'b')

def sampleSite : Surroundings where
  contextBefore := .ok ⟨1, 2, 1000, 256, 10, zeroSha256⟩
  contextVerified := .ok ()
  workspaceBefore := .ok ⟨1, 10, zeroSha256⟩
  attempt := .ok sampleAttempt
  contextAfter := .ok ⟨1, 2, 1000, 256, 10, zeroSha256⟩
  contextStillVerified := .ok ()
  workspaceAfter := .ok ⟨1, 10, zeroSha256⟩

def samplePlan : ExecutionPlan where
  planId := "candidate-race"
  argv := ["candidate-service"]
  workingDirectory := "/workspace"
  timeoutSeconds := 60
  expectedCounts := some (1, 1, 1)
  expectedStatuses := none
  oracleProfile := some .duplicateRace

def sampleExercise : Exercise where
  eventToken := "00"
  signingSecret := "secret"
  cleared := .ok ()
  ended _ := false
  outcome := .ok ⟨true, [("receipts", 1), ("jobs", 1), ("deliveries", 1)], [202, 200]⟩
  observed := .ok (1, 1, 1)

set_option maxRecDepth 20000 in
/-- A run whose receipt passes. -/
theorem passed_iff_trusted_sample : ∃ receipt last,
    (run .asciiOnly sampleExecutor samplePlan (postgresHttp .asciiOnly "acme-pay" sampleExercise)
      sampleSite).run .idle = (.ok receipt, last) ∧ receipt.passed = true := by
  have returns : ((run .asciiOnly sampleExecutor samplePlan
      (postgresHttp .asciiOnly "acme-pay" sampleExercise) sampleSite).run .idle).1.isOk = true := by
    decide
  cases done : (run .asciiOnly sampleExecutor samplePlan
      (postgresHttp .asciiOnly "acme-pay" sampleExercise) sampleSite).run .idle with
  | mk outcome last =>
      rw [done] at returns
      cases outcome with
      | error error => cases returns
      | ok receipt =>
          refine ⟨receipt, last, rfl, ?_⟩
          obtain ⟨attempt, challenge, middle, attempted, prepared, passes, _⟩ :=
            passed_iff_trusted done
          cases attempted
          obtain ⟨profile, known, _, rfl⟩ := prepare_ok prepared
          cases known
          refine passes.mpr ⟨?_, rfl, rfl, rfl, (1, 1, 1), _, rfl, rfl, rfl, rfl, rfl, rfl, .inl ⟨rfl, ?_⟩⟩
          · constructor <;> decide
          · decide

/-! ## What a run leaves behind -/

/-- The run gets as far as a prepared exercise. -/
structure Prepares (provider : String) (exercise : Exercise) (plan : ExecutionPlan)
    (site : Surroundings) (state : VerifierState) : Prop where
  contextRead : ∃ before, site.contextBefore = .ok before
  contextVerified : site.contextVerified = .ok ()
  workspaceRead : ∃ before, site.workspaceBefore = .ok before
  prepared : ∃ challenge middle, (prepare provider exercise plan).run state = (.ok challenge, middle)

/-- The executor returns, and the checks after it raise only what is caught there. -/
structure Returns (site : Surroundings) : Prop where
  attempted : ∃ attempt, site.attempt = .ok attempt
  contextCaught : ∀ error, site.contextAfter = .error error ∨
      ((∃ after, site.contextAfter = .ok after) ∧ site.contextStillVerified = .error error) →
    error.isA .osError = true ∨ error.isA .supervisorPolicyViolation = true ∨
      error.isA .candidateContextViolation = true
  workspaceCaught : ∀ error, site.workspaceAfter = .error error →
    error.isA .osError = true ∨ error.isA .supervisorPolicyViolation = true

/-- The verifier holds no exercise, no exercise of the run is running, and the verifier can be
used again. -/
structure LeftClean (provider : String) (before after : VerifierState) : Prop where
  task : after.exerciseTask = none
  profile : after.exerciseProfile = none
  stopped : ∀ task ∈ after.running, task < before.started
  reusable : ∀ exercise plan, exercise.cleared ≠ .error reuseError →
    ((prepare provider exercise plan).run after).1 ≠ .error reuseError

theorem contextChange_returns {before : ContextSnapshot} {after : Attempt ContextSnapshot}
    {verified : Attempt Unit} : (∃ changed, contextChange before after verified = .ok changed) ↔
      ∀ error, after = .error error ∨ ((∃ snapshot, after = .ok snapshot) ∧
          verified = .error error) →
        error.isA .osError = true ∨ error.isA .supervisorPolicyViolation = true ∨
          error.isA .candidateContextViolation = true := by
  have failed : ∀ error : Raised, (∃ changed, (if error.isA .osError ||
      error.isA .supervisorPolicyViolation || error.isA .candidateContextViolation then
        (.ok true : Attempt Bool) else .error error) = .ok changed) ↔
      (error.isA .osError = true ∨ error.isA .supervisorPolicyViolation = true ∨
        error.isA .candidateContextViolation = true) := by
    intro error
    rw [← or_assoc, ← Bool.or_eq_true, ← Bool.or_eq_true]
    split
    · rename_i caught
      simp [caught]
    · rename_i lost
      simp [lost]
  unfold contextChange
  dsimp only
  cases after with
  | error error =>
      rw [failed]
      simp
  | ok after =>
      cases verified with
      | error error =>
          rw [failed]
          simp
      | ok value => simp

theorem workspaceChange_returns {before : WorkspaceSnapshot} {after : Attempt WorkspaceSnapshot} :
    (∃ changed, workspaceChange before after = .ok changed) ↔
      ∀ error, after = .error error →
        error.isA .osError = true ∨ error.isA .supervisorPolicyViolation = true := by
  unfold workspaceChange
  cases after with
  | error error =>
      dsimp only
      split
      · rename_i caught
        simpa using caught
      · rename_i lost
        simpa using lost
  | ok after => simp

theorem challengeOf_error {error : Raised} (failed : challengeOf provider exercise = .error error) :
    error ≠ reuseError := by
  unfold challengeOf at failed
  dsimp only at failed
  by_cases short : (eventId exercise).length ≤ 128
  · rw [require_true short, ok_bind] at failed
    by_cases filled : ∀ item ∈ [("CROSSPATCH_VERIFICATION_SCOPE_EVENT_ID", eventId exercise),
        ("CROSSPATCH_VERIFICATION_SCOPE_PROVIDER", provider),
        ("CROSSPATCH_VERIFICATION_SIGNING_SECRET", exercise.signingSecret)],
        item.2 ≠ "" ∧ Char.ofNat 0 ∉ item.2.toList
    · rw [require_true filled, ok_bind] at failed
      cases failed
    · rw [require_false filled, error_bind] at failed
      cases failed
      decide
  · rw [require_false short, error_bind] at failed
    cases failed
    decide

theorem exercisedProfile_error {error : Raised} (failed : exercisedProfile plan = .error error) :
    error ≠ reuseError := by
  unfold exercisedProfile at failed
  split at failed
  · cases failed
  · split at failed
    · cases failed
      decide
    · cases failed
  · cases failed
    decide

/-- A verifier without an exercise is not refused for reuse. -/
theorem prepare_reusable {exercise : Exercise} (free : state.exerciseTask = none)
    (other : exercise.cleared ≠ .error reuseError) :
    ((prepare provider exercise plan).run state).1 ≠ .error reuseError := by
  have meets : (prepare provider exercise plan).Meets state (fun _ _ => True)
      fun error _ => error ≠ reuseError := by
    simp only [prepare, meets_bind, meets_get, meets_modify, meets_ofExcept]
    by_cases counted : plan.expectedCounts ≠ none
    · rw [require_true counted, require_true free]
      dsimp only
      cases known : exercisedProfile plan with
      | error error => exact exercisedProfile_error known
      | ok profile =>
          cases cleared : exercise.cleared with
          | error error => exact fun same => other (same ▸ cleared)
          | ok value =>
              cases built : challengeOf provider exercise with
              | error error => exact challengeOf_error built
              | ok challenge => trivial
    · rw [require_false counted]
      have other : (⟨.supervisorPolicyViolation, "black-box plan omitted expected counts"⟩ :
          Raised) ≠ reuseError := by
        decide
      exact other
  intro rejected
  unfold Meets at meets
  split at meets
  · rename_i outcome
    rw [outcome] at rejected
    cases rejected
  · rename_i error next outcome
    rw [outcome, Except.error.injEq] at rejected
    exact meets rejected

/-- The state after a run whose exercise was prepared, and is still held or has been awaited. -/
def heldState (state : VerifierState) (profile : OracleProfile) (exercise : Exercise) :
    VerifierState :=
  (state.start profile).endTasks exercise.ended

def cleanedState (state : VerifierState) (profile : OracleProfile) (exercise : Exercise) :
    VerifierState :=
  (heldState state profile exercise).release.endTasks fun task =>
    (heldState state profile exercise).exerciseTask == some task

theorem mem_cleanedState {profile : OracleProfile} {task : Nat}
    (member : task ∈ (cleanedState state profile exercise).running) : task ∈ state.running := by
  obtain ⟨inside, kept⟩ := List.mem_filter.mp member
  have still : task ∈ (state.start profile).running.filter fun task => !exercise.ended task := inside
  have started : task ∈ (state.start profile).running := List.mem_of_mem_filter still
  obtain rfl | earlier := List.mem_cons.mp started
  · simp [heldState, VerifierState.endTasks, VerifierState.start] at kept
  · exact earlier

/-- The second call of the verifier cleans up after the first. -/
theorem leftClean_cleanedState (profile : OracleProfile) :
    LeftClean provider state (cleanedState state profile exercise) :=
  ⟨rfl, rfl, fun task member => state.numbered task (mem_cleanedState member),
    fun _ _ => prepare_reusable rfl⟩

theorem not_leftClean_heldState {profile : OracleProfile} :
    ¬ LeftClean provider state (heldState state profile exercise) := by
  intro clean
  cases clean.task

/-- A run that has prepared its exercise lets go of it if and only if the executor returns and
the checks after it raise only what is caught. -/
theorem run_state (prepares : Prepares provider exercise plan site state) :
    ∃ profile, (Returns site ∧ ((run tables executor plan (postgresHttp tables provider exercise)
        site).run state).2 = cleanedState state profile exercise) ∨
      (¬ Returns site ∧ ((run tables executor plan (postgresHttp tables provider exercise)
        site).run state).2 = heldState state profile exercise) := by
  obtain ⟨⟨before, read⟩, verified, ⟨workspaceBefore, readWorkspace⟩, challenge, middle,
    prepared⟩ := prepares
  have prepared' : ((postgresHttp tables provider exercise).prepare plan).run state =
      (.ok challenge, middle) := prepared
  obtain ⟨profile, _, _, rfl⟩ := prepare_ok prepared
  refine ⟨profile, ?_⟩
  have meets : (run tables executor plan (postgresHttp tables provider exercise) site).Meets state
      (fun _ next => (Returns site ∧ next = cleanedState state profile exercise) ∨
        (¬ Returns site ∧ next = heldState state profile exercise))
      fun _ next => (Returns site ∧ next = cleanedState state profile exercise) ∨
        (¬ Returns site ∧ next = heldState state profile exercise) := by
    rw [run, meets_bind, meets_ofExcept, read]
    dsimp only
    rw [meets_bind, meets_ofExcept, verified, firstVerified]
    dsimp only
    rw [meets_bind, meets_ofExcept, readWorkspace]
    dsimp only
    rw [meets_bind]
    apply meets_of_returned prepared'
    rw [meets_bind, meets_modify, meets_bind, meets_ofExcept]
    cases attempted : site.attempt with
    | error error =>
        refine .inr ⟨fun returns => ?_, rfl⟩
        obtain ⟨attempt, there⟩ := returns.attempted
        rw [attempted] at there
        cases there
    | ok attempt =>
        dsimp only
        rw [meets_bind, meets_ofExcept]
        cases context : contextChange before site.contextAfter site.contextStillVerified with
        | error error =>
            refine .inr ⟨fun returns => ?_, rfl⟩
            obtain ⟨changed, there⟩ := (@contextChange_returns before).mpr returns.contextCaught
            rw [context] at there
            cases there
        | ok contextChanged =>
            dsimp only
            rw [meets_bind, meets_ofExcept]
            cases workspace : workspaceChange workspaceBefore site.workspaceAfter with
            | error error =>
                refine .inr ⟨fun returns => ?_, rfl⟩
                obtain ⟨changed, there⟩ :=
                  (@workspaceChange_returns workspaceBefore _).mpr returns.workspaceCaught
                rw [workspace] at there
                cases there
            | ok workspaceChanged =>
                have returns : Returns site := ⟨⟨attempt, attempted⟩,
                  contextChange_returns.mp ⟨_, context⟩, workspaceChange_returns.mp ⟨_, workspace⟩⟩
                dsimp only
                rw [meets_bind]
                refine (verify_meets challenge _).mono ?_ ?_
                · rintro verification next rfl
                  rw [meets_ofExcept]
                  split
                  · exact .inl ⟨returns, rfl⟩
                  · exact .inl ⟨returns, rfl⟩
                · rintro error next rfl
                  exact .inl ⟨returns, rfl⟩
  unfold Meets at meets
  split at meets
  · rename_i outcome
    rw [outcome]
    exact meets
  · rename_i outcome
    rw [outcome]
    exact meets

/-- The verifier is left clean if and only if its second call is reached. -/
theorem leftClean_iff (prepares : Prepares provider exercise plan site state) :
    LeftClean provider state ((run tables executor plan (postgresHttp tables provider exercise)
      site).run state).2 ↔ Returns site := by
  obtain ⟨profile, ⟨returns, last⟩ | ⟨stuck, last⟩⟩ := @run_state tables executor _ _ _ _ _ prepares
  · rw [last]
    exact iff_of_true (leftClean_cleanedState profile) returns
  · rw [last]
    exact iff_of_false not_leftClean_heldState stuck

theorem prepares_sample : Prepares "acme-pay" sampleExercise samplePlan sampleSite .idle := by
  refine ⟨⟨_, rfl⟩, rfl, ⟨_, rfl⟩, ?_⟩
  have returns : ((prepare "acme-pay" sampleExercise samplePlan).run .idle).1.isOk = true := by
    decide
  cases done : (prepare "acme-pay" sampleExercise samplePlan).run .idle with
  | mk outcome middle =>
      rw [done] at returns
      cases outcome with
      | error error => cases returns
      | ok challenge => exact ⟨challenge, middle, rfl⟩

/-- A run that returns leaves its verifier clean. -/
theorem leftClean_iff_sample : LeftClean "acme-pay" .idle
    ((run .asciiOnly sampleExecutor samplePlan (postgresHttp .asciiOnly "acme-pay" sampleExercise)
      sampleSite).run .idle).2 := by
  refine (leftClean_iff prepares_sample).mpr ⟨⟨_, rfl⟩, ?_, ?_⟩
  · rintro error (failed | ⟨_, failed⟩)
    · cases failed
    · cases failed
  · rintro error failed
    cases failed

/-- The run is cancelled while the executor is awaited. -/
def cancelledSite : Surroundings :=
  { sampleSite with attempt := .error ⟨.cancelledError, ""⟩ }

/-- The exercise of the cancelled run goes on, and the next run is refused. -/
theorem cancelled_leftBehind :
    Prepares "acme-pay" sampleExercise samplePlan cancelledSite .idle ∧
      ¬ LeftClean "acme-pay" .idle ((run .asciiOnly sampleExecutor samplePlan
        (postgresHttp .asciiOnly "acme-pay" sampleExercise) cancelledSite).run .idle).2 := by
  refine ⟨⟨⟨_, rfl⟩, rfl, ⟨_, rfl⟩, prepares_sample.prepared⟩, fun clean => ?_⟩
  have held : ((run .asciiOnly sampleExecutor samplePlan
      (postgresHttp .asciiOnly "acme-pay" sampleExercise) cancelledSite).run .idle).2.exerciseTask =
        some 0 := by
    decide
  rw [clean.task] at held
  cases held

/-! ## One run after another -/

/-- One use of the verifier. -/
structure Job where
  plan : ExecutionPlan
  site : Surroundings
  exercise : Exercise

def serveOne (tables : UnicodeTables) (executor : CandidateExecutor) (provider : String)
    (state : VerifierState) (job : Job) : VerifierState :=
  ((run tables executor job.plan (postgresHttp tables provider job.exercise) job.site).run state).2

/-- The executor returns, the checks after it raise only what the run catches, and the fields
of the challenge are in order. -/
structure Orderly (provider : String) (job : Job) : Prop where
  returns : Returns job.site
  challenge : ∃ challenge, challengeOf provider job.exercise = .ok challenge

/-- A run that does not prepare an exercise leaves the verifier as it is. -/
theorem unprepared_state {job : Job} (orderly : Orderly provider job)
    (unprepared : ¬ Prepares provider job.exercise job.plan job.site state) :
    serveOne tables executor provider state job = state := by
  obtain ⟨challenge, built⟩ := orderly.challenge
  have prepare_meets : (prepare provider job.exercise job.plan).Meets state
      (fun _ _ => True) fun _ next => next = state := by
    simp only [prepare, meets_bind, meets_get, meets_modify, meets_ofExcept]
    rw [built]
    split
    · split
      · split
        · split
          · trivial
          · trivial
        · trivial
      · trivial
    · trivial
  have meets : (run tables executor job.plan (postgresHttp tables provider job.exercise)
      job.site).Meets state (fun _ next => next = state) fun _ next => next = state := by
    rw [run, meets_bind, meets_ofExcept]
    cases read : job.site.contextBefore with
    | error error => rfl
    | ok before =>
        dsimp only
        rw [meets_bind, meets_ofExcept]
        cases verified : job.site.contextVerified with
        | error error =>
            obtain ⟨fault, first⟩ : ∃ fault, firstVerified (.error error) = .error fault := by
              unfold firstVerified
              dsimp only
              split
              · exact ⟨_, rfl⟩
              · exact ⟨_, rfl⟩
            rw [first]
        | ok value =>
            rw [firstVerified]
            dsimp only
            rw [meets_bind, meets_ofExcept]
            cases readWorkspace : job.site.workspaceBefore with
            | error error => rfl
            | ok workspaceBefore =>
                dsimp only
                rw [meets_bind]
                cases prepared : (prepare provider job.exercise job.plan).run state with
                | mk outcome middle =>
                    have prepared' : ((postgresHttp tables provider job.exercise).prepare
                        job.plan).run state = (outcome, middle) := prepared
                    cases outcome with
                    | error error =>
                        exact meets_of_raised prepared' (prepare_meets.raised prepared)
                    | ok challenge =>
                        exact absurd ⟨⟨before, read⟩, verified, ⟨workspaceBefore, readWorkspace⟩,
                          challenge, middle, prepared⟩ unprepared
  unfold Meets at meets
  rw [serveOne]
  split at meets
  · rename_i outcome
    rw [outcome]
    exact meets
  · rename_i outcome
    rw [outcome]
    exact meets

/-- After any number of orderly runs the verifier is free, and none of their exercises runs. -/
theorem serve_free {jobs : List Job} (orderly : ∀ job ∈ jobs, Orderly provider job)
    (free : state.exerciseTask = none) (idle : state.running = []) :
    (jobs.foldl (serveOne tables executor provider) state).exerciseTask = none ∧
      (jobs.foldl (serveOne tables executor provider) state).running = [] := by
  induction jobs generalizing state with
  | nil => exact ⟨free, idle⟩
  | cons job rest ih =>
      obtain ⟨first, others⟩ := List.forall_mem_cons.mp orderly
      rw [List.foldl_cons]
      by_cases prepared : Prepares provider job.exercise job.plan job.site state
      · obtain ⟨profile, ⟨_, last⟩ | ⟨stuck, _⟩⟩ := @run_state tables executor _ _ _ _ _ prepared
        · rw [serveOne, last]
          refine ih others rfl ?_
          rw [List.eq_nil_iff_forall_not_mem]
          intro task member
          have earlier := mem_cleanedState member
          rw [idle] at earlier
          cases earlier
        · exact absurd first.returns stuck
      · rw [unprepared_state first prepared]
        exact ih others free idle

theorem sampleExercise_orderly : Orderly "acme-pay" ⟨samplePlan, sampleSite, sampleExercise⟩ where
  returns := by
    refine ⟨⟨_, rfl⟩, ?_, ?_⟩
    · rintro error (failed | ⟨_, failed⟩)
      · cases failed
      · cases failed
    · rintro error failed
      cases failed
  challenge := ⟨_, rfl⟩

/-- A verifier that is used twice. -/
theorem serve_free_sample :
    ([⟨samplePlan, sampleSite, sampleExercise⟩, ⟨samplePlan, sampleSite, sampleExercise⟩].foldl
        (serveOne .asciiOnly sampleExecutor "acme-pay") .idle).exerciseTask = none ∧
      ([⟨samplePlan, sampleSite, sampleExercise⟩, ⟨samplePlan, sampleSite, sampleExercise⟩].foldl
        (serveOne .asciiOnly sampleExecutor "acme-pay") .idle).running = [] :=
  serve_free
    (List.forall_mem_cons.mpr ⟨sampleExercise_orderly,
      List.forall_mem_singleton.mpr sampleExercise_orderly⟩) rfl rfl

end CrossPatch.Runner.Supervisor
