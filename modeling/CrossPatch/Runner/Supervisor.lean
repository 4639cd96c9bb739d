import CrossPatch.Library.Procedure
import CrossPatch.Runner.Catalog
import CrossPatch.Runner.Results

/-!
# The trusted supervisor

`TrustedProcessSupervisor.run` turns an untrusted attempt into a receipt.  The verifier
keeps a state of its own between its two calls; what the file system, the executor and
the database answer are the surroundings of a run.
-/

namespace CrossPatch.Runner.Supervisor

open CrossPatch.Domain.Failure CrossPatch.Domain.Hashing CrossPatch.Domain.Text
open CrossPatch.Library CrossPatch.Library.Attempt CrossPatch.Library.Calendar
open CrossPatch.Library.JsonText CrossPatch.Library.Procedure
open CrossPatch.Runner.Catalog CrossPatch.Runner.Results

structure CandidateAttempt where
  planId : String
  candidateUid : Int
  runtimeId : String
  pidNamespaceIsolated : Bool
  workspaceReadOnly : Bool
  contextCapabilityAbsent : Bool
  externalReceiptAuthority : Bool
  exitCode : Option Int
  timedOut : Bool
  startedAt : Instant
  finishedAt : Instant
  stdoutSha256 : String
  stderrSha256 : String
  stdoutBytes : Int
  stderrBytes : Int
  teardownVerified : Bool
  executorBootSha256 : String
  replacementBootSha256 : String

structure SupervisorChallenge where
  challengeId : String
  environment : List (String × String)

structure BlackBoxVerification where
  verified : Bool
  code : String
  observationSha256 : String
  trustedObservation : Option TrustedObservation
  trustedObservationSha256 : Option String

/-- What the supervisor knows about its executor. -/
structure CandidateExecutor where
  candidateUid : Int
  pidNamespaceIsolated : Bool
  workspaceReadOnly : Bool
  contextCapabilityAbsent : Bool
  externalReceiptAuthority : Bool

structure ContextSnapshot where
  device : Int
  inode : Int
  ownerUid : Int
  mode : Int
  size : Int
  sha256 : String
deriving DecidableEq

structure WorkspaceSnapshot where
  fileCount : Int
  totalBytes : Int
  manifestSha256 : String
deriving DecidableEq

/-- The two calls of a verifier, on its own state, and what becomes of the state while the
executor is awaited between them. -/
structure BlackBoxVerifier (State : Type) where
  prepare : ExecutionPlan → Procedure Raised State SupervisorChallenge
  meanwhile : State → State
  verify : ExecutionPlan → SupervisorChallenge → CandidateAttempt →
    Procedure Raised State BlackBoxVerification

/-- What one run meets: the snapshots before and after, and the attempt. -/
structure Surroundings where
  contextBefore : Attempt ContextSnapshot
  contextVerified : Attempt Unit
  workspaceBefore : Attempt WorkspaceSnapshot
  attempt : Attempt CandidateAttempt
  contextAfter : Attempt ContextSnapshot
  contextStillVerified : Attempt Unit
  workspaceAfter : Attempt WorkspaceSnapshot

/-! ## Judging an attempt -/

def firstVerified (verified : Attempt Unit) : Attempt Unit :=
  match verified with
  | .ok () => .ok ()
  | .error error =>
      if error.isA .candidateContextViolation then
        .error ⟨.supervisorPolicyViolation, "candidate context validation failed"⟩
      else .error error

/-- `context_changed`. -/
def contextChange (before : ContextSnapshot) (after : Attempt ContextSnapshot)
    (verified : Attempt Unit) : Attempt Bool :=
  let failed (error : Raised) : Attempt Bool :=
    if error.isA .osError || error.isA .supervisorPolicyViolation ||
        error.isA .candidateContextViolation then .ok true
    else .error error
  match after with
  | .error error => failed error
  | .ok after =>
      match verified with
      | .error error => failed error
      | .ok () => .ok (before != after)

/-- `workspace_changed`. -/
def workspaceChange (before : WorkspaceSnapshot) (after : Attempt WorkspaceSnapshot) :
    Attempt Bool :=
  match after with
  | .error error =>
      if error.isA .osError || error.isA .supervisorPolicyViolation then .ok true
      else .error error
  | .ok after => .ok (before != after)

def zeroSha256 : String := String.ofList (List.replicate 64 '0')

def isolationMatches (executor : CandidateExecutor) (attempt : CandidateAttempt) : Bool :=
  attempt.pidNamespaceIsolated == executor.pidNamespaceIsolated &&
    attempt.workspaceReadOnly == executor.workspaceReadOnly &&
    attempt.contextCapabilityAbsent == executor.contextCapabilityAbsent &&
    attempt.externalReceiptAuthority == executor.externalReceiptAuthority

/-- The code of the receipt, and whether the supervisor has verified it. -/
def verdict (executor : CandidateExecutor) (attempt : CandidateAttempt)
    (contextChanged workspaceChanged : Bool) (verification : BlackBoxVerification) :
    String × Bool :=
  if attempt.candidateUid != executor.candidateUid || !isolationMatches executor attempt then
    ("CANDIDATE_IDENTITY_CHANGED", false)
  else if !attempt.teardownVerified || attempt.executorBootSha256 == zeroSha256 ||
      attempt.replacementBootSha256 == zeroSha256 ||
      attempt.executorBootSha256 == attempt.replacementBootSha256 then
    ("CANDIDATE_TEARDOWN_UNPROVEN", false)
  else if contextChanged then ("CANDIDATE_CONTEXT_CHANGED", false)
  else if workspaceChanged then ("CANDIDATE_WORKSPACE_CHANGED", false)
  else if attempt.timedOut || attempt.exitCode != some 0 then ("CANDIDATE_PROCESS_FAILED", false)
  else if !verification.verified then (verification.code, false)
  else (verification.code, true)

/-! ## The receipt -/

def CandidateAttempt.json (attempt : CandidateAttempt) : Json :=
  .obj
    [("plan_id", .str attempt.planId), ("candidate_uid", .int attempt.candidateUid),
     ("runtime_id", .str attempt.runtimeId),
     ("pid_namespace_isolated", .bool attempt.pidNamespaceIsolated),
     ("workspace_read_only", .bool attempt.workspaceReadOnly),
     ("context_capability_absent", .bool attempt.contextCapabilityAbsent),
     ("external_receipt_authority", .bool attempt.externalReceiptAuthority),
     ("exit_code", match attempt.exitCode with
       | none => .null
       | some code => .int code),
     ("timed_out", .bool attempt.timedOut),
     ("started_at", .str (timestampText attempt.startedAt)),
     ("finished_at", .str (timestampText attempt.finishedAt)),
     ("stdout_sha256", .str attempt.stdoutSha256), ("stderr_sha256", .str attempt.stderrSha256),
     ("stdout_bytes", .int attempt.stdoutBytes), ("stderr_bytes", .int attempt.stderrBytes),
     ("teardown_verified", .bool attempt.teardownVerified),
     ("executor_boot_sha256", .str attempt.executorBootSha256),
     ("replacement_boot_sha256", .str attempt.replacementBootSha256)]

def ContextSnapshot.json (snapshot : ContextSnapshot) : Json :=
  .obj
    [("device", .int snapshot.device), ("inode", .int snapshot.inode),
     ("owner_uid", .int snapshot.ownerUid), ("mode", .int snapshot.mode),
     ("size", .int snapshot.size), ("sha256", .str snapshot.sha256)]

def WorkspaceSnapshot.json (snapshot : WorkspaceSnapshot) : Json :=
  .obj
    [("file_count", .int snapshot.fileCount), ("total_bytes", .int snapshot.totalBytes),
     ("manifest_sha256", .str snapshot.manifestSha256)]

section Runs

variable (tables : UnicodeTables) (executor : CandidateExecutor) (plan : ExecutionPlan)

/-- `validate_trusted_observation_digest`. -/
def validateTrustedObservationDigest (observation : Option TrustedObservation)
    (digest : Option String) : Attempt Unit :=
  match observation, digest with
  | none, none => .ok ()
  | some observation, some digest => do
      let derived ← trustedObservationDigest tables observation
      require (derived = digest) ⟨.valueError, "trusted observation digest mismatch"⟩
  | _, _ => .error ⟨.valueError, "trusted observation and digest must be present together"⟩

def verificationMaterial (before : ContextSnapshot) (workspaceBefore : WorkspaceSnapshot)
    (challenge : SupervisorChallenge) (attempt : CandidateAttempt)
    (contextChanged workspaceChanged : Bool) (verification : BlackBoxVerification) : Json :=
  let judged := verdict executor attempt contextChanged workspaceChanged verification
  .obj <|
    [("attempt", attempt.json), ("challenge_id", .str challenge.challengeId),
     ("context_before", before.json), ("context_unchanged", .bool !contextChanged),
     ("runtime_id", .str attempt.runtimeId), ("teardown_verified", .bool attempt.teardownVerified),
     ("workspace_before", workspaceBefore.json), ("workspace_unchanged", .bool !workspaceChanged),
     ("observation_sha256", .str verification.observationSha256), ("plan_sha256", .str plan.sha256),
     ("verified", .bool judged.2), ("verification_code", .str judged.1)] ++
    match verification.trustedObservationSha256 with
    | none => []
    | some digest => [("trusted_observation_sha256", .str digest)]

def receiptOf (before : ContextSnapshot) (workspaceBefore : WorkspaceSnapshot)
    (challenge : SupervisorChallenge) (attempt : CandidateAttempt)
    (contextChanged workspaceChanged : Bool) (verification : BlackBoxVerification) :
    Attempt ProcessReceipt := do
  let judged := verdict executor attempt contextChanged workspaceChanged verification
  let verificationSha256 ← sha256Hex tables (verificationMaterial executor plan before
    workspaceBefore challenge attempt contextChanged workspaceChanged verification)
  let argvSha256 ← sha256Hex tables (texts plan.argv)
  validateTrustedObservationDigest tables verification.trustedObservation
    verification.trustedObservationSha256
  .ok {
    planId := plan.planId
    planSha256 := plan.sha256
    argvSha256 := argvSha256
    exitCode := attempt.exitCode
    timedOut := attempt.timedOut
    startedAt := attempt.startedAt
    finishedAt := attempt.finishedAt
    stdoutSha256 := attempt.stdoutSha256
    stderrSha256 := attempt.stderrSha256
    stdoutBytes := attempt.stdoutBytes
    stderrBytes := attempt.stderrBytes
    stdoutTruncated := false
    stderrTruncated := false
    supervisorVerified := judged.2
    verificationCode := judged.1
    verificationSha256 := verificationSha256
    trustedObservation := verification.trustedObservation
    trustedObservationSha256 := verification.trustedObservationSha256
    runnerRequestSha256 := zeroSha256
    runnerServiceIdentitySha256 := zeroSha256
    workspaceProvenanceSha256 := zeroSha256
    jobProvenanceSha256 := zeroSha256
    candidateExecutorBootSha256 := attempt.executorBootSha256
    candidateExecutorReplacementSha256 := attempt.replacementBootSha256 }

/-- `TrustedProcessSupervisor.run`. -/
def run {State : Type} (verifier : BlackBoxVerifier State) (site : Surroundings) :
    Procedure Raised State ProcessReceipt := do
  let before ← ofExcept site.contextBefore
  ofExcept (firstVerified site.contextVerified)
  let workspaceBefore ← ofExcept site.workspaceBefore
  let challenge ← verifier.prepare plan
  modify verifier.meanwhile
  let attempt ← ofExcept site.attempt
  let contextChanged ← ofExcept (contextChange before site.contextAfter site.contextStillVerified)
  let workspaceChanged ← ofExcept (workspaceChange workspaceBefore site.workspaceAfter)
  let verification ← verifier.verify plan challenge attempt
  ofExcept (receiptOf tables executor plan before workspaceBefore challenge attempt contextChanged
    workspaceChanged verification)

end Runs

/-! ## What a pass rests on -/

section Passing

variable {tables : UnicodeTables} {executor : CandidateExecutor} {plan : ExecutionPlan}
  {attempt : CandidateAttempt} {contextChanged workspaceChanged : Bool}
  {verification : BlackBoxVerification}

/-- What has to hold of an attempt, the snapshots apart. -/
structure Sound (executor : CandidateExecutor) (attempt : CandidateAttempt) : Prop where
  identity : attempt.candidateUid = executor.candidateUid
  isolated : attempt.pidNamespaceIsolated = executor.pidNamespaceIsolated
  readOnly : attempt.workspaceReadOnly = executor.workspaceReadOnly
  capabilityAbsent : attempt.contextCapabilityAbsent = executor.contextCapabilityAbsent
  externalAuthority : attempt.externalReceiptAuthority = executor.externalReceiptAuthority
  teardown : attempt.teardownVerified = true
  booted : attempt.executorBootSha256 ≠ zeroSha256
  replaced : attempt.replacementBootSha256 ≠ zeroSha256
  distinct : attempt.executorBootSha256 ≠ attempt.replacementBootSha256
  finished : attempt.timedOut = false
  succeeded : attempt.exitCode = some 0

theorem isolationMatches_iff : isolationMatches executor attempt = true ↔
    ((attempt.pidNamespaceIsolated = executor.pidNamespaceIsolated ∧
      attempt.workspaceReadOnly = executor.workspaceReadOnly) ∧
      attempt.contextCapabilityAbsent = executor.contextCapabilityAbsent) ∧
      attempt.externalReceiptAuthority = executor.externalReceiptAuthority := by
  simp only [isolationMatches, Bool.and_eq_true, beq_iff_eq]

/-- The chain of guards lets a run pass if every one of them does. -/
theorem verdict_verified : (verdict executor attempt contextChanged workspaceChanged
      verification).2 = true ↔
    Sound executor attempt ∧ contextChanged = false ∧ workspaceChanged = false ∧
      verification.verified = true := by
  unfold verdict
  constructor
  · intro passed
    split at passed
    · cases passed
    · rename_i same
      split at passed
      · cases passed
      · rename_i proven
        split at passed
        · cases passed
        · rename_i context
          split at passed
          · cases passed
          · rename_i workspace
            split at passed
            · cases passed
            · rename_i exited
              split at passed
              · cases passed
              · rename_i verified
                simp only [Bool.or_eq_true, bne_iff_ne, ne_eq, Bool.not_eq_true', not_or,
                  Decidable.not_not, Bool.not_eq_false, beq_iff_eq, Bool.not_eq_true]
                  at same proven context workspace exited verified
                obtain ⟨⟨⟨isolated, readOnly⟩, absent⟩, authority⟩ :=
                  isolationMatches_iff.mp same.2
                exact ⟨⟨same.1, isolated, readOnly, absent, authority, proven.1.1.1, proven.1.1.2,
                  proven.1.2, proven.2, exited.1, exited.2⟩, context, workspace, verified⟩
  · rintro ⟨sound, rfl, rfl, verified⟩
    have isolation := isolationMatches_iff.mpr
      ⟨⟨⟨sound.isolated, sound.readOnly⟩, sound.capabilityAbsent⟩, sound.externalAuthority⟩
    simp [isolation, sound.identity, sound.teardown, sound.booted, sound.replaced, sound.distinct,
      sound.finished, sound.succeeded, verified]

theorem contextChange_false {before : ContextSnapshot} {after : Attempt ContextSnapshot}
    {verified : Attempt Unit} : contextChange before after verified = .ok false ↔
      after = .ok before ∧ verified = .ok () := by
  unfold contextChange
  dsimp only
  cases after with
  | error error =>
      dsimp only
      split
      · simp
      · simp
  | ok after =>
      cases verified with
      | error error =>
          dsimp only
          split
          · simp
          · simp
      | ok value =>
          simp only [Except.ok.injEq, bne_eq_false_iff_eq, and_true]
          exact eq_comm

theorem workspaceChange_false {before : WorkspaceSnapshot} {after : Attempt WorkspaceSnapshot} :
    workspaceChange before after = .ok false ↔ after = .ok before := by
  unfold workspaceChange
  cases after with
  | error error =>
      dsimp only
      split
      · simp
      · simp
  | ok after =>
      simp only [Except.ok.injEq, bne_eq_false_iff_eq]
      exact eq_comm

theorem receiptOf_passed {before : ContextSnapshot} {workspaceBefore : WorkspaceSnapshot}
    {challenge : SupervisorChallenge} {receipt : ProcessReceipt}
    (built : receiptOf tables executor plan before workspaceBefore challenge attempt contextChanged
      workspaceChanged verification = .ok receipt) :
    receipt.passed = true ↔ (verdict executor attempt contextChanged workspaceChanged
      verification).2 = true := by
  unfold receiptOf at built
  dsimp only at built
  simp only [bind_eq_ok] at built
  obtain ⟨_, _, _, _, _, _, built⟩ := built
  cases built
  rw [ProcessReceipt.passed]
  dsimp only
  constructor
  · intro passed
    simp only [Bool.and_eq_true] at passed
    exact passed.1.1
  · intro verified
    have sound := (verdict_verified.mp verified).1
    rw [verified, sound.finished, sound.succeeded]
    rfl

/-- Every step of a run that returns has returned. -/
theorem run_ok {State : Type} {verifier : BlackBoxVerifier State} {site : Surroundings}
    {state last : State} {receipt : ProcessReceipt}
    (done : (run tables executor plan verifier site).run state = (.ok receipt, last)) :
    ∃ before workspaceBefore challenge middle attempt contextChanged workspaceChanged verification,
      site.contextBefore = .ok before ∧ site.workspaceBefore = .ok workspaceBefore ∧
      (verifier.prepare plan).run state = (.ok challenge, middle) ∧ site.attempt = .ok attempt ∧
      contextChange before site.contextAfter site.contextStillVerified = .ok contextChanged ∧
      workspaceChange workspaceBefore site.workspaceAfter = .ok workspaceChanged ∧
      (verifier.verify plan challenge attempt).run (verifier.meanwhile middle) =
        (.ok verification, last) ∧
      receiptOf tables executor plan before workspaceBefore challenge attempt contextChanged
        workspaceChanged verification = .ok receipt := by
  simp only [run, run_bind_ok, run_ofExcept_ok, run_modify_ok] at done
  obtain ⟨before, _, ⟨read, rfl⟩, _, _, ⟨_, rfl⟩, workspaceBefore, _, ⟨readWorkspace, rfl⟩,
    challenge, middle, prepared, _, _, rfl, attempt, _, ⟨attempted, rfl⟩, contextChanged, _,
    ⟨context, rfl⟩, workspaceChanged, _, ⟨workspace, rfl⟩, verification, _, verified,
    built, rfl⟩ := done
  exact ⟨before, workspaceBefore, challenge, middle, attempt, contextChanged, workspaceChanged,
    verification, read, readWorkspace, prepared, attempted, context, workspace, verified, built⟩

/-- A run passes if and only if the attempt is sound, nothing has changed and the verifier has
verified it. -/
theorem run_passed {State : Type} {verifier : BlackBoxVerifier State} {site : Surroundings}
    {state last : State} {receipt : ProcessReceipt}
    (done : (run tables executor plan verifier site).run state = (.ok receipt, last)) :
    ∃ challenge middle attempt verification,
      (verifier.prepare plan).run state = (.ok challenge, middle) ∧ site.attempt = .ok attempt ∧
      (verifier.verify plan challenge attempt).run (verifier.meanwhile middle) =
        (.ok verification, last) ∧
      (receipt.passed = true ↔ Sound executor attempt ∧
        (site.contextAfter = site.contextBefore ∧ site.contextStillVerified = .ok ()) ∧
        site.workspaceAfter = site.workspaceBefore ∧ verification.verified = true) := by
  obtain ⟨before, workspaceBefore, challenge, middle, attempt, contextChanged, workspaceChanged,
    verification, read, readWorkspace, prepared, attempted, context, workspace, verified,
    built⟩ := run_ok done
  refine ⟨challenge, middle, attempt, verification, prepared, attempted, verified, ?_⟩
  have unchanged : contextChanged = false ↔
      site.contextAfter = site.contextBefore ∧ site.contextStillVerified = .ok () := by
    rw [read, ← contextChange_false, context, Except.ok.injEq]
  have kept : workspaceChanged = false ↔ site.workspaceAfter = site.workspaceBefore := by
    rw [readWorkspace, ← workspaceChange_false, workspace, Except.ok.injEq]
  rw [receiptOf_passed built, verdict_verified, unchanged, kept]

end Passing

end CrossPatch.Runner.Supervisor
