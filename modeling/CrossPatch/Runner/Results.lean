import CrossPatch.Domain.Hashing

/-!
# Runner receipts

Machine-generated receipts of one executed plan.  A receipt passes only when the
trusted supervisor verified it.
-/

namespace CrossPatch.Runner.Results

open CrossPatch.Domain.Failure CrossPatch.Domain.Hashing CrossPatch.Domain.Text
open CrossPatch.Library.Calendar CrossPatch.Library.JsonText

structure TrustedObservationCounts where
  receipts : Nat
  jobs : Nat
  deliveries : Nat
  deriving DecidableEq

structure TrustedObservation where
  counts : TrustedObservationCounts
  responseStatuses : List Nat
  deriving DecidableEq

structure ProcessReceipt where
  planId : String
  planSha256 : String
  argvSha256 : String
  exitCode : Option Int
  timedOut : Bool
  startedAt : Instant
  finishedAt : Instant
  stdoutSha256 : String
  stderrSha256 : String
  stdoutBytes : Int
  stderrBytes : Int
  stdoutTruncated : Bool
  stderrTruncated : Bool
  supervisorVerified : Bool
  verificationCode : String
  verificationSha256 : String
  trustedObservation : Option TrustedObservation
  trustedObservationSha256 : Option String
  runnerRequestSha256 : String
  runnerServiceIdentitySha256 : String
  workspaceProvenanceSha256 : String
  jobProvenanceSha256 : String
  candidateExecutorBootSha256 : String
  candidateExecutorReplacementSha256 : String
  deriving DecidableEq

def ProcessReceipt.passed (receipt : ProcessReceipt) : Bool :=
  receipt.supervisorVerified && !receipt.timedOut && receipt.exitCode == some 0

/-! ## JSON dumps -/

/-- A timestamp without zero microseconds, followed by its zone designator. -/
def shortIso (instant : Instant) (zone : String) : String :=
  let text := isoText instant
  let shown := if instant.micros % 1000000 = 0 then text.take 19 else text
  String.ofList shown ++ zone

def TrustedObservation.json (observation : TrustedObservation) : Json :=
  .obj
    [("counts", .obj
      [("receipts", .int observation.counts.receipts), ("jobs", .int observation.counts.jobs),
       ("deliveries", .int observation.counts.deliveries)]),
     ("response_statuses", .arr (observation.responseStatuses.map fun status => .int status))]

def trustedObservationDigest (tables : UnicodeTables) (observation : TrustedObservation) :
    Attempt String :=
  sha256Hex tables observation.json

/-- The two observation fields are left out when they are absent. -/
def ProcessReceipt.members (receipt : ProcessReceipt) : List (String × Json) :=
  ([("plan_id", .str receipt.planId), ("plan_sha256", .str receipt.planSha256),
   ("argv_sha256", .str receipt.argvSha256),
   ("exit_code", match receipt.exitCode with
     | none => .null
     | some code => .int code),
   ("timed_out", .bool receipt.timedOut),
   ("started_at", .str (shortIso receipt.startedAt "Z")),
   ("finished_at", .str (shortIso receipt.finishedAt "Z")),
   ("stdout_sha256", .str receipt.stdoutSha256), ("stderr_sha256", .str receipt.stderrSha256),
   ("stdout_bytes", .int receipt.stdoutBytes), ("stderr_bytes", .int receipt.stderrBytes),
   ("stdout_truncated", .bool receipt.stdoutTruncated),
   ("stderr_truncated", .bool receipt.stderrTruncated),
   ("supervisor_verified", .bool receipt.supervisorVerified),
   ("verification_code", .str receipt.verificationCode),
   ("verification_sha256", .str receipt.verificationSha256)] : List (String × Json)) ++
  (match receipt.trustedObservation with
    | none => []
    | some observation => [("trusted_observation", observation.json)] : List (String × Json)) ++
  (match receipt.trustedObservationSha256 with
    | none => []
    | some digest => [("trusted_observation_sha256", .str digest)] : List (String × Json)) ++
  [("runner_request_sha256", .str receipt.runnerRequestSha256),
   ("runner_service_identity_sha256", .str receipt.runnerServiceIdentitySha256),
   ("workspace_provenance_sha256", .str receipt.workspaceProvenanceSha256),
   ("job_provenance_sha256", .str receipt.jobProvenanceSha256),
   ("candidate_executor_boot_sha256", .str receipt.candidateExecutorBootSha256),
   ("candidate_executor_replacement_sha256", .str receipt.candidateExecutorReplacementSha256)]

end CrossPatch.Runner.Results
