import CrossPatch.Domain.Text
import CrossPatch.Library.Attempt
import CrossPatch.Library.Runs
import CrossPatch.Runner.Catalog

/-!
# The candidate executor and its sidecar

`execute` hands a workspace over to a sidecar that is replaced after each execution.  The
calls of any number of executors share one handoff root and one file lock; a call takes
one step at a time.  The network delivers what the sidecar has sent, to whom and as often
as it likes, or loses it.  A sidecar may restart at any moment, with a boot identifier
that was never used before; likewise no two calls draw one runtime identifier.
-/

namespace CrossPatch.Runner.Sidecar

open CrossPatch.Domain.Failure CrossPatch.Domain.Text
open CrossPatch.Library.Attempt CrossPatch.Library.JsonText CrossPatch.Library.Octets
open CrossPatch.Library.Runs CrossPatch.Library.Sha256
open CrossPatch.Runner.Catalog

/-! ## Messages -/

/-- The secret and the identity that the executors share with the sidecar, and the case
folding of the runtime. -/
structure Config where
  authToken : String
  candidateUid : Nat
  casefold : String → String
  positive : 1 ≤ candidateUid

structure Health where
  bootId : String
  bootMacSha256 : String
  candidateUid : Nat
  serviceRole : String
  deriving DecidableEq

/-- What happened to the candidate process; the times as they are written. -/
structure Execution where
  exitCode : Option Int
  timedOut : Bool
  startedAt : String
  finishedAt : String
  stdoutSha256 : String
  stderrSha256 : String
  stdoutBytes : Nat
  stderrBytes : Nat
  deriving DecidableEq

structure Response where
  planId : String
  runtimeId : String
  execution : Execution
  executorBootId : String
  executorBootMacSha256 : String
  deriving DecidableEq

inductive Message where
  | health (health : Health)
  | response (response : Response)
  deriving DecidableEq

/-- A message, and the boot that has sent it. -/
structure Sent where
  boot : String
  message : Message
  deriving DecidableEq

structure Request where
  environment : List (String × String)
  planId : String
  planSha256 : String
  runtimeId : String
  workspaceKey : String
  deriving DecidableEq

def bootMacDomain : Bytes := utf8 "crosspatch-candidate-executor-boot-v1" ++ [0]

/-- Boot identifiers are ASCII text, which normalization leaves alone. -/
def candidateExecutorBootMac (config : Config) (bootId : String) : String :=
  hmacHexdigest (utf8 config.authToken)
    (bootMacDomain ++ encode (.obj [("boot_id", .str bootId),
      ("candidate_uid", .int config.candidateUid), ("service_role", .str "candidate-executor")]))

/-- The text is the prefix followed by 32 lowercase hexadecimal digits. -/
def isDrawn (start text : String) : Bool :=
  text.toList.take start.toList.length == start.toList &&
    (text.toList.drop start.toList.length).length == 32 &&
    (text.toList.drop start.toList.length).all isLowerHex

def isBootId (text : String) : Bool := isDrawn "cpb-" text

def isRuntimeId (text : String) : Bool := isDrawn "cp-" text

def Health.valid (health : Health) : Bool :=
  isBootId health.bootId && isSha256 health.bootMacSha256 && decide (1 ≤ health.candidateUid) &&
    health.serviceRole == "candidate-executor"

def Response.valid (response : Response) : Bool :=
  decide (12 ≤ response.runtimeId.length ∧ response.runtimeId.length ≤ 128) &&
    isSha256 response.execution.stdoutSha256 && isSha256 response.execution.stderrSha256 &&
    isBootId response.executorBootId && isSha256 response.executorBootMacSha256

def invalid {α : Type} (model : String) : Attempt α := raise .validationError model

def parseHealth : Message → Attempt Health
  | .health health => if health.valid then .ok health else invalid "_SidecarHealth"
  | .response _ => invalid "_SidecarHealth"

def parseResponse : Message → Attempt Response
  | .response response => if response.valid then .ok response else invalid "_SidecarResponse"
  | .health _ => invalid "_SidecarResponse"

def violation (message : String) : Raised := ⟨.sidecarPolicyViolation, message⟩

def validateBoot (config : Config) (health : Health) : Attempt Health := do
  require (health.candidateUid = config.candidateUid ∧ health.serviceRole = "candidate-executor" ∧
    health.bootMacSha256 = candidateExecutorBootMac config health.bootId)
    (violation "candidate executor boot identity is invalid")
  .ok health

def receiveHealth (config : Config) (message : Message) : Attempt Health := do
  let health ← parseHealth message
  validateBoot config health

/-! ## Calls -/

structure CandidateAttempt where
  planId : String
  candidateUid : Nat
  runtimeId : String
  pidNamespaceIsolated : Bool
  workspaceReadOnly : Bool
  contextCapabilityAbsent : Bool
  externalReceiptAuthority : Bool
  execution : Execution
  teardownVerified : Bool
  executorBootSha256 : String
  replacementBootSha256 : String
  deriving DecidableEq

/-- An entry of the handoff root other than the lock file. -/
structure Entry where
  name : String
  isDirectory : Bool
  isSealed : Bool
  deriving DecidableEq

abbrev Outcome := Except Raised CandidateAttempt

/-- What a call does next.  It is inside both locks from `preflight` to `unlocking`. -/
inductive Phase where
  | waiting
  | locking
  | preflight
  | clearing (entries : List Entry)
  | copying
  | posting
  | replacing
  | cleaning (outcome : Outcome)
  | unlocking (outcome : Outcome)
  | leaving (outcome : Outcome)
  | returned (outcome : Outcome)

/-- The arguments of `execute` and its local variables. -/
structure Call where
  executor : Nat
  plan : ExecutionPlan
  environment : List (String × String)
  runtimeId : String
  before : Option Health
  staged : Bool
  parsed : Option Response
  replacement : Option Health
  phase : Phase

def hasInfix (part text : String) : Bool :=
  text.toList.tails.any fun rest => part.toList.isPrefixOf rest

/-- The checks that `execute` makes before it takes a lock. -/
def admission (plan : ExecutionPlan) (environment : List (String × String)) : Attempt Unit := do
  require (plan.planId ∈ candidatePlanIds)
    (violation "plan is not authorized for the trusted candidate sidecar")
  let expected ← ExecutionCatalog.default.resolve plan.planId
  require (expected.sha256 = plan.sha256)
    (violation "candidate plan differs from the immutable catalog")
  require (environment.all fun item => "CROSSPATCH_VERIFICATION_".toList.isPrefixOf item.1.toList)
    (violation "candidate challenge contains a forbidden key")
  require ((environment.all fun item => item.1 != "CROSSPATCH_CANDIDATE_CONTEXT" &&
    !hasInfix "candidate-context" item.2) = true)
    (violation "candidate context capability is forbidden")

def Call.request (call : Call) : Request :=
  ⟨call.environment.insertionSort fun first second => first.1 ≤ second.1, call.plan.planId,
    call.plan.sha256, call.runtimeId, call.runtimeId⟩

/-- The checks of `execute` after a replacement was observed. -/
def attemptOf (config : Config) (call : Call) (replacement : Health) : Outcome :=
  match call.before, call.parsed with
  | some before, some parsed => do
      require (parsed.executorBootId = before.bootId ∧
        parsed.executorBootMacSha256 = candidateExecutorBootMac config parsed.executorBootId)
        (violation "candidate execution boot binding changed")
      require (parsed.planId = call.plan.planId ∧ parsed.runtimeId = call.runtimeId)
        (violation "candidate sidecar response binding changed")
      .ok
        { planId := parsed.planId
          candidateUid := config.candidateUid
          runtimeId := parsed.runtimeId
          pidNamespaceIsolated := true
          workspaceReadOnly := true
          contextCapabilityAbsent := true
          externalReceiptAuthority := true
          execution := parsed.execution
          teardownVerified := true
          executorBootSha256 := hexdigest (utf8 before.bootId)
          replacementBootSha256 := hexdigest (utf8 replacement.bootId) }
  | none, _ => .error (violation "candidate executor preflight boot was not proven")
  | some _, none => .error (violation "candidate sidecar returned an invalid receipt")

/-- What the calls share: the file lock, the lock of each executor, the handoff root and the
requests that were posted. -/
structure Shared where
  flock : Option Nat
  inside : Nat → Option Nat
  root : List Entry
  requests : List Request

inductive Move where
  | next
  | receive (sent : Sent)
  | fail (error : Raised)
  | expire

inductive Event where
  | preflight (call : Nat) (sent : Sent)
  | posted (call : Nat) (request : Request)
  | answered (call : Nat) (sent : Sent)
  | observed (call : Nat) (sent : Sent)
  | returned (call : Nat) (attempt : CandidateAttempt)
  deriving DecidableEq

def Event.number : Event → Nat
  | .preflight call _ | .posted call _ | .answered call _ | .observed call _ | .returned call _ =>
      call

abbrev Progress := Call × Shared × List Event

variable (config : Config)

/-- Health answers of the boot that was seen before, and answers that prove nothing, keep the
call waiting. -/
def observe (number : Nat) (shared : Shared) (call : Call) (before : Health) (sent : Sent) :
    Option Progress :=
  match receiveHealth config sent.message with
  | .ok health =>
      if health.bootId = before.bootId then none
      else some ({ call with
        replacement := some health
        phase := .cleaning (attemptOf config call health) }, shared, [.observed number sent])
  | .error _ => none

def returning (number : Nat) : Outcome → List Event
  | .ok attempt => [.returned number attempt]
  | .error _ => []

/-- One step of a call, if it can take it. -/
def callStep (number : Nat) (shared : Shared) (call : Call) (move : Move) : Option Progress :=
  match call.phase, move with
  | .waiting, .next =>
      if shared.inside call.executor = none then
        some ({ call with phase := .locking },
          { shared with inside := Function.update shared.inside call.executor (some number) }, [])
      else none
  | .locking, .next =>
      if shared.flock = none then
        some ({ call with phase := .preflight }, { shared with flock := some number }, [])
      else none
  | .preflight, .receive sent =>
      match receiveHealth config sent.message with
      | .ok health =>
          some ({ call with before := some health, phase := .clearing shared.root }, shared,
            [.preflight number sent])
      | .error error => some ({ call with phase := .cleaning (.error error) }, shared, [])
  | .preflight, .fail error => some ({ call with phase := .cleaning (.error error) }, shared, [])
  | .clearing (entry :: rest), .next =>
      if entry.isDirectory then
        some ({ call with phase := .clearing rest },
          { shared with root := shared.root.erase entry }, [])
      else some ({ call with
        phase := .cleaning (.error
          (violation "candidate handoff root contains an unsafe entry")) }, shared, [])
  | .clearing [], .next =>
      some ({ call with phase := .copying },
        { shared with root := shared.root ++ [⟨call.runtimeId, true, false⟩] }, [])
  | .clearing _, .fail error =>
      some ({ call with phase := .cleaning (.error error) }, shared, [])
  | .copying, .next =>
      some ({ call with staged := true, phase := .posting },
        { shared with
          root := shared.root.map fun entry =>
            if entry.name = call.runtimeId then { entry with isSealed := true } else entry
          requests := shared.requests ++ [call.request] }, [.posted number call.request])
  | .copying, .fail error => some ({ call with phase := .cleaning (.error error) }, shared, [])
  | .posting, .receive sent =>
      match parseResponse sent.message with
      | .ok response =>
          some ({ call with parsed := some response, phase := .replacing }, shared,
            [.answered number sent])
      | .error _ => some ({ call with phase := .replacing }, shared, [])
  | .posting, .fail _ => some ({ call with phase := .replacing }, shared, [])
  | .replacing, .receive sent =>
      match call.before with
      | some before => observe config number shared call before sent
      | none => none
  | .replacing, .expire =>
      some ({ call with
        phase := .cleaning (.error
          (violation "candidate executor replacement boot was not proven")) }, shared, [])
  | .cleaning outcome, .next =>
      some ({ call with phase := .unlocking outcome },
        { shared with
          root := if call.staged then
            shared.root.filter fun entry => entry.name != call.runtimeId else shared.root }, [])
  | .cleaning _, .fail error =>
      -- the lock goes when the file of the failed call is closed
      some ({ call with phase := .unlocking (.error error) }, shared, [])
  | .unlocking outcome, .next =>
      some ({ call with phase := .leaving outcome }, { shared with flock := none }, [])
  | .leaving outcome, .next =>
      some ({ call with phase := .returned outcome },
        { shared with inside := Function.update shared.inside call.executor none },
        returning number outcome)
  | _, _ => none

/-! ## The sidecar -/

/-- A boot of the sidecar; it serves a request from its checks to its answer. -/
structure Service where
  boot : String
  boots : List String
  serving : List Request
  sent : List Sent

def healthOf (boot : String) : Health :=
  ⟨boot, candidateExecutorBootMac config boot, config.candidateUid, "candidate-executor"⟩

def responseOf (boot : String) (request : Request) (execution : Execution) : Response :=
  ⟨request.planId, request.runtimeId, execution, boot, candidateExecutorBootMac config boot⟩

def isWorkspaceKey (key : String) : Bool :=
  isIdentifier key && !key.toList.contains ':'

def environmentValue (request : Request) (key : String) : String :=
  (request.environment.lookup key).getD ""

/-- The validators of `_ExecutionRequest`. -/
def Request.valid (request : Request) : Bool :=
  isSha256 request.planSha256 && isRuntimeId request.runtimeId &&
    isWorkspaceKey request.workspaceKey &&
    request.environment.all fun item =>
      "CROSSPATCH_VERIFICATION_".toList.isPrefixOf item.1.toList && item.2 != "" &&
        !item.2.toList.contains '\x00' && !hasInfix "CANDIDATE_CONTEXT" item.1 &&
        !hasInfix "candidate-context" (config.casefold item.2)

/-- The checks of the execute endpoint. -/
def accepts (root : List Entry) (request : Request) : Bool :=
  request.valid config &&
    decide (request.planId ∈ candidatePlanIds) &&
    (match ExecutionCatalog.default.resolve request.planId with
      | .ok plan => request.planSha256 == plan.sha256
      | .error _ => false) &&
    (root.any fun entry => entry.name == request.workspaceKey && entry.isDirectory &&
      entry.isSealed) &&
    (root.all fun entry => entry.name == request.workspaceKey) &&
    environmentValue request "CROSSPATCH_VERIFICATION_SCOPE_PROVIDER" != "" &&
    environmentValue request "CROSSPATCH_VERIFICATION_SCOPE_EVENT_ID" != ""

inductive Duty where
  | restart (boot : String)
  | report
  | accept (request : Request)
  | finish (request : Request) (execution : Execution)
  | abandon (request : Request)

/-- What the sidecar does with the requests that reach it. -/
def serviceStep (shared : Shared) (service : Service) : Duty → Service
  | .restart boot =>
      if boot ∈ service.boots then service
      else { service with boot := boot, boots := service.boots ++ [boot], serving := [] }
  | .report =>
      { service with
        sent := service.sent ++ [⟨service.boot, .health (healthOf config service.boot)⟩] }
  | .accept request =>
      if request ∈ shared.requests ∧ accepts config shared.root request = true then
        { service with serving := service.serving ++ [request] }
      else service
  | .finish request execution =>
      if request ∈ service.serving then
        { service with
          serving := service.serving.erase request
          sent := service.sent ++
            [⟨service.boot, .response (responseOf config service.boot request execution)⟩] }
      else service
  | .abandon request => { service with serving := service.serving.erase request }

/-! ## Runs -/

structure World where
  calls : List Call
  shared : Shared
  service : Service

/-- Nobody has called, and the root holds what earlier processes have left there. -/
def World.start (boot : String) (root : List Entry) : World where
  calls := []
  shared := ⟨none, fun _ => none, root, []⟩
  service := ⟨boot, [boot], [], []⟩

inductive Action where
  | execute (executor : Nat) (plan : ExecutionPlan) (environment : List (String × String))
      (source : Attempt Unit) (runtimeId : String)
  | move (call : Nat) (move : Move)
  | duty (duty : Duty)

def Move.delivers (sent : List Sent) : Move → Bool
  | .receive message => sent.contains message
  | _ => true

/-- `source` is what `_source_workspace` answers. -/
def newCall (executor : Nat) (plan : ExecutionPlan) (environment : List (String × String))
    (source : Attempt Unit) (runtimeId : String) : Call where
  executor := executor
  plan := plan
  environment := environment
  runtimeId := runtimeId
  before := none
  staged := false
  parsed := none
  replacement := none
  phase := match admission plan environment >>= fun _ => source with
    | .ok _ => .waiting
    | .error error => .returned (.error error)

def World.step (world : World) : Action → World × List Event
  | .execute executor plan environment source runtimeId =>
      if world.calls.any fun call => call.runtimeId == runtimeId then (world, [])
      else ({ world with
        calls := world.calls ++ [newCall executor plan environment source runtimeId] }, [])
  | .move number move =>
      match world.calls[number]? with
      | none => (world, [])
      | some call =>
          if move.delivers world.service.sent then
            match callStep config number world.shared call move with
            | none => (world, [])
            | some (next, shared, events) =>
                ({ world with calls := world.calls.set number next, shared := shared }, events)
          else (world, [])
  | .duty duty =>
      ({ world with service := serviceStep config world.shared world.service duty }, [])

def machine : Machine World Action Event where
  step world action := world.step config action

end CrossPatch.Runner.Sidecar
