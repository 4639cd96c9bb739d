import CrossPatch.Broker.Lifecycle
import CrossPatch.Library.Runs

/-!
# Executing warrants

`execute_warrant` as a small-step machine: a call stands between two awaits, and
one step answers the await it stands at.  The answers are free, so that every
interleaving of any number of calls, every failure of a collaborator and every
cancellation is a run.  Store operations are atomic; a cancellation reaches them
before their effect or while they close.
-/

namespace CrossPatch.Broker.Execution

open CrossPatch.Broker.Claim CrossPatch.Broker.Lifecycle CrossPatch.Broker.Store
open CrossPatch.Broker.Warrant
open CrossPatch.Domain.Failure CrossPatch.Domain.Hashing
open CrossPatch.Library.Octets CrossPatch.Library.Runs CrossPatch.Library.Sha256
open CrossPatch.Runner.Results

abbrev CallId := Nat

/-- What a call waits for. -/
inductive Phase where
  | claiming
  | entering (claimed : ClaimedWarrant)
  | running (claimed : ClaimedWarrant) (bound : BoundExecutionPlan)
      (remaining : List BoundExecutionPlan) (receipts : List ProcessReceipt)
  | leaving (claimed : ClaimedWarrant) (receipts : List ProcessReceipt)
      (pending : Attempt BrokerResult)
  | finishing (result : BrokerResult)
  | cancelling (result : BrokerResult) (raised : Raised)
  | returned (result : BrokerResult)
  | raised (raised : Raised)

structure Call where
  warrantId : String
  phase : Phase

/-- How an await on a store operation ends.  Both stores may be cancelled while
they wait for their lock; closing a database session may be cancelled as well. -/
inductive StoreAwait where
  | completes
  | cancelledBefore
  | cancelledAfter
  | fails (message : String)

inductive Claimant where
  | direct
  | call (id : CallId)
  deriving DecidableEq

inductive Event where
  | claimed (claimant : Claimant) (warrantId : String)
  | finished (warrantId : String) (result : BrokerResult)
  | factoryInvoked (call : CallId) (warrantId : String)
  | runnerInvoked (call : CallId) (warrantId planId : String)

def cancellation : Raised := ⟨.cancelledError, ""⟩

/-- Exceptions after which the broker finishes the warrant and re-raises. -/
def Raised.interrupts (raised : Raised) : Bool :=
  raised.isA .keyboardInterrupt || raised.isA .systemExit || raised.isA .cancelledError

/-! ## Results -/

def nonceSha256 (claimed : ClaimedWarrant) : String := hexdigest (utf8 claimed.document.nonce)

def executedResult (warrantId : String) (claimed : ClaimedWarrant)
    (receipts : List ProcessReceipt) : BrokerResult :=
  ⟨warrantId, .executed, receipts, none, some (nonceSha256 claimed)⟩

def failedResult (warrantId : String) (claimed : ClaimedWarrant)
    (receipts : List ProcessReceipt) : BrokerResult :=
  ⟨warrantId, .testFailed, receipts, some "FIXED_TEST_PLAN_FAILED", some (nonceSha256 claimed)⟩

def infraResult (warrantId : String) (claimed : ClaimedWarrant)
    (receipts : List ProcessReceipt) (code : String) : BrokerResult :=
  ⟨warrantId, .infraFailed, receipts, some code, some (nonceSha256 claimed)⟩

def rejectedResult (warrantId : String) (status : BrokerStatus) (code : String) : BrokerResult :=
  ⟨warrantId, status, [], some code, none⟩

/-! ## Control flow between awaits -/

/-- The `except BaseException` clause around the workspace. -/
def handle (warrantId : String) (claimed : ClaimedWarrant) (receipts : List ProcessReceipt)
    (raised : Raised) : Phase :=
  if Raised.interrupts raised then
    .cancelling (infraResult warrantId claimed receipts "BROKER_CANCELLED_AFTER_CLAIM") raised
  else .finishing (infraResult warrantId claimed receipts "WORKTREE_OR_RUNNER_FAILURE")

/-- The head of the loop over the bound plans: the next plan, or the `else` clause. -/
def nextPlan (config : BrokerConfig) (warrantId : String) (claimed : ClaimedWarrant)
    (receipts : List ProcessReceipt) : List BoundExecutionPlan → Phase
  | [] => .leaving claimed receipts (.ok (executedResult warrantId claimed receipts))
  | bound :: remaining =>
      match config.catalog.resolve bound.planId with
      | .error raised => .leaving claimed receipts (.error raised)
      | .ok _ => .running claimed bound remaining receipts

section System

variable (environment : Environment) (config : BrokerConfig) (store : WarrantStore)

structure System where
  db : store.Store
  calls : CallId → Option Call

inductive Action where
  | addApproved (input : store.Addition)
  | claimWarrant (warrantId : String) (validator : ClaimValidator) (context : store.Context)
  | finish (warrantId : String) (result : BrokerResult) (closing : store.Closing)
  | executeWarrant (call : CallId) (warrantId : String)
  | claimStep (call : CallId) (await : StoreAwait) (context : store.Context)
  | enterStep (call : CallId) (created entered : Attempt Unit)
  | runStep (call : CallId) (outcome : Attempt ProcessReceipt)
  | exitStep (call : CallId) (outcome : Attempt Unit)
  | finishStep (call : CallId) (await : StoreAwait) (closing : store.Closing)
  | shieldedFinishStep (call : CallId) (failure : Option String) (closing : store.Closing)

variable {store}

def System.setPhase (system : System store) (id : CallId) (call : Call) (phase : Phase) :
    System store :=
  { system with calls := Function.update system.calls id (some { call with phase := phase }) }

def claimedEvents (claimant : Claimant) (warrantId : String) :
    Attempt ClaimOutcome → List Event
  | .ok (.claimed _) => [.claimed claimant warrantId]
  | _ => []

def finishedEvents (warrantId : String) (result : BrokerResult) : Attempt Unit → List Event
  | .ok _ => [.finished warrantId result]
  | .error _ => []

/-- Where a call goes once `claim_warrant` has answered. -/
def afterClaim (warrantId : String) : Attempt ClaimOutcome → Phase
  | .ok (.claimed claimed) => .entering claimed
  | .ok (.rejection status code) => .returned (rejectedResult warrantId status code)
  | .error raised => .raised raised

/-- A cancellation while the session of a claim closes replaces its answer. -/
def afterInterruptedClaim : Attempt ClaimOutcome → Phase
  | .ok _ => .raised cancellation
  | .error raised => .raised raised

def afterFinish (onSuccess : Phase) : Attempt Unit → Phase
  | .ok _ => onSuccess
  | .error raised => .raised raised

def System.claimStep (system : System store) (id : CallId) (call : Call) (await : StoreAwait)
    (context : store.Context) : System store × List Event :=
  match await with
  | .cancelledBefore => (system.setPhase id call (.raised cancellation), [])
  | .fails message => (system.setPhase id call (.raised ⟨.osError, message⟩), [])
  | .completes =>
      let answer := store.claimWarrant system.db call.warrantId
        (validateClaim environment config) context
      ({ system with db := answer.2 }.setPhase id call (afterClaim call.warrantId answer.1),
        claimedEvents (.call id) call.warrantId answer.1)
  | .cancelledAfter =>
      let answer := store.claimWarrant system.db call.warrantId
        (validateClaim environment config) context
      ({ system with db := answer.2 }.setPhase id call (afterInterruptedClaim answer.1),
        claimedEvents (.call id) call.warrantId answer.1)

def System.finishStep (system : System store) (id : CallId) (call : Call)
    (result : BrokerResult) (await : StoreAwait) (closing : store.Closing) :
    System store × List Event :=
  match await with
  | .cancelledBefore => (system.setPhase id call (.raised cancellation), [])
  | .fails message => (system.setPhase id call (.raised ⟨.osError, message⟩), [])
  | .completes =>
      let answer := store.finish system.db call.warrantId result closing
      ({ system with db := answer.2 }.setPhase id call (afterFinish (.returned result) answer.1),
        finishedEvents call.warrantId result answer.1)
  | .cancelledAfter =>
      let answer := store.finish system.db call.warrantId result closing
      ({ system with db := answer.2 }.setPhase id call
          (afterFinish (.raised cancellation) answer.1),
        finishedEvents call.warrantId result answer.1)

/-- Under the shield no cancellation is delivered; the operation may still fail. -/
def System.shieldedFinishStep (system : System store) (id : CallId) (call : Call)
    (result : BrokerResult) (raised : Raised) (failure : Option String)
    (closing : store.Closing) : System store × List Event :=
  match failure with
  | some message => (system.setPhase id call (.raised ⟨.osError, message⟩), [])
  | none =>
      let answer := store.finish system.db call.warrantId result closing
      ({ system with db := answer.2 }.setPhase id call (afterFinish (.raised raised) answer.1),
        finishedEvents call.warrantId result answer.1)

/-- Creating the workspace context and entering it. -/
def afterEnter (call : Call) (claimed : ClaimedWarrant) : Attempt Unit → Attempt Unit → Phase
  | .error raised, _ => handle call.warrantId claimed [] raised
  | .ok _, .error raised => handle call.warrantId claimed [] raised
  | .ok _, .ok _ => nextPlan config call.warrantId claimed [] claimed.document.executionPlans

def afterRun (call : Call) (claimed : ClaimedWarrant) (remaining : List BoundExecutionPlan)
    (receipts : List ProcessReceipt) : Attempt ProcessReceipt → Phase
  | .error raised => .leaving claimed receipts (.error raised)
  | .ok receipt =>
      if receipt.passed then
        nextPlan config call.warrantId claimed (receipts ++ [receipt]) remaining
      else
        .leaving claimed (receipts ++ [receipt])
          (.ok (failedResult call.warrantId claimed (receipts ++ [receipt])))

/-- Leaving the workspace; an exception of the exit replaces the pending one. -/
def afterExit (call : Call) (claimed : ClaimedWarrant) (receipts : List ProcessReceipt)
    (pending : Attempt BrokerResult) : Attempt Unit → Phase
  | .error raised => handle call.warrantId claimed receipts raised
  | .ok _ =>
      match pending with
      | .ok result => .finishing result
      | .error raised => handle call.warrantId claimed receipts raised

def step (system : System store) : Action store → System store × List Event
  | .addApproved input =>
      ({ system with db := (store.addApproved system.db input).2 }, [])
  | .claimWarrant warrantId validator context =>
      let answer := store.claimWarrant system.db warrantId validator context
      ({ system with db := answer.2 }, claimedEvents .direct warrantId answer.1)
  | .finish warrantId result closing =>
      let answer := store.finish system.db warrantId result closing
      ({ system with db := answer.2 }, finishedEvents warrantId result answer.1)
  | .executeWarrant id warrantId =>
      match system.calls id with
      | none => (system.setPhase id ⟨warrantId, .claiming⟩ .claiming, [])
      | some _ => (system, [])
  | .claimStep id await context =>
      match system.calls id with
      | some ⟨warrantId, .claiming⟩ =>
          system.claimStep environment config id ⟨warrantId, .claiming⟩ await context
      | _ => (system, [])
  | .enterStep id created entered =>
      match system.calls id with
      | some ⟨warrantId, .entering claimed⟩ =>
          let call : Call := ⟨warrantId, .entering claimed⟩
          (system.setPhase id call (afterEnter config call claimed created entered),
            [.factoryInvoked id warrantId])
      | _ => (system, [])
  | .runStep id outcome =>
      match system.calls id with
      | some ⟨warrantId, .running claimed bound remaining receipts⟩ =>
          let call : Call := ⟨warrantId, .running claimed bound remaining receipts⟩
          (system.setPhase id call (afterRun config call claimed remaining receipts outcome),
            [.runnerInvoked id warrantId bound.planId])
      | _ => (system, [])
  | .exitStep id outcome =>
      match system.calls id with
      | some ⟨warrantId, .leaving claimed receipts pending⟩ =>
          let call : Call := ⟨warrantId, .leaving claimed receipts pending⟩
          (system.setPhase id call (afterExit call claimed receipts pending outcome), [])
      | _ => (system, [])
  | .finishStep id await closing =>
      match system.calls id with
      | some ⟨warrantId, .finishing result⟩ =>
          system.finishStep id ⟨warrantId, .finishing result⟩ result await closing
      | _ => (system, [])
  | .shieldedFinishStep id failure closing =>
      match system.calls id with
      | some ⟨warrantId, .cancelling result raised⟩ =>
          system.shieldedFinishStep id ⟨warrantId, .cancelling result raised⟩ result raised failure
            closing
      | _ => (system, [])

def machine : Machine (System store) (Action store) Event := ⟨step environment config⟩

/-- A broker over some store content, before its first call. -/
def System.idle (db : store.Store) : System store := ⟨db, fun _ => none⟩

end System

end CrossPatch.Broker.Execution
