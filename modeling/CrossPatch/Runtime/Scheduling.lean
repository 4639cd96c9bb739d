import CrossPatch.Runtime.Launcher
import CrossPatch.Runtime.WorkQueue

/-!
# Scheduling of durable work

The task of the control service that claims one work row, dispatches it to its
resumer and afterwards hands every pending row to a task.  A resumer is known by the
transactions that commit while it runs, its own and those of other tasks, and by the
exception that leaves it.
-/

namespace CrossPatch.Runtime.Scheduling

open CrossPatch.Broker.Claim CrossPatch.Broker.Store CrossPatch.Broker.Warrant
open CrossPatch.Domain.StateMachine CrossPatch.Domain.Text
open CrossPatch.Evidence.Views
open CrossPatch.Library CrossPatch.Library.Attempt CrossPatch.Library.Calendar
open CrossPatch.Library.Octets
open CrossPatch.Library.Runs CrossPatch.Library.Sha256 CrossPatch.Library.Transaction
open CrossPatch.Runtime.BrokerResults CrossPatch.Runtime.ControlPlane
open CrossPatch.Runtime.ExecutionAuthority CrossPatch.Runtime.ExecutionPath
open CrossPatch.Runtime.Launcher (Input approvedIncident executionFinished executionFinished_ready
  recordReceipt recordReceipt_ready sampleAnswers sampleConsumed sampleControl sampleFailedResult
  sampleLauncher sampleSanitizer_hashes)
open CrossPatch.Runtime.Progress CrossPatch.Runtime.Protocol
open CrossPatch.Runtime.QueueRefinement CrossPatch.Runtime.Records CrossPatch.Runtime.Refinement
open CrossPatch.Runtime.Store CrossPatch.Runtime.Timeline CrossPatch.Runtime.WorkQueue

/-! ## The service -/

/-- The database, and the work rows whose task is not done. -/
structure Process where
  db : Database
  tasks : List String

def scheduleRuntimeWork (process : Process) (id : String) : Process × Bool :=
  if id ∈ process.tasks then (process, false)
  else ({ process with tasks := process.tasks ++ [id] }, true)

/-- Rows are listed by the time of their creation. -/
def listedBefore (first second : RuntimeWorkRecord) : Bool :=
  decide (first.createdAt.micros < second.createdAt.micros ∨
    (first.createdAt.micros = second.createdAt.micros ∧ first.id ≤ second.id))

def pendingRuntimeWork (db : Database) : List RuntimeWorkRecord :=
  (db.works.rows.filter fun row => row.status = .pending).mergeSort listedBefore

def schedulePending (process : Process) : Process :=
  (pendingRuntimeWork process.db).foldl
    (fun current work => (scheduleRuntimeWork current work.id).1) process

/-- The callback of a task that is done. -/
def discard (process : Process) (id : String) : Process :=
  { process with tasks := process.tasks.filter (· ≠ id) }

/-- What an await lets happen: transactions that commit, and the tasks of other rows
that are there after it. -/
structure Pause where
  writes : List Action
  tasks : List String

/-- The class of an exception. -/
structure Escape where
  className : String
  /-- Whether it derives from `Exception`; a cancellation does not. -/
  isException : Bool

structure Dispatch where
  pause : Pause
  failure : Option Escape

abbrev Resumer := String → String → Process → Dispatch

structure Resumers where
  approval : Option Resumer
  repair : Option Resumer

def resume (resumer : Option Resumer) (work : RuntimeWorkRecord) (process : Process) : Dispatch :=
  match resumer with
  | none => ⟨⟨[], process.tasks⟩, some ⟨"RuntimeError", true⟩⟩
  | some resumer => resumer work.incidentId work.warrantId process

/-- `_dispatch_runtime_work`. -/
def dispatchRuntimeWork (resumers : Resumers) (work : RuntimeWorkRecord) (process : Process) :
    Dispatch :=
  match work.kind with
  | .approvedExecution => resume resumers.approval work process
  | .testRepair => resume resumers.repair work process

def operation : WorkKind → String
  | .approvedExecution => "runtime-work:approved_execution"
  | .testRepair => "runtime-work:test_repair"

/-- What the awaits of the task itself are answered with. -/
structure Answers where
  claimedAt : Instant
  failedAt : Instant
  uuid : String
  listing : Pause

section Task

variable (plant : Plant) (resumers : Resumers) (ownerId id : String)

/-- The task of the row is in the process for as long as it runs. -/
def Process.await (process : Process) (pause : Pause) : Process :=
  ⟨(machine plant).run process.db pause.writes, id :: pause.tasks⟩

/-- The rest of the task, and its callback. -/
def reschedule (listing : Pause) (process : Process) : Process :=
  discard (schedulePending (process.await plant id listing)) id

/-- The clause `except Exception`, and the loop behind it. -/
def afterDispatch (answers : Answers) (work : RuntimeWorkRecord) (failure : Option Escape)
    (process : Process) : Process :=
  match failure with
  | none => reschedule plant id answers.listing process
  | some error =>
      if error.isException then
        match (failRuntimeWork plant.gateway.services work.id (operation work.kind) error.className
          answers.uuid answers.failedAt).commit process.db with
        | (.ok _, next) => reschedule plant id answers.listing { process with db := next }
        | (.error _, next) => discard { process with db := next } id
      else discard process id

/-- `_run_runtime_work`, from its start to its callback. -/
def runRuntimeWork (answers : Answers) (process : Process) : Process :=
  match (claimRuntimeWork id ownerId answers.claimedAt).commit process.db with
  | (.ok (some work), next) =>
      let dispatch := dispatchRuntimeWork resumers work { process with db := next }
      afterDispatch plant id answers work dispatch.failure
        (Process.await plant id { process with db := next } dispatch.pause)
  | (_, next) => discard { process with db := next } id

end Task

/-! ## What is left when the task ends -/

/-- Every pending row has a task. -/
def Scheduled (process : Process) : Prop :=
  ∀ row ∈ process.db.works.rows, row.status = .pending → row.id ∈ process.tasks

def Retired (view : View) (id : String) : Prop :=
  ∃ work, view.works id = some work ∧ work.status = .completed

/-- Pending rows have tasks, and a row whose dispatch failed is completed. -/
def NothingLeft (id : String) (failure : Option Escape) (process : Process) : Prop :=
  Scheduled process ∧ (failure.isSome = true → Retired (view process.db) id)

/-- The rest of the handler after its checks. -/
def recordFailure (services : Services) (work : RuntimeWorkRecord) (incident : IncidentRecord)
    (operation failureOutcome uuid : String) (now : Instant) : Tx Unit := do
  let _ ← appendLocked services incident
    (if incident.state ∈ activeStates then .state .backgroundTaskFailed
     else .backgroundTaskErrorReported)
    "control-service"
    [("operation", .str operation), ("failure_outcome", .str failureOutcome)] true uuid now
  writeWork (completedWork work now)
  publishLocked services incident.id now

/-- The handler finds the row of a finished incident, or a row that is not completed and
a failure that can be appended and published. -/
def Recordable (services : Services) (id operation failureOutcome uuid : String) (now : Instant)
    (db : Database) : Prop :=
  ∃ work incident, db.works.find id = some work ∧
    db.incidents.find work.incidentId = some incident ∧
    if work.status = .completed then incident.state ∈ terminalStates
    else (recordFailure services work incident operation failureOutcome uuid now).Reaches db
      fun _ _ => True

/-- The dispatch returned, or its failure is caught and can be recorded, or its row is
completed and nothing waits for a task. -/
def Handled (services : Services) (id : String) (kind : WorkKind) (answers : Answers)
    (failure : Option Escape) (process : Process) : Prop :=
  match failure with
  | none => True
  | some error =>
      (error.isException = true ∧ Recordable services id (operation kind) error.className
        answers.uuid answers.failedAt process.db) ∨
        (Retired (view process.db) id ∧ Scheduled process)

/-! ## Scheduling -/

section Lemmas

variable {plant : Plant} {process : Process} {db : Database} {id : String}

theorem mem_schedule_self : id ∈ (scheduleRuntimeWork process id).1.tasks := by
  unfold scheduleRuntimeWork
  split
  · assumption
  · simp

theorem mem_schedule {other : String} (member : other ∈ process.tasks) :
    other ∈ (scheduleRuntimeWork process id).1.tasks := by
  unfold scheduleRuntimeWork
  split
  · exact member
  · exact List.mem_append_left _ member

theorem schedule_db : (scheduleRuntimeWork process id).1.db = process.db := by
  unfold scheduleRuntimeWork
  split <;> rfl

/-- Scheduling a list of rows leaves the database alone and no row of it without a task. -/
theorem foldl_schedule (works : List RuntimeWorkRecord) (process : Process) :
    (works.foldl (fun current work => (scheduleRuntimeWork current work.id).1) process).db =
        process.db ∧
      ∀ wanted, (wanted ∈ process.tasks ∨ wanted ∈ works.map RuntimeWorkRecord.id) → wanted ∈
        (works.foldl (fun current work => (scheduleRuntimeWork current work.id).1) process).tasks := by
  induction works generalizing process with
  | nil => exact ⟨rfl, fun _ member => by simpa using member⟩
  | cons work rest ih =>
      obtain ⟨same, members⟩ := ih (scheduleRuntimeWork process work.id).1
      rw [List.foldl_cons]
      refine ⟨same.trans schedule_db, fun wanted member => members wanted ?_⟩
      rcases member with present | listed
      · exact .inl (mem_schedule present)
      · rw [List.map_cons, List.mem_cons] at listed
        rcases listed with rfl | later
        · exact .inl mem_schedule_self
        · exact .inr later

theorem schedulePending_db : (schedulePending process).db = process.db :=
  (foldl_schedule _ process).1

theorem schedulePending_scheduled : Scheduled (schedulePending process) := by
  intro row listed waiting
  rw [schedulePending_db] at listed
  refine (foldl_schedule _ process).2 row.id (.inr (List.mem_map_of_mem ?_))
  rw [pendingRuntimeWork, List.mem_mergeSort, List.mem_filter]
  exact ⟨listed, by simpa using waiting⟩

/-- The callback of a task takes nothing from pending rows as long as the row of the task
is not one of them. -/
theorem scheduled_discard (taken : Taken (view process.db) id) :
    Scheduled (discard process id) ↔ Scheduled process := by
  have other : ∀ row ∈ process.db.works.rows, row.status = .pending → row.id ≠ id := by
    rintro row listed waiting rfl
    obtain ⟨work, found, status⟩ := taken
    rw [view_work (Table.find_of_mem listed), Option.some.injEq] at found
    subst found
    exact status waiting
  constructor
  · intro scheduled row listed waiting
    exact (List.mem_filter.mp (scheduled row listed waiting)).1
  · intro scheduled row listed waiting
    refine List.mem_filter.mpr ⟨scheduled row listed waiting, ?_⟩
    simpa using other row listed waiting

/-! ## The handler -/

theorem failRuntimeWork_ok {services : Services} {operation outcome uuid : String}
    {now : Instant} :
    ((failRuntimeWork services id operation outcome uuid now).commit db).1 = .ok () ↔
      Recordable services id operation outcome uuid now db := by
  have reaches : ((failRuntimeWork services id operation outcome uuid now).commit db).1 = .ok () ↔
      (failRuntimeWork services id operation outcome uuid now).Reaches db fun _ _ => True := by
    constructor
    · intro answered
      unfold Transaction.commit at answered
      split at answered
      · rename_i value next reached
        exact ⟨value, next, reached, trivial⟩
      · cases answered
    · intro reaches
      obtain ⟨_, answered, _⟩ := reaches.commit
      exact answered
  rw [reaches, Recordable]
  simp only [failRuntimeWork, getWork, reaches_bind, reaches_read, reaches_lift,
    needed_eq_ok, reaches_getIncident]
  constructor
  · rintro ⟨work, found, incident, owned, rest⟩
    refine ⟨work, incident, found, owned, ?_⟩
    split at rest
    · rename_i done
      rw [if_pos done]
      exact (reaches_check.mp rest).1
    · rename_i active
      rw [if_neg active]
      exact rest
  · rintro ⟨work, incident, found, owned, rest⟩
    refine ⟨work, found, incident, owned, ?_⟩
    split at rest
    · rename_i done
      rw [if_pos done]
      exact reaches_check.mpr ⟨rest, trivial⟩
    · rename_i active
      rw [if_neg active]
      exact rest

/-- A failure that is recorded retires the row. -/
theorem failRuntimeWork_retires {services : Services} {operation outcome uuid : String}
    {now : Instant} :
    (failRuntimeWork services id operation outcome uuid now).Ensures db fun _ next =>
      Retired (view next) id := by
  simp only [failRuntimeWork, ensures_bind, ensures_getWork, ensures_getIncident]
  intro work found incident owned
  refine ensures_ite (fun done => ?_) (fun active => ?_)
  · rw [ensures_check]
    exact fun _ => ⟨workView work, view_work found, done⟩
  · rw [ensures_bind]
    intro moved middle appended
    obtain ⟨event, state, _, _, _, _, rfl, rfl⟩ := appendLocked_eq_ok appended
    simp only [writeWork, ensures_bind, ensures_change]
    intro done last published
    obtain ⟨cases, rfl⟩ := publishLocked_eq_ok published
    obtain rfl := Table.key_of_find found
    refine ⟨workView (completedWork work now), ?_, rfl⟩
    have current : db.works.find (completedWork work now).id = some work := found
    exact view_work ((Table.find_write current _).trans (if_pos rfl))

/-! ## Awaits -/

/-- Transactions other than the recovery at the start of a process. -/
def Ordinary (db : Database) (action : Action) : Prop :=
  Promised db action ∧ ¬ Requeues action

theorem Retired.step {regime : Regime} {before after : View} (step : Step regime before after)
    (retired : Retired before id) : Retired after id := by
  obtain ⟨work, found, status⟩ := retired
  have row : Retired before id := ⟨work, found, status⟩
  cases step with
  | opened | moved | cleared | approvalOpened | settled | brokerMoved => exact row
  | approved => exact ⟨work, by simp [found], status⟩
  | verified => unfold Retired; grind
  | testFailed => unfold Retired; grind
  | claimed => unfold Retired; grind
  | requeued => unfold Retired; grind
  | released => unfold Retired; grind
  | failed => unfold Retired; grind
  | repairCompleted => unfold Retired; grind

/-- What every step without recovery preserves is preserved by ordinary transactions. -/
theorem run_ordinary {Inv : View → Prop} {writes : List Action}
    (step : ∀ {before after}, Step withoutRecovery before after → Inv before → Inv after)
    (initial : Inv (view db)) (follows : (machine plant).Follows Ordinary db writes) :
    Inv (view ((machine plant).run db writes)) := by
  refine (machine plant).run_invariant_of_follows (fun current => Inv (view current)) ?_ initial
    follows
  rintro current action ⟨promised, keeps⟩ holds
  have refines := @perform_refines plant _ _ _ promised (admits_withoutRecovery keeps)
  exact refines.steps.preserve step holds

theorem Retired.taken {view : View} (retired : Retired view id) : Taken view id := by
  obtain ⟨work, found, status⟩ := retired
  exact ⟨work, found, by rw [status]; decide⟩

theorem reschedule_db {listing : Pause} :
    (reschedule plant id listing process).db = (machine plant).run process.db listing.writes :=
  schedulePending_db

/-- After the loop no pending row is without a task. -/
theorem reschedule_scheduled {listing : Pause} (taken : Taken (view process.db) id)
    (follows : (machine plant).Follows Ordinary process.db listing.writes) :
    Scheduled (reschedule plant id listing process) := by
  have still := run_ordinary (Taken.step not_false) taken follows
  refine (scheduled_discard ?_).mpr schedulePending_scheduled
  rw [schedulePending_db]
  exact still

theorem reschedule_retired {listing : Pause} (retired : Retired (view process.db) id)
    (follows : (machine plant).Follows Ordinary process.db listing.writes) :
    Retired (view (reschedule plant id listing process).db) id := by
  rw [reschedule_db]
  exact run_ordinary Retired.step retired follows

/-! ## The end of the task -/

/-- The database that the loop of the task finds. -/
def handled (plant : Plant) (answers : Answers) (work : RuntimeWorkRecord)
    (failure : Option Escape) (db : Database) : Database :=
  match failure with
  | none => db
  | some error =>
      if error.isException then
        ((failRuntimeWork plant.gateway.services work.id (operation work.kind) error.className
          answers.uuid answers.failedAt).commit db).2
      else db

/-- An exception that nobody catches ends the task at once. -/
theorem discard_iff (taken : Taken (view process.db) id) (error : Escape) :
    NothingLeft id (some error) (discard process id) ↔
      Retired (view process.db) id ∧ Scheduled process := by
  rw [NothingLeft, scheduled_discard taken]
  constructor
  · rintro ⟨scheduled, retired⟩
    exact ⟨retired rfl, scheduled⟩
  · rintro ⟨retired, scheduled⟩
    exact ⟨scheduled, fun _ => retired⟩

theorem afterDispatch_iff {answers : Answers} {work : RuntimeWorkRecord} {failure : Option Escape}
    (taken : Taken (view process.db) id) (named : work.id = id)
    (beside : (machine plant).Follows Ordinary (handled plant answers work failure process.db)
      answers.listing.writes) :
    NothingLeft id failure (afterDispatch plant id answers work failure process) ↔
      Handled plant.gateway.services id work.kind answers failure process := by
  cases failure with
  | none =>
      refine iff_of_true ⟨reschedule_scheduled taken beside, ?_⟩ trivial
      intro impossible
      cases impossible
  | some error =>
      obtain rfl := named
      simp only [handled] at beside
      simp only [afterDispatch, Handled]
      by_cases ordinary : error.isException = true
      · rw [if_pos ordinary] at beside ⊢
        simp only [ordinary, true_and]
        have recordable := @failRuntimeWork_ok process.db work.id plant.gateway.services
          (operation work.kind) error.className answers.uuid answers.failedAt
        cases committed : (failRuntimeWork plant.gateway.services work.id (operation work.kind)
            error.className answers.uuid answers.failedAt).commit process.db with
        | mk answer next =>
            rw [committed] at recordable beside
            cases answer with
            | ok done =>
                have answered : ((failRuntimeWork plant.gateway.services work.id
                    (operation work.kind) error.className answers.uuid answers.failedAt).commit
                      process.db).1 = .ok done := by rw [committed]
                have retired := failRuntimeWork_retires.of_commit answered
                rw [committed] at retired
                refine iff_of_true ⟨?_, fun _ => ?_⟩ (.inl (recordable.mp rfl))
                · exact reschedule_scheduled retired.taken beside
                · exact reschedule_retired retired beside
            | error raised =>
                obtain rfl := rolled_back committed
                have refused : ¬ Recordable plant.gateway.services work.id (operation work.kind)
                    error.className answers.uuid answers.failedAt process.db := by
                  intro possible
                  cases recordable.mpr possible
                rw [or_iff_right refused]
                exact discard_iff taken error
      · rw [if_neg ordinary]
        simp only [ordinary, false_and, false_or, Bool.false_eq_true]
        exact discard_iff taken error

theorem claimRuntimeWork_row {ownerId : String} {now : Instant} :
    (claimRuntimeWork id ownerId now).Ensures db fun claimed _ =>
      ∀ work, claimed = some work → work.id = id := by
  simp only [claimRuntimeWork, ensures_bind, ensures_read]
  split
  · simp
  · rename_i work found
    refine ensures_ite (fun _ => by simp) (fun _ => ?_)
    simp only [ensures_bind, ensures_getIncident]
    intro incident _
    refine ensures_ite (fun _ => ?_) (fun _ => ?_)
    · refine ensures_ite (fun _ => by simp [writeWork]) (fun _ => ?_)
      rw [ensures_lift]
      intro _ impossible
      cases impossible
    · simp only [writeWork, ensures_bind, ensures_change, ensures_pure, Option.some.injEq]
      rintro _ rfl
      have named := Table.key_of_find found
      exact named

theorem claimRuntimeWork_taken {ownerId : String} {now : Instant} {work : RuntimeWorkRecord}
    {claimed : Database}
    (claims : (claimRuntimeWork id ownerId now).commit db = (.ok (some work), claimed)) :
    Taken (view claimed) id ∧ work.id = id := by
  have answered : ((claimRuntimeWork id ownerId now).commit db).1 = .ok (some work) := by
    rw [claims]
  have taken := (claimRuntimeWork_claims.of_commit answered rfl).2
  rw [claims] at taken
  exact ⟨taken, claimRuntimeWork_row.of_commit answered work rfl⟩

theorem runRuntimeWork_claimed {resumers : Resumers} {ownerId : String} {answers : Answers}
    {work : RuntimeWorkRecord} {claimed : Database}
    (claims : (claimRuntimeWork id ownerId answers.claimedAt).commit process.db =
      (.ok (some work), claimed)) :
    runRuntimeWork plant resumers ownerId id answers process =
      afterDispatch plant id answers work
        (dispatchRuntimeWork resumers work ⟨claimed, process.tasks⟩).failure
        (Process.await plant id ⟨claimed, process.tasks⟩
          (dispatchRuntimeWork resumers work ⟨claimed, process.tasks⟩).pause) := by
  simp only [runRuntimeWork, claims]

/-- A dispatch that returns is followed by the listing. -/
theorem runRuntimeWork_db {resumers : Resumers} {ownerId : String} {answers : Answers}
    {work : RuntimeWorkRecord} {claimed : Database} {dispatch : Dispatch}
    (claims : (claimRuntimeWork id ownerId answers.claimedAt).commit process.db =
      (.ok (some work), claimed))
    (dispatches : dispatchRuntimeWork resumers work ⟨claimed, process.tasks⟩ = dispatch)
    (returns : dispatch.failure = none) :
    (runRuntimeWork plant resumers ownerId id answers process).db =
      (machine plant).run claimed (dispatch.pause.writes ++ answers.listing.writes) := by
  subst dispatches
  rw [runRuntimeWork_claimed claims, returns, Machine.run_append]
  exact reschedule_db

end Lemmas

/-- When the task of a claimed row ends, every pending row has a task and a failed row is
completed, exactly if the dispatch returned, or its failure is caught and can be recorded,
or its row is completed and no other row waits for a task. -/
theorem pending_work_scheduled (plant : Plant) (resumers : Resumers) (ownerId id : String)
    (answers : Answers) (process : Process) (work : RuntimeWorkRecord) (claimed : Database)
    (dispatch : Dispatch)
    (claims : (claimRuntimeWork id ownerId answers.claimedAt).commit process.db =
      (.ok (some work), claimed))
    (dispatches : dispatchRuntimeWork resumers work ⟨claimed, process.tasks⟩ = dispatch)
    (ordinary : (machine plant).Follows Ordinary claimed dispatch.pause.writes)
    (beside : (machine plant).Follows Ordinary (handled plant answers work dispatch.failure
      ((machine plant).run claimed dispatch.pause.writes)) answers.listing.writes) :
    NothingLeft id dispatch.failure (runRuntimeWork plant resumers ownerId id answers process) ↔
      Handled plant.gateway.services id work.kind answers dispatch.failure
        (Process.await plant id ⟨claimed, process.tasks⟩ dispatch.pause) := by
  obtain ⟨taken, named⟩ := claimRuntimeWork_taken claims
  have held := run_ordinary (Taken.step not_false) taken ordinary
  subst dispatches
  rw [runRuntimeWork_claimed claims]
  exact afterDispatch_iff held named beside

/-! ## A repair without a task -/

/-- The evidence of a receipt is recorded by a transaction of the store. -/
theorem recordReceipt_performs {plant : Plant} {launcher : Launcher.BundledIncidentLauncher}
    {input : Input} {result : BrokerResult} {incidentId evidenceId : String} {db next : Database}
    (services : launcher.services = plant.gateway.services)
    (recorded : recordReceipt launcher incidentId input result db = (.ok evidenceId, next)) :
    ∃ envelope, (machine plant).next db
      (.recordEvidence envelope ("ev_" ++ input.evidenceUuid) true input.now) = next := by
  unfold recordReceipt at recorded
  dsimp only at recorded
  split at recorded
  · cases recorded
  · rename_i envelope _
    refine ⟨envelope, ?_⟩
    change ((recordEvidence plant.gateway.services _ _ _ _).commit db).2 = next
    rw [← services]
    split at recorded
    · rename_i committed
      cases recorded
      rw [committed]
    · cases recorded

/-- An attempt on a failed test that stops after its projection leaves the repair pending,
the execution completed and the incident active, so its failure cannot be recorded. -/
theorem awaitsRepair_unhandled {services : Services} {incident : IncidentRecord}
    {record : WarrantRecord} {answers : Answers} {error : Escape} {process : Process}
    (awaits : AwaitsRepair incident record process.db)
    (unscheduled : repairWorkId record.id ∉ process.tasks) :
    ¬ Handled services (executionWorkId record.id) .approvedExecution answers (some error)
      process := by
  obtain ⟨⟨moved, stage, identified, state⟩, ⟨repair, queued, waiting⟩, work, found, owner, done⟩ :=
    awaits
  rintro (⟨_, current, holder, present, owned, condition⟩ | ⟨_, scheduled⟩)
  · rw [found, Option.some.injEq] at present
    subst present
    rw [owner, ← identified, stage.found, Option.some.injEq] at owned
    subst owned
    rw [if_pos done, state] at condition
    exact absurd condition (by decide)
  · have named := Table.key_of_find queued
    exact unscheduled (named ▸ scheduled repair (Table.mem_of_find queued) waiting)

/-- What an attempt on a durable result commits before its completion. -/
def projecting (incidentId warrantId : String) (input : Input)
    (envelope : UntrustedEvidenceEnvelope) : List Action :=
  [.recordEvidence envelope ("ev_" ++ input.evidenceUuid) true input.now,
   .projectBrokerResult incidentId warrantId ("ev_" ++ input.evidenceUuid) input.testUuids
     input.eventUuids input.now]

/-- The completion of an attempt on a failed test. -/
def completing (incidentId warrantId : String) (input : Input) : Action :=
  .appendEvent incidentId .bailiffCompleted "Bailiff"
    [("warrant_id", .str warrantId), ("status", .str (Launcher.statusValue .testFailed))] true
    (input.eventUuids 0) input.now

/-- An attempt whose completion cannot be appended. -/
def interrupted (incidentId warrantId : String) (input : Input)
    (envelope : UntrustedEvidenceEnvelope) : Dispatch :=
  ⟨⟨projecting incidentId warrantId input envelope, []⟩, some ⟨"OperationalError", true⟩⟩

/-- An attempt that returns. -/
def returned (incidentId warrantId : String) (input : Input)
    (envelope : UntrustedEvidenceEnvelope) : Dispatch :=
  ⟨⟨projecting incidentId warrantId input envelope ++ [completing incidentId warrantId input], []⟩,
    none⟩

theorem projecting_ordinary {plant : Plant} {db : Database} {incidentId warrantId : String}
    {input : Input} {envelope : UntrustedEvidenceEnvelope} :
    (machine plant).Follows Ordinary db (projecting incidentId warrantId input envelope) :=
  ⟨⟨trivial, id⟩, ⟨trivial, id⟩, trivial⟩

/-- The attempt on a failed test leaves the repair to its task. -/
theorem projecting_awaits {plant : Plant} {launcher : Launcher.BundledIncidentLauncher}
    {incident : IncidentRecord} {record : WarrantRecord} {result : BrokerResult} {input : Input}
    {db : Database} (services : launcher.services = plant.gateway.services)
    (stopwatch : launcher.stopwatch = plant.stopwatch)
    (ready : Ready incident record result db) (renders : Renders launcher.services)
    (hashes : Launcher.Hashes launcher.sanitizer) (stored : input.stored = .ok ())
    (failed : result.status ≠ .executed)
    (tested : isIdentifier ("test_" ++ input.testUuids (result.receipts.length - 1)) = true) :
    ∃ envelope, AwaitsRepair incident record
      ((machine plant).run db (projecting incident.id record.id input envelope)) := by
  obtain ⟨noted, recorded, still⟩ := recordReceipt_ready ready renders hashes stored
  obtain ⟨envelope, performed⟩ := recordReceipt_performs services recorded
  obtain ⟨_, _, _, awaits⟩ := (@Ready.project_reaches launcher.services
    launcher.stopwatch noted incident record result still renders
    (fun executed => absurd executed failed) ("ev_" ++ input.evidenceUuid) input.testUuids
    input.eventUuids input.now tested).commit
  refine ⟨envelope, ?_⟩
  rw [projecting, Machine.run_cons, performed]
  rw [services, stopwatch] at awaits
  exact (awaits failed).1

theorem completing_works {plant : Plant} {db : Database} {incidentId warrantId : String}
    {input : Input} :
    ((machine plant).next db (completing incidentId warrantId input)).works = db.works := by
  refine @Transaction.commit_of_ensures _ _ _ db
    (appendEvent plant.gateway.services incidentId .bailiffCompleted "Bailiff" _ true
      (input.eventUuids 0) input.now) (fun next => next.works = db.works) ?_ rfl
  simp only [Store.appendEvent, ensures_bind, ensures_getIncident, if_true]
  intro incident _ moved middle appended
  obtain ⟨_, _, _, _, _, _, _, rfl⟩ := appendLocked_eq_ok appended
  intro _ last published
  obtain ⟨_, rfl⟩ := publishLocked_eq_ok published
  rfl

/-- The attempt records its receipt and projects a failed test; when the next append
raises, the repair stays pending without a task. -/
theorem interrupted_strands_repair {plant : Plant} {incident : IncidentRecord}
    {record : WarrantRecord} {input : Input} {envelope : UntrustedEvidenceEnvelope}
    {ownerId : String} {answers : Answers} {process : Process} {work : RuntimeWorkRecord}
    {claimed : Database}
    (awaits : AwaitsRepair incident record
      ((machine plant).run claimed (projecting incident.id record.id input envelope)))
    (claims : (claimRuntimeWork (executionWorkId record.id) ownerId answers.claimedAt).commit
      process.db = (.ok (some work), claimed))
    (bound : work.incidentId = incident.id ∧ work.warrantId = record.id)
    (kind : work.kind = .approvedExecution) (alone : answers.listing.writes = []) :
    ¬ NothingLeft (executionWorkId record.id)
      (interrupted incident.id record.id input envelope).failure
      (runRuntimeWork plant
        ⟨some fun incidentId warrantId _ => interrupted incidentId warrantId input envelope, none⟩
        ownerId (executionWorkId record.id) answers process) := by
  obtain ⟨taken, named⟩ := claimRuntimeWork_taken claims
  have held := run_ordinary (Taken.step not_false) taken
    (@projecting_ordinary plant claimed incident.id record.id input envelope)
  have dispatches : dispatchRuntimeWork
      ⟨some fun incidentId warrantId _ => interrupted incidentId warrantId input envelope, none⟩
        work ⟨claimed, process.tasks⟩ = interrupted incident.id record.id input envelope := by
    simp only [dispatchRuntimeWork, kind, resume, bound]
  intro left
  rw [runRuntimeWork_claimed claims, dispatches] at left
  have unattended := (@afterDispatch_iff plant
    (Process.await plant (executionWorkId record.id) ⟨claimed, process.tasks⟩
      (interrupted incident.id record.id input envelope).pause) (executionWorkId record.id)
    answers work
    (interrupted incident.id record.id input envelope).failure held named
    (by rw [alone]; trivial)).mp left
  rw [kind] at unattended
  refine awaitsRepair_unhandled awaits ?_ unattended
  intro listed
  have same : repairWorkId record.id = executionWorkId record.id := by
    simpa [Process.await, interrupted] using listed
  exact absurd (@workId_injective .testRepair .approvedExecution _ _ same).1 (by decide)

/-- The execution of a finished warrant, put back in the queue by a restart. -/
def sampleQueued : RuntimeWorkRecord where
  id := executionWorkId sampleConsumed.id
  incidentId := approvedIncident.id
  warrantId := sampleConsumed.id
  kind := .approvedExecution
  status := .pending
  ownerId := none
  attemptCount := 1
  createdAt := sampleIssuedAt
  updatedAt := sampleIssuedAt
  completedAt := none

def executionQueued : Database :=
  { executionFinished with works := Table.empty.insert sampleQueued rfl }

def sampleClaimed : RuntimeWorkRecord :=
  { sampleQueued with
    status := .running
    ownerId := some "worker-2"
    attemptCount := 2 }

def executionClaimed : Database :=
  { executionFinished with works := Table.empty.insert sampleClaimed rfl }

theorem executionQueued_claims :
    (claimRuntimeWork sampleQueued.id "worker-2" sampleIssuedAt).commit executionQueued =
      (.ok (some sampleClaimed), executionClaimed) := rfl

theorem executionClaimed_ready :
    Ready approvedIncident sampleConsumed sampleFailedResult executionClaimed where
  stage := executionFinished_ready.stage.elsewhere rfl rfl rfl
  approved := rfl
  row := executionFinished_ready.row
  owner := rfl
  named := executionFinished_ready.named
  checked := executionFinished_ready.checked
  untested := rfl
  work := ⟨sampleClaimed, rfl, rfl, rfl, rfl⟩
  unrepaired := rfl

def sampleTask : Answers := ⟨sampleIssuedAt, sampleIssuedAt, "9", ⟨[], []⟩⟩

theorem executionClaimed_awaits : ∃ envelope, AwaitsRepair approvedIncident sampleConsumed
    ((machine (samplePlant sampleIdle)).run executionClaimed
      (projecting approvedIncident.id sampleConsumed.id sampleAnswers envelope)) :=
  @projecting_awaits (samplePlant sampleIdle) sampleLauncher approvedIncident sampleConsumed
    sampleFailedResult sampleAnswers executionClaimed rfl rfl executionClaimed_ready
    (sample_renders sampleIdle) sampleSanitizer_hashes rfl (by decide) (by decide)

theorem sample_repair_stranded :
    ∃ envelope, ¬ NothingLeft sampleQueued.id
      (interrupted approvedIncident.id sampleConsumed.id sampleAnswers envelope).failure
      (runRuntimeWork (samplePlant sampleIdle)
        ⟨some fun incidentId warrantId _ =>
          interrupted incidentId warrantId sampleAnswers envelope, none⟩
        "worker-2" sampleQueued.id sampleTask ⟨executionQueued, [sampleQueued.id]⟩) := by
  obtain ⟨envelope, awaits⟩ := executionClaimed_awaits
  exact ⟨envelope, interrupted_strands_repair awaits executionQueued_claims ⟨rfl, rfl⟩ rfl rfl⟩

/-- A dispatch that projects a failed test and returns leaves the repair a task. -/
theorem sample_work_scheduled : ∃ envelope process,
    runRuntimeWork (samplePlant sampleIdle)
        ⟨some fun incidentId warrantId _ =>
          returned incidentId warrantId sampleAnswers envelope, none⟩
        "worker-2" sampleQueued.id sampleTask ⟨executionQueued, [sampleQueued.id]⟩ = process ∧
      NothingLeft sampleQueued.id none process ∧
      ∃ repair, process.db.works.find (repairWorkId sampleConsumed.id) = some repair ∧
        repair.status = .pending ∧ repair.id ∈ process.tasks := by
  obtain ⟨envelope, _, ⟨repair, found, waiting⟩, _⟩ := executionClaimed_awaits
  have left := (pending_work_scheduled (samplePlant sampleIdle)
    ⟨some fun incidentId warrantId _ => returned incidentId warrantId sampleAnswers envelope, none⟩
    "worker-2" sampleQueued.id sampleTask ⟨executionQueued, [sampleQueued.id]⟩ sampleClaimed
    executionClaimed (returned approvedIncident.id sampleConsumed.id sampleAnswers envelope)
    executionQueued_claims rfl
    ((Machine.follows_append _).mpr ⟨projecting_ordinary, ⟨rfl, id⟩, trivial⟩) trivial).mpr
      trivial
  have ends := @runRuntimeWork_db (samplePlant sampleIdle)
    ⟨executionQueued, [sampleQueued.id]⟩ sampleQueued.id
    ⟨some fun incidentId warrantId _ => returned incidentId warrantId sampleAnswers envelope, none⟩
    "worker-2" sampleTask sampleClaimed executionClaimed
    (returned approvedIncident.id sampleConsumed.id sampleAnswers envelope)
    executionQueued_claims rfl rfl
  generalize ran : runRuntimeWork _ _ _ _ _ _ = process at left ends
  have present : process.db.works.find (repairWorkId sampleConsumed.id) = some repair := by
    rw [ends]
    simp only [returned, sampleTask, List.append_nil]
    rw [Machine.run_append, Machine.run_cons, Machine.run_nil, completing_works]
    exact found
  exact ⟨envelope, process, ran, left, repair, present, waiting,
    left.1 repair (Table.mem_of_find present) waiting⟩

end CrossPatch.Runtime.Scheduling
