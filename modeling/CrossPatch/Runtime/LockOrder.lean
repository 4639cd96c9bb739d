import CrossPatch.Library.RowLocks
import CrossPatch.Runtime.ExecutionAuthority

/-!
# The order of row locks

Three transactions of the runtime store lock a work row and then its incident,
three lock the incident and then a work row.  The rows are locked by
`SELECT ... FOR UPDATE`, the execution work of a projection by its update, and the
published case by the update at the end.
-/

namespace CrossPatch.Runtime.LockOrder

open CrossPatch.Broker.Claim CrossPatch.Broker.Store
open CrossPatch.Domain.Failure CrossPatch.Domain.StateMachine
open CrossPatch.Library CrossPatch.Library.Attempt CrossPatch.Library.Calendar
open CrossPatch.Library.RowLocks CrossPatch.Library.Transaction
open CrossPatch.Runner.Results
open CrossPatch.Runtime.BrokerResults CrossPatch.Runtime.ExecutionAuthority
open CrossPatch.Runtime.Records CrossPatch.Runtime.Store CrossPatch.Runtime.Timeline

inductive Row where
  | incident (id : String)
  | work (id : String)
  | publishedCase (incidentId : String)
  deriving DecidableEq

inductive Call where
  | claimRuntimeWork (id ownerId : String) (now : Instant)
  | failRuntimeWork (id operation failureOutcome uuid : String) (now : Instant)
  | requeueInterruptedRuntimeWork (now : Instant)
  | completeRepairWork (incidentId warrantId : String) (now : Instant)
  | recordExecutionFailure (incidentId warrantId errorCode uuid : String) (now : Instant)
  | projectBrokerResult (incidentId warrantId evidenceId : String)
      (testUuids eventUuids : Nat → String) (now : Instant)

section Scripts

variable (services : Services) (stopwatch : Stopwatch)

/-- What a call leaves in the database. -/
def effect : Call → Database → Database
  | .claimRuntimeWork id ownerId now, db => ((claimRuntimeWork id ownerId now).commit db).2
  | .failRuntimeWork id operation outcome uuid now, db =>
      ((failRuntimeWork services id operation outcome uuid now).commit db).2
  | .requeueInterruptedRuntimeWork now, db => ((requeueInterruptedRuntimeWork now).commit db).2
  | .completeRepairWork incidentId warrantId now, db =>
      ((completeRepairWork incidentId warrantId now).commit db).2
  | .recordExecutionFailure incidentId warrantId errorCode uuid now, db =>
      ((recordExecutionFailure services incidentId warrantId errorCode uuid now).commit db).2
  | .projectBrokerResult incidentId warrantId evidenceId testUuids eventUuids now, db =>
      ((projectBrokerResult services stopwatch incidentId warrantId evidenceId testUuids eventUuids
        now).commit db).2

/-- `SELECT ... FOR UPDATE` locks the row if there is one. -/
def selectForUpdate (present : Database → Bool) (row : Row) (next : Script Row Database) :
    Script Row Database :=
  .read fun db => if present db then .lock row next else next

def lockIncident (id : String) (next : Script Row Database) : Script Row Database :=
  selectForUpdate (fun db => (db.incidents.find id).isSome) (.incident id) next

def lockWork (id : String) (next : Script Row Database) : Script Row Database :=
  selectForUpdate (fun db => (db.works.find id).isSome) (.work id) next

/-- A call that has succeeded so far updates the published case. -/
def updateCase (succeeds : Database → Bool) (incidentId : String) (next : Script Row Database) :
    Script Row Database :=
  selectForUpdate (fun db => succeeds db && (db.cases.find incidentId).isSome)
    (.publishedCase incidentId) next

def lockAll : List Row → Script Row Database → Script Row Database
  | [], next => next
  | row :: rest, next => .lock row (lockAll rest next)

/-- The incidents of the work rows one by one; a missing one ends the transaction. -/
def lockIncidents : List RuntimeWorkRecord → Script Row Database → Script Row Database
  | [], done => done
  | row :: rest, done =>
      .read fun db =>
        match db.incidents.find row.incidentId with
        | none => done
        | some _ => .lock (.incident row.incidentId) (lockIncidents rest done)

def succeeds {α : Type} (transaction : Tx α) (db : Database) : Bool :=
  match transaction.run db with
  | .ok _ => true
  | .error _ => false

def runningRows (db : Database) : List RuntimeWorkRecord :=
  db.works.rows.filter fun row => row.status = .running

/-- `project_broker_result` up to the update of the execution work; it answers whether
it gets there. -/
def projectToWork (incidentId warrantId evidenceId : String) (testUuids eventUuids : Nat → String)
    (now : Instant) : Tx Bool := do
  let db ← Transaction.read
  let incident ← Transaction.lift
    (needed (db.incidents.find incidentId) (lookupError warrantId))
  let record ← Transaction.lift (needed
    ((db.broker.warrants warrantId).filter fun record =>
      record.id = warrantId ∧ record.incidentId = incidentId)
    (lookupError warrantId))
  let result ← Transaction.lift (checkBrokerResult record warrantId)
  let projected ← Transaction.lift
    (projectedBrokerResultLocked services stopwatch db incident record result)
  match projected with
  | some _ => pure false
  | none => do
      let claimedAt ← Transaction.lift
        (needed record.claimedAt ⟨.valueError, "broker result is not durably complete"⟩)
      let claimId ← Transaction.lift (claimIdentifier warrantId claimedAt)
      let started ← appendLocked services incident (.state .executionStarted) "broker"
        [("claim_id", .str claimId), ("warrant_id", .str warrantId)] true (eventUuids 0) now
      recordTests services stopwatch incident.id warrantId evidenceId testUuids now 0
        result.receipts
      let passed := result.receipts.all (·.passed)
      let _ ← appendLocked services started
        (if passed then .state .verified else .state .testFailed) "broker"
        [(if passed then "receipt_id" else "test_run_id",
          .str ("test_" ++ testUuids (result.receipts.length - 1))),
         ("warrant_id", .str warrantId), ("evidence_id", .str evidenceId)] true (eventUuids 1) now
      let db ← Transaction.read
      let _ ← Transaction.lift (needed
        ((db.works.find (executionWorkId warrantId)).filter fun row =>
          row.incidentId = started.id ∧ row.warrantId = warrantId ∧ row.kind = .approvedExecution)
        ⟨.valueError, "broker result has no matching durable execution work"⟩)
      pure true

def updatesWork (incidentId warrantId evidenceId : String) (testUuids eventUuids : Nat → String)
    (now : Instant) (db : Database) : Bool :=
  match (projectToWork services stopwatch incidentId warrantId evidenceId testUuids eventUuids
    now).run db with
  | .ok (reached, _) => reached
  | .error _ => false

/-- The statements of a call, as far as they take locks. -/
def script (call : Call) : Script Row Database :=
  let done : Script Row Database := .finish (effect services stopwatch call)
  match call with
  | .claimRuntimeWork id _ _ =>
      lockWork id <| .read fun db =>
        match db.works.find id with
        | none => done
        | some work => if work.status ≠ .pending then done else lockIncident work.incidentId done
  | .failRuntimeWork id operation outcome uuid now =>
      lockWork id <| .read fun db =>
        match db.works.find id with
        | none => done
        | some work =>
            lockIncident work.incidentId <|
              updateCase (fun db => decide (work.status ≠ .completed) &&
                succeeds (failRuntimeWork services id operation outcome uuid now) db)
                work.incidentId done
  | .requeueInterruptedRuntimeWork _ =>
      .read fun db =>
        lockAll ((runningRows db).map fun row => .work row.id) (.read fun db =>
          lockIncidents (runningRows db) done)
  | .completeRepairWork incidentId warrantId _ =>
      lockIncident incidentId (lockWork (repairWorkId warrantId) done)
  | .recordExecutionFailure incidentId warrantId errorCode uuid now =>
      lockIncident incidentId <| lockWork (executionWorkId warrantId) <|
        updateCase
          (succeeds (recordExecutionFailure services incidentId warrantId errorCode uuid now))
          incidentId done
  | .projectBrokerResult incidentId warrantId evidenceId testUuids eventUuids now =>
      lockIncident incidentId <|
        selectForUpdate
          (updatesWork services stopwatch incidentId warrantId evidenceId testUuids eventUuids now)
          (.work (executionWorkId warrantId)) <|
        updateCase (fun db =>
            updatesWork services stopwatch incidentId warrantId evidenceId testUuids eventUuids now
              db &&
            succeeds (projectBrokerResult services stopwatch incidentId warrantId evidenceId
              testUuids eventUuids now) db)
          incidentId done

/-! ## The rows of a call -/

def present (found : Bool) (row : Row) : List Row :=
  if found then [row] else []

def incidentRow (db : Database) (id : String) : List Row :=
  present (db.incidents.find id).isSome (.incident id)

def workRow (db : Database) (id : String) : List Row :=
  present (db.works.find id).isSome (.work id)

def caseRow (db : Database) (updates : Bool) (incidentId : String) : List Row :=
  present (updates && (db.cases.find incidentId).isSome) (.publishedCase incidentId)

/-- The rows that a call locks in a state, in the order of their locks. -/
def lockedRows (db : Database) : Call → List Row
  | .claimRuntimeWork id _ _ =>
      match db.works.find id with
      | none => []
      | some work =>
          .work id ::
            if work.status ≠ .pending then [] else incidentRow db work.incidentId
  | .failRuntimeWork id operation outcome uuid now =>
      match db.works.find id with
      | none => []
      | some work =>
          .work id :: (incidentRow db work.incidentId ++
            caseRow db (decide (work.status ≠ .completed) &&
              succeeds (failRuntimeWork services id operation outcome uuid now) db)
              work.incidentId)
  | .requeueInterruptedRuntimeWork _ =>
      (runningRows db).map (fun row => .work row.id) ++
        ((runningRows db).takeWhile fun row => (db.incidents.find row.incidentId).isSome).map
          fun row => .incident row.incidentId
  | .completeRepairWork incidentId warrantId _ =>
      incidentRow db incidentId ++ workRow db (repairWorkId warrantId)
  | .recordExecutionFailure incidentId warrantId errorCode uuid now =>
      incidentRow db incidentId ++ (workRow db (executionWorkId warrantId) ++
        caseRow db
          (succeeds (recordExecutionFailure services incidentId warrantId errorCode uuid now) db)
          incidentId)
  | .projectBrokerResult incidentId warrantId evidenceId testUuids eventUuids now =>
      let updates :=
        updatesWork services stopwatch incidentId warrantId evidenceId testUuids eventUuids now db
      incidentRow db incidentId ++ (present updates (.work (executionWorkId warrantId)) ++
        caseRow db
          (updates && succeeds (projectBrokerResult services stopwatch incidentId warrantId
            evidenceId testUuids eventUuids now) db)
          incidentId)

variable {services stopwatch} {db : Database}

theorem order_selectForUpdate {found : Database → Bool} {row : Row} {next : Script Row Database} :
    (selectForUpdate found row next).order db = present (found db) row ++ next.order db := by
  unfold selectForUpdate present
  rw [Script.order]
  split
  · rfl
  · rfl

theorem order_lockAll {next : Script Row Database} :
    ∀ rows : List Row, (lockAll rows next).order db = rows ++ next.order db
  | [] => rfl
  | row :: rest => congrArg (row :: ·) (order_lockAll rest)

theorem order_lockIncidents {done : Script Row Database} (ends : done.order db = []) :
    ∀ rows : List RuntimeWorkRecord, (lockIncidents rows done).order db =
      (rows.takeWhile fun row => (db.incidents.find row.incidentId).isSome).map
        fun row => .incident row.incidentId
  | [] => ends
  | row :: rest => by
      rw [lockIncidents, Script.order, List.takeWhile_cons]
      cases found : db.incidents.find row.incidentId with
      | none => exact ends
      | some incident => exact congrArg _ (order_lockIncidents ends rest)

theorem order_script (call : Call) :
    (script services stopwatch call).order db = lockedRows services stopwatch db call := by
  cases call with
  | claimRuntimeWork id ownerId now =>
      simp only [script, lockedRows, lockWork, order_selectForUpdate, Script.order]
      cases found : db.works.find id with
      | none => rfl
      | some work =>
          refine congrArg (Row.work id :: ·) ?_
          dsimp only
          split
          · rfl
          · exact order_selectForUpdate.trans (List.append_nil _)
  | failRuntimeWork id operation outcome uuid now =>
      simp only [script, lockedRows, lockWork, order_selectForUpdate, Script.order]
      cases found : db.works.find id with
      | none => rfl
      | some work =>
          refine congrArg (Row.work id :: ·) ?_
          dsimp only
          rw [lockIncident, updateCase, order_selectForUpdate, order_selectForUpdate, Script.order,
            List.append_nil]
          rfl
  | requeueInterruptedRuntimeWork now =>
      rw [script, Script.order, order_lockAll, Script.order, order_lockIncidents rfl]
      rfl
  | completeRepairWork incidentId warrantId now =>
      rw [script, lockIncident, lockWork, order_selectForUpdate, order_selectForUpdate,
        Script.order, List.append_nil]
      rfl
  | recordExecutionFailure incidentId warrantId errorCode uuid now =>
      rw [script, lockIncident, lockWork, updateCase, order_selectForUpdate,
        order_selectForUpdate, order_selectForUpdate, Script.order, List.append_nil]
      rfl
  | projectBrokerResult incidentId warrantId evidenceId testUuids eventUuids now =>
      rw [script, lockIncident, updateCase, order_selectForUpdate, order_selectForUpdate,
        order_selectForUpdate, Script.order, List.append_nil]
      rfl

/-! ## Two orders of rows -/

/-- The calls that lock work rows before incidents; the others do it the other way. -/
def workFirst : Call → Bool
  | .claimRuntimeWork .. | .failRuntimeWork .. | .requeueInterruptedRuntimeWork .. => true
  | .completeRepairWork .. | .recordExecutionFailure .. | .projectBrokerResult .. => false

def workRank : Row → Nat
  | .work _ => 0
  | .incident _ => 1
  | .publishedCase _ => 2

def incidentRank : Row → Nat
  | .incident _ => 0
  | .work _ => 1
  | .publishedCase _ => 2

/-- One row of each kind at most. -/
def Single (rows : List Row) : Prop :=
  ∀ row ∈ rows, ∀ row' ∈ rows, workRank row = workRank row' → row = row'

@[simp]
theorem mem_present {found : Bool} {row row' : Row} :
    row' ∈ present found row ↔ found = true ∧ row' = row := by
  unfold present
  split <;> simp [*]

@[simp]
theorem pairwise_present {found : Bool} {row : Row} {relation : Row → Row → Prop} :
    (present found row).Pairwise relation := by
  unfold present
  split <;> simp

theorem same_rank {row row' : Row} :
    incidentRank row = incidentRank row' ↔ workRank row = workRank row' := by
  cases row <;> cases row' <;> simp [incidentRank, workRank]

theorem sorted_workFirst {call : Call} (first : workFirst call = true) :
    (lockedRows services stopwatch db call).Pairwise fun row row' =>
      workRank row ≤ workRank row' := by
  cases call with
  | claimRuntimeWork id ownerId now =>
      simp only [lockedRows, incidentRow]
      split
      · exact List.Pairwise.nil
      · rw [List.pairwise_cons]
        refine ⟨fun _ _ => Nat.zero_le _, ?_⟩
        split
        · exact List.Pairwise.nil
        · exact pairwise_present
  | failRuntimeWork id operation outcome uuid now =>
      simp only [lockedRows, incidentRow, caseRow]
      split
      · exact List.Pairwise.nil
      · rw [List.pairwise_cons, List.pairwise_append]
        refine ⟨fun _ _ => Nat.zero_le _, pairwise_present, pairwise_present, ?_⟩
        intro row member row' member'
        rw [(mem_present.mp member).2, (mem_present.mp member').2]
        exact Nat.le_succ 1
  | requeueInterruptedRuntimeWork now =>
      rw [lockedRows, List.pairwise_append, List.pairwise_map, List.pairwise_map]
      refine ⟨?_, ?_, ?_⟩
      · exact List.pairwise_of_forall fun _ _ => Nat.le_refl _
      · exact List.pairwise_of_forall fun _ _ => Nat.le_refl _
      · intro row member row' _
        obtain ⟨work, _, rfl⟩ := List.mem_map.mp member
        exact Nat.zero_le _
  | completeRepairWork | recordExecutionFailure | projectBrokerResult => cases first

/-- The rows of an incident, a work row and a case, in this order. -/
theorem sorted_rows {found found' found'' : Bool} {incidentId workId caseId : String} :
    (present found (.incident incidentId) ++
      (present found' (.work workId) ++ present found'' (.publishedCase caseId))).Pairwise
        fun row row' => incidentRank row ≤ incidentRank row' := by
  simp only [List.pairwise_append, pairwise_present, List.mem_append, mem_present, true_and]
  constructor
  · rintro _ ⟨_, rfl⟩ _ ⟨_, rfl⟩
    exact Nat.le_succ 1
  · rintro _ ⟨_, rfl⟩ _ _
    exact Nat.zero_le _

theorem single_rows {found found' found'' : Bool} {incidentId workId caseId : String} :
    Single (present found (.incident incidentId) ++
      (present found' (.work workId) ++ present found'' (.publishedCase caseId))) := by
  intro row member row' member' same
  simp only [List.mem_append, mem_present] at member member'
  rcases member with ⟨_, rfl⟩ | ⟨_, rfl⟩ | ⟨_, rfl⟩ <;>
    rcases member' with ⟨_, rfl⟩ | ⟨_, rfl⟩ | ⟨_, rfl⟩ <;> simp_all [workRank]

theorem Single.of_subset {rows rows' : List Row} (single : Single rows') (subset : rows ⊆ rows') :
    Single rows := fun row member row' member' =>
  single row (subset member) row' (subset member')

theorem single_workRows {found found' : Bool} {workId incidentId caseId : String} :
    Single (.work workId ::
      (present found (.incident incidentId) ++ present found' (.publishedCase caseId))) := by
  refine (@single_rows found true found' incidentId workId caseId).of_subset ?_
  intro row member
  rw [List.mem_cons, List.mem_append] at member
  simp only [List.mem_append]
  rcases member with rfl | incident | publishedCase
  · exact Or.inr (Or.inl (mem_present.mpr ⟨rfl, rfl⟩))
  · exact Or.inl incident
  · exact Or.inr (Or.inr publishedCase)

/-- Only recovery locks several work rows or several incidents. -/
theorem single_or_requeue {call : Call} (first : workFirst call = true) :
    Single (lockedRows services stopwatch db call) ∨
      ∃ now, call = .requeueInterruptedRuntimeWork now := by
  cases call with
  | requeueInterruptedRuntimeWork now => exact Or.inr ⟨now, rfl⟩
  | completeRepairWork | recordExecutionFailure | projectBrokerResult => cases first
  | claimRuntimeWork id ownerId now =>
      left
      simp only [lockedRows]
      split
      · simp [Single]
      · rename_i work found
        refine (@single_workRows (db.incidents.find work.incidentId).isSome false id
          work.incidentId work.incidentId).of_subset ?_
        split
        · simp
        · simp [incidentRow]
  | failRuntimeWork id operation outcome uuid now =>
      left
      simp only [lockedRows]
      split
      · simp [Single]
      · exact single_workRows

/-- The incident-first calls lock an incident, a work row and a case at most. -/
theorem rows_incidentFirst {call : Call} (first : workFirst call = false) :
    ∃ found found' found'' incidentId workId caseId,
      lockedRows services stopwatch db call = present found (.incident incidentId) ++
        (present found' (.work workId) ++ present found'' (.publishedCase caseId)) := by
  cases call with
  | claimRuntimeWork | failRuntimeWork | requeueInterruptedRuntimeWork => cases first
  | completeRepairWork incidentId warrantId now =>
      refine ⟨(db.incidents.find incidentId).isSome,
        (db.works.find (repairWorkId warrantId)).isSome, false, incidentId, repairWorkId warrantId,
        incidentId, ?_⟩
      rw [present.eq_def false, if_neg Bool.false_ne_true, List.append_nil]
      rfl
  | recordExecutionFailure incidentId warrantId errorCode uuid now =>
      exact ⟨_, _, _, _, _, _, rfl⟩
  | projectBrokerResult incidentId warrantId evidenceId testUuids eventUuids now =>
      exact ⟨_, _, _, _, _, _, rfl⟩

/-- A call that locks a work row first locks its incident later. -/
theorem rows_workFirst {call : Call} (first : workFirst call = true) :
    ∃ early late, lockedRows services stopwatch db call = early ++ late ∧
      (∀ row ∈ early, workRank row = 0) ∧ ∀ row ∈ late, workRank row ≠ 0 := by
  cases call with
  | claimRuntimeWork id ownerId now =>
      simp only [lockedRows, incidentRow]
      split
      · exact ⟨[], [], rfl, by simp⟩
      · refine ⟨[.work id], _, List.singleton_append.symm, by simp [workRank], ?_⟩
        split
        · simp
        · simp [workRank]
  | failRuntimeWork id operation outcome uuid now =>
      simp only [lockedRows, incidentRow, caseRow]
      split
      · exact ⟨[], [], rfl, by simp⟩
      · refine ⟨[.work id], _, List.singleton_append.symm, by simp [workRank], ?_⟩
        intro row member
        rw [List.mem_append, mem_present, mem_present] at member
        rcases member with ⟨_, rfl⟩ | ⟨_, rfl⟩
        · simp [workRank]
        · simp [workRank]
  | requeueInterruptedRuntimeWork now =>
      exact ⟨_, _, rfl, by simp [workRank], by simp [workRank]⟩
  | completeRepairWork | recordExecutionFailure | projectBrokerResult => cases first

/-! ## Deadlocks -/

/-- Some incident row and some work row are locked by both calls. -/
def SharesRows (rows rows' : List Row) : Prop :=
  (∃ incidentId, .incident incidentId ∈ rows ∧ .incident incidentId ∈ rows') ∧
    ∃ workId, .work workId ∈ rows ∧ .work workId ∈ rows'

theorem SharesRows.symm {rows rows' : List Row} (shares : SharesRows rows rows') :
    SharesRows rows' rows := by
  obtain ⟨⟨incidentId, first, second⟩, workId, third, fourth⟩ := shares
  exact ⟨⟨incidentId, second, first⟩, workId, fourth, third⟩

variable {call call' : Call}

/-- A work-first and an incident-first call cross exactly at the rows that they share. -/
theorem crossing_iff_shares (first : workFirst call = true) (first' : workFirst call' = false) :
    Crossing (lockedRows services stopwatch db call) (lockedRows services stopwatch db call') ↔
      SharesRows (lockedRows services stopwatch db call)
        (lockedRows services stopwatch db call') := by
  obtain ⟨found, found', found'', incidentId, workId, caseId, rows'⟩ :=
    @rows_incidentFirst services stopwatch db call' first'
  constructor
  · intro crossing
    have sorted' : (lockedRows services stopwatch db call').Pairwise fun row row' =>
        incidentRank row ≤ incidentRank row' := rows' ▸ sorted_rows
    have single : Single (lockedRows services stopwatch db call') := rows' ▸ single_rows
    obtain ⟨row, row', differs, shared, shared', lower, upper⟩ :=
      crossing.opposed (sorted_workFirst first) sorted'
    have strict : workRank row ≠ workRank row' := fun same =>
      differs (single row shared.2 row' shared'.2 same)
    cases row with
    | incident id =>
        cases row' with
        | work id' => exact ⟨⟨id, shared⟩, id', shared'⟩
        | incident id' => exact absurd rfl strict
        | publishedCase id' => exact absurd lower (by simp [workRank])
    | work id =>
        cases row' with
        | incident id' => exact absurd upper (by simp [incidentRank])
        | work id' => exact absurd rfl strict
        | publishedCase id' => exact absurd lower (by simp [workRank])
    | publishedCase id =>
        cases row' with
        | incident id' => exact absurd upper (by simp [incidentRank])
        | work id' => exact absurd upper (by simp [incidentRank])
        | publishedCase id' => exact absurd rfl strict
  · rintro ⟨⟨id, inside, inside'⟩, other, member, member'⟩
    obtain ⟨early, late, rows, works, others⟩ := @rows_workFirst services stopwatch db call first
    rw [rows, List.mem_append] at inside member
    simp only [rows', List.mem_append, mem_present, reduceCtorEq, and_false, or_false, false_or,
      Row.incident.injEq, Row.work.injEq] at inside' member'
    obtain ⟨taken, rfl⟩ := inside'
    obtain ⟨taken', rfl⟩ := member'
    have absent : Row.incident id ∉ early := fun early => absurd (works _ early) (by simp [workRank])
    have listed : Row.work other ∉ late := fun late => others _ late rfl
    rw [taken, taken'] at rows'
    exact crossing_of_opposed rows rows' absent (inside.resolve_left absent)
      (member.resolve_right listed)

/-- Two calls of one kind never cross. -/
theorem not_crossing_of_same (same : workFirst call = workFirst call') :
    ¬ Crossing (lockedRows services stopwatch db call)
      (lockedRows services stopwatch db call') := by
  cases first : workFirst call with
  | false =>
      obtain ⟨_, _, _, _, _, _, rows⟩ := @rows_incidentFirst services stopwatch db call first
      obtain ⟨_, _, _, _, _, _, rows'⟩ :=
        @rows_incidentFirst services stopwatch db call' (same ▸ first)
      rw [rows, rows']
      refine not_crossing_of_ranked sorted_rows sorted_rows ?_
      intro row member row' member' ranks
      exact single_rows row member row' member' (same_rank.mp ranks)
  | true =>
      have first' : workFirst call' = true := same ▸ first
      have sorted := @sorted_workFirst services stopwatch db call first
      have sorted' := @sorted_workFirst services stopwatch db call' first'
      rcases @single_or_requeue services stopwatch db call first with single | ⟨now, rfl⟩
      · exact not_crossing_of_ranked sorted sorted' single
      · rcases @single_or_requeue services stopwatch db call' first' with single | ⟨now', rfl⟩
        · exact fun crossing => not_crossing_of_ranked sorted' sorted single crossing.symm
        · exact not_crossing_self _

/-- One call locks work rows first, the other one incidents, and they share a row of each
kind. -/
def Opposed (services : Services) (stopwatch : Stopwatch) (db : Database) (call call' : Call) :
    Prop :=
  workFirst call ≠ workFirst call' ∧
    SharesRows (lockedRows services stopwatch db call) (lockedRows services stopwatch db call')

/-- Two calls never wait for each other exactly if they are not opposed. -/
theorem deadlock_free_iff (services : Services) (stopwatch : Stopwatch) (db : Database)
    (call call' : Call) :
    (∀ config, Reaches
        (.start (script services stopwatch call) (script services stopwatch call') db) config →
      ¬ Deadlocked config) ↔ ¬ Opposed services stopwatch db call call' := by
  have crosses : (∃ config, Reaches
        (.start (script services stopwatch call) (script services stopwatch call') db) config ∧
      Deadlocked config) ↔ Opposed services stopwatch db call call' := by
    rw [deadlock_iff_crossing, order_script, order_script, Opposed]
    by_cases same : workFirst call = workFirst call'
    · simp [same, not_crossing_of_same same]
    · simp only [ne_eq, same, not_false_eq_true, true_and]
      cases first : workFirst call with
      | true => exact crossing_iff_shares first (by simpa [first] using Ne.symm same)
      | false =>
          have first' : workFirst call' = true := by simpa [first] using Ne.symm same
          constructor
          · intro crossing
            exact ((crossing_iff_shares first' first).mp crossing.symm).symm
          · intro shares
            exact ((crossing_iff_shares first' first).mpr shares.symm).symm
  rw [← crosses]
  simp

end Scripts

/-- A worker that gives its execution up and one that records that it failed can wait for
each other. -/
theorem failed_execution_deadlocks :
    ∃ config, Reaches
      (.start
        (script (sampleServices sampleIdle) ⟨fun _ _ => 0⟩
          (.failRuntimeWork (executionWorkId "warrant-1") "execution" "RuntimeError" "1"
            sampleIssuedAt))
        (script (sampleServices sampleIdle) ⟨fun _ _ => 0⟩
          (.recordExecutionFailure sampleInput.incidentId "warrant-1" "EXECUTION_FAILED" "2"
            sampleIssuedAt))
        executionUnderWay) config ∧ Deadlocked config := by
  rw [deadlock_iff_crossing, order_script, order_script, crossing_iff_shares rfl rfl]
  refine ⟨⟨sampleInput.incidentId, ?_, ?_⟩, executionWorkId "warrant-1", ?_, ?_⟩
  · exact List.mem_cons_of_mem _ (List.mem_append_left _ (mem_present.mpr ⟨rfl, rfl⟩))
  · exact List.mem_append_left _ (mem_present.mpr ⟨rfl, rfl⟩)
  · exact List.mem_cons_self
  · exact List.mem_append_right _ (List.mem_append_left _ (mem_present.mpr ⟨rfl, rfl⟩))

end CrossPatch.Runtime.LockOrder
