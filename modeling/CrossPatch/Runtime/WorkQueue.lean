import CrossPatch.Runtime.ControlPlane
import CrossPatch.Runtime.Progress

/-!
# The work queue across crashes and recovery

In every reachable state an incident that waits for a worker has work for it, and
claims of a work row are one to a requeue.
-/

namespace CrossPatch.Runtime.WorkQueue

open CrossPatch.Domain.Failure CrossPatch.Domain.StateMachine
open CrossPatch.Library CrossPatch.Library.Calendar CrossPatch.Library.Runs
open CrossPatch.Library.Transaction
open CrossPatch.Runtime.ControlPlane CrossPatch.Runtime.Protocol CrossPatch.Runtime.QueueRefinement
open CrossPatch.Runtime.Records CrossPatch.Runtime.Refinement CrossPatch.Runtime.Staffing
open CrossPatch.Runtime.Store

variable {plant : Plant} {db : Database} {id : String}

/-! ## One claim to a requeue -/

/-- A row that is not there to be claimed. -/
def Taken (view : View) (id : String) : Prop :=
  ∃ work, view.works id = some work ∧ work.status ≠ .pending

/-- Recovery is the only step that returns a row to the queue. -/
theorem Taken.step {regime : Regime} (settled : ¬ regime.requeues) {before after : View}
    (step : Step regime before after) (taken : Taken before id) : Taken after id := by
  obtain ⟨work, found, status⟩ := taken
  have row : Taken before id := ⟨work, found, status⟩
  cases step with
  | opened | moved | cleared | approvalOpened | settled | brokerMoved => exact row
  | approved => exact ⟨work, by simp [found], status⟩
  | verified => unfold Taken; grind
  | testFailed => unfold Taken; grind
  | claimed => unfold Taken; grind
  | requeued _ _ recovers => exact absurd recovers settled
  | released => unfold Taken; grind
  | failed => unfold Taken; grind
  | repairCompleted => unfold Taken; grind

/-- No condition but that there is no recovery. -/
def withoutRecovery : Regime := ⟨fun _ _ _ => True, False, fun _ _ => True, True⟩

theorem admits_withoutRecovery {action : Action} (keeps : ¬ Requeues action) :
    Admits withoutRecovery db action := by
  cases action with
  | requeueInterruptedRuntimeWork => exact keeps trivial
  | recordVerdict => exact fun _ => trivial
  | completeRepairWork => exact fun _ _ _ _ _ => .inr trivial
  | recordExecutionFailure => exact fun _ _ _ _ _ => .inr trivial
  | _ => trivial

/-- A claim that succeeds found the row pending and leaves it running. -/
theorem claimRuntimeWork_claims {ownerId : String} {now : Instant} :
    (claimRuntimeWork id ownerId now).Ensures db fun claimed next => claimed.isSome = true →
      ¬ Taken (view db) id ∧ Taken (view next) id := by
  simp only [claimRuntimeWork, ensures_bind, ensures_read]
  split
  · simp
  · rename_i work found
    obtain rfl := Table.key_of_find found
    refine ensures_ite (fun _ => by simp) (fun waiting => ?_)
    simp only [ensures_bind, ensures_getIncident]
    intro incident owned
    refine ensures_ite (fun _ => ?_) (fun _ => ?_)
    · refine ensures_ite (fun _ => by simp [writeWork]) (fun _ => ?_)
      rw [ensures_lift]
      intro _ impossible
      cases impossible
    · simp only [writeWork, ensures_bind, ensures_change, ensures_pure]
      intro _
      constructor
      · rintro ⟨row, present, status⟩
        rw [view_work found, Option.some.injEq] at present
        subst present
        exact status (not_not.mp waiting)
      · refine ⟨{ workView work with status := .running }, ?_, by simp⟩
        rw [view, view_setStatus found (by exact ⟨rfl, rfl⟩), View.setWork_works, if_pos rfl]

theorem settleClaim_events (id : String) (claim : Tx (Option RuntimeWorkRecord)) (db : Database) :
    (settleClaim id claim db).2 =
      match (claim.commit db).1 with
      | .ok (some _) => [.workClaimed id]
      | _ => [] := by
  unfold settleClaim
  rcases claim.commit db with ⟨_ | _ | _, _⟩ <;> rfl

/-- Only claims of the row itself count as its claims. -/
theorem events_claimed {action : Action}
    (fired : 0 < ((machine plant).events db action).countP (· == .workClaimed id)) :
    ((machine plant).events db action) = [.workClaimed id] ∧ ∃ ownerId now claimed,
      action = .claimRuntimeWork id ownerId now ∧
        ((claimRuntimeWork id ownerId now).commit db).1 = .ok (some claimed) := by
  cases action with
  | claimRuntimeWork other ownerId now =>
      change 0 < (settleClaim other (claimRuntimeWork other ownerId now) db).2.countP _ at fired
      change (settleClaim other (claimRuntimeWork other ownerId now) db).2 = _ ∧ _
      rw [settleClaim_events] at fired ⊢
      split at fired
      · rename_i claimed outcome
        have same : other = id := by
          by_contra differs
          simp [differs] at fired
        subst same
        exact ⟨rfl, ownerId, now, claimed, rfl, outcome⟩
      · simp at fired
  | _ => exact absurd fired (by simp [Machine.events, machine, perform, settle])

/-- The claims of a row are guarded by its status as long as nothing is requeued. -/
theorem claims_gated (id : String) :
    (machine plant).Gate
      (fun db action => Promised db action ∧ ¬ Requeues action) (· == .workClaimed id)
      (fun db => Taken (view db) id) where
  stays := by
    rintro db action ⟨promised, keeps⟩ taken
    have refines := @perform_refines plant _ _ _ promised (admits_withoutRecovery keeps)
    exact refines.steps.preserve (Taken.step not_false) taken
  silent := by
    intro db action _ taken
    by_contra fired
    obtain ⟨_, ownerId, now, claimed, _, outcome⟩ := events_claimed (Nat.pos_of_ne_zero fired)
    exact ((@claimRuntimeWork_claims db id ownerId now).of_commit outcome rfl).1 taken
  once := by
    intro db action
    by_contra many
    have events := (@events_claimed plant db id action (by omega)).1
    simp [events] at many
  closes := by
    intro db action _ fired
    obtain ⟨_, ownerId, now, claimed, rfl, outcome⟩ := events_claimed fired
    have taken := ((@claimRuntimeWork_claims db id ownerId now).of_commit outcome rfl).2
    change Taken (view (settleClaim _ _ _).1) id
    rwa [settleClaim_fst]

/-! ## Reachable states -/

/-- Callers keep their promises, control rows are created at increasing times, and no
call completes a work row that another incident waits for. -/
def Timely (db : Database) (action : Action) : Prop :=
  Promised db action ∧ Increases db action ∧ ¬ Strays db action

/-- The conditions of the queue, with recovery at any moment and verdicts of any kind. -/
def increasingRegime : Regime := staffedRegime True True

theorem increasing_of_increases {incidentId : String} {now : Instant}
    (increases : ∀ control ∈ db.controlsOf incidentId, control.createdAt < now) :
    Increasing (view db) incidentId now.micros := by
  intro warrant time found
  obtain ⟨control, present, dates⟩ := Option.map_eq_some_iff.mp found
  obtain ⟨row, stored, rfl⟩ := Option.map_eq_some_iff.mp present
  cases dates
  obtain rfl := Table.key_of_find stored
  exact increases row (mem_controlsOf.mpr ⟨stored, rfl⟩)

/-- A row that no incident waits for may be completed. -/
theorem spare_of_unwanted (coherent : Coherent (view db)) {work : RuntimeWorkRecord}
    (found : db.works.find id = some work) (unwanted : ¬ Wanted db work) :
    Spare (view db) id := by
  intro row current seen unfinished present
  rw [view_work found, Option.some.injEq] at seen
  subst seen
  obtain ⟨incident, owned, rfl⟩ := Option.map_eq_some_iff.mp present
  have isIncident : incident.id = work.incidentId := Table.key_of_find owned
  obtain ⟨named, _⟩ := coherent.backed.workFor (view_work found)
  refine ⟨?_, ?_⟩
  · rintro warrant rfl approved
    obtain ⟨kind, _⟩ := @workId_injective .approvedExecution _ _ _ named
    exact unwanted ⟨unfinished, incident, owned, .inl ⟨kind.symm, approved⟩⟩
  · rintro warrant rfl failed latest
    obtain ⟨kind, isWarrant⟩ := @workId_injective .testRepair _ _ _ named
    have testFailed : incident.state = .testFailed := failed
    have outcome : repairHasDurableOutcome db incident work.warrantId = true := by
      by_contra open_
      rw [Bool.not_eq_true] at open_
      exact unwanted ⟨unfinished, incident, owned, .inr ⟨kind.symm, testFailed, open_⟩⟩
    rcases superseded_of_outcome outcome with escalated | blocked | superseded
    · rw [testFailed] at escalated
      cases escalated
    · rw [testFailed] at blocked
      cases blocked
    · change warrant = work.warrantId at isWarrant
      rw [isIncident, ← isWarrant] at superseded
      exact latest.not_superseded superseded

theorem admits_increasing {action : Action} (coherent : Coherent (view db))
    (increases : Increases db action) (keeps : ¬ Strays db action) :
    Admits increasingRegime db action := by
  cases action with
  | openApproval => exact increasing_of_increases increases
  | recordVerdict => exact fun _ => trivial
  | completeRepairWork incidentId warrantId =>
      intro incident work present concluded found
      by_cases owner : work.incidentId = incidentId
      · exact .inl owner
      · refine .inr (spare_of_unwanted coherent found fun wanted => keeps ?_)
        exact ⟨incident, work, present, concluded, found, owner, wanted⟩
  | recordExecutionFailure incidentId warrantId =>
      intro incident work present active found
      by_cases owner : work.incidentId = incidentId
      · exact .inl owner
      · refine .inr (spare_of_unwanted coherent found fun wanted => keeps ?_)
        exact ⟨incident, work, present, active, found, owner, wanted⟩
  | _ => trivial

/-- Both invariants of the protocol. -/
structure Sound (view : View) : Prop where
  coherent : Coherent view
  staffed : Staffed view

theorem Sound.step {before after : View} (step : Step increasingRegime before after)
    (sound : Sound before) : Sound after where
  coherent := sound.coherent.step step
  staffed := sound.staffed.step step sound.coherent

theorem timely_refines {action : Action} (sound : Sound (view db)) (timely : Timely db action) :
    Refines increasingRegime (view db) (view ((machine plant).next db action)) :=
  perform_refines timely.1 (admits_increasing sound.coherent timely.2.1 timely.2.2)

theorem run_sound {actions : List Action}
    (follows : (machine plant).Follows Timely Database.empty actions) :
    Sound (view ((machine plant).run Database.empty actions)) := by
  refine (machine plant).run_invariant_of_follows (fun db => Sound (view db)) ?_ ?_ follows
  · intro db action timely sound
    exact (timely_refines sound timely).steps.preserve Sound.step sound
  · rw [view_empty]
    exact ⟨Coherent.empty, Staffed.empty⟩

/-! ## No stranded incident -/

def Queued (work : RuntimeWorkRecord) : Prop :=
  work.status = .pending ∨ work.status = .running

/-- Incidents that wait for a worker have work, and no execution disagrees with its
incident. -/
structure Unstranded (db : Database) : Prop where
  active : ∀ incident ∈ db.incidents.rows, incident.state ∈ [.approved, .executing, .testFailed] →
    ∃ work ∈ db.works.rows, work.incidentId = incident.id ∧ Queued work
  agrees : ∀ work ∈ db.works.rows, work.kind = .approvedExecution → work.status ≠ .completed →
    ∀ ownerId now, ∃ claimed, ((claimRuntimeWork work.id ownerId now).commit db).1 = .ok claimed

/-- One transaction that completes the execution of a warrant and queues its repair. -/
def FailsOver (before after : Database) (incidentId : String) : Prop :=
  ∃ warrantId execution finished repair,
    before.works.find (executionWorkId warrantId) = some execution ∧
    execution.incidentId = incidentId ∧ execution.status ≠ .completed ∧
    after.works.find (executionWorkId warrantId) = some finished ∧
    finished.status = .completed ∧
    before.works.find (repairWorkId warrantId) = none ∧
    after.works.find (repairWorkId warrantId) = some repair ∧
    repair.incidentId = incidentId ∧ Queued repair

theorem queued_iff {work : RuntimeWorkRecord} : Queued work ↔ work.status ≠ .completed := by
  unfold Queued
  cases work.status <;> simp

theorem row_of_active {incidentId : String} (active : Active (view db) id incidentId) :
    ∃ work, db.works.find id = some work ∧ work.incidentId = incidentId ∧ Queued work := by
  obtain ⟨_, present, owner, status⟩ := active
  obtain ⟨work, found, rfl⟩ := Option.map_eq_some_iff.mp present
  exact ⟨work, found, owner, queued_iff.mpr status⟩

/-- A row whose incident is approved or over can be claimed without an error. -/
theorem claimRuntimeWork_answers {work : RuntimeWorkRecord} {incident : IncidentRecord}
    (found : db.works.find id = some work)
    (owned : db.incidents.find work.incidentId = some incident)
    (agrees : incident.state = .approved ∨ incident.state ∈ terminalStates)
    (ownerId : String) (now : Instant) :
    ∃ claimed, ((claimRuntimeWork id ownerId now).commit db).1 = .ok claimed := by
  have reaches : (claimRuntimeWork id ownerId now).Reaches db fun _ _ => True := by
    simp only [claimRuntimeWork, reaches_bind, reaches_read, found]
    split
    · exact reaches_pure.mpr trivial
    · rw [reaches_bind]
      refine Progress.reaches_getIncident.mpr ⟨incident, owned, ?_⟩
      split
      · rename_i execution
        have terminal := agrees.resolve_left execution.2
        rw [if_pos terminal]
        simp [writeWork]
      · simp [writeWork]
  obtain ⟨claimed, answered, _⟩ := reaches.commit
  exact ⟨claimed, answered⟩

theorem unstranded_of_sound (sound : Sound (view db)) : Unstranded db where
  active := by
    intro incident listed waits
    obtain ⟨id, active⟩ :=
      sound.staffed.active sound.coherent (view_incident (Table.find_of_mem listed)) waits
    obtain ⟨work, found, owner, queued⟩ := row_of_active active
    exact ⟨work, Table.mem_of_find found, owner, queued⟩
  agrees := by
    intro work listed execution unfinished ownerId now
    have found := Table.find_of_mem listed
    obtain ⟨current, present, state⟩ :=
      sound.staffed.agrees sound.coherent (view_work found) execution unfinished
    obtain ⟨incident, owned, rfl⟩ := Option.map_eq_some_iff.mp present
    refine claimRuntimeWork_answers found owned ?_ ownerId now
    rcases state with approved | escalated
    · exact .inl approved
    · have isEscalated : incident.state = .humanEscalation := escalated
      exact .inr (by rw [isEscalated]; decide)

/-- How a transaction can leave an incident in `TEST_FAILED`. -/
theorem failsOver_of_sound {action : Action} (sound : Sound (view db)) (timely : Timely db action)
    {incident : IncidentRecord} (listed : incident ∈ ((machine plant).next db action).incidents.rows)
    (failed : incident.state = .testFailed) :
    (∃ earlier, db.incidents.find incident.id = some earlier ∧ earlier.state = .testFailed) ∨
      FailsOver db ((machine plant).next db action) incident.id := by
  have present := view_incident (Table.find_of_mem listed)
  have entered : (view db).incidents incident.id = some (standing incident) ∨
      Enters (view db) (view ((machine plant).next db action)) incident.id := by
    rcases @timely_refines plant _ _ sound timely with step | ⟨_, quiet⟩
    · exact sound.staffed.enters sound.coherent step present failed
    · exact .inl (quiet _ _ present failed)
  rcases entered with already | ⟨warrantId, before, ⟨_, after, completed⟩, absent, repair⟩
  · obtain ⟨earlier, found, same⟩ := Option.map_eq_some_iff.mp already
    exact .inl ⟨earlier, found, (congrArg Standing.state same).trans failed⟩
  · obtain ⟨execution, executed, owner, queued⟩ := row_of_active before
    obtain ⟨finished, final, rfl⟩ := Option.map_eq_some_iff.mp after
    obtain ⟨row, created, repairOwner, repairQueued⟩ := row_of_active repair
    exact .inr ⟨warrantId, execution, finished, row, executed, owner, queued_iff.mp queued, final,
      completed, Option.map_eq_none_iff.mp absent, created, repairOwner, repairQueued⟩

/-- Wherever a run stops or crashes, no incident is stranded; `TEST_FAILED` is entered
only together with its repair work; and a work row is claimed at most once between
two requeues. -/
theorem no_stranded_incident (plant : Plant) (actions : List Action)
    (follows : (machine plant).Follows Timely Database.empty actions) :
    Unstranded ((machine plant).run Database.empty actions) ∧
    (∀ before action after, actions = before ++ action :: after →
      ∀ incident ∈ ((machine plant).run Database.empty (before ++ [action])).incidents.rows,
        incident.state = .testFailed →
          (∃ earlier, ((machine plant).run Database.empty before).incidents.find incident.id =
            some earlier ∧ earlier.state = .testFailed) ∨
          FailsOver ((machine plant).run Database.empty before)
            ((machine plant).run Database.empty (before ++ [action])) incident.id) ∧
    (∀ before between after, actions = before ++ between ++ after →
      (∀ action ∈ between, ¬ Requeues action) →
        ∀ id, ((machine plant).log ((machine plant).run Database.empty before) between).countP
          (· == .workClaimed id) ≤ 1) := by
  refine ⟨unstranded_of_sound (run_sound follows), ?_, ?_⟩
  · rintro before action after rfl incident listed failed
    obtain ⟨earlier, now, _⟩ := (Machine.follows_append _).mp follows
    rw [Machine.run_append, Machine.run_cons, Machine.run_nil] at listed ⊢
    exact failsOver_of_sound (run_sound earlier) now listed failed
  · rintro before between after rfl keeps id
    obtain ⟨earlier, _⟩ := (Machine.follows_append _).mp follows
    obtain ⟨_, second⟩ := (Machine.follows_append _).mp earlier
    refine (claims_gated id).log_le_one ?_
    exact second.mono fun _ action member timely => ⟨timely.1, keeps action member⟩

end CrossPatch.Runtime.WorkQueue
