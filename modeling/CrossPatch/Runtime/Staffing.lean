import CrossPatch.Runtime.Protocol

/-!
# No stranded incidents

An incident that waits for execution or for repair has a work row that is pending
or running.  Completing the repair of a warrant is refused while that warrant is
the latest of its incident, which identifies the right row only when the creation
times of the warrants of an incident increase.  No row that its own incident waits for
may be completed in the name of another one.
-/

namespace CrossPatch.Runtime.Staffing

open CrossPatch.Broker.Store
open CrossPatch.Domain.StateMachine
open CrossPatch.Runtime.Records CrossPatch.Runtime.Store CrossPatch.Runtime.Protocol

/-- Incident and creation time of a control row, which no decision changes. -/
def dated (view : View) (warrant : String) : Option (String × Int) :=
  (view.controls warrant).map fun control => (control.incident, control.createdAt)

/-- New control rows are younger than the earlier ones of their incident. -/
def Increasing (view : View) (incident : String) (now : Int) : Prop :=
  ∀ warrant time, dated view warrant = some (incident, time) → time < now

def Latest (view : View) (incident warrant : String) : Prop :=
  ∃ time, dated view warrant = some (incident, time) ∧
    ∀ other earlier, dated view other = some (incident, earlier) → other ≠ warrant →
      earlier < time

/-- Work of an incident that waits for its worker or is with it. -/
def Active (view : View) (id incident : String) : Prop :=
  ∃ work, view.works id = some work ∧ work.incident = incident ∧ work.status ≠ .completed

/-- No incident waits for the row: it is completed, or its incident neither waits for
this execution nor for this repair. -/
def Spare (view : View) (id : String) : Prop :=
  ∀ work standing, view.works id = some work → work.status ≠ .completed →
    view.incidents work.incident = some standing →
      (∀ warrant, id = executionWorkId warrant → standing.state ≠ .approved) ∧
      ∀ warrant, id = repairWorkId warrant → standing.state = .testFailed →
        ¬ Latest view work.incident warrant

/-- The conditions under which no incident is stranded. -/
def staffedRegime (requeues clears : Prop) : Regime := ⟨Increasing, requeues, Spare, clears⟩

structure Staffed (view : View) : Prop where
  atomic : ∀ {incident standing}, view.incidents incident = some standing →
    standing.state ≠ .executing
  finished : ∀ {incident warrant work}, view.tested incident warrant →
    view.works (executionWorkId warrant) = some work → work.status = .completed
  repaired : ∀ {warrant work}, view.works (repairWorkId warrant) = some work →
    view.tested work.incident warrant
  waiting : ∀ {warrant control}, view.controls warrant = some control →
    control.status = .pendingApproval → Latest view control.incident warrant
  approved : ∀ {incident standing warrant}, view.incidents incident = some standing →
    standing.state = .approved → Outstanding view incident warrant →
      Latest view incident warrant ∧ Active view (executionWorkId warrant) incident
  failed : ∀ {incident standing}, view.incidents incident = some standing →
    standing.state = .testFailed → ∃ warrant, Latest view incident warrant ∧
      Active view (repairWorkId warrant) incident

theorem executionWorkId_inj {left right : String} :
    executionWorkId left = executionWorkId right ↔ left = right := by
  constructor
  · intro same
    exact (@workId_injective .approvedExecution .approvedExecution left right same).2
  · exact congrArg executionWorkId

theorem repairWorkId_inj {left right : String} :
    repairWorkId left = repairWorkId right ↔ left = right := by
  constructor
  · intro same
    exact (@workId_injective .testRepair .testRepair left right same).2
  · exact congrArg repairWorkId

theorem executionWorkId_ne_repairWorkId (left right : String) :
    executionWorkId left ≠ repairWorkId right := by
  intro same
  cases (@workId_injective .approvedExecution .testRepair left right same).1

attribute [grind =] executionWorkId_inj repairWorkId_inj

section Latest

variable {view : View} {incident warrant other : String} {control row : Control}

theorem dated_eq (found : view.controls warrant = some control) :
    dated view warrant = some (control.incident, control.createdAt) := by
  rw [dated, found, Option.map_some]

theorem dated_setControl :
    dated (view.setControl other control) warrant =
      if warrant = other then some (control.incident, control.createdAt)
      else dated view warrant := by
  unfold dated
  rw [View.setControl_controls]
  split
  · rfl
  · rfl

theorem Latest.congr {before after : View} (same : dated after = dated before)
    (latest : Latest before incident warrant) : Latest after incident warrant := by
  unfold Latest
  rw [same]
  exact latest

theorem Latest.setStatus (found : view.controls other = some row) (status : ControlStatus)
    (latest : Latest view incident warrant) :
    Latest (view.setControl other { row with status := status }) incident warrant := by
  refine latest.congr ?_
  funext third
  rw [dated_setControl]
  split
  · rename_i same
    rw [same, dated_eq found]
  · rfl

/-- A new row does not concern other incidents. -/
theorem Latest.insert (fresh : view.controls other = none) (differs : control.incident ≠ incident)
    (latest : Latest view incident warrant) :
    Latest (view.setControl other control) incident warrant := by
  obtain ⟨time, present, younger⟩ := latest
  have distinct : warrant ≠ other := by
    rintro rfl
    rw [dated, fresh] at present
    cases present
  refine ⟨time, by rw [dated_setControl, if_neg distinct, present], ?_⟩
  intro third earlier seen apart
  rw [dated_setControl] at seen
  split at seen
  · grind
  · exact younger third earlier seen apart

theorem latest_new (increasing : Increasing view incident control.createdAt)
    (owner : control.incident = incident) :
    Latest (view.setControl warrant control) incident warrant := by
  refine ⟨control.createdAt, by rw [dated_setControl, if_pos rfl, owner], ?_⟩
  intro third earlier seen apart
  rw [dated_setControl, if_neg apart] at seen
  exact increasing third earlier seen

/-- The latest row is not superseded. -/
theorem Latest.not_superseded (latest : Latest view incident warrant) :
    ¬ Superseded view incident warrant := by
  rintro ⟨other, control, differs, present, owner, youngest⟩
  obtain ⟨time, found, younger⟩ := latest
  have first := younger other control.createdAt (by rw [dated_eq present, owner]) differs
  obtain ⟨current, row, date⟩ := Option.map_eq_some_iff.mp found
  cases date
  exact absurd first (Int.not_lt.mpr (youngest warrant current row rfl))

end Latest

namespace Staffed

variable {before after : View}

/-- What a step does to work rows that are not yet completed. -/
theorem active_setWork {view : View} {id other incident : String} {work : Work}
    (active : Active view id incident) (kept : id = other → work.incident = incident ∧
      work.status ≠ .completed) : Active (view.setWork other work) id incident := by
  obtain ⟨current, found, rest⟩ := active
  by_cases same : id = other
  · exact ⟨work, by simp [same], kept same⟩
  · exact ⟨current, by simpa [same] using found, rest⟩

theorem active_enqueue {view : View} {id incident : String} (work : Work)
    (active : Active view id incident) : Active (view.enqueue work) id incident := by
  obtain ⟨current, found, rest⟩ := active
  exact ⟨current, by simp [found], rest⟩

/-- Moves of one incident outside the warrant lifecycle. -/
theorem move (staffed : Staffed before) {incident : String} {next : Standing}
    (enters : next.state ∉ [.approved, .executing, .testFailed]) :
    Staffed (before.setIncident incident next) := by
  have other : ∀ {current standing}, (before.setIncident incident next).incidents current =
      some standing → standing.state ∈ [.approved, .executing, .testFailed] →
        before.incidents current = some standing := by
    intro current standing seen within
    by_cases same : current = incident
    · rw [View.setIncident_incidents, if_pos same, Option.some.injEq] at seen
      exact absurd (seen ▸ within) enters
    · simpa [same] using seen
  constructor
  · intro current standing seen executing
    exact staffed.atomic (other seen (by simp [executing])) executing
  · exact staffed.finished
  · exact staffed.repaired
  · exact staffed.waiting
  · intro current standing warrant seen approved outstanding
    exact staffed.approved (other seen (by simp [approved])) approved outstanding
  · intro current standing seen failed
    exact staffed.failed (other seen (by simp [failed])) failed

theorem congr (staffed : Staffed before) (incidents : after.incidents = before.incidents)
    (controls : after.controls = before.controls) (works : after.works = before.works)
    (tested : after.tested = before.tested) : Staffed after := by
  obtain ⟨incidents', controls', warrants', works', tested'⟩ := after
  dsimp only at incidents controls works tested
  subst incidents controls works tested
  exact ⟨staffed.atomic, staffed.finished, staffed.repaired, staffed.waiting, staffed.approved,
    staffed.failed⟩

/-- A work row may change its status, except that a tested execution stays
completed and the work that an incident waits for may not be completed. -/
theorem setStatus (staffed : Staffed before) {id : String} {work : Work} {status : WorkStatus}
    (found : before.works id = some work)
    (reopens : status ≠ .completed → work.status ≠ .completed)
    (spare : status = .completed → Spare before id) :
    Staffed (before.setWork id { work with status := status }) := by
  have same : ∀ {other row}, (before.setWork id { work with status := status }).works other =
      some row → ∃ current, before.works other = some current ∧
        current.incident = row.incident ∧ (row.status = current.status ∨
          (other = id ∧ row.status = status)) := by
    grind
  constructor
  · exact staffed.atomic
  · intro incident warrant row tested seen
    obtain ⟨current, present, _, kept | ⟨rfl, changed⟩⟩ := same seen
    · rw [kept]
      exact staffed.finished tested present
    · by_contra unfinished
      rw [found, Option.some.injEq] at present
      subst present
      exact reopens (changed ▸ unfinished) (staffed.finished tested found)
  · intro warrant row seen
    obtain ⟨current, present, owner, _⟩ := same seen
    rw [← owner]
    exact staffed.repaired present
  · exact staffed.waiting
  · intro incident standing warrant seen approved outstanding
    obtain ⟨latest, active⟩ := staffed.approved seen approved outstanding
    refine ⟨latest, active_setWork active ?_⟩
    rintro rfl
    obtain ⟨current, present, owner, unfinished⟩ := active
    rw [found, Option.some.injEq] at present
    subst present
    refine ⟨owner, fun completes => ?_⟩
    exact (spare completes work standing found unfinished (owner ▸ seen)).1 warrant rfl approved
  · intro incident standing seen failed
    obtain ⟨warrant, latest, active⟩ := staffed.failed seen failed
    refine ⟨warrant, latest, active_setWork active ?_⟩
    rintro rfl
    obtain ⟨current, present, owner, unfinished⟩ := active
    rw [found, Option.some.injEq] at present
    subst present
    refine ⟨owner, fun completes => ?_⟩
    exact (spare completes work standing found unfinished (owner ▸ seen)).2 warrant rfl failed
      (owner ▸ latest)

/-- A control row that is neither approved nor the gate of a live incident. -/
theorem setControl (staffed : Staffed before) {warrant : String} {control : Control}
    (unapproved : ∀ current, before.controls warrant = some current → current.status ≠ .approved)
    (stays : control.status ≠ .approved)
    (waiting : control.status = .pendingApproval →
      Latest (before.setControl warrant control) control.incident warrant)
    (latest : ∀ {incident other}, Latest before incident other →
      (∃ standing, before.incidents incident = some standing ∧
        standing.state ∈ [.approvalPending, .approved, .testFailed]) →
      Latest (before.setControl warrant control) incident other)
    (gated : Gated before) : Staffed (before.setControl warrant control) := by
  constructor
  · exact staffed.atomic
  · exact staffed.finished
  · exact staffed.repaired
  · intro other row seen pending
    by_cases same : other = warrant
    · subst same
      rw [View.setControl_controls, if_pos rfl, Option.some.injEq] at seen
      subst seen
      exact waiting pending
    · rw [View.setControl_controls, if_neg same] at seen
      obtain ⟨standing, found, atGate, _⟩ := gated.incidentOf seen pending
      exact latest (staffed.waiting seen pending) ⟨standing, found, by simp [atGate]⟩
  · intro incident standing other seen approved outstanding
    obtain ⟨isLatest, active⟩ := staffed.approved seen approved
      ((outstanding_setControl unapproved stays).mp outstanding)
    exact ⟨latest isLatest ⟨standing, seen, by simp [approved]⟩, active⟩
  · intro incident standing seen failed
    obtain ⟨other, isLatest, active⟩ := staffed.failed seen failed
    exact ⟨other, latest isLatest ⟨standing, seen, by simp [failed]⟩, active⟩

/-- Nothing was queued for a warrant before it was decided. -/
theorem unqueued (backed : Backed before) {warrant : String} {control : Control}
    (decided : before.controls warrant = some control) (pending : control.status ≠ .approved)
    (kind : WorkKind) : before.works (workId kind warrant) = none := by
  by_contra present
  obtain ⟨work, queued⟩ := Option.ne_none_iff_exists'.mp present
  obtain ⟨named, row, found, status, _⟩ := backed.workFor queued
  have same := (workId_injective named).2
  rw [← same, decided, Option.some.injEq] at found
  exact pending (found ▸ status)

theorem approve (staffed : Staffed before) (coherent : Coherent before) {warrant : String}
    {control : Control} (decided : before.controls warrant = some control)
    (pending : control.status = .pendingApproval) (unused : before.warrants warrant = none) :
    Staffed (((before.setControl warrant { control with status := .approved }).setIncident
      control.incident ⟨.approved, none⟩).enqueue
        ⟨control.incident, warrant, .approvedExecution, .pending⟩) := by
  have absent : before.works (executionWorkId warrant) = none :=
    unqueued coherent.backed decided (by simp [pending]) .approvedExecution
  obtain ⟨gate, atGate, gateState, _⟩ := coherent.gated.incidentOf decided pending
  constructor
  · have atomic := @staffed.atomic
    grind
  · intro incident other work tested seen
    have consumed := coherent.backed.consumed tested
    have finished := @staffed.finished
    have differs : other ≠ warrant := by grind
    refine finished tested ?_
    simpa [workId, executionWorkId_inj, differs] using seen
  · intro other work seen
    refine staffed.repaired ?_
    simpa [workId, (executionWorkId_ne_repairWorkId _ _).symm] using seen
  · intro other row seen waits
    have differs : other ≠ warrant := by grind
    have present : before.controls other = some row := by simpa [differs] using seen
    exact (staffed.waiting present waits).setStatus decided .approved
  · intro incident standing other seen approved outstanding
    by_cases same : incident = control.incident
    · subst same
      have isWarrant : other = warrant := by
        rcases (outstanding_approve coherent.backed decided pending unused).mp outstanding with
          earlier | ⟨_, same⟩
        · obtain ⟨current, present, state⟩ := coherent.exclusive.stateOf earlier
          grind
        · exact same
      subst isWarrant
      refine ⟨(staffed.waiting decided pending).setStatus decided .approved, ?_⟩
      exact ⟨⟨control.incident, other, .approvedExecution, .pending⟩, by simp [workId, absent],
        rfl, by simp⟩
    · have present : before.incidents incident = some standing := by simpa [same] using seen
      have earlier : Outstanding before incident other := by
        rcases (outstanding_approve coherent.backed decided pending unused).mp outstanding with
          earlier | ⟨owner, _⟩
        · exact earlier
        · exact absurd owner same
      obtain ⟨latest, active⟩ := staffed.approved present approved earlier
      exact ⟨latest.setStatus decided .approved, active_enqueue _ active⟩
  · intro incident standing seen failed
    have differs : incident ≠ control.incident := by grind
    obtain ⟨other, latest, active⟩ :=
      staffed.failed (by simpa [differs] using seen) failed
    exact ⟨other, latest.setStatus decided .approved, active_enqueue _ active⟩

/-- The tests of a warrant that is still outstanding have no repair. -/
theorem unrepaired (staffed : Staffed before) (backed : Backed before) {incident warrant : String}
    (finished : before.warrants warrant = some ⟨incident, .consumed⟩)
    (untested : ¬ before.tested incident warrant) :
    before.works (repairWorkId warrant) = none := by
  by_contra present
  obtain ⟨work, queued⟩ := Option.ne_none_iff_exists'.mp present
  have tested := staffed.repaired queued
  have consumed := backed.consumed tested
  rw [finished, Option.some.injEq] at consumed
  cases consumed
  exact untested tested

/-- The projection of the tests: the execution is completed, and a failed test
leaves its repair in the queue. -/
theorem project (staffed : Staffed before) (coherent : Coherent before)
    {incident warrant : String} {standing : Standing} {work : Work} {next : IncidentState}
    (found : before.incidents incident = some standing) (approved : standing.state = .approved)
    (finished : before.warrants warrant = some ⟨incident, .consumed⟩)
    (untested : ¬ before.tested incident warrant)
    (leaves : next ∉ [.approved, .executing])
    (incidents : after.incidents =
      (before.setIncident incident ⟨next, standing.pending⟩).incidents)
    (controls : after.controls = before.controls)
    (works : ∀ id, after.works id =
      if id = executionWorkId warrant then some { work with status := .completed }
      else if id = repairWorkId warrant ∧ next = .testFailed then
        some ⟨incident, warrant, .testRepair, .pending⟩
      else before.works id)
    (tested : after.tested = (before.markTested incident warrant).tested) : Staffed after := by
  have outstanding := coherent.outstanding finished untested
  have dates : dated after = dated before := by
    funext other
    rw [dated, dated, controls]
  have elsewhere : ∀ {other}, other ≠ incident → after.incidents other = before.incidents other := by
    intro other differs
    rw [incidents, View.setIncident_incidents, if_neg differs]
  have here : after.incidents incident = some ⟨next, standing.pending⟩ := by
    rw [incidents, View.setIncident_incidents, if_pos rfl]
  have untouched : ∀ {id}, id ≠ executionWorkId warrant → id ≠ repairWorkId warrant →
      after.works id = before.works id := by
    intro id first second
    rw [works, if_neg first, if_neg (fun both => second both.1)]
  have kept : ∀ {id other}, other ≠ incident → Active before id other → Active after id other := by
    rintro id other differs ⟨current, present, owner, status⟩
    have byOwner : ∀ kind, id ≠ workId kind warrant := by
      rintro kind rfl
      obtain ⟨named, row, rowFound, _, rowOwner⟩ := coherent.backed.workFor present
      obtain ⟨control, controlFound, _, controlOwner⟩ := coherent.backed.controlOf finished
      have same := (workId_injective named).2
      rw [← same, controlFound, Option.some.injEq] at rowFound
      exact differs (by rw [← owner, ← rowOwner, ← rowFound, controlOwner])
    refine ⟨current, ?_, owner, status⟩
    rw [untouched (byOwner .approvedExecution) (byOwner .testRepair), present]
  constructor
  · intro other current seen executing
    by_cases same : other = incident
    · rw [same, here, Option.some.injEq] at seen
      subst seen
      exact leaves (by simp [show next = .executing from executing])
    · exact staffed.atomic (elsewhere same ▸ seen) executing
  · intro other third row isTested seen
    by_cases same : third = warrant
    · rw [works, if_pos (congrArg executionWorkId same), Option.some.injEq] at seen
      rw [← seen]
    · have earlier : before.tested other third := by
        rw [tested] at isTested
        rcases isTested with earlier | ⟨_, isWarrant⟩
        · exact earlier
        · exact absurd isWarrant same
      refine staffed.finished earlier ?_
      rw [← seen, untouched (fun equal => same (executionWorkId_inj.mp equal))
        (executionWorkId_ne_repairWorkId third warrant)]
  · intro third row seen
    rw [works, if_neg (executionWorkId_ne_repairWorkId _ _).symm] at seen
    rw [tested]
    split at seen
    · rename_i isRepair
      rw [Option.some.injEq] at seen
      subst seen
      exact .inr ⟨rfl, repairWorkId_inj.mp isRepair.1⟩
    · exact .inl (staffed.repaired seen)
  · intro other row seen pending
    exact (staffed.waiting (controls ▸ seen) pending).congr dates
  · intro other current third seen isApproved isOutstanding
    have differs : other ≠ incident := by
      rintro rfl
      rw [here, Option.some.injEq] at seen
      subst seen
      exact leaves (by simp [show next = .approved from isApproved])
    have earlier : Outstanding before other third := by
      obtain ⟨control, row, status, owner, untried⟩ := isOutstanding
      refine ⟨control, controls ▸ row, status, owner, fun isTested => untried ?_⟩
      rw [tested]
      exact .inl isTested
    obtain ⟨latest, active⟩ := staffed.approved (elsewhere differs ▸ seen) isApproved earlier
    exact ⟨latest.congr dates, kept differs active⟩
  · intro other current seen failed
    by_cases same : other = incident
    · rw [same, here, Option.some.injEq] at seen
      subst seen
      obtain ⟨latest, _⟩ := staffed.approved found approved outstanding
      refine ⟨warrant, same ▸ latest.congr dates, ⟨incident, warrant, .testRepair, .pending⟩, ?_,
        same.symm, by simp⟩
      rw [works, if_neg (executionWorkId_ne_repairWorkId _ _).symm, if_pos ⟨rfl, failed⟩]
    · obtain ⟨third, latest, active⟩ := staffed.failed (elsewhere same ▸ seen) failed
      exact ⟨third, latest.congr dates, kept same active⟩

/-- A row whose incident is idle. -/
theorem spare_idle {id : String} {work : Work} {standing : Standing}
    (found : before.works id = some work)
    (incident : before.incidents work.incident = some standing)
    (idle : standing.state ∉ activeStates) : Spare before id := by
  intro row current seen _ present
  rw [found, Option.some.injEq] at seen
  subst seen
  rw [incident, Option.some.injEq] at present
  subst present
  refine ⟨?_, ?_⟩
  · rintro _ _ isApproved
    simp [isApproved, activeStates] at idle
  · rintro _ _ isFailed
    simp [isFailed, activeStates] at idle

/-- A row whose incident has just been escalated. -/
theorem spare_escalated {id incident : String} {work : Work} {pending : Option String}
    (found : before.works id = some work) (owner : work.incident = incident) :
    Spare (before.setIncident incident ⟨.humanEscalation, pending⟩) id := by
  intro row current seen _ present
  rw [View.setIncident_works, found, Option.some.injEq] at seen
  subst seen
  rw [View.setIncident_incidents, if_pos owner, Option.some.injEq] at present
  subst present
  exact ⟨by simp, by simp⟩

/-- The escalation of an incident makes no row wanted. -/
theorem spare_move {id incident : String} {pending : Option String} (spare : Spare before id) :
    Spare (before.setIncident incident ⟨.humanEscalation, pending⟩) id := by
  intro row current seen unfinished present
  by_cases same : row.incident = incident
  · rw [View.setIncident_incidents, if_pos same, Option.some.injEq] at present
    subst present
    exact ⟨by simp, by simp⟩
  · rw [View.setIncident_incidents, if_neg same] at present
    exact spare row current seen unfinished present

/-- The repair of a warrant that `complete_repair_work` finds concluded. -/
theorem spare_repaired {warrant : String} {work : Work} {standing : Standing}
    (found : before.works (repairWorkId warrant) = some work)
    (incident : before.incidents work.incident = some standing)
    (outcome : standing.state = .humanEscalation ∨ standing.state = .blocked ∨
      Superseded before work.incident warrant) : Spare before (repairWorkId warrant) := by
  intro row current seen _ present
  rw [found, Option.some.injEq] at seen
  subst seen
  rw [incident, Option.some.injEq] at present
  subst present
  refine ⟨?_, ?_⟩
  · intro other isExecution
    exact absurd isExecution.symm (executionWorkId_ne_repairWorkId _ _)
  · intro other isRepair isFailed latest
    rw [← repairWorkId_inj.mp isRepair] at latest
    rcases outcome with escalated | blocked | superseded
    · simp [escalated] at isFailed
    · simp [blocked] at isFailed
    · exact latest.not_superseded superseded

theorem step {requeues clears : Prop} (step : Step (staffedRegime requeues clears) before after)
    (coherent : Coherent before) (staffed : Staffed before) : Staffed after := by
  cases step with
  | opened fresh => exact staffed.move (by simp)
  | moved found moves =>
      have enters := moves.enters
      exact staffed.move (by grind)
  | cleared found reviewing clears => exact staffed.move (by simp)
  | @approvalOpened incident warrant standing now found reviewing fresh timely =>
      refine (staffed.setControl ?_ (by simp) ?_ ?_ coherent.gated).move (by simp)
      · grind
      · intro _
        exact latest_new timely rfl
      · rintro other third latest ⟨current, present, within⟩
        refine latest.insert fresh ?_
        rintro rfl
        rw [found, Option.some.injEq] at present
        subst present
        simp [reviewing] at within
  | settled decided pending found releases =>
      refine (staffed.setControl ?_ ?_ ?_ ?_ coherent.gated).move ?_
      · grind
      · cases releases <;> simp
      · cases releases <;> simp
      · intro incident other latest _
        exact latest.setStatus decided _
      · cases releases <;> simp
  | approved decided pending found unused =>
      exact (staffed.approve coherent decided pending unused).congr rfl rfl rfl rfl
  | brokerMoved found advances => exact staffed.congr rfl rfl rfl rfl
  | @verified incident warrant standing work found approved finished untested queued =>
      refine @project before _ staffed coherent incident warrant standing work .verified found
        approved finished untested (by simp) rfl rfl ?_ rfl
      intro id
      simp
  | @testFailed incident warrant standing work found approved finished untested queued =>
      have absent := staffed.unrepaired coherent.backed finished untested
      refine @project before _ staffed coherent incident warrant standing work .testFailed found
        approved finished untested (by simp) rfl rfl ?_ rfl
      intro id
      by_cases isExecution : id = executionWorkId warrant
      · simp [isExecution]
      · by_cases isRepair : id = repairWorkId warrant
        · simp [isRepair, workId, absent, (executionWorkId_ne_repairWorkId _ _).symm]
        · simp [isExecution, isRepair, workId]
  | claimed found waiting incident agrees =>
      exact staffed.setStatus found (fun _ => by simp [waiting]) (by simp)
  | requeued found interrupted recovers =>
      exact staffed.setStatus found (fun _ => by simp [interrupted]) (by simp)
  | released found incident idle =>
      exact staffed.setStatus found (by simp) fun _ => spare_idle found incident idle
  | failed found named active owner =>
      refine (staffed.move (by simp)).setStatus found (by simp) fun _ => ?_
      exact owner.elim (fun same => spare_escalated found same) (fun strays => spare_move strays)
  | repairCompleted found named outcome owner =>
      refine staffed.setStatus found (by simp) fun _ => ?_
      exact owner.elim (fun same => spare_repaired found (same ▸ named) (same ▸ outcome)) id

theorem empty : Staffed View.empty := by
  constructor <;> simp [View.empty]

end Staffed

/-! ## What it means for the queue -/

variable {view before after : View}

/-- An incident that waits for execution or repair has active work. -/
theorem Staffed.active (staffed : Staffed view) (coherent : Coherent view) {incident : String}
    {standing : Standing} (found : view.incidents incident = some standing)
    (waits : standing.state ∈ [.approved, .executing, .testFailed]) :
    ∃ id, Active view id incident := by
  have executing := staffed.atomic found
  have states : standing.state = .approved ∨ standing.state = .testFailed := by
    simp at waits
    tauto
  rcases states with approved | failed
  · obtain ⟨warrant, outstanding⟩ := coherent.exclusive.warrantOf found approved
    exact ⟨_, (staffed.approved found approved outstanding).2⟩
  · obtain ⟨warrant, _, active⟩ := staffed.failed found failed
    exact ⟨_, active⟩

/-- An execution that is not completed meets its incident approved or escalated. -/
theorem Staffed.agrees (staffed : Staffed view) (coherent : Coherent view) {id : String}
    {work : Work} (found : view.works id = some work) (execution : work.kind = .approvedExecution)
    (unfinished : work.status ≠ .completed) :
    ∃ standing, view.incidents work.incident = some standing ∧
      (standing.state = .approved ∨ standing.state = .humanEscalation) := by
  obtain ⟨named, control, row, status, owner⟩ := coherent.backed.workFor found
  rw [execution] at named
  have untested : ¬ view.tested work.incident work.warrant := by
    intro tested
    refine unfinished (staffed.finished tested ?_)
    rw [← found, named]
    rfl
  exact coherent.exclusive.stateOf ⟨control, row, status, owner, untested⟩

/-- How `TEST_FAILED` is entered: the execution of a warrant is completed and its
repair is queued. -/
def Enters (before after : View) (incident : String) : Prop :=
  ∃ warrant, Active before (executionWorkId warrant) incident ∧
    (∃ work, after.works (executionWorkId warrant) = some work ∧ work.status = .completed) ∧
    before.works (repairWorkId warrant) = none ∧ Active after (repairWorkId warrant) incident

/-- Only the projection of a failed test enters `TEST_FAILED`. -/
theorem Staffed.enters (staffed : Staffed before) (coherent : Coherent before)
    {regime : Regime} (step : Step regime before after) {incident : String}
    {standing : Standing} (failed : after.incidents incident = some standing)
    (state : standing.state = .testFailed) :
    before.incidents incident = some standing ∨ Enters before after incident := by
  cases step with
  | opened fresh => exact .inl (by grind)
  | moved found moves =>
      have enters := moves.enters
      exact .inl (by grind)
  | cleared found reviewing clears => exact .inl (by grind)
  | approvalOpened found reviewing fresh timely => exact .inl (by grind)
  | settled decided pending found releases => cases releases <;> exact .inl (by grind)
  | approved decided pending found unused => exact .inl (by grind)
  | brokerMoved found advances => exact .inl failed
  | verified found approved finished untested queued => exact .inl (by grind)
  | @testFailed other warrant current work found approved finished untested queued =>
      by_cases same : incident = other
      · subst same
        have outstanding := coherent.outstanding finished untested
        have absent := staffed.unrepaired coherent.backed finished untested
        obtain ⟨_, active⟩ := staffed.approved found approved outstanding
        refine .inr ⟨warrant, active, ?_, absent, ?_⟩
        · exact ⟨{ work with status := .completed }, by simp, rfl⟩
        · exact ⟨⟨incident, warrant, .testRepair, .pending⟩,
            by simp [workId, absent, (executionWorkId_ne_repairWorkId _ _).symm], rfl, by simp⟩
      · exact .inl (by simpa [same] using failed)
  | claimed found waiting owner agrees => exact .inl failed
  | requeued found interrupted recovers => exact .inl failed
  | released found owner idle => exact .inl failed
  | failed found named active owner => exact .inl (by grind)
  | repairCompleted found named outcome owner => exact .inl failed

end CrossPatch.Runtime.Staffing
