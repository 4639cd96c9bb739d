import CrossPatch.Runtime.Launcher

/-!
# What a projection leaves behind

Of all the checks of a projection, only the refresh of the case can keep an outcome from
being recorded: the read model has to render it and, if an execution of an operator incident
passed, the title has to be one that may be published.
-/

namespace CrossPatch.Runtime.Verification

open CrossPatch.Broker.Cancellation CrossPatch.Broker.Claim CrossPatch.Broker.Store
open CrossPatch.Domain.Failure CrossPatch.Domain.Hashing CrossPatch.Domain.StateMachine
open CrossPatch.Domain.Text
open CrossPatch.Library CrossPatch.Library.Attempt CrossPatch.Library.Calendar
open CrossPatch.Library.Transaction
open CrossPatch.Runtime.BrokerResults CrossPatch.Runtime.ExecutionAuthority
open CrossPatch.Runtime.ExecutionPath CrossPatch.Runtime.Launcher
open CrossPatch.Runtime.Progress CrossPatch.Runtime.Projection
open CrossPatch.Runtime.QueueRefinement CrossPatch.Runtime.Records
open CrossPatch.Runtime.Refinement CrossPatch.Runtime.Store CrossPatch.Runtime.Timeline

variable {services : Services} {stopwatch : Stopwatch} {db : Database}
  {incident : IncidentRecord} {record : WarrantRecord} {result : BrokerResult}
  {warrantId evidenceId : String} {testUuids eventUuids : Nat → String} {now : Instant}

/-- The incident is recorded as verified. -/
def IsVerified (db : Database) (incidentId : String) : Prop :=
  ∃ incident, db.incidents.find incidentId = some incident ∧ incident.state = .verified

/-- Live trials are never published, so their titles are free. -/
def MayPublish (services : Services) (incident : IncidentRecord) : Prop :=
  incident.liveTrial = true ∨ services.publicTitleIssues incident.title = []

/-- A projection records its outcome; all of it is kept if the case can be refreshed, and
nothing of it otherwise. -/
theorem projects_or_rolls_back (ready : Ready incident record result db)
    (tested : isIdentifier ("test_" ++ testUuids (result.receipts.length - 1)) = true) :
    ∃ moved staged, (recordProjection services stopwatch incident record result evidenceId
        testUuids eventUuids now).run db = .ok (moved, staged) ∧
      Recorded db incident record result moved staged ∧
      ((∃ next, (publishLocked services incident.id now).run staged = .ok ((), next) ∧
          ((projectBrokerResult services stopwatch incident.id record.id evidenceId testUuids
            eventUuids now).commit db).2 = next) ∨
        (¬ ∃ next, (publishLocked services incident.id now).run staged = .ok ((), next)) ∧
          ((projectBrokerResult services stopwatch incident.id record.id evidenceId testUuids
            eventUuids now).commit db).2 = db) := by
  obtain ⟨moved, staged, recorded, outcome⟩ :=
    @Ready.records services stopwatch db incident record result ready evidenceId testUuids
      eventUuids now tested
  refine ⟨moved, staged, recorded, outcome, ?_⟩
  by_cases published : ∃ next, (publishLocked services incident.id now).run staged = .ok ((), next)
  · obtain ⟨next, refreshed⟩ := published
    have projects := ready.project_eq_ok.mpr ⟨rfl, moved, staged, recorded, refreshed⟩
    exact .inl ⟨next, refreshed, by rw [Transaction.commit, projects]⟩
  · refine .inr ⟨published, ?_⟩
    cases committed : (projectBrokerResult services stopwatch incident.id record.id evidenceId
        testUuids eventUuids now).run db with
    | error raised => rw [Transaction.commit, committed]
    | ok reached =>
        obtain ⟨_, _, _, again, refreshed⟩ := ready.project_eq_ok.mp committed
        rw [recorded, Except.ok.injEq, Prod.mk.injEq] at again
        obtain ⟨rfl, rfl⟩ := again
        exact absurd ⟨_, refreshed⟩ published

/-- A passed execution verifies its incident if and only if the title may be published and the
read model renders the case; otherwise nothing changes. -/
theorem passed_verifies_iff (services : Services) (stopwatch : Stopwatch) (db : Database)
    (incident : IncidentRecord) (record : WarrantRecord) (result : BrokerResult)
    (evidenceId : String) (testUuids eventUuids : Nat → String) (now : Instant)
    (ready : Ready incident record result db) (executed : result.status = .executed)
    (tested : isIdentifier ("test_" ++ testUuids (result.receipts.length - 1)) = true) :
    ∃ moved staged, (recordProjection services stopwatch incident record result evidenceId
        testUuids eventUuids now).run db = .ok (moved, staged) ∧
      (IsVerified ((projectBrokerResult services stopwatch incident.id record.id evidenceId
          testUuids eventUuids now).commit db).2 incident.id ↔
        MayPublish services incident ∧ RendersCase services staged moved) ∧
      (¬ IsVerified ((projectBrokerResult services stopwatch incident.id record.id evidenceId
          testUuids eventUuids now).commit db).2 incident.id →
        ((projectBrokerResult services stopwatch incident.id record.id evidenceId testUuids
          eventUuids now).commit db).2 = db) := by
  have passed := (checkBrokerResult_agrees ready.checked).2.1.mp executed
  obtain ⟨moved, staged, recorded, outcome, ends⟩ :=
    @projects_or_rolls_back services stopwatch db incident record result evidenceId testUuids
      eventUuids now ready tested
  have refreshes : (∃ next, (publishLocked services incident.id now).run staged = .ok ((), next)) ↔
      MayPublish services incident ∧ RendersCase services staged moved := by
    rw [outcome.publish_iff, MayPublish, passed]
    cases live : incident.liveTrial <;> simp
  refine ⟨moved, staged, recorded, ?_⟩
  rw [← refreshes]
  rcases ends with ⟨next, published, final⟩ | ⟨refused, final⟩
  · have verified : IsVerified next incident.id := by
      obtain ⟨_, rfl⟩ := publishLocked_eq_ok published
      have state := outcome.moved.state
      rw [passed, if_pos rfl] at state
      exact ⟨moved, outcome.owner ▸ outcome.stage.found, state⟩
    rw [final]
    exact ⟨iff_of_true verified ⟨next, published⟩, fun unverified => absurd verified unverified⟩
  · have unverified : ¬ IsVerified db incident.id := by
      rintro ⟨current, found, verified⟩
      rw [ready.stage.found, Option.some.injEq] at found
      rw [← found, ready.approved] at verified
      cases verified
    rw [final]
    exact ⟨iff_of_false unverified refused, fun _ => rfl⟩

/-- A failed test is recorded whatever the title is, and left to its repair, if and only if the
read model renders the case; otherwise nothing changes. -/
theorem failed_awaits_repair (services : Services) (stopwatch : Stopwatch) (db : Database)
    (incident : IncidentRecord) (record : WarrantRecord) (result : BrokerResult)
    (evidenceId : String) (testUuids eventUuids : Nat → String) (now : Instant)
    (ready : Ready incident record result db) (failed : result.status ≠ .executed)
    (tested : isIdentifier ("test_" ++ testUuids (result.receipts.length - 1)) = true) :
    ∃ moved staged, (recordProjection services stopwatch incident record result evidenceId
        testUuids eventUuids now).run db = .ok (moved, staged) ∧
      (AwaitsRepair incident record ((projectBrokerResult services stopwatch incident.id record.id
          evidenceId testUuids eventUuids now).commit db).2 ↔ RendersCase services staged moved) ∧
      (¬ AwaitsRepair incident record ((projectBrokerResult services stopwatch incident.id
          record.id evidenceId testUuids eventUuids now).commit db).2 →
        ((projectBrokerResult services stopwatch incident.id record.id evidenceId testUuids
          eventUuids now).commit db).2 = db) := by
  have unpassed : result.receipts.all (·.passed) = false := by
    rw [Bool.eq_false_iff]
    exact fun passed => failed ((checkBrokerResult_agrees ready.checked).2.1.mpr passed)
  obtain ⟨moved, staged, recorded, outcome, ends⟩ :=
    @projects_or_rolls_back services stopwatch db incident record result evidenceId testUuids
      eventUuids now ready tested
  have refreshes : (∃ next, (publishLocked services incident.id now).run staged = .ok ((), next)) ↔
      RendersCase services staged moved := by
    rw [outcome.publish_iff, unpassed]
    simp
  refine ⟨moved, staged, recorded, ?_⟩
  rw [← refreshes]
  rcases ends with ⟨next, published, final⟩ | ⟨refused, final⟩
  · have awaits : AwaitsRepair incident record next := outcome.awaitsRepair unpassed published
    rw [final]
    exact ⟨iff_of_true awaits ⟨next, published⟩, fun unawaited => absurd awaits unawaited⟩
  · have unawaited : ¬ AwaitsRepair incident record db := by
      rintro ⟨⟨current, stage, identified, state⟩, _⟩
      have found := stage.found
      rw [identified, ready.stage.found, Option.some.injEq] at found
      rw [← found, ready.approved] at state
      cases state
    rw [final]
    exact ⟨iff_of_false unawaited refused, fun _ => rfl⟩

/-- The failed test of an approved incident. -/
theorem sampleFailed_awaits_repair :
    AwaitsRepair approvedIncident sampleConsumed ((projectBrokerResult (sampleServices sampleIdle)
      ⟨fun _ _ => 0⟩ approvedIncident.id sampleConsumed.id "ev_2" sampleUuids sampleUuids
      sampleIssuedAt).commit executionFinished).2 := by
  obtain ⟨moved, staged, _, awaits, _⟩ := failed_awaits_repair (sampleServices sampleIdle)
    ⟨fun _ _ => 0⟩ executionFinished approvedIncident sampleConsumed sampleFailedResult "ev_2"
    sampleUuids sampleUuids sampleIssuedAt executionFinished_ready (by decide) (by decide)
  exact awaits.mpr (sample_renders sampleIdle staged moved)

/-! ## A passed test -/

def samplePassedResult : BrokerResult :=
  { sampleFailedResult with status := .executed, receipts := [sampleReceipt], errorCode := none }

def samplePassed : WarrantRecord := { sampleConsumed with resultJson := some samplePassedResult }

def passedFinished : Database :=
  { executionFinished with broker := PostgresWarrantStore.empty.put samplePassed.id samplePassed }

theorem passedFinished_ready :
    Ready approvedIncident samplePassed samplePassedResult passedFinished where
  stage := executionFinished_ready.stage.elsewhere rfl rfl rfl
  approved := rfl
  row := rfl
  owner := rfl
  named := executionFinished_ready.named
  checked := checkBrokerResult_of rfl rfl ⟨rfl, rfl⟩ rfl rfl (hex_ascii _) (List.cons_ne_nil _ _)
    (iff_of_true rfl rfl) (.inl rfl)
  untested := rfl
  work := executionFinished_ready.work
  unrepaired := rfl

/-- A passed test of an incident whose title may be published. -/
theorem samplePassed_verifies :
    IsVerified ((projectBrokerResult (sampleServices sampleIdle) ⟨fun _ _ => 0⟩
        approvedIncident.id samplePassed.id "ev_2" sampleUuids sampleUuids
        sampleIssuedAt).commit passedFinished).2 approvedIncident.id := by
  obtain ⟨moved, staged, _, verifies, _⟩ := passed_verifies_iff (sampleServices sampleIdle)
    ⟨fun _ _ => 0⟩ passedFinished approvedIncident samplePassed samplePassedResult "ev_2"
    sampleUuids sampleUuids sampleIssuedAt passedFinished_ready rfl (by decide)
  exact verifies.mpr ⟨.inr rfl, sample_renders sampleIdle staged moved⟩

end CrossPatch.Runtime.Verification
