import CrossPatch.Broker.Cancellation
import CrossPatch.Runtime.ExecutionPath
import CrossPatch.Runtime.WorkQueue

/-!
# Execution authority

The broker never reads the incident.  A claim succeeds only while the incident of
the warrant is approved or has been escalated since, and escalation does not revoke
the warrant.  The runs of a review that show it also show what becomes of the gate and
of the work queue when a call is made that they do not expect.
-/

namespace CrossPatch.Runtime.ExecutionAuthority

open CrossPatch.Broker.Approval CrossPatch.Broker.Cancellation CrossPatch.Broker.Claim
open CrossPatch.Broker.Paths
open CrossPatch.Broker.Store CrossPatch.Broker.Warrant
open CrossPatch.Domain.Failure CrossPatch.Domain.Hashing CrossPatch.Domain.Seats
open CrossPatch.Domain.StateMachine CrossPatch.Domain.Text
open CrossPatch.Library CrossPatch.Library.Attempt CrossPatch.Library.Calendar
open CrossPatch.Library.JsonText CrossPatch.Library.Octets CrossPatch.Library.Runs
open CrossPatch.Library.Sha256 CrossPatch.Library.Transaction
open CrossPatch.Runner.Catalog CrossPatch.Runner.Results
open CrossPatch.Runtime.Authority CrossPatch.Runtime.BrokerResults CrossPatch.Runtime.ControlPlane
open CrossPatch.Runtime.ExecutionPath CrossPatch.Runtime.Progress CrossPatch.Runtime.Protocol
open CrossPatch.Runtime.Records
open CrossPatch.Runtime.Refinement CrossPatch.Runtime.ReviewPath CrossPatch.Runtime.Store
open CrossPatch.Runtime.Timeline CrossPatch.Runtime.WorkQueue

/-! ## Where claims succeed -/

/-- The claim of the warrant that the plant's broker would make now. -/
def claim (plant : Plant) (db : Database) (warrantId : String) (clock : Option Instant) :
    Attempt ClaimOutcome :=
  (db.broker.claimWarrant plant.gateway.services.tables plant.gateway.services.codec warrantId clock
    plant.validator).1

theorem claim_approved {plant : Plant} {db : Database} {warrantId : String}
    {clock : Option Instant} {claimed : ClaimedWarrant}
    (succeeded : claim plant db warrantId clock = .ok (.claimed claimed)) :
    ∃ record, db.broker.warrants warrantId = some record ∧ record.state = .approved := by
  unfold claim PostgresWarrantStore.claimWarrant at succeeded
  cases found : db.broker.warrants warrantId with
  | none =>
      rw [found] at succeeded
      cases succeeded
  | some record =>
      refine ⟨record, rfl, ?_⟩
      by_contra other
      simp [found, other] at succeeded

/-- In every reachable state a warrant can be claimed only while its incident is
`APPROVED`, or `HUMAN_ESCALATION` after it was escalated from there. -/
theorem claim_bounded_by_incident (plant : Plant) (actions : List Action)
    (follows : (machine plant).Follows Promised Database.empty actions) (warrantId : String)
    (clock : Option Instant) (claimed : ClaimedWarrant)
    (succeeded : claim plant ((machine plant).run Database.empty actions) warrantId clock =
      .ok (.claimed claimed)) :
    ∃ record incident,
      ((machine plant).run Database.empty actions).broker.warrants warrantId = some record ∧
      ((machine plant).run Database.empty actions).incidents.find record.incidentId =
        some incident ∧
      (incident.state = .approved ∨ incident.state = .humanEscalation) := by
  have coherent := run_coherent follows
  obtain ⟨record, found, approved⟩ := claim_approved succeeded
  have row : (view ((machine plant).run Database.empty actions)).warrants warrantId =
      some (authorization record) := by
    simp [view, viewOf, found]
  obtain ⟨standing, present, state⟩ :=
    coherent.exclusive.stateOf (coherent.outstanding_of_live row (.inl approved))
  obtain ⟨incident, stored, rfl⟩ := Option.map_eq_some_iff.mp present
  exact ⟨record, incident, found, stored, state⟩

/-! ## A warrant that outlives its incident -/

def withCodec (plant : Plant) (codec : Codec) : Plant :=
  { plant with
    gateway := { plant.gateway with services := { plant.gateway.services with codec := codec } } }

/-- The actions of a review, none of which reads a stored document. -/
def Reviews : Action → Prop
  | .createIncident .. => True
  | .appendEvent .. => True
  | .prepareSeat .. => True
  | .recordSeatOutput .. => True
  | .openApproval .. => True
  | _ => False

theorem perform_withCodec {plant : Plant} {codec : Codec} {db : Database} {action : Action}
    (reviews : Reviews action) :
    perform (withCodec plant codec) db action = perform plant db action := by
  cases action with
  | createIncident => rfl
  | appendEvent => rfl
  | prepareSeat => rfl
  | recordSeatOutput => rfl
  | openApproval => rfl
  | _ => exact reviews.elim

theorem run_withCodec {plant : Plant} {codec : Codec} {actions : List Action}
    (reviews : ∀ action ∈ actions, Reviews action) (db : Database) :
    (machine (withCodec plant codec)).run db actions = (machine plant).run db actions := by
  induction actions generalizing db with
  | nil => rfl
  | cons action rest ih =>
      rw [List.forall_mem_cons] at reviews
      have same : (machine (withCodec plant codec)).next db action =
          (machine plant).next db action :=
        congrArg Prod.fst (perform_withCodec reviews.1)
      rw [Machine.run_cons, Machine.run_cons, same, ih reviews.2]

/-- A store with a minimal read model. -/
def sampleServices (codec : Codec) : Services where
  tables := .asciiOnly
  codec := codec
  publicTitleIssues _ := []
  project _ incident state :=
    .ok [("incident", .obj [("id", .str incident.id), ("state", .str state.value)])]
  semanticFingerprint _ _ := .ok sampleDigest

theorem sample_renders (codec : Codec) : Renders (sampleServices codec) := by
  intro db incident
  refine ⟨_, rfl, normalize_obj_ok ["incident"] rfl (by decide) (by decide) ?_⟩
  rw [List.forall_mem_singleton]
  exact normalize_obj_ok ["id", "state"] rfl (by decide) (by decide) (by simp)

def samplePolicy : AuthorityPolicy where
  repositoryRoot := "/srv/repository"
  repositoryId := "repository-1"
  approverIdentity := "operator"
  approvalMacKeyId := "key-1"
  approvalService := sampleApprovals
  runnerDigest := sampleDigest
  environmentDigest := sampleDigest
  warrantTtl := 900000000
  catalog := .default
  identified := by decide
  digestLengths := by decide
  ttlPositive := by decide

def sampleGateway (codec : Codec) : Gateway := ⟨sampleServices codec, sampleFiles, samplePolicy⟩

def samplePlant (codec : Codec) : Plant :=
  ⟨sampleGateway codec, ⟨fun _ _ => 0⟩, validateClaim sampleEnvironment sampleConfig⟩

/-- A codec for runs in which nothing is read back. -/
def sampleIdle : Codec where
  loadWarrant _ := raise .valueError "unread"
  loadApproval _ := raise .valueError "unread"
  loadAuthority _ := raise .valueError "unread"

def sampleInput : NewIncident where
  incidentId := "incident-1"
  title := "Duplicate webhook deliveries"
  scenario := "webhook-race"
  baseSha := sampleDigest
  repositoryManifestSha256 := sampleDigest
  catalogSha256 := sampleDigest
  actor := "operator"
  liveTrial := false
  evidenceProfile := "standard"

def sampleCounsel : CounselOutput where
  normalizedDiff := samplePatchText
  testIntentions := [⟨"victim.duplicate-race.candidate", "race", by decide⟩]
  evidenceIds := ["ev_1"]
  analysis := "lock before insert"
  proposes := by decide
  tested := by decide
  cited := by decide

def sampleVerdict : MagistrateOutput where
  verdict := .clear
  findingCodes := []
  requiredChanges := []
  remandTarget := none
  evidenceIds := ["ev_1"]
  analysis := "clear"
  cited := by decide

def sampleUuids : Nat → String := fun _ => "1"

def sampleOutputs : Seat → Option SeatOutput
  | .counsel => some (.counsel sampleCounsel)
  | _ => none

def sampleEvent (type : StateEventType) (uuid : String) : Action :=
  .appendEvent sampleInput.incidentId (.state type) "orchestrator" [] true uuid sampleIssuedAt

/-- An approved incident whose execution is being worked on. -/
def executionUnderWay : Database :=
  { Database.empty with
    incidents := Table.empty.insert
      { openedRecord sampleInput sampleIssuedAt with state := .approved } rfl
    works := Table.empty.insert
      { id := executionWorkId "warrant-1"
        incidentId := sampleInput.incidentId
        warrantId := "warrant-1"
        kind := .approvedExecution
        status := .running
        ownerId := some "worker-1"
        attemptCount := 1
        createdAt := sampleIssuedAt
        updatedAt := sampleIssuedAt
        completedAt := none } rfl }

/-- A review from its opening to the proposed patch. -/
def sampleProposal : List Action :=
  [.createIncident sampleInput "1" sampleIssuedAt,
   sampleEvent .reproductionStarted "2", sampleEvent .evidenceCaptured "3",
   sampleEvent .analysisStarted "4",
   .prepareSeat sampleInput.incidentId .counsel "patch-proposal" sampleUuids
     fun _ => sampleIssuedAt,
   .recordSeatOutput sampleInput.incidentId .counsel .high "patch-proposal" (.counsel sampleCounsel)
     0 sampleUuids sampleIssuedAt]

/-- A review from its opening to the approval gate. -/
def sampleReview : List Action :=
  sampleProposal ++
    [.openApproval sampleInput.incidentId sampleVerdict sampleOutputs sampleUuids sampleIssuedAt]

theorem sample_derived : derivePatchPaths .asciiOnly (utf8 sampleCounsel.normalizedDiff) =
    .ok ["app.py"] :=
  (validateDeclaredPatchPaths_eq_ok samplePatch_admitted (by decide) (by decide)).1

theorem sample_clears {codec : Codec} {incident : IncidentRecord} {state : IncidentState}
    (moved : Moved (openedRecord sampleInput sampleIssuedAt) state incident) :
    Clears (sampleGateway codec) incident sampleVerdict sampleCounsel ["app.py"] [samplePlan]
      sampleUuids sampleIssuedAt sampleExpiresAt := by
  have digest : isSha256 sampleDigest = true := by decide
  have commit : isGitSha sampleDigest = true := by decide
  have nonempty : sampleDigest ≠ "" := by decide
  have rest := moved.rest
  obtain ⟨plan, resolved, captured⟩ := samplePlan_listed.2
  have planned : ExecutionCatalog.default.resolve "victim.duplicate-race.candidate" = .ok plan :=
    resolved
  rw [rest]
  refine ⟨⟨rfl, rfl⟩, sample_derived, ?_, rfl, ⟨sampleDigest, rfl, nonempty, commit⟩,
    ⟨sampleDigest, rfl, nonempty, digest⟩, ?_, fun _ _ => ⟨_, rfl⟩, ?_, ?_, ?_, by decide, ?_⟩
  · change validatePatchPaths .asciiOnly sampleFiles "/srv/repository" ["app.py"] = _
    decide
  · refine ⟨"victim.duplicate-race.candidate", ?_, rfl, ?_, by simp, by simp⟩
    · change requireOperatorScenario "webhook-race" = _
      decide
    · change collect _ ["victim.duplicate-race.candidate"] = _
      simp [collect, sampleGateway, samplePolicy, planned, captured]
  · change (["war_1", "verdict_1", "nonce_1", "candidate_1", "incident-1", "repository-1",
      "key-1"].all isIdentifier) = true
    decide
  · simp [sampleGateway, samplePolicy, digest]
  · change 1 ≤ "operator".length ∧ "operator".length ≤ 256
    decide
  · change addDuration sampleIssuedAt 900000000 = .ok sampleExpiresAt ∧ _
    decide

/-- An action whose transaction reaches its postcondition performs it. -/
theorem performed {α : Type} (plant : Plant) {db : Database} (action : Action)
    {transaction : Tx α} {Post : Database → Prop}
    (same : (machine plant).next db action = (settle transaction db).1)
    (reaches : transaction.Reaches db fun _ next => Post next) :
    ∃ next, (machine plant).next db action = next ∧ Post next := by
  obtain ⟨_, _, post⟩ := reaches.commit
  exact ⟨_, same, post⟩

theorem next_openApproval (plant : Plant) (db : Database) (incidentId : String)
    (output : MagistrateOutput) (seatOutputs : Seat → Option SeatOutput) (uuids : Nat → String)
    (now : Instant) :
    (machine plant).next db (.openApproval incidentId output seatOutputs uuids now) =
      (settle (openApproval plant.gateway incidentId output seatOutputs uuids now) db).1 :=
  rfl

theorem sampleProposal_reviewing (codec : Codec) {db : Database}
    (vacant : Vacant sampleInput.incidentId ["app.py"] db) :
    InReview sampleInput sampleIssuedAt ["app.py"] .reviewing
      ((machine (samplePlant codec)).run db sampleProposal) := by
  have renders := sample_renders codec
  have named : isIdentifier ("candidate_" ++ sampleUuids 1) = true := by decide
  -- each action commits, and its effect is the premise of the next one
  obtain ⟨db1, step1, opened⟩ := performed (samplePlant codec)
    (.createIncident sampleInput "1" sampleIssuedAt) rfl
    (@inReview_create _ _ sampleInput sampleIssuedAt ["app.py"] vacant renders "1" rfl)
  obtain ⟨db2, step2, reproducing⟩ := performed (samplePlant codec)
    (sampleEvent .reproductionStarted "2") rfl (opened.appendEvent renders
      (.state .reproductionStarted) .reproducing rfl (by decide) "orchestrator" "2" sampleIssuedAt)
  obtain ⟨db3, step3, captured⟩ := performed (samplePlant codec)
    (sampleEvent .evidenceCaptured "3") rfl (reproducing.appendEvent renders
      (.state .evidenceCaptured) .evidenceReady rfl (by decide) "orchestrator" "3" sampleIssuedAt)
  obtain ⟨db4, step4, analyzing⟩ := performed (samplePlant codec)
    (sampleEvent .analysisStarted "4") rfl (captured.appendEvent renders
      (.state .analysisStarted) .analyzing rfl (by decide) "orchestrator" "4" sampleIssuedAt)
  obtain ⟨db5, step5, patching⟩ := performed (samplePlant codec)
    (.prepareSeat sampleInput.incidentId .counsel "patch-proposal" sampleUuids
      fun _ => sampleIssuedAt) rfl
    (analyzing.prepareCounsel renders "patch-proposal" sampleUuids fun _ => sampleIssuedAt)
  obtain ⟨db6, step6, reviewing⟩ := performed (samplePlant codec)
    (.recordSeatOutput sampleInput.incidentId .counsel .high "patch-proposal"
      (.counsel sampleCounsel) 0 sampleUuids sampleIssuedAt) rfl
    (patching.recordCounsel renders sampleCounsel sample_derived rfl named .high "patch-proposal" 0
      sampleIssuedAt)
  rw [sampleProposal, Machine.run_cons, step1, Machine.run_cons, step2, Machine.run_cons, step3,
    Machine.run_cons, step4, Machine.run_cons, step5, Machine.run_cons, step6, Machine.run_nil]
  exact reviewing

theorem sampleReview_awaiting (codec : Codec) {db : Database}
    (vacant : Vacant sampleInput.incidentId ["app.py"] db) :
    ∃ document canonical control, Awaiting (sampleGateway codec) sampleInput.incidentId document
      canonical control ((machine (samplePlant codec)).run db sampleReview) ∧
        document.warrantId = "war_" ++ sampleUuids 0 ∧
        ∃ incident, Issued (sampleGateway codec) incident sampleCounsel ["app.py"] [samplePlan]
          sampleIssuedAt sampleExpiresAt document ∧ incident.id = sampleInput.incidentId := by
  have reviewed := sampleProposal_reviewing codec vacant
  rw [sampleReview, Machine.run_append]
  generalize (machine (samplePlant codec)).run db sampleProposal = db at reviewed ⊢
  obtain ⟨incident, stage, moved, proposed⟩ := reviewed
  have identified := moved_id moved
  have counselled : sampleOutputs .counsel = some (.counsel sampleCounsel) := rfl
  have reaches := openApproval_reaches stage moved.state (sample_renders codec)
    (sample_clears moved) proposed moved.head counselled
  rw [identified] at reaches
  obtain ⟨after, step, document, canonical, control, awaiting, issued, warrantId⟩ :=
    performed (samplePlant codec)
      (.openApproval sampleInput.incidentId sampleVerdict sampleOutputs sampleUuids sampleIssuedAt)
      (next_openApproval (samplePlant codec) db _ _ _ _ _) reaches
  refine ⟨document, canonical, control, ?_, warrantId, incident, issued, identified⟩
  rw [Machine.run_cons, step, Machine.run_nil]
  exact awaiting

theorem issued_bindings {gateway : Gateway} {incident : IncidentRecord} {document : WarrantDocument}
    {now expiresAt : Instant}
    (issued : Issued gateway incident sampleCounsel ["app.py"] [samplePlan] now expiresAt document) :
    IntegrityBindings gateway.services.tables document samplePatch where
  patchBytes := WarrantFields.patchBytes_eq_ok.mpr issued.patch.1.symm
  nonempty := by decide
  patchSha256 := issued.patch.2.symm
  plans plan member := by
    rw [issued.plans.1] at member
    rw [List.mem_singleton.mp member]
    rfl
  testPlanSha256 := by
    rw [issued.plans.1]
    exact issued.plans.2

/-- The warrant of the sample review is approved by its approver. -/
theorem sample_approval {codec : Codec} {incident : IncidentRecord} {document : WarrantDocument}
    (issued : Issued (sampleGateway codec) incident sampleCounsel ["app.py"] [samplePlan]
      sampleIssuedAt sampleExpiresAt document) :
    ∃ approval, sampleApprovals.approve .asciiOnly document sampleIssuedAt
      (some document.approverIdentity) = .ok approval := by
  have integrity := validateWarrantIntegrity_eq_ok.mpr ⟨samplePatch, issued_bindings issued⟩
  have ascii : isAscii document.approverIdentity = true := by
    rw [issued.approver]
    change isAscii "operator" = true
    decide
  have known : sampleApprovals.key document.approvalMacKeyId = .ok (List.replicate 32 7) := by
    rw [issued.key]
    change sampleApprovals.key "key-1" = _
    decide
  have unexpired : sampleIssuedAt ≤ document.expiresAt := by
    rw [issued.expires]
    change (0 : Int) ≤ 900000000
    decide
  rw [approve_named]
  exact approve_issues integrity (issued.issued ▸ Int.le_refl _) unexpired ascii known

/-- Against its own authority it is claimable. -/
theorem sample_claimable {codec : Codec} {incident : IncidentRecord} {document : WarrantDocument}
    {approval : WarrantApproval}
    (issued : Issued (sampleGateway codec) incident sampleCounsel ["app.py"] [samplePlan]
      sampleIssuedAt sampleExpiresAt document)
    (approved : sampleApprovals.approve .asciiOnly document sampleIssuedAt
      (some document.approverIdentity) = .ok approval) :
    validateClaim sampleEnvironment sampleConfig document approval sampleIssuedAt
      (AuthoritySnapshot.fromWarrant document "/srv/repository") =
        .ok (AuthoritySnapshot.fromWarrant document "/srv/repository") := by
  refine @validateClaim_of_issued sampleEnvironment sampleConfig document approval sampleIssuedAt
    sampleIssuedAt _ "/srv/repository" samplePatch ["app.py"] approved (Int.le_refl _) issued.runner
    issued.host ?_ (issued_bindings issued).patchBytes ?_
  · intro bound member
    rw [issued.plans.1] at member
    rw [List.mem_singleton.mp member]
    exact samplePlan_listed
  · rw [issued.paths]
    exact samplePatch_admitted

theorem sampleReview_promised (db : Database) (action : Action) (member : action ∈ sampleReview) :
    Promised db action := by
  simp only [sampleReview, sampleProposal, List.cons_append, List.nil_append, List.mem_cons,
    List.not_mem_nil, or_false] at member
  rcases member with rfl | rfl | rfl | rfl | rfl | rfl | rfl <;> trivial

theorem sampleReview_gatekept (action : Action) (member : action ∈ sampleReview) :
    Gatekept action := by
  simp only [sampleReview, sampleProposal, List.cons_append, List.nil_append, List.mem_cons,
    List.not_mem_nil, or_false] at member
  rcases member with rfl | rfl | rfl | rfl | rfl | rfl | rfl <;> trivial

theorem sampleReview_timely (codec : Codec) {db : Database}
    (vacant : Vacant sampleInput.incidentId ["app.py"] db) :
    (machine (samplePlant codec)).Follows Timely db sampleReview := by
  have reviewed := sampleProposal_reviewing codec vacant
  refine (Machine.follows_append _).mpr ⟨?_, ?_⟩
  · refine Machine.follows_of_forall _ (fun db action member => ?_) db
    simp only [sampleProposal, List.mem_cons, List.not_mem_nil, or_false] at member
    rcases member with rfl | rfl | rfl | rfl | rfl | rfl <;> exact ⟨by trivial, trivial, not_false⟩
  · generalize (machine (samplePlant codec)).run db sampleProposal = db at reviewed ⊢
    obtain ⟨_, _, _, proposed⟩ := reviewed
    refine ⟨⟨trivial, fun control member => ?_, not_false⟩, trivial⟩
    rw [Database.controlsOf, proposed.controls] at member
    cases member

/-- The sample review keeps the warrant tables in step. -/
theorem sampleReview_pending_warrant :
    PendingWarrants ((machine (samplePlant sampleIdle)).run Database.empty sampleReview) :=
  pending_warrant_invariant (samplePlant sampleIdle) sampleReview
    ((machine (samplePlant sampleIdle)).follows_of_forall
      (fun db action member =>
        ⟨sampleReview_promised db action member, sampleReview_gatekept action member⟩)
      Database.empty)

/-- A CLEAR verdict that is recorded instead of opening the approval. -/
def sampleClear : Action :=
  .recordVerdict sampleInput.incidentId sampleVerdict sampleUuids sampleIssuedAt

/-- It takes the sample to the gate, where no control row waits. -/
theorem sampleClear_unpaired {codec : Codec} {db : Database}
    (review : InReview sampleInput sampleIssuedAt ["app.py"] .reviewing db) :
    ¬ PendingWarrants ((machine (samplePlant codec)).next db sampleClear) := by
  obtain ⟨incident, stage, moved, proposed⟩ := review
  have reaches := @recordVerdict_reaches _ incident (sampleGateway codec) sampleVerdict
    sampleUuids sampleIssuedAt stage moved.state (sample_renders codec) ⟨rfl, rfl⟩
  rw [moved_id moved] at reaches
  obtain ⟨after, step, ⟨gate, opened, atGate⟩, controls⟩ :=
    performed (samplePlant codec) sampleClear rfl reaches
  rw [step]
  intro pending
  obtain ⟨control, owned, _⟩ := (pending.gate gate (Table.mem_of_find opened.found)).mp atGate
  rw [Database.controlsOf, controls, proposed.controls] at owned
  cases owned

theorem sampleClear_promised :
    (machine (samplePlant sampleIdle)).Follows Promised Database.empty
      (sampleProposal ++ [sampleClear]) := by
  refine Machine.follows_of_forall _ (fun db action member => ?_) _
  rcases List.mem_append.mp member with proposed | clear
  · exact sampleReview_promised db action (List.mem_append_left _ proposed)
  · rw [List.mem_singleton.mp clear]
    trivial

/-- The gate can be reached without a warrant. -/
theorem clear_without_warrant :
    ¬ ∀ plant actions, (machine plant).Follows Promised Database.empty actions →
      PendingWarrants ((machine plant).run Database.empty actions) := by
  intro invariant
  have pending := invariant (samplePlant sampleIdle) (sampleProposal ++ [sampleClear])
    sampleClear_promised
  rw [Machine.run_append, Machine.run_cons, Machine.run_nil] at pending
  exact sampleClear_unpaired (sampleProposal_reviewing sampleIdle (vacant_empty _ _)) pending

theorem sampleReview_reviews (action : Action) (member : action ∈ sampleReview) :
    Reviews action := by
  simp only [sampleReview, sampleProposal, List.cons_append, List.nil_append, List.mem_cons,
    List.not_mem_nil, or_false] at member
  rcases member with rfl | rfl | rfl | rfl | rfl | rfl | rfl <;> trivial

/-- The approval of the sample warrant, and the failure of its execution. -/
def sampleFailure (document : WarrantDocument) (canonical : Bytes) : List Action :=
  [.decideLocked document.warrantId true (hexdigest canonical) document.approverIdentity none "8"
     sampleIssuedAt,
   .recordExecutionFailure sampleInput.incidentId document.warrantId "BAILIFF_MODEL_FAILURE" "9"
     sampleIssuedAt]

/-- From the gate, the approval of the sample warrant commits. -/
theorem sampleApproval_authorized {codec : Codec} {db : Database} {document : WarrantDocument}
    {canonical : Bytes} {control : ControlWarrantRecord} {approval : WarrantApproval}
    {incident : IncidentRecord}
    (awaiting : Awaiting (sampleGateway codec) sampleInput.incidentId document canonical control db)
    (issued : Issued (sampleGateway codec) incident sampleCounsel ["app.py"] [samplePlan]
      sampleIssuedAt sampleExpiresAt document) (warrantId : document.warrantId = "war_" ++ sampleUuids 0)
    (legible : Legible (sampleGateway codec) document approval)
    (approved : sampleApprovals.approve .asciiOnly document sampleIssuedAt
      (some document.approverIdentity) = .ok approval) :
    ∃ next, (machine (samplePlant codec)).next db (.decideLocked document.warrantId true
        (hexdigest canonical) document.approverIdentity none "8" sampleIssuedAt) = next ∧
      Authorized (sampleGateway codec) sampleInput.incidentId document approval .approved next := by
  have timely : sampleIssuedAt ≤ document.expiresAt := by
    rw [issued.expires]
    change (0 : Int) ≤ 900000000
    decide
  have names : isIdentifier (approvalIdOf document.warrantId) = true ∧
      isIdentifier document.approverIdentity = true := by
    rw [warrantId, issued.approver]
    change isIdentifier (approvalIdOf ("war_" ++ sampleUuids 0)) = true ∧
      isIdentifier "operator" = true
    decide
  exact performed (samplePlant codec)
    (.decideLocked document.warrantId true (hexdigest canonical) document.approverIdentity none "8"
      sampleIssuedAt) rfl
    (approve_reaches awaiting (sample_renders codec) (legible.warrant _ awaiting.encoded)
      (legible.authority _ awaiting.authority) timely approved names)

theorem sample_named {document : WarrantDocument}
    (warrantId : document.warrantId = "war_" ++ sampleUuids 0) :
    isIdentifier document.warrantId = true := by
  rw [warrantId]
  decide

/-- From the gate, both actions commit, and the warrant is still authorized. -/
theorem sampleFailure_authorized {codec : Codec} {db : Database} {document : WarrantDocument}
    {canonical : Bytes} {control : ControlWarrantRecord} {approval : WarrantApproval}
    {incident : IncidentRecord}
    (awaiting : Awaiting (sampleGateway codec) sampleInput.incidentId document canonical control db)
    (issued : Issued (sampleGateway codec) incident sampleCounsel ["app.py"] [samplePlan]
      sampleIssuedAt sampleExpiresAt document) (warrantId : document.warrantId = "war_" ++ sampleUuids 0)
    (legible : Legible (sampleGateway codec) document approval)
    (approved : sampleApprovals.approve .asciiOnly document sampleIssuedAt
      (some document.approverIdentity) = .ok approval) :
    (machine (samplePlant codec)).Follows Promised db (sampleFailure document canonical) ∧
      Authorized (sampleGateway codec) sampleInput.incidentId document approval .humanEscalation
        ((machine (samplePlant codec)).run db (sampleFailure document canonical)) := by
  obtain ⟨db1, step1, granted⟩ :=
    sampleApproval_authorized awaiting issued warrantId legible approved
  obtain ⟨db2, step2, failed⟩ := performed (samplePlant codec)
    (.recordExecutionFailure sampleInput.incidentId document.warrantId "BAILIFF_MODEL_FAILURE" "9"
      sampleIssuedAt) rfl
    (recordExecutionFailure_reaches granted (sample_renders codec) sampleIssuedAt
      (sample_named warrantId) (by decide))
  refine ⟨⟨trivial, trivial, trivial⟩, ?_⟩
  · rw [sampleFailure, Machine.run_cons, step1, Machine.run_cons, step2, Machine.run_nil]
    exact failed

/-- What the broker's JSON reader answers while the sample is its only warrant. -/
def sampleCodec (document : WarrantDocument) (approval : WarrantApproval) : Codec where
  loadWarrant _ := .ok document
  loadApproval _ := .ok approval
  loadAuthority _ := .ok (AuthoritySnapshot.fromWarrant document "/srv/repository")

/-- The review does not depend on the codec, which can be chosen after it. -/
theorem sampleReview_withCodec {idle : Codec} (codec : Codec) {document : WarrantDocument}
    {canonical : Bytes} {control : ControlWarrantRecord} {db : Database}
    (opened : Awaiting (sampleGateway idle) sampleInput.incidentId document canonical control
      ((machine (samplePlant idle)).run db sampleReview)) :
    Awaiting (sampleGateway codec) sampleInput.incidentId document canonical control
      ((machine (samplePlant codec)).run db sampleReview) := by
  have same := @run_withCodec (samplePlant idle) codec _ sampleReview_reviews db
  change (machine (samplePlant codec)).run db sampleReview = _ at same
  rw [same]
  exact ⟨opened.encoded, opened.found, opened.row, opened.stored, opened.authority, opened.stage,
    opened.broker, opened.works, opened.tests⟩

theorem issued_withCodec {idle : Codec} (codec : Codec) {incident : IncidentRecord}
    {document : WarrantDocument}
    (issued : Issued (sampleGateway idle) incident sampleCounsel ["app.py"] [samplePlan]
      sampleIssuedAt sampleExpiresAt document) :
    Issued (sampleGateway codec) incident sampleCounsel ["app.py"] [samplePlan] sampleIssuedAt
      sampleExpiresAt document :=
  ⟨issued.incident, issued.patch, issued.paths, issued.plans, issued.runner, issued.host,
    issued.approver, issued.key, issued.issued, issued.expires⟩

theorem sampleCodec_legible (document : WarrantDocument) (approval : WarrantApproval) :
    Legible (sampleGateway (sampleCodec document approval)) document approval :=
  ⟨fun _ _ => rfl, fun _ _ => rfl, fun _ _ => rfl⟩

/-- The authorized sample is claimed, whatever has become of its incident. -/
theorem sample_claimed {codec : Codec} {db : Database} {document : WarrantDocument}
    {approval : WarrantApproval} {incident : IncidentRecord} {state : IncidentState}
    (authorized : Authorized (sampleGateway codec) sampleInput.incidentId document approval state db)
    (issued : Issued (sampleGateway codec) incident sampleCounsel ["app.py"] [samplePlan]
      sampleIssuedAt sampleExpiresAt document) (identified : incident.id = sampleInput.incidentId)
    (legible : Legible (sampleGateway codec) document approval)
    (approved : sampleApprovals.approve .asciiOnly document sampleIssuedAt
      (some document.approverIdentity) = .ok approval) :
    ∃ claimed, claim (samplePlant codec) db document.warrantId (some sampleIssuedAt) =
      .ok (.claimed claimed) := by
  have timely : sampleIssuedAt ≤ document.expiresAt := by
    rw [issued.expires]
    change (0 : Int) ≤ 900000000
    decide
  obtain ⟨record, row, _⟩ := authorized.row
  exact ⟨_, congrArg Prod.fst (claim_of_authorized row authorized legible
    (issued.incident.trans identified) timely (sample_claimable issued approved))⟩

/-- A run of the sample in which the escalated incident's warrant can be claimed. -/
theorem sample_escalates : ∃ codec actions warrantId claimed incident,
    (machine (samplePlant codec)).Follows Promised Database.empty actions ∧
    claim (samplePlant codec) ((machine (samplePlant codec)).run Database.empty actions) warrantId
      (some sampleIssuedAt) = .ok (.claimed claimed) ∧
    ((machine (samplePlant codec)).run Database.empty actions).incidents.find incident.id =
      some incident ∧
    (∀ record, ((machine (samplePlant codec)).run Database.empty actions).broker.warrants
      warrantId = some record → record.incidentId = incident.id) ∧
    incident.state = .humanEscalation := by
  obtain ⟨document, canonical, control, opened, warrantId, reviewed, issuedIdle, identified⟩ :=
    sampleReview_awaiting sampleIdle (vacant_empty _ _)
  obtain ⟨approval, approved⟩ := sample_approval issuedIdle
  have legible := sampleCodec_legible document approval
  generalize sampleCodec document approval = codec at legible
  have issued := issued_withCodec codec issuedIdle
  have awaiting := sampleReview_withCodec codec opened
  obtain ⟨follows, escalated⟩ :=
    sampleFailure_authorized awaiting issued warrantId legible approved
  obtain ⟨claimed, succeeded⟩ := sample_claimed escalated issued identified legible approved
  obtain ⟨incident, stage, owner, state⟩ := escalated.stage
  obtain ⟨record, found, _, owned, _⟩ := escalated.row
  refine ⟨codec, sampleReview ++ sampleFailure document canonical, document.warrantId, claimed,
    incident, ?_, ?_, ?_, ?_, state⟩
  · refine (Machine.follows_append _).mpr ⟨?_, follows⟩
    exact (machine (samplePlant codec)).follows_of_forall sampleReview_promised Database.empty
  · rw [Machine.run_append]
    exact succeeded
  · rw [Machine.run_append]
    exact stage.found
  · intro other present
    rw [Machine.run_append, found, Option.some.injEq] at present
    rw [← present, owned, owner]

/-- The escalated sample shows both sides of the bound. -/
theorem sample_claim_bounded : ∃ codec actions warrantId record incident,
    ((machine (samplePlant codec)).run Database.empty actions).broker.warrants warrantId =
      some record ∧
    ((machine (samplePlant codec)).run Database.empty actions).incidents.find record.incidentId =
      some incident ∧
    (incident.state = .approved ∨ incident.state = .humanEscalation) := by
  obtain ⟨codec, actions, warrantId, claimed, _, follows, succeeded, _⟩ := sample_escalates
  exact ⟨codec, actions, warrantId, claim_bounded_by_incident (samplePlant codec) actions follows
    warrantId _ claimed succeeded⟩

/-- A warrant is still claimed after `EXECUTION_FAILED` has escalated its incident. -/
theorem claim_after_escalation :
    ¬ ∀ plant actions warrantId clock claimed,
      (machine plant).Follows Promised Database.empty actions →
      claim plant ((machine plant).run Database.empty actions) warrantId clock =
        .ok (.claimed claimed) →
      ∃ record incident,
        ((machine plant).run Database.empty actions).broker.warrants warrantId = some record ∧
        ((machine plant).run Database.empty actions).incidents.find record.incidentId =
          some incident ∧ incident.state = .approved := by
  intro bounded
  obtain ⟨codec, actions, warrantId, claimed, incident, follows, succeeded, found, owned, state⟩ :=
    sample_escalates
  obtain ⟨record, other, row, present, approved⟩ :=
    bounded (samplePlant codec) actions warrantId _ claimed follows succeeded
  rw [owned record row, found, Option.some.injEq] at present
  rw [← present, state] at approved
  cases approved

/-! ## A repair that another incident completes -/

/-- What the broker reports about the sample warrant. -/
def sampleReport (document : WarrantDocument) : BrokerResult where
  warrantId := document.warrantId
  status := .testFailed
  receipts := [{ sampleReceipt with exitCode := some 1 }]
  errorCode := some "FIXED_TEST_PLAN_FAILED"
  nonceSha256 := some (hexdigest (utf8 document.nonce))

theorem sampleReport_reports (document : WarrantDocument) :
    Reports document (sampleReport document) where
  warrant := rfl
  nonce := rfl
  receipts := List.cons_ne_nil _ _
  agrees := by
    have failed : ({ sampleReceipt with exitCode := some 1 } : ProcessReceipt).passed = false := by
      decide
    exact iff_of_false (by simp [sampleReport]) (by simp [sampleReport, failed])
  projectable := .inr rfl

/-- The approval of the sample warrant, and its execution, whose test fails. -/
def sampleExecution (document : WarrantDocument) (canonical : Bytes) : List Action :=
  [.decideLocked document.warrantId true (hexdigest canonical) document.approverIdentity none "8"
     sampleIssuedAt,
   .claimRuntimeWork (executionWorkId document.warrantId) "worker-1" sampleIssuedAt,
   .claimWarrant document.warrantId (some sampleIssuedAt),
   .finish document.warrantId (sampleReport document) (some sampleIssuedAt),
   .projectBrokerResult sampleInput.incidentId document.warrantId "ev_2" sampleUuids sampleUuids
     sampleIssuedAt]

theorem sampleExecution_timely (codec : Codec) (db : Database) (document : WarrantDocument)
    (canonical : Bytes) :
    (machine (samplePlant codec)).Follows Timely db (sampleExecution document canonical) := by
  refine Machine.follows_of_forall _ (fun db action member => ?_) db
  simp only [sampleExecution, List.mem_cons, List.not_mem_nil, or_false] at member
  rcases member with rfl | rfl | rfl | rfl | rfl <;> exact ⟨trivial, trivial, not_false⟩

/-- The incident is left in `TEST_FAILED`, with no work but the execution and its repair. -/
structure Unrepaired (incidentId warrantId : String) (db : Database) : Prop where
  incident : ∃ incident, db.incidents.find incidentId = some incident ∧
    incident.state = .testFailed
  execution : ∃ work, db.works.find (executionWorkId warrantId) = some work ∧
    work.status = .completed
  repair : ∃ work, db.works.find (repairWorkId warrantId) = some work ∧ work.status = .pending
  others : ∀ id, id ≠ executionWorkId warrantId → id ≠ repairWorkId warrantId →
    db.works.find id = none

/-- From the gate, every action of the sample execution commits. -/
theorem sampleExecution_unrepaired {codec : Codec} {db : Database} {document : WarrantDocument}
    {canonical : Bytes} {control : ControlWarrantRecord} {approval : WarrantApproval}
    {incident : IncidentRecord}
    (awaiting : Awaiting (sampleGateway codec) sampleInput.incidentId document canonical control db)
    (issued : Issued (sampleGateway codec) incident sampleCounsel ["app.py"] [samplePlan]
      sampleIssuedAt sampleExpiresAt document) (identified : incident.id = sampleInput.incidentId)
    (warrantId : document.warrantId = "war_" ++ sampleUuids 0)
    (legible : Legible (sampleGateway codec) document approval)
    (approved : sampleApprovals.approve .asciiOnly document sampleIssuedAt
      (some document.approverIdentity) = .ok approval) :
    Unrepaired sampleInput.incidentId document.warrantId
      ((machine (samplePlant codec)).run db (sampleExecution document canonical)) := by
  obtain ⟨db1, step1, granted⟩ :=
    sampleApproval_authorized awaiting issued warrantId legible approved
  obtain ⟨db2, step2, running⟩ : ∃ next, (machine (samplePlant codec)).next db1
      (.claimRuntimeWork (executionWorkId document.warrantId) "worker-1" sampleIssuedAt) = next ∧
        Authorized (sampleGateway codec) sampleInput.incidentId document approval .approved next := by
    obtain ⟨_, _, claimed⟩ := (claimWork_reaches granted "worker-1" sampleIssuedAt).commit
    exact ⟨_, settleClaim_fst _ _ _, claimed⟩
  have timely : sampleIssuedAt ≤ document.expiresAt := by
    rw [issued.expires]
    change (0 : Int) ≤ 900000000
    decide
  obtain ⟨row, record, rowId, recordId, ready⟩ := @ready_of_executed _ _ _ _ _ running legible
    (issued.incident.trans identified) (sample_named warrantId) sampleIssuedAt sampleIssuedAt timely
    _ _ (sample_claimable issued approved) _ (sampleReport_reports document)
  rw [sampleExecution, Machine.run_cons, step1, Machine.run_cons, step2, Machine.run_cons,
    Machine.run_cons, Machine.run_cons, Machine.run_nil]
  have unexecuted : (sampleReport document).status ≠ .executed := by simp [sampleReport]
  have tested : isIdentifier
      ("test_" ++ sampleUuids ((sampleReport document).receipts.length - 1)) = true := by
    change isIdentifier ("test_" ++ sampleUuids 0) = true
    decide
  have projects := @Ready.project_reaches (sampleServices codec) ⟨fun _ _ => 0⟩ _ row record _ ready
    (sample_renders codec) (fun executed => absurd executed unexecuted) "ev_2" sampleUuids
    sampleUuids sampleIssuedAt tested
  rw [rowId, recordId] at projects
  obtain ⟨next, step, ⟨⟨moved, stage, owner, state⟩, ⟨repair, waiting⟩, work, done, _, completed⟩,
      others⟩ := performed (samplePlant codec)
    (.projectBrokerResult sampleInput.incidentId document.warrantId "ev_2" sampleUuids sampleUuids
      sampleIssuedAt) rfl (projects.mono fun _ _ both => both.2 unexecuted)
  rw [recordId] at waiting done
  rw [rowId] at owner
  have broker : (machine (samplePlant codec)).next ((machine (samplePlant codec)).next db2
      (.claimWarrant document.warrantId (some sampleIssuedAt)))
        (.finish document.warrantId (sampleReport document) (some sampleIssuedAt)) =
      { db2 with
        broker := ((db2.broker.claimWarrant .asciiOnly codec document.warrantId
          (some sampleIssuedAt) (validateClaim sampleEnvironment sampleConfig)).2.finish
            document.warrantId (sampleReport document) (some sampleIssuedAt)).2 } := rfl
  rw [broker]
  refine Eq.subst step.symm ⟨⟨moved, owner ▸ stage.found, state⟩, ⟨work, done, completed⟩,
    ⟨repair, waiting⟩, fun id first second => ?_⟩
  exact (others id first second).trans (running.only id first)

/-- A repair that is completed in the name of an escalated incident leaves its own incident
without work. -/
theorem stranded_of_stray {codec : Codec} {db : Database} {incidentId warrantId other : String}
    (unrepaired : Unrepaired incidentId warrantId db)
    (escalated : Escalated db other) (now : Instant) :
    ¬ Unstranded ((machine (samplePlant codec)).next db (.completeRepairWork other warrantId now)) := by
  obtain ⟨bystander, present, state⟩ := escalated
  obtain ⟨⟨incident, found, failed⟩, ⟨execution, queued, done⟩, ⟨repair, waiting, _⟩, others⟩ :=
    unrepaired
  have key := Table.key_of_find waiting
  have reaches : (completeRepairWork other warrantId now).Reaches db fun _ next =>
      next = { db with works := db.works.write (completedWork repair now) } := by
    have concluded : repairHasDurableOutcome db bystander warrantId = true := by
      simp [repairHasDurableOutcome, state]
    simp only [completeRepairWork, reaches_bind, reaches_read, reaches_check, writeWork,
      reaches_change]
    refine reaches_getIncident.mpr ⟨bystander, present, ?_⟩
    simp [getWork, waiting, concluded, needed]
  obtain ⟨next, step, rfl⟩ := performed (samplePlant codec)
    (.completeRepairWork other warrantId now) rfl reaches
  rw [step]
  intro unstranded
  obtain ⟨work, listed, owner, active⟩ :=
    unstranded.active incident (Table.mem_of_find found) (by simp [failed])
  have completedId : (completedWork repair now).id = repairWorkId warrantId := key
  have row := Table.find_of_mem listed
  rw [Table.find_write (by exact completedId.symm ▸ waiting), completedId] at row
  refine queued_iff.mp active ?_
  split at row
  · cases row
    rfl
  · rename_i isRepair
    by_cases isExecution : work.id = executionWorkId warrantId
    · rw [isExecution, queued, Option.some.injEq] at row
      rw [← row, done]
    · rw [others _ isExecution isRepair] at row
      cases row

/-- An incident whose background task fails before the sample is opened. -/
def sampleBystander : NewIncident := { sampleInput with incidentId := "incident-2" }

def sampleBystanding : List Action :=
  [.createIncident sampleBystander "1" sampleIssuedAt,
   .appendEvent sampleBystander.incidentId (.state .backgroundTaskFailed) "orchestrator" [] true "2"
     sampleIssuedAt]

/-- It is escalated, and leaves the store to the sample. -/
theorem sampleBystanding_escalated (codec : Codec) :
    Vacant sampleInput.incidentId ["app.py"]
        ((machine (samplePlant codec)).run Database.empty sampleBystanding) ∧
      Escalated ((machine (samplePlant codec)).run Database.empty sampleBystanding)
        sampleBystander.incidentId := by
  have renders := sample_renders codec
  have apart : sampleInput.incidentId ≠ sampleBystander.incidentId := by decide
  have opens : (createIncident (sampleServices codec) sampleBystander "1" sampleIssuedAt).Reaches
      Database.empty fun _ next => InReview sampleBystander sampleIssuedAt ["app.py"] .opened next ∧
        Apart sampleInput.incidentId Database.empty next :=
    (inReview_create (vacant_empty _ _) renders "1" rfl).ensured (createIncident_apart apart)
  obtain ⟨db1, step1, opened, first⟩ := performed (samplePlant codec)
    (.createIncident sampleBystander "1" sampleIssuedAt) rfl opens
  have escalates : (appendEvent (sampleServices codec) sampleBystander.incidentId
      (.state .backgroundTaskFailed) "orchestrator" [] true "2" sampleIssuedAt).Reaches db1
        fun _ next => InReview sampleBystander sampleIssuedAt ["app.py"] .humanEscalation next ∧
          Apart sampleInput.incidentId db1 next :=
    (opened.appendEvent renders (.state .backgroundTaskFailed) .humanEscalation rfl (by decide)
      "orchestrator" "2" sampleIssuedAt).ensured (appendEvent_apart apart)
  obtain ⟨db2, step2, escalated, second⟩ := performed (samplePlant codec)
    (.appendEvent sampleBystander.incidentId (.state .backgroundTaskFailed) "orchestrator" [] true "2"
      sampleIssuedAt) rfl escalates
  rw [sampleBystanding, Machine.run_cons, step1, Machine.run_cons, step2, Machine.run_nil]
  obtain ⟨bystander, stage, moved, proposed⟩ := escalated
  refine ⟨(vacant_empty _ _).apart (first.trans second) proposed, bystander, ?_, moved.state⟩
  rw [← moved_id moved]
  exact stage.found

theorem sampleBystanding_reviews (action : Action) (member : action ∈ sampleBystanding) :
    Reviews action := by
  simp only [sampleBystanding, List.mem_cons, List.not_mem_nil, or_false] at member
  rcases member with rfl | rfl <;> trivial

theorem sampleBystanding_timely (codec : Codec) :
    (machine (samplePlant codec)).Follows Timely Database.empty sampleBystanding := by
  refine Machine.follows_of_forall _ (fun db action member => ?_) _
  simp only [sampleBystanding, List.mem_cons, List.not_mem_nil, or_false] at member
  rcases member with rfl | rfl <;> exact ⟨by trivial, trivial, not_false⟩

/-- The sample review after other actions, up to the failed test of its execution. -/
theorem sampleReview_unrepaired {before : List Action}
    (reviews : ∀ action ∈ before, Reviews action)
    (vacant : Vacant sampleInput.incidentId ["app.py"]
      ((machine (samplePlant sampleIdle)).run Database.empty before)) :
    ∃ codec document canonical, (machine (samplePlant codec)).run Database.empty before =
        (machine (samplePlant sampleIdle)).run Database.empty before ∧
      Unrepaired sampleInput.incidentId document.warrantId
        ((machine (samplePlant codec)).run Database.empty
          (before ++ (sampleReview ++ sampleExecution document canonical))) := by
  obtain ⟨document, canonical, control, opened, warrantId, incident, issuedIdle, identified⟩ :=
    sampleReview_awaiting sampleIdle vacant
  obtain ⟨approval, approved⟩ := sample_approval issuedIdle
  have legible := sampleCodec_legible document approval
  generalize sampleCodec document approval = codec at legible
  have same : (machine (samplePlant codec)).run Database.empty before =
      (machine (samplePlant sampleIdle)).run Database.empty before :=
    @run_withCodec (samplePlant sampleIdle) codec before reviews Database.empty
  refine ⟨codec, document, canonical, same, ?_⟩
  rw [Machine.run_append, Machine.run_append, same]
  exact sampleExecution_unrepaired (sampleReview_withCodec codec opened)
    (issued_withCodec codec issuedIdle) identified warrantId legible approved

/-- The sample review, whose test fails, is left to its repair. -/
theorem sampleReview_not_stranded : ∃ codec actions,
    (∃ incident ∈ ((machine (samplePlant codec)).run Database.empty actions).incidents.rows,
      incident.state = .testFailed) ∧
    Unstranded ((machine (samplePlant codec)).run Database.empty actions) := by
  obtain ⟨codec, document, canonical, _, unrepaired⟩ :=
    @sampleReview_unrepaired [] (by simp) (vacant_empty _ _)
  obtain ⟨incident, found, failed⟩ := unrepaired.incident
  refine ⟨codec, [] ++ (sampleReview ++ sampleExecution document canonical),
    ⟨incident, Table.mem_of_find found, failed⟩,
    (no_stranded_incident (samplePlant codec) _ ?_).1⟩
  exact (Machine.follows_append _).mpr ⟨trivial, (Machine.follows_append _).mpr
    ⟨sampleReview_timely codec (vacant_empty _ _), sampleExecution_timely codec _ _ _⟩⟩

/-- `complete_repair_work` takes the repair of the sample for an escalated incident. -/
theorem stray_repair_strands :
    ¬ ∀ plant actions, (machine plant).Follows (fun db action => Promised db action ∧
        Increases db action) Database.empty actions →
      Unstranded ((machine plant).run Database.empty actions) := by
  intro never
  obtain ⟨vacant, _⟩ := sampleBystanding_escalated sampleIdle
  obtain ⟨codec, document, canonical, same, unrepaired⟩ :=
    sampleReview_unrepaired sampleBystanding_reviews vacant
  have timely : (machine (samplePlant codec)).Follows Timely Database.empty
      (sampleBystanding ++ (sampleReview ++ sampleExecution document canonical)) := by
    refine (Machine.follows_append _).mpr ⟨sampleBystanding_timely codec,
      (Machine.follows_append _).mpr ⟨?_, sampleExecution_timely codec _ _ _⟩⟩
    exact sampleReview_timely codec (sampleBystanding_escalated codec).1
  obtain ⟨first, second⟩ := (Machine.follows_append _).mp timely
  have escalated : Escalated ((machine (samplePlant codec)).run Database.empty
      (sampleBystanding ++ (sampleReview ++ sampleExecution document canonical)))
        sampleBystander.incidentId := by
    rw [Machine.run_append]
    exact run_escalated (run_sound first).coherent (sampleBystanding_escalated codec).2
      (second.mono fun _ _ _ allowed => allowed.1)
  refine @stranded_of_stray codec _ _ _ _ unrepaired escalated sampleIssuedAt ?_
  have unstranded := never (samplePlant codec) (sampleBystanding ++ (sampleReview ++
    sampleExecution document canonical) ++ [.completeRepairWork sampleBystander.incidentId
      document.warrantId sampleIssuedAt]) ?_
  · rwa [Machine.run_append, Machine.run_cons, Machine.run_nil] at unstranded
  · refine (Machine.follows_append _).mpr ⟨timely.mono fun _ _ _ allowed => ⟨allowed.1, allowed.2.1⟩,
      ⟨trivial, trivial⟩, trivial⟩

end CrossPatch.Runtime.ExecutionAuthority
