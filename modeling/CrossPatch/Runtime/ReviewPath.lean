import CrossPatch.Runtime.Authority
import CrossPatch.Runtime.BrokerResults
import CrossPatch.Runtime.Progress

/-!
# From an opened incident to a claimable warrant

The transactions of a review that goes well, each with the conditions under which
it commits.
-/

namespace CrossPatch.Runtime.ReviewPath

open CrossPatch.Broker.Admission CrossPatch.Broker.Approval CrossPatch.Broker.Claim
open CrossPatch.Broker.Paths
open CrossPatch.Broker.Store CrossPatch.Broker.Warrant
open CrossPatch.Domain.Failure CrossPatch.Domain.Hashing CrossPatch.Domain.Seats
open CrossPatch.Domain.StateMachine CrossPatch.Domain.Text
open CrossPatch.Library CrossPatch.Library.Attempt CrossPatch.Library.Calendar
open CrossPatch.Library.JsonText CrossPatch.Library.Octets CrossPatch.Library.Sha256
open CrossPatch.Library.Transaction
open CrossPatch.Runner.Catalog
open CrossPatch.Runtime.Authority CrossPatch.Runtime.BrokerResults CrossPatch.Runtime.Progress
open CrossPatch.Runtime.Records CrossPatch.Runtime.Refinement CrossPatch.Runtime.Store
open CrossPatch.Runtime.Timeline

variable {services : Services} {db : Database} {incident : IncidentRecord}

/-- The incident has only moved along its timeline. -/
structure Moved (before : IncidentRecord) (state : IncidentState) (after : IncidentRecord) :
    Prop where
  state : after.state = state
  head : ∃ digest, after.eventChainHead = some digest ∧ isSha256 digest = true
  rest : after = { before with
    state := after.state
    nextEventSequence := after.nextEventSequence
    eventChainHead := after.eventChainHead
    updatedAt := after.updatedAt }

theorem moved_advanced {event : TimelineEventRecord} {state : IncidentState} {now : Instant}
    (digest : isSha256 event.eventHash = true) :
    Moved incident state (advanced incident event state now) :=
  ⟨rfl, ⟨_, rfl, digest⟩, rfl⟩

theorem Moved.trans {middle last : IncidentRecord} {first second : IncidentState}
    (earlier : Moved incident first middle) (later : Moved middle second last) :
    Moved incident second last := by
  refine ⟨later.state, later.head, ?_⟩
  have rest := later.rest
  rw [earlier.rest] at rest
  exact rest

theorem str_encodes (tables : UnicodeTables) (text : String) : Encodes tables (.str text) :=
  ⟨_, rfl⟩

theorem texts_encodes (tables : UnicodeTables) (items : List String) :
    Encodes tables (texts items) := by
  refine normalize_arr_ok fun item member => ?_
  obtain ⟨text, _, rfl⟩ := List.mem_map.mp member
  exact str_encodes tables text

theorem CounselOutput.encodes (tables : UnicodeTables) (output : CounselOutput) :
    Encodes tables output.json := by
  refine normalize_obj_ok ["normalized_diff", "test_intentions", "evidence_ids", "analysis"] rfl
    (by decide) (by decide) ?_
  have intentions : Encodes tables (.arr (output.testIntentions.map TestIntention.json)) := by
    refine normalize_arr_ok fun item member => ?_
    obtain ⟨intention, _, rfl⟩ := List.mem_map.mp member
    exact normalize_obj_ok ["catalog_id", "purpose"] rfl (by decide) (by decide)
      (by simp)
  simp only [List.forall_mem_cons]
  exact ⟨str_encodes _ _, intentions, texts_encodes _ _, str_encodes _ _, by simp⟩

theorem MagistrateOutput.encodes (tables : UnicodeTables) (output : MagistrateOutput) :
    Encodes tables (.obj output.members) := by
  refine normalize_obj_ok ["verdict", "finding_codes", "required_changes", "remand_target",
    "evidence_ids", "analysis"] rfl (by decide) (by decide) ?_
  have seats : ∀ seat, Encodes tables (seatJson seat) := by
    rintro (_ | seat)
    · exact ⟨.null, rfl⟩
    · exact str_encodes tables _
  have changes : Encodes tables (.arr (output.requiredChanges.map RequiredChange.json)) := by
    refine normalize_arr_ok fun item member => ?_
    obtain ⟨change, _, rfl⟩ := List.mem_map.mp member
    refine normalize_obj_ok ["code", "target", "action"] rfl (by decide) (by decide) ?_
    simp only [List.forall_mem_cons]
    exact ⟨str_encodes _ _, seats _, str_encodes _ _, by simp⟩
  simp only [MagistrateOutput.members, List.forall_mem_cons]
  exact ⟨str_encodes _ _, texts_encodes _ _, changes, seats _, texts_encodes _ _, str_encodes _ _,
    by simp⟩

/-! ## The patch -/

theorem prepareCounsel_reaches (stage : Stage db incident) (renders : Renders services)
    (analyzing : incident.state = .analyzing) (phase : String) (uuids : Nat → String)
    (clock : Nat → Instant) :
    (prepareSeat services incident.id .counsel phase uuids clock).Reaches db fun _ next =>
      ∃ moved, Stage next moved ∧ Moved incident .patching moved ∧ Untouched db next := by
  have requested : reduce incident.state (.state .patchRequested) [("phase", .str phase)] =
      .ok .patching := by
    rw [analyzing]
    rfl
  simp only [prepareSeat, reaches_bind]
  refine reaches_getIncident.mpr ⟨incident, stage.found, ?_⟩
  rw [if_pos (by simp [analyzing])]
  simp only [reaches_bind]
  refine stage.append requested ?_ fun event digest patching => ?_
  · exact normalize_obj_ok ["phase"] rfl (by decide) (by decide) (by simp)
  · refine patching.append (Eq.refl (Except.ok IncidentState.patching)) ?_
      fun started startedDigest final => ?_
    · exact normalize_obj_ok ["seat", "phase"] rfl (by decide) (by decide) (by simp)
    · refine final.publish (renders _ _) (by simp [publishes, advanced]) fun cases shown => ?_
      exact ⟨_, shown, (moved_advanced digest).trans (moved_advanced startedDigest),
        ⟨rfl, rfl, rfl, rfl, rfl, rfl, rfl⟩⟩

/-- What the recorded patch leaves for the approval. -/
structure Proposed (db : Database) (paths : List String) : Prop where
  candidates : ∀ candidate ∈ db.candidates, candidate.allowedPaths = paths ∧
    isIdentifier candidate.id = true
  controls : db.controlWarrants = .empty
  broker : db.broker = .empty
  works : db.works = .empty
  tests : db.testRuns = []

theorem recordCounsel_reaches (stage : Stage db incident) (renders : Renders services)
    (patching : incident.state = .patching) (counsel : CounselOutput) {paths : List String}
    (proposed : Proposed db paths)
    (derived : derivePatchPaths services.tables (utf8 counsel.normalizedDiff) = .ok paths)
    {digest : String}
    (fingerprint : services.semanticFingerprint .counsel (.counsel counsel) = .ok digest)
    {uuids : Nat → String} (named : isIdentifier ("candidate_" ++ uuids 1) = true)
    (effort : Effort) (phase : String) (escalationCount : Nat) (now : Instant) :
    (recordSeatOutput services incident.id .counsel effort phase (.counsel counsel)
      escalationCount uuids now).Reaches db fun _ next =>
        ∃ moved, Stage next moved ∧ Moved incident .reviewing moved ∧ Proposed next paths := by
  obtain ⟨normalized, normalizes⟩ := CounselOutput.encodes services.tables counsel
  have encoded : canonicalJson services.tables (SeatOutput.counsel counsel).json =
      .ok (encode normalized) := canonicalJson_ok normalizes
  simp only [recordSeatOutput, reaches_bind, reaches_lift, encoded, fingerprint, derived,
    Except.ok.injEq, exists_eq_left', reaches_read, addAgentRun, addCandidate, reaches_change,
    reaches_pure]
  refine reaches_getIncident.mpr ⟨incident, stage.found, ?_⟩
  have unchanged : ∀ payload, reduce incident.state .agentOutputRecorded payload =
      .ok incident.state := fun _ => rfl
  refine (stage.elsewhere (by rfl) (by rfl) (by rfl)).append (unchanged _) ?_
    fun event recorded output => ?_
  · exact normalize_obj_ok ["seat", "phase", "effort", "output_sha256", "semantic_sha256"] rfl
      (by decide) (by decide) (by simp)
  rw [if_pos (show (advanced incident event incident.state now).state = .patching from patching)]
  simp only [reaches_bind]
  have reduced : reduce (advanced incident event incident.state now).state (.state .patchProposed)
      [("candidate_id", .str ("candidate_" ++ uuids 1)),
        ("patch_sha256", .str (hexdigest (utf8 counsel.normalizedDiff)))] = .ok .reviewing := by
    change reduce incident.state _ _ = _
    rw [patching]
    rfl
  refine output.append reduced ?_ fun proposal proposalDigest reviewing => ?_
  · exact normalize_obj_ok ["candidate_id", "patch_sha256"] rfl (by decide) (by decide)
      (by simp)
  refine reviewing.publish (renders _ _) (by simp [publishes, advanced]) fun cases shown => ?_
  refine ⟨_, shown, (moved_advanced recorded).trans (moved_advanced proposalDigest),
    ⟨?_, proposed.controls, proposed.broker, proposed.works, proposed.tests⟩⟩
  intro candidate member
  rcases List.mem_append.mp member with earlier | new
  · exact proposed.candidates candidate earlier
  · rw [List.mem_singleton.mp new]
    exact ⟨rfl, named⟩

theorem Proposed.untouched {paths : List String} {next : Database} (proposed : Proposed db paths)
    (untouched : Untouched db next) : Proposed next paths where
  candidates := by
    rw [untouched.candidates]
    exact proposed.candidates
  controls := untouched.controlWarrants.trans proposed.controls
  broker := untouched.broker.trans proposed.broker
  works := untouched.works.trans proposed.works
  tests := untouched.testRuns.trans proposed.tests

/-- No incident of the name, and no warrant of any incident. -/
structure Vacant (incidentId : String) (paths : List String) (db : Database) : Prop where
  fresh : db.incidents.find incidentId = none
  silent : db.lastEvent incidentId = none
  unpublished : Unpublished db.cases incidentId
  proposed : Proposed db paths

theorem vacant_empty (incidentId : String) (paths : List String) :
    Vacant incidentId paths Database.empty where
  fresh := rfl
  silent := rfl
  unpublished := by
    intro record present
    cases present
  proposed := by
    refine ⟨?_, rfl, rfl, rfl, rfl⟩
    intro candidate member
    cases member

/-- What the transactions of one incident leave to another one. -/
structure Apart (other : String) (before after : Database) : Prop where
  incidents : after.incidents.find other = before.incidents.find other
  events : after.eventsOf other = before.eventsOf other
  cases : after.cases.find other = before.cases.find other

theorem Apart.trans {other : String} {middle next : Database} (first : Apart other db middle)
    (second : Apart other middle next) : Apart other db next where
  incidents := second.incidents.trans first.incidents
  events := second.events.trans first.events
  cases := second.cases.trans first.cases

theorem append_apart {other : String} (differs : other ≠ incident.id)
    (found : ∃ current, db.incidents.find incident.id = some current) {type : EventType}
    {actor : String} {payload : Payload} {published : Bool} {uuid : String} {now : Instant} :
    (appendLocked services incident type actor payload published uuid now).Ensures db
      fun moved next => moved.id = incident.id ∧ Apart other db next := by
  intro moved next appended
  obtain ⟨event, state, _, owner, _, _, rfl, rfl⟩ := appendLocked_eq_ok appended
  obtain ⟨current, present⟩ := found
  refine ⟨rfl, ?_, ?_, rfl⟩
  · exact (Table.find_write (by exact present) other).trans (if_neg differs)
  · simp [Database.eventsOf, owner, differs.symm]

theorem publish_apart {other incidentId : String} (differs : other ≠ incidentId) {now : Instant} :
    (publishLocked services incidentId now).Ensures db fun _ next => Apart other db next := by
  simp only [publishLocked, ensures_bind, ensures_read, ensures_getIncident, ensures_lift,
    ensures_check]
  intro current _ _ _ _ projection _ manifest _
  cases found : db.cases.find incidentId with
  | some record =>
      obtain rfl := Table.key_of_find found
      rw [storeCase, ensures_change]
      exact ⟨rfl, rfl, (Table.find_write (by exact found) other).trans (if_neg differs)⟩
  | none =>
      intro done next stored
      simp only [storeCase, dif_pos found] at stored
      cases stored
      exact ⟨rfl, rfl, (Table.find_insert found other).trans (if_neg differs)⟩

theorem createIncident_apart {other : String} {input : NewIncident}
    (differs : other ≠ input.incidentId) {uuid : String} {now : Instant} :
    (createIncident services input uuid now).Ensures db fun _ next => Apart other db next := by
  simp only [createIncident, ensures_bind, ensures_lift]
  intro profile _ done middle inserted
  simp only [insertIncident] at inserted
  split at inserted
  · rename_i fresh
    cases inserted
    have insert : Apart other db
        { db with incidents := db.incidents.insert (openedRecord input now) fresh } :=
      ⟨(Table.find_insert fresh other).trans (if_neg differs), rfl, rfl⟩
    refine (append_apart differs ⟨_, Table.find_insert_self fresh⟩).mono ?_
    rintro moved appended ⟨_, append⟩
    refine (publish_apart differs).mono fun _ next publish => ?_
    exact insert.trans (append.trans publish)
  · cases inserted

theorem appendEvent_apart {other incidentId : String} (differs : other ≠ incidentId)
    {type : EventType} {actor : String} {payload : Payload} {published : Bool} {uuid : String}
    {now : Instant} :
    (appendEvent services incidentId type actor payload published uuid now).Ensures db
      fun _ next => Apart other db next := by
  simp only [Store.appendEvent, ensures_bind, ensures_getIncident]
  intro incident found
  obtain rfl := Table.key_of_find found
  refine (append_apart differs ⟨incident, found⟩).mono ?_
  rintro moved appended ⟨_, append⟩
  refine ensures_ite (fun _ => ?_) (fun _ => ensures_pure.mpr append)
  exact (publish_apart differs).mono fun _ next publish => append.trans publish

theorem Vacant.apart {incidentId : String} {paths : List String} {next : Database}
    (vacant : Vacant incidentId paths db) (apart : Apart incidentId db next)
    (proposed : Proposed next paths) : Vacant incidentId paths next where
  fresh := apart.incidents.trans vacant.fresh
  silent := by
    rw [Database.lastEvent, apart.events]
    exact vacant.silent
  unpublished := by
    intro record present
    rw [apart.cases] at present
    exact vacant.unpublished record present
  proposed := proposed

/-- An incident of a store without warrants, under review. -/
def InReview (input : NewIncident) (opened : Instant) (paths : List String) (state : IncidentState)
    (db : Database) : Prop :=
  ∃ incident, Stage db incident ∧ Moved (openedRecord input opened) state incident ∧
    Proposed db paths

section Review

variable {input : NewIncident} {opened : Instant} {paths : List String} {state : IncidentState}

theorem moved_id {incident : IncidentRecord}
    (moved : Moved (openedRecord input opened) state incident) :
    incident.id = input.incidentId := by
  rw [moved.rest]
  rfl

theorem inReview_create (vacant : Vacant input.incidentId paths db) (renders : Renders services)
    (uuid : String) (profile : input.evidenceProfile = "standard") :
    (createIncident services input uuid opened).Reaches db fun _ next =>
      InReview input opened paths .opened next := by
  refine createIncident_reaches renders profile vacant.fresh vacant.silent vacant.unpublished ?_
  intro event next digest stage untouched
  exact ⟨_, stage, moved_advanced digest, vacant.proposed.untouched untouched⟩

theorem InReview.appendEvent (review : InReview input opened paths state db)
    (renders : Renders services) (type : EventType) (next : IncidentState)
    (reduced : reduce state type [] = .ok next) (unverified : next ≠ .verified)
    (actor uuid : String) (now : Instant) :
    (appendEvent services input.incidentId type actor [] true uuid now).Reaches db fun _ after =>
      InReview input opened paths next after := by
  obtain ⟨incident, stage, moved, proposed⟩ := review
  have current : reduce incident.state type [] = .ok next := by rw [moved.state, reduced]
  rw [← moved_id moved]
  refine stage.appendEvent renders current ⟨_, rfl⟩ unverified ?_
  intro event after digest advancedStage untouched
  exact ⟨_, advancedStage, moved.trans (moved_advanced digest), proposed.untouched untouched⟩

theorem InReview.prepareCounsel (review : InReview input opened paths .analyzing db)
    (renders : Renders services) (phase : String) (uuids : Nat → String)
    (clock : Nat → Instant) :
    (prepareSeat services input.incidentId .counsel phase uuids clock).Reaches db fun _ after =>
      InReview input opened paths .patching after := by
  obtain ⟨incident, stage, moved, proposed⟩ := review
  rw [← moved_id moved]
  refine (prepareCounsel_reaches stage renders moved.state phase uuids clock).mono ?_
  rintro _ after ⟨later, laterStage, further, untouched⟩
  exact ⟨later, laterStage, moved.trans further, proposed.untouched untouched⟩

theorem InReview.recordCounsel (review : InReview input opened paths .patching db)
    (renders : Renders services) (counsel : CounselOutput)
    (derived : derivePatchPaths services.tables (utf8 counsel.normalizedDiff) = .ok paths)
    {digest : String}
    (fingerprint : services.semanticFingerprint .counsel (.counsel counsel) = .ok digest)
    {uuids : Nat → String} (named : isIdentifier ("candidate_" ++ uuids 1) = true)
    (effort : Effort) (phase : String) (escalationCount : Nat) (now : Instant) :
    (recordSeatOutput services input.incidentId .counsel effort phase (.counsel counsel)
      escalationCount uuids now).Reaches db fun _ after =>
        InReview input opened paths .reviewing after := by
  obtain ⟨incident, stage, moved, proposed⟩ := review
  rw [← moved_id moved]
  refine (recordCounsel_reaches stage renders moved.state counsel proposed derived fingerprint named
    effort phase escalationCount now).mono ?_
  rintro _ after ⟨later, laterStage, further, proposedLater⟩
  exact ⟨later, laterStage, moved.trans further, proposedLater⟩

end Review

/-! ## The approval -/

section Approval

variable {gateway : Gateway}

theorem reviewedRun_reaches {incidentId : String} {seat : Seat} {phase : String}
    {output : SeatOutput} {encoded : Bytes} {uuid digest : String} {now : Instant}
    {Post : AgentRunRecord → Database → Prop}
    (fingerprint : gateway.services.semanticFingerprint seat output = .ok digest)
    (post : ∀ run runs, Post run { db with agentRuns := runs }) :
    (reviewedRun gateway incidentId seat phase output encoded uuid now).Reaches db Post := by
  simp only [reviewedRun, reaches_bind, reaches_read]
  split
  · exact reaches_pure.mpr (post _ db.agentRuns)
  · simp only [reaches_bind, reaches_lift, fingerprint, Except.ok.injEq, exists_eq_left',
      addAgentRun, reaches_change, reaches_pure]
    exact post _ _

theorem reviewedCandidate_reaches {incidentId : String} {counsel : CounselOutput}
    {run : AgentRunRecord} {paths : List String} {uuid : String} {now : Instant}
    {Post : String → Database → Prop}
    (known : ∀ candidate ∈ db.candidates, candidate.allowedPaths = paths ∧
      isIdentifier candidate.id = true)
    (named : isIdentifier ("candidate_" ++ uuid) = true)
    (post : ∀ candidateId candidates, isIdentifier candidateId = true →
      Post candidateId { db with candidates := candidates }) :
    (reviewedCandidate incidentId counsel run paths uuid now).Reaches db Post := by
  simp only [reviewedCandidate, reaches_bind, reaches_read]
  split
  · rename_i candidate recorded
    have listed := List.mem_of_mem_filter (List.argmax_mem recorded)
    simp only [reaches_bind, reaches_check, reaches_pure]
    exact ⟨(known candidate listed).1, post _ db.candidates (known candidate listed).2⟩
  · simp only [reaches_bind, addCandidate, reaches_change, reaches_pure]
    exact post _ _ named

/-- A review whose material the gateway accepts. -/
structure Clears (gateway : Gateway) (incident : IncidentRecord) (output : MagistrateOutput)
    (counsel : CounselOutput) (paths : List String) (plans : List BoundExecutionPlan)
    (uuids : Nat → String) (now expiresAt : Instant) : Prop where
  verdict : output.verdict = .clear ∧ output.remandTarget = none
  derived : derivePatchPaths gateway.services.tables (utf8 counsel.normalizedDiff) = .ok paths
  policy : validatePatchPaths gateway.services.tables gateway.files gateway.policy.repositoryRoot
    paths = .ok paths
  operator : incident.liveTrial = false
  base : ∃ baseSha, incident.baseSha = some baseSha ∧ baseSha ≠ "" ∧ isGitSha baseSha = true
  manifest : ∃ digest, incident.repositoryManifestSha256 = some digest ∧ digest ≠ "" ∧
    isSha256 digest = true
  scenario : ∃ planId, requireOperatorScenario incident.scenario = .ok planId ∧
    counsel.testIntentions.map (·.catalogId) = [planId] ∧
    resolvePlans gateway [planId] = .ok plans ∧ (plans.map (·.planId)).Nodup ∧ plans ≠ []
  fingerprints : ∀ seat output, ∃ digest,
    gateway.services.semanticFingerprint seat output = .ok digest
  names : ["war_" ++ uuids 0, "verdict_" ++ uuids 1, "nonce_" ++ uuids 2, "candidate_" ++ uuids 4,
    incident.id, gateway.policy.repositoryId, gateway.policy.approvalMacKeyId].all isIdentifier =
      true
  digests : [gateway.policy.runnerDigest, gateway.policy.environmentDigest].all isSha256 = true
  approver : 1 ≤ gateway.policy.approverIdentity.length ∧
    gateway.policy.approverIdentity.length ≤ 256
  paths : validateDeclaredPaths paths = true
  expires : addDuration now gateway.policy.warrantTtl = .ok expiresAt ∧ now < expiresAt

/-- The warrant of such a review. -/
structure Issued (gateway : Gateway) (incident : IncidentRecord) (counsel : CounselOutput)
    (paths : List String) (plans : List BoundExecutionPlan) (now expiresAt : Instant)
    (document : WarrantDocument) : Prop where
  incident : document.incidentId = incident.id
  patch : document.patchB64 = String.ofList (Base64.encode (utf8 counsel.normalizedDiff)) ∧
    document.patchSha256 = hexdigest (utf8 counsel.normalizedDiff)
  paths : document.allowedPaths = paths
  plans : document.executionPlans = plans ∧
    sha256Hex gateway.services.tables (plansJson plans) = .ok document.testPlanSha256
  runner : document.runnerDigest = gateway.policy.runnerDigest
  host : document.environmentDigest = gateway.policy.environmentDigest
  approver : document.approverIdentity = gateway.policy.approverIdentity
  key : document.approvalMacKeyId = gateway.policy.approvalMacKeyId
  issued : document.issuedAt = now
  expires : document.expiresAt = expiresAt

variable {output : MagistrateOutput} {counsel : CounselOutput} {paths : List String}
  {plans : List BoundExecutionPlan} {uuids : Nat → String} {now expiresAt : Instant}

theorem authorityDigest_encodes (gateway : Gateway) (incidentId : String)
    (material : ReviewedMaterial) :
    Encodes gateway.services.tables
      (.obj
        [("warrant_id", .str material.warrantId), ("incident_id", .str incidentId),
         ("verdict_id", .str material.verdictId), ("verdict_sha256", .str material.verdictSha256),
         ("candidate_id", .str material.candidateId),
         ("evidence_manifest", .str material.evidenceManifest),
         ("timeline_head", .str material.reviewedHead),
         ("patch_sha256", .str (hexdigest (utf8 material.counsel.normalizedDiff))),
         ("allowed_paths", texts material.allowedPaths),
         ("test_plan_sha256", .str material.testPlanSha256)]) := by
  refine normalize_obj_ok ["warrant_id", "incident_id", "verdict_id", "verdict_sha256",
    "candidate_id", "evidence_manifest", "timeline_head", "patch_sha256", "allowed_paths",
    "test_plan_sha256"] rfl (by decide) (by decide) ?_
  simp only [List.forall_mem_cons]
  exact ⟨str_encodes _ _, str_encodes _ _, str_encodes _ _, str_encodes _ _, str_encodes _ _,
    str_encodes _ _, str_encodes _ _, str_encodes _ _, texts_encodes _ _, str_encodes _ _, by simp⟩

/-- The material of such a review. -/
structure Gathered (gateway : Gateway) (counsel : CounselOutput) (paths : List String)
    (plans : List BoundExecutionPlan) (uuids : Nat → String) (material : ReviewedMaterial) :
    Prop where
  ids : material.warrantId = "war_" ++ uuids 0 ∧ material.verdictId = "verdict_" ++ uuids 1 ∧
    material.nonce = "nonce_" ++ uuids 2
  reviewed : material.counsel = counsel ∧ material.allowedPaths = paths ∧ material.plans = plans
  tested : sha256Hex gateway.services.tables (plansJson plans) = .ok material.testPlanSha256
  candidate : isIdentifier material.candidateId = true
  base : isGitSha material.baseSha = true
  digests : [material.verdictSha256, material.evidenceManifest, material.reviewedHead,
    material.repositoryManifestSha256, material.testPlanSha256].all isSha256 = true

theorem warrantOf_ok {material : ReviewedMaterial}
    (clears : Clears gateway incident output counsel paths plans uuids now expiresAt)
    (gathered : Gathered gateway counsel paths plans uuids material) :
    ∃ document, warrantOf gateway incident material now = .ok document ∧
      Issued gateway incident counsel paths plans now expiresAt document ∧
      document.warrantId = "war_" ++ uuids 0 ∧ document.verdictId = material.verdictId := by
  obtain ⟨ids, ⟨rfl, rfl, rfl⟩, tested, candidate, base, digests⟩ := gathered
  obtain ⟨authority, hashed, authorityDigest⟩ :=
    (authorityDigest_encodes gateway incident.id material).sha256Hex
  have approver : approverOf gateway incident = .ok gateway.policy.approverIdentity := by
    simp [approverOf, clears.operator]
  have names := clears.names
  have policyDigests := clears.digests
  have nonempty : 1 ≤ material.plans.length := by
    obtain ⟨_, _, _, _, _, present⟩ := clears.scenario
    exact List.length_pos_iff.mpr present
  have distinct : (material.plans.map (·.planId)).Nodup := by
    obtain ⟨_, _, _, _, distinct, _⟩ := clears.scenario
    exact distinct
  simp only [List.all_cons, List.all_nil, Bool.and_true, Bool.and_eq_true] at *
  obtain ⟨warrantName, verdictName, nonceName, _, incidentName, repositoryName, keyName⟩ := names
  obtain ⟨runner, host⟩ := policyDigests
  obtain ⟨verdict, evidence, head, manifest, testPlan⟩ := digests
  have patchDigest := hexdigest_isSha256 (utf8 material.counsel.normalizedDiff)
  simp only [warrantOf, Authority.authorityDigest, hashed, approver, clears.expires.1,
    WarrantDocument.ofFields, ok_bind]
  split
  · exact ⟨_, rfl, ⟨rfl, ⟨rfl, rfl⟩, rfl, ⟨rfl, tested⟩, rfl, rfl, rfl, rfl, rfl, rfl⟩, ids.1, rfl⟩
  · rename_i refused
    refine absurd ?_ refused
    simp only [WarrantFields.accepted, WarrantFields.identifiers, WarrantFields.digests,
      List.all_cons, List.all_nil, ids.1, ids.2.1, ids.2.2, warrantName, verdictName, nonceName,
      incidentName, repositoryName, keyName, candidate, runner, host, verdict, evidence, head,
      manifest, testPlan, patchDigest, authorityDigest, base, clears.paths, nonempty,
      clears.approver.1, clears.approver.2, clears.expires.2, distinct, decide_true, beq_self_eq_true,
      Bool.and_self]

theorem evidenceManifest_ok (gateway : Gateway) (db : Database) (incidentId : String) :
    ∃ digest, evidenceManifest gateway db incidentId = .ok digest ∧ isSha256 digest = true := by
  refine Encodes.sha256Hex (normalize_arr_ok fun item member => ?_)
  obtain ⟨row, _, rfl⟩ := List.mem_map.mp member
  refine normalize_arr_ok ?_
  simp only [List.forall_mem_cons]
  exact ⟨str_encodes _ _, str_encodes _ _, by simp⟩

theorem filled_ok {text message : String} (present : text ≠ "") :
    filled (some text) message = .ok text := by
  simp [filled, needed, Option.filter, present]

theorem gatherMaterial_reaches
    (clears : Clears gateway incident output counsel paths plans uuids now expiresAt)
    (proposed : Proposed db paths)
    (head : ∃ digest, incident.eventChainHead = some digest ∧ isSha256 digest = true)
    {Post : ReviewedMaterial × AgentRunRecord × Bytes → Database → Prop}
    (post : ∀ material run bytes runs candidates,
      Gathered gateway counsel paths plans uuids material →
        Post (material, run, bytes) { db with agentRuns := runs, candidates := candidates }) :
    (gatherMaterial gateway incident output counsel paths uuids now).Reaches db Post := by
  obtain ⟨baseSha, baseOf, baseFilled, base⟩ := clears.base
  obtain ⟨manifest, manifestOf, manifestFilled, manifestDigest⟩ := clears.manifest
  obtain ⟨planId, scenario, planned, resolved, _⟩ := clears.scenario
  obtain ⟨testPlan, testPlanHash, testPlanDigest⟩ :=
    Encodes.sha256Hex (plansJson_normalizes gateway.services.tables plans)
  obtain ⟨evidence, evidenceHash, evidenceDigest⟩ := evidenceManifest_ok gateway db incident.id
  obtain ⟨digest, headOf, headDigest⟩ := head
  obtain ⟨counselJson, counselNormal⟩ := CounselOutput.encodes gateway.services.tables counsel
  obtain ⟨verdictJson, verdictNormal⟩ := MagistrateOutput.encodes gateway.services.tables output
  obtain ⟨counselPrint, counselFingerprint⟩ := clears.fingerprints .counsel (.counsel counsel)
  obtain ⟨magistratePrint, magistrateFingerprint⟩ :=
    clears.fingerprints .magistrate (.magistrate output)
  have candidateName : isIdentifier ("candidate_" ++ uuids 4) = true := by
    have names := clears.names
    simp only [List.all_cons, List.all_nil, Bool.and_true, Bool.and_eq_true] at names
    exact names.2.2.2.1
  simp only [gatherMaterial, reaches_bind, reaches_read, reaches_lift, reaches_check, baseOf,
    manifestOf, headOf, filled_ok baseFilled, filled_ok manifestFilled, scenario, planned, resolved,
    testPlanHash, evidenceHash, needed, canonicalJson_ok counselNormal,
    canonicalJson_ok verdictNormal, Except.ok.injEq, exists_eq_left', true_and]
  refine reviewedRun_reaches counselFingerprint fun counselRun runs => ?_
  refine reviewedCandidate_reaches proposed.candidates candidateName
    fun candidateId candidates candidate => ?_
  refine reviewedRun_reaches magistrateFingerprint fun magistrateRun laterRuns => ?_
  refine reaches_pure.mpr (post _ _ _ _ _ ⟨⟨rfl, rfl, rfl⟩, ⟨rfl, rfl, rfl⟩, testPlanHash,
    candidate, base, ?_⟩)
  simp [hexdigest_isSha256, evidenceDigest, headDigest, manifestDigest, testPlanDigest]

/-- A warrant that waits for its decision. -/
structure Awaiting (gateway : Gateway) (incidentId : String) (document : WarrantDocument)
    (canonical : Bytes) (control : ControlWarrantRecord) (db : Database) : Prop where
  encoded : canonicalWarrantBytes gateway.services.tables document = .ok canonical
  found : db.controlWarrants.find document.warrantId = some control
  row : control.id = document.warrantId ∧ control.incidentId = incidentId ∧
    control.status = .pendingApproval ∧ control.expiresAt = document.expiresAt
  stored : control.canonicalDocument = canonical ∧ control.warrantSha256 = hexdigest canonical
  authority : canonicalAuthorityBytes gateway.services.tables
    (AuthoritySnapshot.fromWarrant document gateway.policy.repositoryRoot) =
      .ok control.authorityJson
  stage : ∃ pending, Stage db pending ∧ pending.id = incidentId ∧ pending.state = .approvalPending
  broker : db.broker = .empty
  works : db.works = .empty
  tests : db.testRuns = []

theorem authorityJson_encodes (tables : UnicodeTables) (authority : AuthoritySnapshot) :
    Encodes tables (authorityJson authority) := by
  refine normalize_obj_ok ["allowed_paths", "authority_snapshot_sha256", "base_sha",
    "candidate_id", "incident_id", "patch_sha256", "repository_id", "repository_manifest_sha256",
    "repository_root", "reviewed_evidence_manifest_sha256", "reviewed_timeline_head",
    "test_plan_sha256", "verdict_id", "verdict_sha256", "warrant_id"] rfl (by decide) (by decide) ?_
  simp only [List.forall_mem_cons]
  exact ⟨texts_encodes _ _, str_encodes _ _, str_encodes _ _, str_encodes _ _, str_encodes _ _,
    str_encodes _ _, str_encodes _ _, str_encodes _ _, str_encodes _ _, str_encodes _ _,
    str_encodes _ _, str_encodes _ _, str_encodes _ _, str_encodes _ _, str_encodes _ _, by simp⟩

theorem reduce_clear {output : MagistrateOutput} (clear : output.verdict = .clear)
    (untargeted : output.remandTarget = none) :
    reduce .reviewing (.state .verdict) output.members = .ok .approvalPending := by
  cases output
  subst clear untargeted
  rfl

theorem openApproval_reaches (stage : Stage db incident) (reviewing : incident.state = .reviewing)
    (renders : Renders gateway.services)
    (clears : Clears gateway incident output counsel paths plans uuids now expiresAt)
    (proposed : Proposed db paths)
    (head : ∃ digest, incident.eventChainHead = some digest ∧ isSha256 digest = true)
    {seatOutputs : Seat → Option SeatOutput}
    (counselled : seatOutputs .counsel = some (.counsel counsel)) :
    (openApproval gateway incident.id output seatOutputs uuids now).Reaches db fun _ next =>
      ∃ document canonical control, Awaiting gateway incident.id document canonical control next ∧
        Issued gateway incident counsel paths plans now expiresAt document ∧
        document.warrantId = "war_" ++ uuids 0 := by
  simp only [openApproval, reaches_bind, reaches_check, reaches_lift, counselOf, counselled,
    clears.derived, clears.policy, clears.verdict.1, Except.ok.injEq, exists_eq_left', true_and]
  refine reaches_getIncident.mpr ⟨incident, stage.found, reviewing, ?_⟩
  refine gatherMaterial_reaches clears proposed head
    fun material run bytes runs candidates gathered => ?_
  obtain ⟨document, issuedOk, issued, warrantId, _⟩ := warrantOf_ok clears gathered
  obtain ⟨normalized, normalizes⟩ := document.normalizes gateway.services.tables
  obtain ⟨authority, authorityOk⟩ := authorityJson_encodes gateway.services.tables
    (AuthoritySnapshot.fromWarrant document gateway.policy.repositoryRoot)
  have canonicalOk : canonicalWarrantBytes gateway.services.tables document =
      .ok (encode normalized) := canonicalJson_ok normalizes
  have authorityBytes : canonicalAuthorityBytes gateway.services.tables
      (AuthoritySnapshot.fromWarrant document gateway.policy.repositoryRoot) =
        .ok (encode authority) := canonicalJson_ok authorityOk
  have fresh : ∀ id, db.controlWarrants.find id = none := by
    intro id
    rw [proposed.controls]
    rfl
  simp only [issuedOk, canonicalOk, authorityBytes, Except.ok.injEq, exists_eq_left', reaches_bind,
    appendVerdict, addVerdict, reaches_change, reaches_pure]
  refine ⟨(), _, dif_pos (fresh document.warrantId), ?_⟩
  have cleared : reduce incident.state (.state .verdict) output.members = .ok .approvalPending := by
    rw [reviewing]
    exact reduce_clear clears.verdict.1 clears.verdict.2
  refine (stage.elsewhere (by rfl) (by rfl) (by rfl)).appendHeld (by exact ⟨rfl, rfl, rfl⟩) cleared
    (MagistrateOutput.encodes _ output) fun event _ opened => ?_
  refine opened.publish (renders _ _) (by simp [publishes, advanced]) fun cases shown => ?_
  let control : ControlWarrantRecord :=
    { id := document.warrantId
      incidentId := incident.id
      canonicalDocument := encode normalized
      warrantSha256 := hexdigest (encode normalized)
      authorityJson := encode authority
      status := .pendingApproval
      approvalId := none
      expiresAt := document.expiresAt
      createdAt := now
      updatedAt := now }
  exact ⟨document, encode normalized, control, ⟨canonicalOk,
    @Table.find_insert_self _ _ _ _ db.controlWarrants control (fresh control.id),
    ⟨rfl, rfl, rfl, rfl⟩, ⟨rfl, rfl⟩, authorityBytes, ⟨_, shown, rfl, rfl⟩, proposed.broker,
    proposed.works, proposed.tests⟩, issued, warrantId⟩

/-- A CLEAR verdict that is only recorded takes the incident to the gate without a warrant. -/
theorem recordVerdict_reaches (stage : Stage db incident) (reviewing : incident.state = .reviewing)
    (renders : Renders gateway.services)
    (clear : output.verdict = .clear ∧ output.remandTarget = none) :
    (recordVerdict gateway incident.id output uuids now).Reaches db fun _ next =>
      (∃ moved, Stage next moved ∧ moved.state = .approvalPending) ∧
        next.controlWarrants = db.controlWarrants := by
  obtain ⟨normalized, normalizes⟩ := MagistrateOutput.encodes gateway.services.tables output
  have cleared : reduce incident.state (.state .verdict) output.members = .ok .approvalPending := by
    rw [reviewing]
    exact reduce_clear clear.1 clear.2
  simp only [recordVerdict, reaches_bind, reaches_lift, canonicalJson_ok normalizes,
    Except.ok.injEq, exists_eq_left', appendVerdict, addVerdict, reaches_change]
  refine reaches_getIncident.mpr ⟨incident, stage.found, ?_⟩
  refine (stage.elsewhere (by rfl) (by rfl) (by rfl)).append cleared
    (MagistrateOutput.encodes _ output) fun event _ opened => ?_
  refine opened.publish (renders _ _) (by simp [publishes, advanced]) fun cases shown => ?_
  exact ⟨⟨_, shown, rfl⟩, rfl⟩

/-- A warrant with its row at the broker and its execution queued. -/
structure Authorized (gateway : Gateway) (incidentId : String) (document : WarrantDocument)
    (approval : WarrantApproval) (state : IncidentState) (db : Database) : Prop where
  stage : ∃ incident, Stage db incident ∧ incident.id = incidentId ∧ incident.state = state
  row : ∃ record, db.broker.warrants document.warrantId = some record ∧
    record.id = document.warrantId ∧ record.incidentId = incidentId ∧
    record.nonceSha256 = hexdigest (utf8 document.nonce) ∧ record.state = .approved ∧
    record.expiresAt = document.expiresAt ∧
    canonicalWarrantBytes gateway.services.tables document = .ok record.documentJson ∧
    canonicalApprovalBytes gateway.services.tables approval = .ok record.approvalJson
  authority : ∃ current, db.broker.authorities incidentId = some current ∧
    canonicalAuthorityBytes gateway.services.tables
      (AuthoritySnapshot.fromWarrant document gateway.policy.repositoryRoot) =
        .ok current.snapshotJson
  work : ∃ work, db.works.find (executionWorkId document.warrantId) = some work ∧
    work.incidentId = incidentId ∧ work.warrantId = document.warrantId ∧
    work.kind = .approvedExecution
  only : ∀ id, id ≠ executionWorkId document.warrantId → db.works.find id = none
  tests : db.testRuns = []

/-- The row of the queued execution may be rewritten under its keys. -/
theorem Authorized.rewritten {incidentId : String} {document : WarrantDocument}
    {approval : WarrantApproval} {state : IncidentState}
    (authorized : Authorized gateway incidentId document approval state db)
    {work row : RuntimeWorkRecord}
    (queued : db.works.find (executionWorkId document.warrantId) = some work)
    (same : row.id = work.id ∧ row.incidentId = work.incidentId ∧
      row.warrantId = work.warrantId ∧ row.kind = work.kind) :
    (∃ current, (db.works.write row).find (executionWorkId document.warrantId) = some current ∧
      current.incidentId = incidentId ∧ current.warrantId = document.warrantId ∧
      current.kind = .approvedExecution) ∧
    ∀ id, id ≠ executionWorkId document.warrantId → (db.works.write row).find id = none := by
  obtain ⟨current, found, owner, warrant, kind⟩ := authorized.work
  rw [queued, Option.some.injEq] at found
  subst found
  obtain ⟨sameId, sameIncident, sameWarrant, sameKind⟩ := same
  have key : row.id = executionWorkId document.warrantId := sameId.trans (Table.key_of_find queued)
  have present : db.works.find row.id = some work := by rw [key, queued]
  refine ⟨⟨row, ?_, sameIncident.trans owner, sameWarrant.trans warrant, sameKind.trans kind⟩, ?_⟩
  · rw [← key]
    exact Table.find_write_self present
  · intro id differs
    rw [Table.find_write present, if_neg (key ▸ differs)]
    exact authorized.only id differs

theorem reaches_insertWarrant {record : WarrantRecord} {Post : Unit → Database → Prop}
    (unused : db.broker.warrants record.id = none ∧ record.nonceSha256 ∉ db.broker.nonces)
    (post : Post ()
      { db with
        broker := { db.broker.put record.id record with
          nonces := record.nonceSha256 :: db.broker.nonces } }) :
    (insertWarrant record).Reaches db Post :=
  ⟨(), _, if_pos unused, post⟩

theorem publish_authorities (store : PostgresWarrantStore) (incidentId : String)
    (snapshot : Bytes) (now : Instant) :
    ∃ current, (store.publish incidentId snapshot now).authorities incidentId = some current ∧
      current.snapshotJson = snapshot := by
  simp [PostgresWarrantStore.publish]

theorem reaches_enqueue {incidentId warrantId : String} {kind : WorkKind} {now : Instant}
    {Post : Unit → Database → Prop} (fresh : db.works.find (workId kind warrantId) = none)
    (post : ∀ (works : Table RuntimeWorkRecord.id) (work : RuntimeWorkRecord),
      works.find (workId kind warrantId) = some work → work.incidentId = incidentId →
        work.warrantId = warrantId → work.kind = kind → work.status = .pending →
          (∀ other, other ≠ workId kind warrantId → works.find other = db.works.find other) →
            Post () { db with works := works }) :
    (enqueueRuntimeWorkLocked incidentId warrantId kind now).Reaches db Post := by
  simp only [enqueueRuntimeWorkLocked, reaches_bind, reaches_read, fresh]
  refine ⟨(), _, dif_pos fresh,
    post _ _ (Table.find_insert_self fresh) rfl rfl rfl rfl fun other differs => ?_⟩
  exact (Table.find_insert fresh other).trans (if_neg differs)

theorem reduce_approved {approvalId warrantSha256 approver : String}
    (names : isIdentifier approvalId = true ∧ isIdentifier approver = true)
    (digest : isSha256 warrantSha256 = true) :
    reduce .approvalPending (.state .warrantApproved)
      [("approval_id", .str approvalId), ("warrant_sha256", .str warrantSha256),
       ("approver_identity", .str approver)] = .ok .approved := by
  have typed : typedEventFromPayload .warrantApproved
      [("approval_id", .str approvalId), ("warrant_sha256", .str warrantSha256),
       ("approver_identity", .str approver)] =
        .ok (.warrantApproved approvalId warrantSha256 approver) := by
    simp [typedEventFromPayload, textField, List.lookup, malformed, Event.newWarrantApproved,
      checkProof, require, names, digest, mapFailure]
  simp only [reduce, typed, ok_bind]
  rfl

theorem approve_reaches {incidentId : String} {document : WarrantDocument} {canonical : Bytes}
    {control : ControlWarrantRecord} {approval : WarrantApproval} {authority : AuthoritySnapshot}
    {uuid : String} (awaiting : Awaiting gateway incidentId document canonical control db)
    (renders : Renders gateway.services)
    (loads : gateway.services.codec.loadWarrant canonical = .ok document)
    (reads : gateway.services.codec.loadAuthority control.authorityJson = .ok authority)
    (timely : now ≤ document.expiresAt)
    (approved : gateway.policy.approvalService.approve gateway.services.tables document now
      (some document.approverIdentity) = .ok approval)
    (names : isIdentifier (approvalIdOf document.warrantId) = true ∧
      isIdentifier document.approverIdentity = true) :
    (decideLocked gateway document.warrantId true (hexdigest canonical) document.approverIdentity
      none uuid now).Reaches db fun _ next =>
        Authorized gateway incidentId document approval .approved next := by
  obtain ⟨pending, stage, identified, atGate⟩ := awaiting.stage
  obtain ⟨controlId, owner, status, expires⟩ := awaiting.row
  obtain ⟨stored, hashed⟩ := awaiting.stored
  obtain ⟨normalized, normalizes⟩ := approval.normalizes gateway.services.tables
  have approvalBytes : canonicalApprovalBytes gateway.services.tables approval =
      .ok (encode normalized) := canonicalJson_ok normalizes
  have digest := hexdigest_isSha256 canonical
  have unchanged : compareDigest (hexdigest canonical) (hexdigest canonical) = .ok true :=
    compareDigest_eq_ok_true.mpr ⟨isSha256_ascii digest, rfl⟩
  have notYet : ∀ id, db.broker.warrants id = none := by
    intro id
    rw [awaiting.broker]
    rfl
  have unqueued : ∀ id, db.works.find id = none := by
    intro id
    rw [awaiting.works]
    rfl
  simp only [decideLocked, pendingControl, reaches_bind, reaches_check, reaches_lift, reaches_pure,
    if_true]
  refine reaches_getControl.mpr ⟨control, awaiting.found, status, true, ?_, rfl, ?_⟩
  · rw [hashed, unchanged]
  refine ⟨document, by rw [stored, loads], ?_⟩
  refine reaches_getIncident.mpr ⟨pending, by rw [owner, ← identified, stage.found], ?_⟩
  simp only [approveLocked, reaches_bind, reaches_check, reaches_lift, approved, reads,
    approvalBytes, Except.ok.injEq, exists_eq_left', authorizeExecution, reaches_change,
    settleControl, writeControl, reaches_pure]
  have unissued : db.broker.nonces = [] := by
    rw [awaiting.broker]
    rfl
  let record : WarrantRecord :=
    { id := control.id
      incidentId := pending.id
      nonceSha256 := hexdigest (utf8 document.nonce)
      documentJson := control.canonicalDocument
      approvalJson := encode normalized
      state := .approved
      expiresAt := document.expiresAt
      resultJson := none
      claimedAt := none
      nonceConsumedAt := none
      finishedAt := none
      createdAt := now
      updatedAt := now }
  refine ⟨expires ▸ timely, reaches_insertWarrant ⟨notYet _, ?_⟩ ?_⟩
  · change _ ∉ db.broker.nonces
    simp [unissued]
  have moves : reduce pending.state (.state .warrantApproved)
      [("approval_id", .str (approvalIdOf control.id)),
       ("warrant_sha256", .str (hexdigest canonical)),
       ("approver_identity", .str document.approverIdentity)] = .ok .approved := by
    rw [atGate, controlId]
    exact reduce_approved names digest
  refine (stage.elsewhere (by rfl) (by rfl) (by rfl)).appendHeld (by exact ⟨rfl, rfl, rfl⟩) moves ?_
    fun event _ released => ?_
  · exact normalize_obj_ok ["approval_id", "warrant_sha256", "approver_identity"] rfl (by decide)
      (by decide) (by simp)
  refine reaches_enqueue (unqueued _)
    fun works work queued workOwner workWarrant kind _ others => ?_
  refine (released.elsewhere (by rfl) (by rfl) (by rfl)).publish (renders _ _)
    (by simp [publishes, advanced]) fun cases shown => ?_
  refine ⟨⟨_, shown, identified, rfl⟩, ?_, ?_, ?_, ?_, awaiting.tests⟩
  · have issuedRow := Function.update_self control.id (some record) db.broker.warrants
    refine ⟨record, controlId ▸ issuedRow, controlId, identified, rfl, rfl, rfl, ?_, approvalBytes⟩
    change _ = Except.ok control.canonicalDocument
    rw [stored, awaiting.encoded]
  · obtain ⟨current, published, snapshot⟩ :=
      publish_authorities db.broker pending.id control.authorityJson now
    exact ⟨current, identified ▸ published, snapshot ▸ awaiting.authority⟩
  · exact ⟨work, controlId ▸ queued, workOwner.trans identified, workWarrant.trans controlId, kind⟩
  · intro other differs
    rw [← controlId] at differs
    exact (others other differs).trans (unqueued other)

/-! ## After the approval -/

variable {incidentId : String} {document : WarrantDocument} {approval : WarrantApproval}

theorem reduce_failed {warrantId errorCode : String} (named : isIdentifier warrantId = true)
    (coded : isIdentifier errorCode = true) :
    reduce .approved (.state .executionFailed)
      [("warrant_id", .str warrantId), ("error_code", .str errorCode)] = .ok .humanEscalation := by
  have typed : typedEventFromPayload .executionFailed
      [("warrant_id", .str warrantId), ("error_code", .str errorCode)] =
        .ok (.executionFailed warrantId errorCode) := by
    simp [typedEventFromPayload, textField, List.lookup, malformed, Event.newExecutionFailed,
      checkProof, require, named, coded, mapFailure]
  simp only [reduce, typed, ok_bind]
  rfl

/-- A failed execution escalates the incident and leaves the broker's row alone. -/
theorem recordExecutionFailure_reaches
    (authorized : Authorized gateway incidentId document approval .approved db)
    (renders : Renders gateway.services) {errorCode uuid : String} (now : Instant)
    (named : isIdentifier document.warrantId = true) (coded : isIdentifier errorCode = true) :
    (recordExecutionFailure gateway.services incidentId document.warrantId errorCode uuid
      now).Reaches db fun _ next =>
        Authorized gateway incidentId document approval .humanEscalation next := by
  obtain ⟨incident, stage, identified, approved⟩ := authorized.stage
  obtain ⟨work, queued, _⟩ := authorized.work
  have present : db.incidents.find incidentId = some incident := by
    rw [← identified, stage.found]
  have fails : reduce incident.state (.state .executionFailed)
      [("warrant_id", .str document.warrantId), ("error_code", .str errorCode)] =
        .ok .humanEscalation := by
    rw [approved]
    exact reduce_failed named coded
  simp only [recordExecutionFailure, reaches_bind, reaches_read, reaches_lift, present, queued,
    needed, Except.ok.injEq, exists_eq_left', writeWork, reaches_change]
  refine stage.append fails ?_ fun event _ escalated => ?_
  · exact normalize_obj_ok ["warrant_id", "error_code"] rfl (by decide) (by decide)
      (by simp)
  rw [← identified]
  refine (escalated.elsewhere (by rfl) (by rfl) (by rfl)).publish (renders _ _)
    (by simp [publishes, advanced]) fun cases shown => ?_
  obtain ⟨completed, others⟩ :=
    @Authorized.rewritten db gateway incidentId document approval .approved authorized work
      (completedWork work now) queued ⟨rfl, rfl, rfl, rfl⟩
  exact ⟨⟨_, shown, rfl, rfl⟩, identified ▸ authorized.row, identified ▸ authorized.authority,
    identified ▸ completed, others, authorized.tests⟩

/-- The codec reads back what the gateway stored for a warrant. -/
structure Legible (gateway : Gateway) (document : WarrantDocument) (approval : WarrantApproval) :
    Prop where
  warrant : ∀ raw, canonicalWarrantBytes gateway.services.tables document = .ok raw →
    gateway.services.codec.loadWarrant raw = .ok document
  approval : ∀ raw, canonicalApprovalBytes gateway.services.tables approval = .ok raw →
    gateway.services.codec.loadApproval raw = .ok approval
  authority : ∀ raw, canonicalAuthorityBytes gateway.services.tables
      (AuthoritySnapshot.fromWarrant document gateway.policy.repositoryRoot) = .ok raw →
    gateway.services.codec.loadAuthority raw =
      .ok (AuthoritySnapshot.fromWarrant document gateway.policy.repositoryRoot)

/-- Whatever the state of the incident, an authorized warrant can be claimed. -/
theorem claim_of_authorized {state : IncidentState} {validator : ClaimValidator}
    {validated : AuthoritySnapshot} {record : WarrantRecord}
    (row : db.broker.warrants document.warrantId = some record)
    (authorized : Authorized gateway incidentId document approval state db)
    (legible : Legible gateway document approval) (owner : document.incidentId = incidentId)
    (unexpired : now ≤ document.expiresAt)
    (accepted : validator document approval now
      (AuthoritySnapshot.fromWarrant document gateway.policy.repositoryRoot) = .ok validated) :
    db.broker.claimWarrant gateway.services.tables gateway.services.codec document.warrantId
        (some now) validator =
      (.ok (.claimed ⟨document, approval, validated⟩),
        db.broker.put document.warrantId
          { record with
            state := .consuming
            claimedAt := some now
            nonceConsumedAt := some now
            updatedAt := now }) := by
  obtain ⟨current, found, named, owned, nonce, approved, expires, documentBytes, approvalBytes⟩ :=
    authorized.row
  rw [row, Option.some.injEq] at found
  subst found
  obtain ⟨current, present, authorityBytes⟩ := authorized.authority
  have warrantParsed : parseWarrantJson gateway.services.tables gateway.services.codec
      record.documentJson = .ok document := by
    simp [parseWarrantJson, legible.warrant _ documentBytes, documentBytes, require]
  have approvalParsed : parseApprovalJson gateway.services.tables gateway.services.codec
      record.approvalJson = .ok approval := by
    simp [parseApprovalJson, legible.approval _ approvalBytes, approvalBytes, require]
  have authorityParsed : parseAuthorityJson gateway.services.tables gateway.services.codec
      current.snapshotJson =
        .ok (AuthoritySnapshot.fromWarrant document gateway.policy.repositoryRoot) := by
    simp [parseAuthorityJson, legible.authority _ authorityBytes, authorityBytes, require,
      mapFailure]
  have stored : Postgres.StoredMaterial gateway.services.tables gateway.services.codec db.broker
      document.warrantId record current
      ⟨document, approval,
        AuthoritySnapshot.fromWarrant document gateway.policy.repositoryRoot⟩ := by
    refine ⟨row, ?_, owned ▸ present, authorityParsed⟩
    simp [PostgresWarrantStore.parseRecord, warrantParsed, approvalParsed]
  refine Postgres.claim_accepts stored approved ?_ unexpired accepted
  simp [PostgresWarrantStore.bindingsMatch, named, owned, nonce, expires, owner]

end Approval

end CrossPatch.Runtime.ReviewPath
