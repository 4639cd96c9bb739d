import CrossPatch.Runtime.ExecutionAuthority
import CrossPatch.Runtime.HashChain

/-!
# The timeline explains the state

The state of an incident is what its timeline folds to from `OPEN`.  A rejection is
the one decision whose event is no state event: it writes `BLOCKED` itself and
records `WARRANT_REJECTED`, so the fold has to read that event as the step from the
gate to `BLOCKED`.
-/

namespace CrossPatch.Runtime.Explanation

open CrossPatch.Broker.Claim CrossPatch.Broker.Store CrossPatch.Broker.Warrant
open CrossPatch.Domain.Failure CrossPatch.Domain.Hashing CrossPatch.Domain.StateMachine
open CrossPatch.Domain.Text
open CrossPatch.Library CrossPatch.Library.Attempt CrossPatch.Library.Calendar
open CrossPatch.Library.Octets CrossPatch.Library.Runs CrossPatch.Library.Sha256
open CrossPatch.Library.Transaction
open CrossPatch.Runtime.Authority CrossPatch.Runtime.ControlPlane
open CrossPatch.Runtime.ExecutionAuthority CrossPatch.Runtime.HashChain
open CrossPatch.Runtime.History CrossPatch.Runtime.Progress CrossPatch.Runtime.Protocol
open CrossPatch.Runtime.Records CrossPatch.Runtime.Refinement CrossPatch.Runtime.ReviewPath
open CrossPatch.Runtime.Store CrossPatch.Runtime.Timeline

/-! ## Folding a timeline -/

def isStateEvent (event : TimelineEventRecord) : Bool :=
  match event.type with
  | .state _ => true
  | _ => false

def reduceEvent (state : IncidentState) (event : TimelineEventRecord) : Attempt IncidentState :=
  reduce state event.type event.payload

/-- The state events of an incident, folded with the transition policy from `OPEN`. -/
def replayed (db : Database) (incidentId : String) : Attempt IncidentState :=
  ((timeline db incidentId).filter isStateEvent).foldlM reduceEvent .opened

/-- The step that an event justifies: a rejection blocks an incident at the gate,
any other event follows the transition policy. -/
def justify (state : IncidentState) (event : TimelineEventRecord) : Attempt IncidentState :=
  if event.type = .warrantRejected then
    if state = .approvalPending then .ok .blocked
    else raise .invalidTransition ("WARRANT_REJECTED is not allowed from " ++ state.value)
  else reduceEvent state event

def explained (db : Database) (incidentId : String) : Attempt IncidentState :=
  (timeline db incidentId).foldlM justify .opened

/-- Incidents are opened `OPEN`, rejections are recorded by the decision alone, and
they meet incidents at the gate. -/
def auditPolicy : Policy :=
  ⟨fun state => state = .opened, fun type => type ≠ .warrantRejected,
    fun row => row.state = .approvalPending⟩

theorem auditPolicy_usual : auditPolicy.Usual := ⟨rfl, fun _ differs => differs⟩

/-! ## One entry -/

variable {tables : UnicodeTables}

/-- The events of every incident fold to its state. -/
def Explains (current : Annals) : Prop :=
  ∀ id row, current.incidents.find id = some row →
    (current.eventsOf id).foldlM justify .opened = .ok row.state

theorem justify_admitted {row held : IncidentRecord} {event : TimelineEventRecord}
    {state : IncidentState} (admits : auditPolicy.Admits row held event.type)
    (reduced : reduce held.state event.type event.payload = .ok state) :
    justify row.state event = .ok state := by
  rcases admits with ⟨same, reported⟩ | ⟨blocked, rejected, gate⟩
  · have other : event.type ≠ .warrantRejected := reported
    rw [justify, if_neg other, ← same]
    exact reduced
  · have atGate : row.state = .approvalPending := gate
    rw [rejected, blocked] at reduced
    cases reduced
    rw [justify, if_pos rejected, if_pos atGate]

theorem explains_opened {current : Annals} {row : IncidentRecord}
    (fresh : current.incidents.find row.id = none) (opened : row.state = .opened)
    (intact : Intact tables current) (explains : Explains current) :
    Explains ⟨current.incidents.insert row fresh, current.events⟩ := by
  intro id found present
  rw [Table.find_insert fresh] at present
  by_cases same : id = row.id
  · rw [if_pos same, Option.some.injEq] at present
    have empty : current.eventsOf id = [] := by
      refine List.filter_eq_nil_iff.mpr fun event member => ?_
      intro named
      exact intact.owned event member (((beq_iff_eq.mp named).trans same) ▸ fresh)
    change (current.eventsOf id).foldlM justify .opened = .ok found.state
    rw [empty, ← present, opened]
    rfl
  · rw [if_neg same] at present
    exact explains id found present

theorem explains_recorded {current : Annals} {row held : IncidentRecord}
    {event : TimelineEventRecord} {state : IncidentState} {now : Instant}
    (found : current.incidents.find held.id = some row) (owner : event.incidentId = held.id)
    (justified : justify row.state event = .ok state) (explains : Explains current) :
    Explains
      ⟨current.incidents.write (advanced held event state now), current.events ++ [event]⟩ := by
  intro id other present
  have written := @Table.find_write _ _ _ _ current.incidents (advanced held event state now) row
    found id
  rw [written] at present
  by_cases same : id = held.id
  · rw [if_pos (by exact same), Option.some.injEq] at present
    have own := owner.symm
    rw [← same] at own
    subst own
    rw [eventsOf_append_own, foldlM_append_eq_ok]
    refine ⟨row.state, explains _ row (same ▸ found), ?_⟩
    rw [List.foldlM_cons, justified, ← present]
    rfl
  · rw [if_neg (by exact same)] at present
    rw [eventsOf_append_other fun isOwner => same (isOwner.trans owner)]
    exact explains id other present

theorem Explains.entry {before after : Annals} (explains : Explains before)
    (intact : Intact tables before) (entry : Entry tables auditPolicy before after) :
    Explains after := by
  cases entry with
  | opened fresh state _ _ => exact explains_opened fresh state intact explains
  | recorded found owner _ admits reduced =>
      exact explains_recorded found owner (justify_admitted admits reduced) explains

theorem Explains.entries {before after : Annals} (explains : Explains before)
    (intact : Intact tables before) (entries : Entries tables auditPolicy before after) :
    Explains after := by
  induction entries with
  | refl => exact explains
  | tail earlier entry ih => exact ih.entry (intact.entries earlier) entry

/-- Entries only add events, and keep the incidents that there are. -/
theorem entries_grow {policy : Policy} {before after : Annals}
    (entries : Entries tables policy before after) :
    (∃ fresh, after.events = before.events ++ fresh) ∧
      ∀ id, before.incidents.find id ≠ none → after.incidents.find id ≠ none := by
  induction entries with
  | refl => exact ⟨⟨[], (List.append_nil _).symm⟩, fun _ present => present⟩
  | tail _ entry ih =>
      obtain ⟨⟨earlier, grown⟩, kept⟩ := ih
      cases entry with
      | opened absent _ _ _ =>
          refine ⟨⟨earlier, grown⟩, fun id present => ?_⟩
          rw [Table.find_insert absent]
          split
          · simp
          · exact kept id present
      | recorded found _ _ _ _ =>
          refine ⟨⟨earlier ++ [_], by rw [grown, List.append_assoc]⟩, fun id present => ?_⟩
          rw [@Table.find_write _ _ _ _ _ (advanced _ _ _ _) _ found]
          split
          · simp
          · exact kept id present

/-! ## Runs -/

/-- What the callers promise, with the rejection left to the decision. -/
def Reported (db : Database) (action : Action) : Prop :=
  Promised db action ∧
    ∀ incidentId type actor payload published uuid now,
      action = .appendEvent incidentId type actor payload published uuid now →
        type ≠ .warrantRejected

variable {plant : Plant}

/-- Every reported action changes the annals by audited entries. -/
theorem audited {db : Database} {action : Action} (coherent : Coherent (view db))
    (reported : Reported db action) :
    Entries plant.gateway.services.tables auditPolicy (annals db)
      (annals ((machine plant).next db action)) := by
  refine perform_entries auditPolicy_usual reported.2 ?_
  intro control incident decided pending found
  have listed : control ∈ db.controlsOf incident.id :=
    mem_controlsOf.mpr ⟨decided, (Table.key_of_find found).symm⟩
  exact (incident_of_pending coherent (Table.mem_of_find found) listed pending).1

structure Audited (tables : UnicodeTables) (db : Database) : Prop where
  coherent : Coherent (view db)
  intact : Intact tables (annals db)
  explains : Explains (annals db)

theorem audited_step {db : Database} {action : Action} (reported : Reported db action)
    (current : Audited plant.gateway.services.tables db) :
    Audited plant.gateway.services.tables ((machine plant).next db action) := by
  have entries := @audited plant db action current.coherent reported
  exact ⟨coherent_step reported.1 current.coherent, current.intact.entries entries,
    current.explains.entries current.intact entries⟩

theorem run_audited {actions : List Action}
    (follows : (machine plant).Follows Reported Database.empty actions) :
    Audited plant.gateway.services.tables ((machine plant).run Database.empty actions) := by
  refine (machine plant).run_invariant_of_follows
    (Audited plant.gateway.services.tables) (fun _ _ => audited_step) ?_ follows
  refine ⟨@run_coherent plant [] trivial, intact_empty, ?_⟩
  intro id row present
  cases present

theorem timeline_explained {db : Database} (current : Audited tables db)
    {incident : IncidentRecord} (listed : incident ∈ db.incidents.rows) :
    explained db incident.id = .ok incident.state := by
  have found : db.incidents.find incident.id = some incident := Table.find_of_mem listed
  rw [explained, timeline_eq current.intact found]
  exact current.explains incident.id incident found

/-- An action explains what it does to an incident by the events that it adds. -/
theorem step_explained {db : Database} {action : Action} (reported : Reported db action)
    (current : Audited plant.gateway.services.tables db) {incident : IncidentRecord}
    (listed : incident ∈ db.incidents.rows) :
    ∃ later ∈ ((machine plant).next db action).incidents.rows, later.id = incident.id ∧
      ∃ fresh, timeline ((machine plant).next db action) incident.id =
          timeline db incident.id ++ fresh ∧
        fresh.foldlM justify incident.state = .ok later.state := by
  have found : db.incidents.find incident.id = some incident := Table.find_of_mem listed
  have after : Audited plant.gateway.services.tables ((machine plant).next db action) :=
    audited_step reported current
  obtain ⟨⟨added, grown⟩, kept⟩ := entries_grow (@audited plant db action current.coherent reported)
  obtain ⟨later, present⟩ := Option.ne_none_iff_exists'.mp
    (kept incident.id (by rw [annals, found]; simp))
  have present : ((machine plant).next db action).incidents.find incident.id = some later := present
  refine ⟨later, Table.mem_of_find present, Table.key_of_find present,
    added.filter fun event => event.incidentId == incident.id, ?_, ?_⟩
  · rw [timeline_eq current.intact found, timeline_eq after.intact present, Database.eventsOf,
      Database.eventsOf, ← List.filter_append]
    exact congrArg (List.filter _) grown
  · have whole := after.explains incident.id later present
    have earlier := current.explains incident.id incident found
    have split : (annals ((machine plant).next db action)).eventsOf incident.id =
        (annals db).eventsOf incident.id ++
          added.filter fun event => event.incidentId == incident.id := by
      rw [Annals.eventsOf, grown, List.filter_append]
      rfl
    rw [split, foldlM_append_eq_ok] at whole
    obtain ⟨middle, reached, rest⟩ := whole
    rw [earlier, Except.ok.injEq] at reached
    rw [reached]
    exact rest

/-- In every reachable state the timeline of an incident folds to its state, with a
rejection read as the step from the gate to `BLOCKED`, and every action adds the
events that justify what it does to a state. -/
theorem timeline_determines_state (plant : Plant) (actions : List Action) (action : Action)
    (follows : (machine plant).Follows Reported Database.empty (actions ++ [action])) :
    (∀ incident ∈ ((machine plant).run Database.empty actions).incidents.rows,
      explained ((machine plant).run Database.empty actions) incident.id = .ok incident.state) ∧
    ∀ incident ∈ ((machine plant).run Database.empty actions).incidents.rows,
      ∃ later ∈ ((machine plant).run Database.empty (actions ++ [action])).incidents.rows,
        later.id = incident.id ∧
        ∃ fresh, timeline ((machine plant).run Database.empty (actions ++ [action])) incident.id =
            timeline ((machine plant).run Database.empty actions) incident.id ++ fresh ∧
          fresh.foldlM justify incident.state = .ok later.state := by
  obtain ⟨before, last⟩ := (Machine.follows_append _).mp follows
  have current := run_audited before
  refine ⟨fun incident listed => timeline_explained current listed, fun incident listed => ?_⟩
  rw [Machine.run_append]
  exact step_explained last.1 current listed

theorem sampleReview_reported (db : Database) (action : Action) (member : action ∈ sampleReview) :
    Reported db action := by
  refine ⟨sampleReview_promised db action member, ?_⟩
  simp only [sampleReview, sampleProposal, sampleEvent, List.cons_append, List.nil_append,
    List.mem_cons, List.not_mem_nil, or_false] at member
  rcases member with rfl | rfl | rfl | rfl | rfl | rfl | rfl <;>
    (intro _ _ _ _ _ _ _ same; cases same <;> decide)

/-- The timeline of the sample review explains where its incident stands. -/
theorem sampleReview_explained :
    (machine (samplePlant sampleIdle)).Follows Reported Database.empty sampleReview ∧
    ∀ incident ∈ ((machine (samplePlant sampleIdle)).run Database.empty sampleProposal).incidents.rows,
      explained ((machine (samplePlant sampleIdle)).run Database.empty sampleProposal) incident.id =
        .ok incident.state := by
  have reported := (machine (samplePlant sampleIdle)).follows_of_forall sampleReview_reported
    Database.empty
  exact ⟨reported, (timeline_determines_state (samplePlant sampleIdle) sampleProposal
    (.openApproval sampleInput.incidentId sampleVerdict sampleOutputs sampleUuids sampleIssuedAt)
    reported).1⟩

/-! ## A rejection -/

/-- A rejection from the gate commits, and blocks the incident. -/
theorem reject_reaches {gateway : Gateway} {db : Database} {incidentId : String}
    {document : WarrantDocument} {canonical : Bytes} {control : ControlWarrantRecord}
    (awaiting : Awaiting gateway incidentId document canonical control db)
    (renders : Renders gateway.services)
    (loads : gateway.services.codec.loadWarrant canonical = .ok document)
    (actor uuid : String) (now : Instant) :
    (decideLocked gateway document.warrantId false (hexdigest canonical) actor none uuid
      now).Reaches db fun _ next =>
        (∃ blocked ∈ next.incidents.rows, blocked.id = incidentId ∧ blocked.state = .blocked) ∧
        ∃ event, next.events = db.events ++ [event] ∧ event.type = .warrantRejected := by
  obtain ⟨pending, stage, identified, _⟩ := awaiting.stage
  obtain ⟨controlId, owner, status, _⟩ := awaiting.row
  obtain ⟨stored, hashed⟩ := awaiting.stored
  have unchanged : compareDigest (hexdigest canonical) (hexdigest canonical) = .ok true :=
    compareDigest_eq_ok_true.mpr ⟨isSha256_ascii (hexdigest_isSha256 canonical), rfl⟩
  simp only [decideLocked, pendingControl, reaches_bind, reaches_check, reaches_lift, reaches_pure,
    Bool.false_eq_true, if_false]
  refine reaches_getControl.mpr ⟨control, awaiting.found, status, true, ?_, rfl, ?_⟩
  · rw [hashed, unchanged]
  refine ⟨document, by rw [stored, loads], ?_⟩
  refine reaches_getIncident.mpr ⟨pending, by rw [owner, ← identified, stage.found], ?_⟩
  simp only [rejectLocked, settleControl, writeControl, List.append_nil, reaches_bind,
    reaches_change, reaches_pure]
  generalize closed : ({ db with controlWarrants := _ } : Database) = current
  have standing : Stage current pending :=
    stage.elsewhere (closed ▸ rfl) (closed ▸ rfl) (closed ▸ rfl)
  have same : current.events = db.events := closed ▸ rfl
  have recorded : (appendLocked gateway.services
      { pending with state := .blocked, pendingWarrantId := none } .warrantRejected actor
      (decisionMembers control.id (hexdigest canonical)) true uuid now).Reaches current
        fun moved next => Stage next moved ∧ moved.id = pending.id ∧ moved.state = .blocked := by
    refine standing.appendHeld (by exact ⟨rfl, rfl, rfl⟩) (by rfl) ?_ fun event _ moved => ?_
    · exact normalize_obj_ok ["warrant_id", "warrant_sha256"] rfl (by decide) (by decide)
        (by simp [decisionMembers])
    · exact ⟨moved, rfl, rfl⟩
  refine (recorded.ensured fun moved next reached => appendLocked_extends reached).mono ?_
  rintro moved next ⟨⟨shown, named, blocked⟩, event, _, _, typed, _, _, _, grown⟩
  have events : next.events = db.events ++ [event] := by rw [grown, ← same]; rfl
  rw [← named]
  refine shown.publish (renders _ _) (by simp [publishes, blocked]) fun cases final => ?_
  exact ⟨⟨moved, Table.mem_of_find final.found, named.trans identified, blocked⟩, event, events,
    typed⟩

/-- An event that is no state event is not replayed. -/
theorem replayed_unchanged {db next : Database} (before : Intact tables (annals db))
    (after : Intact tables (annals next)) {id : String} {row later : IncidentRecord}
    (found : db.incidents.find id = some row) (present : next.incidents.find id = some later)
    {event : TimelineEventRecord} (grown : next.events = db.events ++ [event])
    (other : isStateEvent event = false) : replayed next id = replayed db id := by
  have same : (next.eventsOf id).filter isStateEvent = (db.eventsOf id).filter isStateEvent := by
    rw [Database.eventsOf, Database.eventsOf, grown]
    simp [List.filter_append, List.filter_cons, other]
  rw [replayed, replayed, timeline_eq before found, timeline_eq after present, same]

/-- The sample review, rejected at the gate. -/
def sampleRejection (document : WarrantDocument) (canonical : Bytes) : Action :=
  .decideLocked document.warrantId false (hexdigest canonical) "operator" none "8" sampleIssuedAt

/-- If the state events of the sample folded to the state of its incident before and
after the rejection, the gate would be `BLOCKED`. -/
theorem sampleRejection_unreplayed {codec : Codec} {db : Database} {document : WarrantDocument}
    {canonical : Bytes} {control : ControlWarrantRecord}
    (awaiting : Awaiting (sampleGateway codec) sampleInput.incidentId document canonical control db)
    (loads : codec.loadWarrant canonical = .ok document)
    (before : Intact .asciiOnly (annals db))
    (after : Intact .asciiOnly
      (annals ((machine (samplePlant codec)).run db [sampleRejection document canonical])))
    (folded : ∀ incident ∈ db.incidents.rows, replayed db incident.id = .ok incident.state) :
    ∃ blocked ∈ ((machine (samplePlant codec)).run db
        [sampleRejection document canonical]).incidents.rows,
      replayed ((machine (samplePlant codec)).run db [sampleRejection document canonical])
        blocked.id ≠ .ok blocked.state := by
  obtain ⟨next, step, ⟨blocked, listed, named, state⟩, event, grown, typed⟩ :=
    performed (samplePlant codec) (sampleRejection document canonical) rfl
      (reject_reaches awaiting (sample_renders codec) loads "operator" "8" sampleIssuedAt)
  rw [Machine.run_cons, step, Machine.run_nil] at after ⊢
  obtain ⟨pending, stage, identified, atGate⟩ := awaiting.stage
  have found : db.incidents.find blocked.id = some pending := by
    rw [named, ← identified]
    exact stage.found
  have unreplayed : replayed next blocked.id = replayed db blocked.id :=
    replayed_unchanged before after found (Table.find_of_mem listed) grown
      (by rw [isStateEvent, typed])
  refine ⟨blocked, listed, fun same => ?_⟩
  have gate := folded pending (Table.mem_of_find stage.found)
  rw [unreplayed, named, ← identified, gate, state, atGate] at same
  cases same

/-- After a rejection the state events still fold to the gate. -/
theorem rejection_unreplayed :
    ¬ ∀ plant actions, (machine plant).Follows Reported Database.empty actions →
      ∀ incident ∈ ((machine plant).run Database.empty actions).incidents.rows,
        replayed ((machine plant).run Database.empty actions) incident.id = .ok incident.state := by
  intro determined
  obtain ⟨document, canonical, control, opened, _, _, issuedIdle, _⟩ :=
    sampleReview_awaiting sampleIdle (vacant_empty _ _)
  obtain ⟨approval, _⟩ := sample_approval issuedIdle
  have legible := sampleCodec_legible document approval
  generalize sampleCodec document approval = codec at legible
  have awaiting := sampleReview_withCodec codec opened
  have reviewed := (machine (samplePlant codec)).follows_of_forall sampleReview_reported
    Database.empty
  have whole : (machine (samplePlant codec)).Follows Reported Database.empty
      (sampleReview ++ [sampleRejection document canonical]) := by
    refine (Machine.follows_append _).mpr ⟨reviewed, ⟨trivial, ?_⟩, trivial⟩
    intro _ _ _ _ _ _ _ same
    cases same
  have after := (run_audited whole).intact
  rw [Machine.run_append] at after
  obtain ⟨blocked, listed, differs⟩ := sampleRejection_unreplayed awaiting
    (legible.warrant _ awaiting.encoded) (run_audited reviewed).intact after
    (determined (samplePlant codec) sampleReview reviewed)
  rw [← Machine.run_append] at listed differs
  exact differs (determined (samplePlant codec) _ whole blocked listed)

end CrossPatch.Runtime.Explanation
