import CrossPatch.Domain.Fingerprints
import CrossPatch.Orchestration.Escalation

/-!
# Duplicate retries

A retry is a duplicate of the output before it when the fingerprints are equal.  The
fingerprint sorts the sets of an output and keeps their repetitions, so that a retry
which names an element once more passes for a new one.
-/

namespace CrossPatch.Orchestration.Duplicates

open CrossPatch.Domain.Failure CrossPatch.Domain.Seats CrossPatch.Domain.Semantics
open CrossPatch.Domain.StateMachine
open CrossPatch.Library CrossPatch.Library.Octets CrossPatch.Library.Procedure
open CrossPatch.Library.Sha256
open CrossPatch.Orchestration.Escalation

inductive RetryDisposition where
  | failedRetryDuplicate
  | material
  deriving DecidableEq, Repr

def classifyRetry (previousFingerprint retryFingerprint : String) : RetryDisposition :=
  if previousFingerprint = retryFingerprint then .failedRetryDuplicate else .material

def duplicateRetry (seat : Seat) : Fault :=
  fault .duplicateRetry (seat.value ++ " retry is semantically duplicate")

/-- The tracker waits for a retry of a seat whose last output has the fingerprint. -/
def Awaits (tracker : EscalationTracker) (seat : Seat) (fingerprint : String) : Prop :=
  ∃ state, tracker.states seat = some state ∧ state.retryPending = true ∧
    state.fingerprint = fingerprint

section Classification

variable {tables : SemanticTables}

theorem classifyRetry_iff {previous retry : String} :
    classifyRetry previous retry = .failedRetryDuplicate ↔ previous = retry := by
  unfold classifyRetry
  split
  · rename_i same
    exact iff_of_true rfl same
  · rename_i differs
    exact iff_of_false (by decide) differs

theorem acceptRetry_duplicate_iff {tracker : EscalationTracker} {seat : Seat}
    {output : SeatOutput} {previous fingerprint : String} (awaits : Awaits tracker seat previous)
    (known : semanticFingerprint tables output = .ok fingerprint) :
    ((acceptRetry tables seat output).run tracker).1 = .error (duplicateRetry seat) ↔
      previous = fingerprint := by
  obtain ⟨state, found, pending, rfl⟩ := awaits
  have meets : (acceptRetry tables seat output).Meets tracker
      (fun _ _ => fingerprint ≠ state.fingerprint)
      fun error _ => error = duplicateRetry seat ∧ fingerprint = state.fingerprint := by
    simp only [acceptRetry, meets_bind, meets_get, found, pending, if_true, meets_ofAttempt, known,
      meets_modify]
    refine meets_ite (fun same => ⟨rfl, same⟩) fun differs => ?_
    simp only [meets_bind, meets_modify, meets_pure]
    exact differs
  unfold Meets at meets
  split at meets
  · rename_i outcome
    rw [outcome]
    exact iff_of_false (fun impossible => by cases impossible) fun same => meets same.symm
  · rename_i outcome
    rw [outcome]
    exact iff_of_true (congrArg _ meets.1) meets.2.symm

end Classification

/-! ## Faithful fingerprints -/

/-- The fingerprints of two outputs see their material and nothing else, and with them the
classification of the second as a retry of the first. -/
def Faithful (tables : SemanticTables) (previous retry : SeatOutput) : Prop :=
  ∃ one two, semanticFingerprint tables previous = .ok one ∧
    semanticFingerprint tables retry = .ok two ∧
    (one = two ↔ SameMaterial tables previous retry) ∧
    (classifyRetry one two = .failedRetryDuplicate ↔ SameMaterial tables previous retry) ∧
    ∀ tracker, Awaits tracker retry.seat one →
      (((acceptRetry tables retry.seat retry).run tracker).1 =
        .error (duplicateRetry retry.seat) ↔ SameMaterial tables previous retry)

/-- Fingerprints are faithful unless the material is the same and a set of it is not aligned. -/
theorem faithful_iff (tables : SemanticTables) (previous retry : SeatOutput)
    (seat : previous.seat = retry.seat)
    (free : CollisionFree [payloadBytes tables previous, payloadBytes tables retry]) :
    Faithful tables previous retry ↔
      (SameMaterial tables previous retry → Aligned tables previous retry) := by
  have fingerprints := fingerprint_eq_iff seat free
  rw [semanticFingerprint_eq, semanticFingerprint_eq, Except.ok.injEq] at fingerprints
  constructor
  · rintro ⟨one, two, first, second, faithful, _⟩ same
    rw [semanticFingerprint_eq, Except.ok.injEq] at first second
    subst first second
    exact (fingerprints.mp (faithful.mpr same)).2
  · intro aligned
    have faithful : hexdigest (payloadBytes tables previous) =
        hexdigest (payloadBytes tables retry) ↔ SameMaterial tables previous retry :=
      fingerprints.trans ⟨fun both => both.1, fun same => ⟨same, aligned same⟩⟩
    refine ⟨_, _, semanticFingerprint_eq previous, semanticFingerprint_eq retry, faithful,
      classifyRetry_iff.trans faithful, ?_⟩
    intro tracker awaits
    exact (acceptRetry_duplicate_iff awaits (semanticFingerprint_eq retry)).trans faithful

def onceCited : InspectorOutput where
  mechanism := .checkThenInsertRace
  evidenceIds := ["e2", "e1"]
  falsifiers := ["unique index already active"]
  analysis := "first explanation"
  cited := by decide

/-- The same material in other words and another order. -/
def rephrased : InspectorOutput :=
  { onceCited with
    evidenceIds := ["E1", "e2"]
    falsifiers := ["  Unique   INDEX already active "]
    analysis := "a polished paraphrase"
    cited := by decide }

/-- The same material, with an item of evidence named twice. -/
def twiceCited : InspectorOutput :=
  { onceCited with
    evidenceIds := ["e2", "e1", "e1"]
    cited := by decide }

/-- A paraphrase is recognized. -/
theorem faithful_iff_sample :
    Faithful sampleTables (.inspector onceCited) (.inspector rephrased) := by
  have same : payloadBytes sampleTables (.inspector onceCited) =
      payloadBytes sampleTables (.inspector rephrased) := by
    decide +kernel
  have free : CollisionFree [payloadBytes sampleTables (.inspector onceCited),
      payloadBytes sampleTables (.inspector rephrased)] := by
    rw [same]
    intro left inLeft right inRight _
    simp only [List.mem_cons, List.not_mem_nil, or_false, or_self] at inLeft inRight
    rw [inLeft, inRight]
  have aligned := (@payloadBytes_eq_iff sampleTables (.inspector onceCited)
    (.inspector rephrased) rfl).mp same
  exact (faithful_iff sampleTables (.inspector onceCited) (.inspector rephrased) rfl free).mpr
    fun _ => aligned.2

/-- Evidence that is named twice makes a new fingerprint of the same material. -/
theorem twiceCited_material :
    SameMaterial sampleTables (.inspector onceCited) (.inspector twiceCited) ∧
      ¬ Faithful sampleTables (.inspector onceCited) (.inspector twiceCited) := by
  have same : SameMaterial sampleTables (.inspector onceCited) (.inspector twiceCited) := by
    refine ⟨rfl, fun form => ?_, SetField.SameSet.refl _ _⟩
    simp [onceCited, twiceCited]
  refine ⟨same, ?_⟩
  rintro ⟨one, two, first, second, faithful, _⟩
  rw [semanticFingerprint_eq, Except.ok.injEq] at first second
  subst first second
  have differ : hexdigest (payloadBytes sampleTables (.inspector onceCited)) ≠
      hexdigest (payloadBytes sampleTables (.inspector twiceCited)) := by
    decide +kernel
  exact differ (faithful.mpr same)

end CrossPatch.Orchestration.Duplicates
