import CrossPatch.Domain.StateMachine
import CrossPatch.Runner.Catalog

/-!
# Seats and their structured outputs

The registry of the five seats with their effort ladders, and the strict output
schemas.  Fields that the schemas bound below carry their bound.
-/

namespace CrossPatch.Domain.Seats

open CrossPatch.Domain.StateMachine
open CrossPatch.Library.JsonText
open CrossPatch.Runner.Catalog

inductive Effort where
  | none
  | low
  | medium
  | high
  | xhigh
  deriving DecidableEq, Repr

def Effort.value : Effort → String
  | .none => "none"
  | .low => "low"
  | .medium => "medium"
  | .high => "high"
  | .xhigh => "xhigh"

inductive MechanismCode where
  | checkThenInsertRace
  | lateReceiptWrite
  | workerRetryDuplication
  | payloadIdCollision
  deriving DecidableEq, Repr

def MechanismCode.value : MechanismCode → String
  | .checkThenInsertRace => "CHECK_THEN_INSERT_RACE"
  | .lateReceiptWrite => "LATE_RECEIPT_WRITE"
  | .workerRetryDuplication => "WORKER_RETRY_DUPLICATION"
  | .payloadIdCollision => "PAYLOAD_ID_COLLISION"

/-- The part of a seat's registry entry that the control plane reads. -/
structure SeatSpec where
  model : String
  initialEffort : Effort
  effortLadder : List Effort
  maxEscalations : Nat

/-- `SEAT_SPECS`, by seat. -/
def seatSpec : Seat → SeatSpec
  | .prosecutor => ⟨"gpt-5.6-luna", .low, [.low, .medium, .high], 2⟩
  | .inspector => ⟨"gpt-5.6-terra", .medium, [.medium, .high, .xhigh], 2⟩
  | .counsel => ⟨"gpt-5.6-terra", .medium, [.medium, .high, .xhigh], 2⟩
  | .magistrate => ⟨"gpt-5.6-sol", .medium, [.medium, .high, .xhigh], 2⟩
  | .bailiff => ⟨"gpt-5.6-luna", .none, [.none], 0⟩

/-- The ladder starts at the initial effort and has a step for every escalation. -/
theorem seatSpec_ladder (seat : Seat) :
    (seatSpec seat).effortLadder.head? = some (seatSpec seat).initialEffort ∧
      (seatSpec seat).effortLadder.length = (seatSpec seat).maxEscalations + 1 := by
  cases seat <;> exact ⟨rfl, rfl⟩

/-! ## Outputs -/

structure InspectorOutput where
  mechanism : MechanismCode
  evidenceIds : List String
  falsifiers : List String
  analysis : String
  cited : evidenceIds ≠ []

/-- The rival finding: the mechanism is present for a supported rival only. -/
structure ProsecutorOutput where
  rivalMechanism : Option MechanismCode
  counterexampleIds : List String
  testIds : List String
  evidenceIds : List String
  analysis : String
  counterexamples : counterexampleIds ≠ []
  tests : testIds ≠ []
  cited : evidenceIds ≠ []

structure TestIntention where
  catalogId : String
  purpose : String
  named : catalogId ≠ "" ∧ purpose ≠ ""

structure CounselOutput where
  normalizedDiff : String
  testIntentions : List TestIntention
  evidenceIds : List String
  analysis : String
  proposes : normalizedDiff ≠ ""
  tested : testIntentions ≠ []
  cited : evidenceIds ≠ []

structure RequiredChange where
  code : String
  target : Option Seat
  action : String
  named : code ≠ ""

structure MagistrateOutput where
  verdict : Verdict
  findingCodes : List String
  requiredChanges : List RequiredChange
  remandTarget : Option Seat
  evidenceIds : List String
  analysis : String
  cited : evidenceIds ≠ []

structure BailiffOutput where
  warrantId : String
  named : warrantId ≠ ""

inductive SeatOutput where
  | inspector (output : InspectorOutput)
  | prosecutor (output : ProsecutorOutput)
  | counsel (output : CounselOutput)
  | magistrate (output : MagistrateOutput)
  | bailiff (output : BailiffOutput)

/-- The seat whose schema an output has. -/
def SeatOutput.seat : SeatOutput → Seat
  | .inspector _ => .inspector
  | .prosecutor _ => .prosecutor
  | .counsel _ => .counsel
  | .magistrate _ => .magistrate
  | .bailiff _ => .bailiff

def SeatOutput.evidenceIds : SeatOutput → List String
  | .inspector output => output.evidenceIds
  | .prosecutor output => output.evidenceIds
  | .counsel output => output.evidenceIds
  | .magistrate output => output.evidenceIds
  | .bailiff _ => []

/-! ## Dumps -/

def seatJson : Option Seat → Json
  | none => .null
  | some seat => .str seat.value

def InspectorOutput.json (output : InspectorOutput) : Json :=
  .obj
    [("mechanism", .str output.mechanism.value), ("evidence_ids", texts output.evidenceIds),
     ("falsifiers", texts output.falsifiers), ("analysis", .str output.analysis)]

def ProsecutorOutput.json (output : ProsecutorOutput) : Json :=
  let material :=
    [("counterexample_ids", texts output.counterexampleIds), ("test_ids", texts output.testIds),
     ("evidence_ids", texts output.evidenceIds), ("analysis", .str output.analysis)]
  match output.rivalMechanism with
  | some mechanism =>
      .obj [("root", .obj
        (("outcome", .str "SUPPORTED_RIVAL") :: ("rival_mechanism", .str mechanism.value) ::
          material))]
  | none => .obj [("root", .obj (("outcome", .str "NO_SUPPORTED_RIVAL") :: material))]

def TestIntention.json (intention : TestIntention) : Json :=
  .obj [("catalog_id", .str intention.catalogId), ("purpose", .str intention.purpose)]

def CounselOutput.json (output : CounselOutput) : Json :=
  .obj
    [("normalized_diff", .str output.normalizedDiff),
     ("test_intentions", .arr (output.testIntentions.map TestIntention.json)),
     ("evidence_ids", texts output.evidenceIds), ("analysis", .str output.analysis)]

def RequiredChange.json (change : RequiredChange) : Json :=
  .obj
    [("code", .str change.code), ("target", seatJson change.target), ("action", .str change.action)]

def MagistrateOutput.members (output : MagistrateOutput) : List (String × Json) :=
  [("verdict", .str output.verdict.value), ("finding_codes", texts output.findingCodes),
   ("required_changes", .arr (output.requiredChanges.map RequiredChange.json)),
   ("remand_target", seatJson output.remandTarget), ("evidence_ids", texts output.evidenceIds),
   ("analysis", .str output.analysis)]

def BailiffOutput.json (output : BailiffOutput) : Json :=
  .obj [("warrant_id", .str output.warrantId)]

def SeatOutput.json : SeatOutput → Json
  | .inspector output => output.json
  | .prosecutor output => output.json
  | .counsel output => output.json
  | .magistrate output => .obj output.members
  | .bailiff output => output.json

end CrossPatch.Domain.Seats
