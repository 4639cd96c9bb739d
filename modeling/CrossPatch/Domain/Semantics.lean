import CrossPatch.Domain.Hashing
import CrossPatch.Domain.Seats
import CrossPatch.Library.Lines

/-!
# Semantic fingerprints

The material part of a seat output, without prose, spelling and layout.  It is what
other seats are shown of an output, and its hash is the fingerprint by which retries
are compared.
-/

namespace CrossPatch.Domain.Semantics

open CrossPatch.Domain.Failure CrossPatch.Domain.Hashing CrossPatch.Domain.Seats
open CrossPatch.Domain.StateMachine CrossPatch.Domain.Text
open CrossPatch.Library CrossPatch.Library.Attempt CrossPatch.Library.JsonText
open CrossPatch.Library.Octets

/-- The tables of the interpreter, with its case folding. -/
structure SemanticTables extends UnicodeTables where
  casefold : String → String

/-- `re.sub(r"\s+", " ", text)`. -/
def collapseSpaces : List Char → List Char
  | [] => []
  | character :: rest =>
      if isSpace character then
        match collapseSpaces rest with
        | ' ' :: others => ' ' :: others
        | others => ' ' :: others
      else character :: collapseSpaces rest

section Payload

variable (tables : SemanticTables)

def semanticText (text : String) : String :=
  tables.casefold (String.ofList (Lines.trim isSpace (collapseSpaces (tables.nfkc text).toList)))

def sortKey (value : Json) : Bytes := encode (ordered value)

def semanticSort (values : List Json) : List Json :=
  values.insertionSort fun left right => sortKey left ≤ sortKey right

/-- `_ordered_semantic_set` of texts. -/
def semanticTexts (texts : List String) : Json :=
  .arr (semanticSort (texts.map fun text => .str (semanticText tables text)))

def semanticIntention (intention : TestIntention) : Json :=
  .obj
    [("catalog_id", .str (semanticText tables intention.catalogId)),
     ("purpose", .str (semanticText tables intention.purpose))]

/-- The value of a seat is a text like any other. -/
def semanticSeat : Option Seat → Json
  | none => .null
  | some seat => .str (semanticText tables seat.value)

/-- The code is taken through `_semantic_value` twice. -/
def semanticChange (change : RequiredChange) : Json :=
  .obj
    [("code", .str (semanticText tables (semanticText tables change.code))),
     ("target", semanticSeat tables change.target)]

/-- `value.replace("\r\n", "\n").replace("\r", "\n")`. -/
def universalNewlines : List Char → List Char
  | [] => []
  | '\r' :: '\n' :: rest => '\n' :: universalNewlines rest
  | '\r' :: rest => '\n' :: universalNewlines rest
  | character :: rest => character :: universalNewlines rest

def normalizeDiff (value : String) : String :=
  String.ofList
    (Lines.trim isSpace (Lines.join '\n'
      (Lines.trimmedLines '\n' isSpace (universalNewlines value.toList))) ++ ['\n'])

def semanticPayload : SeatOutput → Json
  | .inspector output =>
      .obj
        [("mechanism", .str output.mechanism.value),
         ("evidence_ids", semanticTexts tables output.evidenceIds),
         ("falsifiers", semanticTexts tables output.falsifiers)]
  | .prosecutor output =>
      let material :=
        [("counterexample_ids", semanticTexts tables output.counterexampleIds),
         ("test_ids", semanticTexts tables output.testIds)]
      match output.rivalMechanism with
      | some mechanism =>
          .obj (("outcome", .str "SUPPORTED_RIVAL") :: material ++
            [("rival_mechanism", .str mechanism.value)])
      | none => .obj (("outcome", .str "NO_SUPPORTED_RIVAL") :: material)
  | .counsel output =>
      .obj
        [("normalized_diff", .str (normalizeDiff output.normalizedDiff)),
         ("test_intentions",
          .arr (semanticSort (output.testIntentions.map (semanticIntention tables))))]
  | .magistrate output =>
      .obj
        [("verdict", .str output.verdict.value),
         ("finding_codes", semanticTexts tables output.findingCodes),
         ("required_changes",
          .arr (semanticSort (output.requiredChanges.map (semanticChange tables)))),
         ("remand_target", seatJson output.remandTarget)]
  | .bailiff output => .obj [("warrant_id", .str output.warrantId)]

def semanticFingerprint (output : SeatOutput) : Attempt String :=
  sha256Hex tables.toUnicodeTables (semanticPayload tables output)

/-- What other seats are shown of an output. -/
structure UntrustedAgentSummary where
  seat : Seat
  semanticSha256 : String
  material : Json

def summarizeOutput (output : SeatOutput) : Attempt UntrustedAgentSummary := do
  let fingerprint ← semanticFingerprint tables output
  .ok ⟨output.seat, fingerprint, semanticPayload tables output⟩

end Payload

/-- Tables for plain texts. -/
def sampleTables : SemanticTables := ⟨.asciiOnly, String.toLower⟩

end CrossPatch.Domain.Semantics
