import CrossPatch.Library.DocumentTrees
import CrossPatch.Library.Lines
import CrossPatch.Runtime.Records

/-!
# Published evidence

The projection of an evidence row that readers outside see.  Members under private keys
are taken out of text that is JSON; where none is found, the text is published as it
stands, with whatever its repeated keys hide.
-/

namespace CrossPatch.Runtime.Redaction

open CrossPatch.Domain.Failure CrossPatch.Domain.Hashing CrossPatch.Domain.Text
open CrossPatch.Evidence.Views
open CrossPatch.Library CrossPatch.Library.Attempt CrossPatch.Library.Calendar
open CrossPatch.Library.Documents CrossPatch.Library.JsonText CrossPatch.Library.Octets
open CrossPatch.Library.Sha256
open CrossPatch.Runtime.Records
open CrossPatch.Library.JsonReader (Decoder Flaw)

/-! ## Private keys -/

def privateEvidenceKeys : List String :=
  ["access_token", "api_key", "approval_mac", "approval_nonce", "approval_json", "authorization",
   "authority_json", "canonical_document", "document_json", "envelope_json", "nonce",
   "nonce_sha256", "patch_b64", "raw_artifact_path", "raw_bytes", "raw_path", "result_json",
   "secret", "server_mac", "token"]

/-- `re.sub(r"([a-z0-9])([A-Z])", r"\1_\2", value)`. -/
def snakeCase : Text → Text
  | .char first :: .char second :: rest =>
      if (first.isLower || first.isDigit) && second.isUpper then
        .char first :: .char '_' :: snakeCase (.char second :: rest)
      else .char first :: snakeCase (.char second :: rest)
  | point :: rest => point :: snakeCase rest
  | [] => []

/-- `re.sub(r"[^A-Za-z0-9]+", "_", snake)`. -/
def underscored : Text → List Char
  | [] => []
  | point :: rest =>
      match point.plain.filter Char.isAlphanum with
      | some character => character :: underscored rest
      | none =>
          match underscored rest with
          | '_' :: others => '_' :: others
          | others => '_' :: others

def canonicalPublicKey (value : Text) : List Char :=
  (Lines.trim (· == '_') (underscored (snakeCase value))).map Char.toLower

def isPrivateEvidenceKey (value : Text) : Bool :=
  let normalized := canonicalPublicKey value
  let keyParts := normalized.splitOn '_'
  (privateEvidenceKeys.any fun key => key.toList == normalized) ||
    keyParts.contains ['n', 'o', 'n', 'c', 'e'] ||
    keyParts.contains ['s', 'e', 'c', 'r', 'e', 't'] ||
    keyParts.contains ['a', 'u', 't', 'h', 'o', 'r', 'i', 'z', 'a', 't', 'i', 'o', 'n'] ||
    keyParts.contains ['t', 'o', 'k', 'e', 'n'] ||
    ['r', 'a', 'w', '_'].isPrefixOf normalized

def withoutPrivateEvidenceFields (value : Document) : Document := value.without isPrivateEvidenceKey

/-! ## Publication -/

/-- What the interpreter brings: its tables, its reader, and how deep the calls of the two
functions may be nested that call themselves for every part of a value. -/
structure Interpreter where
  tables : UnicodeTables
  decoder : Decoder
  redactCalls : Nat
  normalizeCalls : Nat

def recursionError : Raised := ⟨.recursionError, "maximum recursion depth exceeded"⟩

/-- `redacted != structured`; not a number differs from itself where it stands alone. -/
def differs (redacted structured : Document) : Bool :=
  match structured with
  | .nonFinite .nan => true
  | _ => !redacted.equals structured

mutual

def isFinite : Document → Bool
  | .nonFinite _ => false
  | .arr items => finiteItems items
  | .obj members => finiteMembers members
  | _ => true

def finiteItems : List Document → Bool
  | [] => true
  | item :: rest => isFinite item && finiteItems rest

def finiteMembers : List (Text × Document) → Bool
  | [] => true
  | (_, value) :: rest => isFinite value && finiteMembers rest

end

/-- `canonical_json` of a decoded value.  Half of a surrogate pair is found when the text is
encoded, which keys that become equal forestall with an error of their own. -/
def canonicalDocument (interpreter : Interpreter) (value : Document) : Attempt Bytes := do
  require (value.calls ≤ interpreter.normalizeCalls) recursionError
  match value.toJson with
  | some json => canonicalJson interpreter.tables json
  | none =>
      if isFinite value then raise .unicodeEncodeError "surrogates not allowed"
      else raise .canonicalizationError "non-finite numbers are not canonical"

def redactionMarker : String := "[PRIVATE_AUTHORITY_MATERIAL_REDACTED]"

def redactionTag : String := "PRIVATE_AUTHORITY_MATERIAL_REDACTED"

/-- The text that is published, and the tags that are added. -/
def publishedText (interpreter : Interpreter) (text : String) : Attempt (String × List String) :=
  match Documents.read interpreter.decoder text.toList with
  | .error .nesting => .error recursionError
  | .error _ =>
      let normalized := canonicalPublicKey (ofString text)
      if privateEvidenceKeys.any fun key => decide (key.toList <:+: normalized) then
        .ok (redactionMarker, [redactionTag])
      else .ok (text, [])
  | .ok document => do
      let structured := document.parsed
      let redacted := withoutPrivateEvidenceFields structured
      require (redacted.calls ≤ interpreter.redactCalls) recursionError
      if differs redacted structured then do
        let bytes ← canonicalDocument interpreter redacted
        match decodeUtf8 bytes with
        | some canonical => .ok (canonical, [redactionTag])
        | none => raise .unicodeDecodeError "invalid utf-8"
      else .ok (text, [])

/-- `datetime.isoformat` in UTC, which leaves out microseconds that are zero. -/
def isoformat (instant : Instant) : String :=
  let text := isoText instant
  String.ofList ((if instant.micros % 1000000 = 0 then text.take 19 else text) ++
    ['+', '0', '0', ':', '0', '0'])

/-- The classified evidence DTO. -/
structure EvidenceDto where
  evidenceId : String
  incidentId : String
  classification : String
  provenance : String
  kind : EvidenceKind
  sanitizedSha256 : String
  capturedAt : String
  text : String
  tags : List String

def publishedEvidence (interpreter : Interpreter) (record : EvidenceRecord) :
    Attempt EvidenceDto := do
  let (text, added) ← publishedText interpreter record.sanitizedText
  .ok
    { evidenceId := record.id
      incidentId := record.incidentId
      classification := "UNTRUSTED_EVIDENCE"
      provenance := record.provenance
      kind := record.kind
      sanitizedSha256 := hexdigest (utf8 text)
      capturedAt := isoformat record.createdAt
      text := text
      tags := (record.tags.map fun tag => tag.kind.value) ++ added }

end CrossPatch.Runtime.Redaction
