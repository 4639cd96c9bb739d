import CrossPatch.Domain.Hashing

/-!
# Evidence views

What the sanitizer returns for untrusted bytes, and the envelope that carries
evidence across model-facing boundaries and into the database.
-/

namespace CrossPatch.Evidence.Views

open CrossPatch.Library.JsonText CrossPatch.Library.Octets

inductive TagKind where
  | potentialInstructionRedacted
  | secretRedacted
  | controlSequenceRemoved
  | invalidUtf8Replaced
  | lineTruncated
  | evidenceTruncated
  deriving DecidableEq, Repr

def TagKind.value : TagKind → String
  | .potentialInstructionRedacted => "POTENTIAL_INSTRUCTION_REDACTED"
  | .secretRedacted => "SECRET_REDACTED"
  | .controlSequenceRemoved => "CONTROL_SEQUENCE_REMOVED"
  | .invalidUtf8Replaced => "INVALID_UTF8_REPLACED"
  | .lineTruncated => "LINE_TRUNCATED"
  | .evidenceTruncated => "EVIDENCE_TRUNCATED"

structure SanitizationTag where
  kind : TagKind
  rawByteStart : Nat
  rawByteEnd : Nat
  rawSha256 : String
  sanitizedSha256 : String

structure SanitizedEvidence where
  provenance : String
  provenanceSha256 : String
  provenanceTags : List TagKind
  text : String
  rawSha256 : String
  sanitizedSha256 : String
  rawSizeBytes : Nat
  sanitizedSizeBytes : Nat
  truncated : Bool
  tags : List SanitizationTag

/-- The evidence sanitizer without configured secrets, a total function of the raw
bytes and of their non-empty provenance. -/
structure Sanitizer where
  sanitizeEvidence : Bytes → String → SanitizedEvidence

inductive EvidenceKind where
  | log
  | trace
  | issue
  | source
  | comment
  | diff
  | testOutput
  | timeline
  | mcpResult
  deriving DecidableEq, Repr

def EvidenceKind.value : EvidenceKind → String
  | .log => "log"
  | .trace => "trace"
  | .issue => "issue"
  | .source => "source"
  | .comment => "comment"
  | .diff => "diff"
  | .testOutput => "test_output"
  | .timeline => "timeline"
  | .mcpResult => "mcp_result"

structure UntrustedEvidenceEnvelope where
  evidenceId : String
  incidentId : String
  kind : EvidenceKind
  provenance : String
  provenanceSha256 : String
  provenanceTags : List TagKind
  text : String
  rawSha256 : String
  sanitizedSha256 : String
  rawSizeBytes : Nat
  sanitizedSizeBytes : Nat
  truncated : Bool
  tags : List SanitizationTag

def SanitizationTag.json (tag : SanitizationTag) : Json :=
  .obj
    [("kind", .str tag.kind.value), ("raw_byte_start", .int tag.rawByteStart),
     ("raw_byte_end", .int tag.rawByteEnd), ("raw_sha256", .str tag.rawSha256),
     ("sanitized_sha256", .str tag.sanitizedSha256)]

def UntrustedEvidenceEnvelope.json (envelope : UntrustedEvidenceEnvelope) : Json :=
  .obj
    [("classification", .str "UNTRUSTED_EVIDENCE"), ("evidence_id", .str envelope.evidenceId),
     ("incident_id", .str envelope.incidentId), ("kind", .str envelope.kind.value),
     ("provenance", .str envelope.provenance),
     ("provenance_sha256", .str envelope.provenanceSha256),
     ("provenance_tags", .arr (envelope.provenanceTags.map fun tag => .str tag.value)),
     ("text", .str envelope.text), ("raw_sha256", .str envelope.rawSha256),
     ("sanitized_sha256", .str envelope.sanitizedSha256),
     ("raw_size_bytes", .int envelope.rawSizeBytes),
     ("sanitized_size_bytes", .int envelope.sanitizedSizeBytes),
     ("truncated", .bool envelope.truncated), ("tags", .arr (envelope.tags.map (·.json)))]

end CrossPatch.Evidence.Views
