import CrossPatch.Broker.Paths
import CrossPatch.Domain.Hashing
import CrossPatch.Library.Base64
import CrossPatch.Library.DocumentText

/-!
# Signed case archives

`CaseExportBuilder.build` checks the artifacts of one incident, writes a manifest over them,
signs it and packs everything into an archive.  The archive format and the signature scheme
are those of the runtime; the paths and the manifest are computed here.
-/

namespace CrossPatch.Export.Builder

open CrossPatch.Broker.Paths CrossPatch.Domain.Failure CrossPatch.Domain.Hashing
open CrossPatch.Domain.Text
open CrossPatch.Library CrossPatch.Library.Attempt CrossPatch.Library.JsonText
open CrossPatch.Library.JsonReader (Decoder)
open CrossPatch.Library.Documents (Document ofJson)
open CrossPatch.Library.Octets CrossPatch.Library.Sha256

/-! ## Paths -/

/-- The Unicode tables together with full case folding, which maps each character on its own.
Nothing composes with a slash. -/
structure PathTables extends UnicodeTables where
  fold : Char → List Char
  fold_ascii : ∀ character, character.toNat < 128 → fold character = [character.toLower]
  nfc_slash : ∀ start text, isAscii start = true → nfc text = text →
    nfc (start ++ "/" ++ text) = start ++ "/" ++ text

variable (tables : PathTables)

def casefold (text : List Char) : List Char := text.flatMap tables.fold

def startsRaw (part : List Char) : Bool := "raw".toList.isPrefixOf (casefold tables part)

/-- The first part of a path has a colon. -/
def qualified (text : List Char) : Bool :=
  match pureParts text with
  | [] => false
  | part :: _ => part.contains ':'

def valueError (message : String) : Raised := ⟨.valueError, message⟩

def safeRelativePath (value : String) : Attempt String := do
  require (value ≠ "" ∧ value.length ≤ 1024)
    (valueError "artifact path must be a bounded relative path")
  require (tables.nfc value = value ∧ '\\' ∉ value.toList ∧ '\x00' ∉ value.toList)
    (valueError "artifact path is not canonical")
  require (startsWith value.toList "/" = false ∧ asPosix value.toList = value.toList)
    (valueError "artifact path must be a canonical relative POSIX path")
  require ((pureParts value.toList).all (fun part => part != ['.', '.']) = true)
    (valueError "artifact path traversal is forbidden")
  require (qualified value.toList = false)
    (valueError "drive-qualified artifact paths are forbidden")
  .ok value

/-! ## Bindings and artifacts -/

/-- The pattern `[A-Za-z0-9][A-Za-z0-9._-]{0,127}`. -/
def isIncidentId (text : String) : Bool := isIdentifier text && !text.toList.contains ':'

def provenScenario : String := "webhook-payload-equivalence"

def provenPlanId : String := "victim.payload-equivalence.candidate"

def executionStatuses : List String := ["EXECUTED", "TEST_FAILED"]

/-- The typed proof of the one scenario that has one. -/
structure ScenarioProof where
  planSha256 : String
  executionStatus : String
  responseStatuses : List Int
  counts : Int × Int × Int
  trustedObservationSha256 : String
  plan : isSha256 planSha256 = true
  status : executionStatus ∈ executionStatuses
  responses : 1 ≤ responseStatuses.length ∧ responseStatuses.length ≤ 32 ∧
    ∀ status ∈ responseStatuses, 100 ≤ status ∧ status ≤ 599
  counted : 0 ≤ counts.1 ∧ 0 ≤ counts.2.1 ∧ 0 ≤ counts.2.2
  observed : isSha256 trustedObservationSha256 = true

structure CaseBinding where
  incidentId : String
  baseSha : String
  verdictSha256 : String
  warrantSha256 : String
  receiptSha256 : String
  timelineHead : String
  proof : Option ScenarioProof
  incident : isIncidentId incidentId = true
  base : isGitSha baseSha = true
  digests : isSha256 verdictSha256 = true ∧ isSha256 warrantSha256 = true ∧
    isSha256 receiptSha256 = true ∧ isSha256 timelineHead = true

def allowedArtifactKinds : List String :=
  ["agent_metadata", "receipt", "sanitized_evidence", "test", "timeline", "verdict", "warrant"]

structure ExportArtifact where
  path : String
  incidentId : String
  kind : String
  data : Bytes
  provenance : String
  publicable : Bool
  bounded : provenance ≠ "" ∧ provenance.length ≤ 512

def incidentRoot (incidentId : String) : String := "incidents/" ++ incidentId

def artifactMember (binding : CaseBinding) (artifact : ExportArtifact) : Attempt String := do
  require (artifact.incidentId = binding.incidentId)
    (valueError "cross-incident artifacts are forbidden")
  require (artifact.publicable = true) (valueError "unpublished artifacts cannot be exported")
  require (artifact.kind ∈ allowedArtifactKinds) (valueError "artifact kind is not publicable")
  let relative ← safeRelativePath tables artifact.path
  require ((pureParts relative.toList).all (fun part => !startsRaw tables part) = true)
    (valueError "raw artifacts cannot be exported")
  .ok (incidentRoot binding.incidentId ++ "/" ++ relative)

/-! ## Manifest -/

def format : String := "crosspatch-case-v1"

def manifestName : String := "manifest.json"

def signatureName : String := "manifest.sig"

/-- An artifact and the path of its member. -/
structure Staged where
  path : String
  artifact : ExportArtifact

def Staged.entry (staged : Staged) : Json :=
  .obj [("incident_id", .str staged.artifact.incidentId), ("kind", .str staged.artifact.kind),
    ("path", .str staged.path), ("provenance", .str staged.artifact.provenance),
    ("sha256", .str (hexdigest staged.artifact.data)),
    ("size_bytes", .int staged.artifact.data.length)]

def Staged.member (staged : Staged) : String × Bytes := (staged.path, staged.artifact.data)

def proofMembers : Option ScenarioProof → List (String × Json)
  | none => []
  | some proof =>
      [("counts", .obj [("receipts", .int proof.counts.1), ("jobs", .int proof.counts.2.1),
         ("deliveries", .int proof.counts.2.2)]),
       ("execution_status", .str proof.executionStatus),
       ("plan_id", .str provenPlanId),
       ("plan_sha256", .str proof.planSha256),
       ("response_statuses", .arr (proof.responseStatuses.map .int)),
       ("scenario", .str provenScenario),
       ("trusted_observation_sha256", .str proof.trustedObservationSha256)]

def incidentMembers (binding : CaseBinding) : List (String × Json) :=
  [("base_sha", .str binding.baseSha), ("id", .str binding.incidentId),
   ("receipt_sha256", .str binding.receiptSha256), ("timeline_head", .str binding.timelineHead),
   ("verdict_sha256", .str binding.verdictSha256),
   ("warrant_sha256", .str binding.warrantSha256)] ++ proofMembers binding.proof

def manifestOf (binding : CaseBinding) (entries : List Json) : Json :=
  .obj [("files", .arr entries), ("format", .str format),
    ("incident", .obj (incidentMembers binding))]

variable (decoder : Decoder)

/-- The interpreter neither converts long integers nor writes numbers that are not finite. -/
def canonicalJsonBytes (value : Document) : Attempt Bytes := do
  require (value.printable decoder.maxDigits = true) (valueError "value is not JSON compliant")
  .ok (utf8 (String.ofList value.ordered.asciiText))

/-! ## Building -/

/-- Members are staged in the order of the artifacts, each path once. -/
def stage (binding : CaseBinding) (seen : List Staged) : List ExportArtifact → Attempt (List Staged)
  | [] => .ok seen
  | artifact :: rest => do
      let path ← artifactMember tables binding artifact
      require (path ∉ seen.map Staged.path) (valueError "duplicate export artifact path")
      stage binding (seen ++ [⟨path, artifact⟩]) rest

structure Signer where
  sign : Bytes → Bytes
  publicKey : Bytes

/-- `writeZip` packs members in the order in which they are given. -/
def build (signer : Signer) (writeZip : List (String × Bytes) → Bytes) (binding : CaseBinding)
    (artifacts : List ExportArtifact) : Attempt Bytes := do
  let staged ← stage tables binding [] artifacts
  let sorted := staged.insertionSort fun left right => left.path ≤ right.path
  let manifest := manifestOf binding (sorted.map Staged.entry)
  let manifestBytes ← canonicalJsonBytes decoder (ofJson manifest)
  let signature := utf8 (String.ofList (Base64.encode (signer.sign manifestBytes)))
  .ok (writeZip ((manifestName, manifestBytes) :: (signatureName, signature) ::
    sorted.map Staged.member))

end CrossPatch.Export.Builder
