import CrossPatch.Export.Builder

/-!
# Verification of case archives

`verifyExport` reads an archive that may be hostile.  The zip reader of the runtime and the
signature scheme are parameters; an archive is listed once, and its members are read piece by
piece until they end, fail or grow too large.
-/

namespace CrossPatch.Export.Verifier

open CrossPatch.Broker.Paths CrossPatch.Domain.Failure CrossPatch.Domain.Hashing
open CrossPatch.Domain.Text
open CrossPatch.Export.Builder
open CrossPatch.Library CrossPatch.Library.Attempt CrossPatch.Library.Documents
open CrossPatch.Library.JsonReader (Decoder)
open CrossPatch.Library.Octets CrossPatch.Library.Sha256

/-! ## Parameters -/

/-- `exceeds` compares the quotient of two sizes, as a float, with the largest ratio. -/
structure VerificationLimits where
  maxMembers : Nat
  maxArchiveBytes : Nat
  maxMemberBytes : Nat
  maxTotalBytes : Nat
  maxCentralDirectoryBytes : Nat
  exceeds : Nat → Nat → Bool
  positive : 3 ≤ maxMembers ∧ 1 ≤ maxArchiveBytes ∧ 1 ≤ maxMemberBytes ∧ 1 ≤ maxTotalBytes ∧
    1 ≤ maxCentralDirectoryBytes

def VerificationLimits.default : VerificationLimits where
  maxMembers := 256
  maxArchiveBytes := 64 * 1024 * 1024
  maxMemberBytes := 8 * 1024 * 1024
  maxTotalBytes := 32 * 1024 * 1024
  maxCentralDirectoryBytes := 2 * 1024 * 1024
  exceeds size compressed := decide (100 * compressed < size)
  positive := by decide

/-- An entry of the central directory. -/
structure ZipInfo where
  filename : String
  flagBits : Nat
  externalAttr : Nat
  fileSize : Nat
  compressSize : Nat
  headerOffset : Int
  deriving DecidableEq

/-- Listing an archive, opening a member and reading at most so many bytes from it; no bytes
are read at the end. -/
structure ZipReader where
  Stream : Type
  infolist : Bytes → Attempt (List ZipInfo)
  openMember : Bytes → ZipInfo → Attempt Stream
  read : Stream → Nat → Attempt (Bytes × Stream)

structure Ed25519 where
  Key : Type
  fromPublicBytes : Bytes → Option Key
  verify : Key → Bytes → Bytes → Bool

structure VerificationResult where
  valid : Bool
  errors : List String
  manifest : Option Document

variable (limits : VerificationLimits) (zip : ZipReader) (keys : Ed25519)

def rejected (code : String) : Raised := ⟨.archiveRejected, code⟩

def reject {α : Type} (code : String) : Attempt α := .error (rejected code)

/-! ## The end of the central directory -/

def endSignature : Bytes := [0x50, 0x4b, 0x05, 0x06]

def endSize : Nat := 22

/-- The last place from `start` on where the part stands. -/
def rfind (part bytes : Bytes) (start : Nat) : Option Nat :=
  ((List.range (bytes.length + 1)).filter fun place =>
    decide (start ≤ place) && part.isPrefixOf (bytes.drop place)).getLast?

/-- A little-endian number. -/
def number (bytes : Bytes) (offset count : Nat) : Nat :=
  ((bytes.drop offset).take count).foldr (fun byte rest => byte.toNat + 256 * rest) 0

def validateCentralDirectoryBounds (archive : Bytes) : Attempt Unit :=
  match rfind endSignature archive (archive.length - (endSize + 65535)) with
  | none => reject "ARCHIVE_INVALID"
  | some offset => do
      require (offset + endSize ≤ archive.length) (rejected "ARCHIVE_INVALID")
      let diskEntries := number archive (offset + 8) 2
      let totalEntries := number archive (offset + 10) 2
      let centralSize := number archive (offset + 12) 4
      let centralOffset := number archive (offset + 16) 4
      require (offset + endSize + number archive (offset + 20) 2 = archive.length)
        (rejected "ARCHIVE_INVALID")
      require (number archive (offset + 4) 2 = 0 ∧ number archive (offset + 6) 2 = 0 ∧
        diskEntries = totalEntries) (rejected "MULTIDISK_ARCHIVE")
      require (totalEntries ≠ 0xffff ∧ centralSize ≠ 0xffffffff ∧ centralOffset ≠ 0xffffffff)
        (rejected "ZIP64_UNSUPPORTED")
      require (2 ≤ totalEntries ∧ totalEntries ≤ limits.maxMembers) (rejected "MEMBER_COUNT")
      require (centralSize ≤ limits.maxCentralDirectoryBytes) (rejected "CENTRAL_DIRECTORY_SIZE")
      require (centralOffset + centralSize ≤ offset) (rejected "ARCHIVE_INVALID")

/-! ## The directory -/

variable (tables : PathTables)

def safeMemberName (value : String) : Attempt String := do
  require (value ≠ "" ∧ value.length ≤ 2048 ∧ '\\' ∉ value.toList ∧ '\x00' ∉ value.toList)
    (rejected "UNSAFE_MEMBER_NAME")
  require (tables.nfc value = value) (rejected "UNSAFE_MEMBER_NAME")
  require (startsWith value.toList "/" = false ∧ asPosix value.toList = value.toList)
    (rejected "UNSAFE_MEMBER_NAME")
  require ((pureParts value.toList).all (fun part => part != ['.', '.']) = true)
    (rejected "UNSAFE_MEMBER_NAME")
  require (qualified value.toList = false) (rejected "UNSAFE_MEMBER_NAME")
  .ok value

/-- Names that a file system may confuse have one key. -/
def collisionKey (name : String) : List Char := casefold tables (tables.nfc name).toList

/-- Bits 16 and up of the attributes are the mode; its file type is a regular one or none. -/
def plainMode (info : ZipInfo) : Bool :=
  let fileType := info.externalAttr / 65536 % 65536 / 4096 * 4096
  !(info.filename.toList.getLast? == some '/') && (fileType == 0 || fileType == 0o100000)

/-- The checks of one entry after those before it. -/
def validateEntry (before : List ZipInfo) (info : ZipInfo) : Attempt Unit := do
  let name ← safeMemberName tables info.filename
  require (name ∉ before.map ZipInfo.filename ∧
    collisionKey tables name ∉ before.map fun other => collisionKey tables other.filename)
    (rejected "DUPLICATE_MEMBER")
  require (info.flagBits % 2 = 0) (rejected "ENCRYPTED_MEMBER")
  require (plainMode info = true) (rejected "UNSAFE_MEMBER_TYPE")
  require (info.fileSize ≤ limits.maxMemberBytes) (rejected "MEMBER_SIZE")
  require ((before.map ZipInfo.fileSize).sum + info.fileSize ≤ limits.maxTotalBytes)
    (rejected "TOTAL_SIZE")
  require (info.fileSize ≠ 0 → info.compressSize ≠ 0 ∧
    limits.exceeds info.fileSize info.compressSize = false) (rejected "COMPRESSION_RATIO")

def validateDirectory (before : List ZipInfo) : List ZipInfo → Attempt Unit
  | [] => .ok ()
  | info :: rest => do
      validateEntry limits tables before info
      validateDirectory (before ++ [info]) rest

def byName (infos : List ZipInfo) (name : String) : Option ZipInfo :=
  infos.find? fun info => info.filename == name

/-! ## Reading members -/

def readChunk : Nat := 64 * 1024

/-- What is read goes on until an empty piece, a failure or a size that is too large. -/
def readLoop (info : ZipInfo) (maximum : Nat) (read : Bytes) (stream : zip.Stream) :
    Attempt Bytes :=
  match zip.read stream (min readChunk (maximum - read.length + 1)) with
  | .error error => .error error
  | .ok ([], _) => .ok read
  | .ok (byte :: rest, next) =>
      if _tooLarge : maximum < read.length + (rest.length + 1) ∨
          info.fileSize < read.length + (rest.length + 1) then reject "MEMBER_SIZE"
      else readLoop info maximum (read ++ byte :: rest) next
  termination_by maximum + 1 - read.length
  decreasing_by
    rw [List.length_append, List.length_cons]
    omega

/-- The errors of the reader that `_read_bounded` turns into a rejection. -/
def memberError (error : Raised) : Bool :=
  error.isA .eofError || error.isA .runtimeError || error.isA .badZipFile

def readBounded (archive : Bytes) (info : ZipInfo) (maximum : Nat) : Attempt Bytes :=
  match (do
    let stream ← zip.openMember archive info
    readLoop zip info maximum [] stream) with
  | .ok bytes => if bytes.length = info.fileSize then .ok bytes else reject "MEMBER_SIZE"
  | .error error => if memberError error then reject "MEMBER_READ" else .error error

/-! ## The manifest -/

variable (decoder : Decoder)

def decodeAscii (bytes : Bytes) : Option (List Char) :=
  if bytes.all fun byte => decide (byte.toNat < 128) then
    some (bytes.map fun byte => Char.ofNat byte.toNat)
  else none

/-- The hook that refuses two members of one key runs whenever an object is complete. -/
def parseManifest (value : Bytes) : Attempt (List (Text × Document)) :=
  match decodeAscii value with
  | none => reject "MANIFEST_INVALID"
  | some text =>
      match read decoder text with
      | .error flaw =>
          if repeatsWhileRead decoder text then reject "MANIFEST_DUPLICATE_KEY"
          else match flaw with
            | .number => .error (valueError "Exceeds the limit for integer string conversion")
            | .nesting => .error ⟨.recursionError, "maximum recursion depth exceeded"⟩
            | _ => reject "MANIFEST_INVALID"
      | .ok document =>
          if document.repeats then reject "MANIFEST_DUPLICATE_KEY"
          else match document with
            | .obj members => do
                let canonical ← canonicalJsonBytes decoder (.obj members)
                require (canonical = value) (rejected "MANIFEST_NONCANONICAL")
                .ok members
            | _ => reject "MANIFEST_INVALID"

def field (members : List (Text × Document)) (name : String) : Option Document :=
  members.lookup (ofString name)

/-- The members have exactly these names. -/
def hasKeys (members : List (Text × Document)) (names : List String) : Bool :=
  (members.all fun member => (names.map ofString).contains member.1) &&
    names.all fun name => (field members name).isSome

def textAt (members : List (Text × Document)) (name : String) : Option Text :=
  match field members name with
  | some (.str text) => some text
  | _ => none

/-- A text with half of a surrogate pair is none that is looked for. -/
def stringAt (members : List (Text × Document)) (name : String) : Option String :=
  textAt members name >>= plainText

def intAt (members : List (Text × Document)) (name : String) : Option Int :=
  match field members name with
  | some (.int value) => some value
  | _ => none

def digestAt (members : List (Text × Document)) (name : String) : Bool :=
  (stringAt members name).any isSha256

def incidentKeys : List String :=
  ["base_sha", "id", "receipt_sha256", "timeline_head", "verdict_sha256", "warrant_sha256"]

def proofKeys : List String :=
  ["counts", "execution_status", "plan_id", "plan_sha256", "response_statuses", "scenario",
   "trusted_observation_sha256"]

def countAt (members : List (Text × Document)) (name : String) : Bool :=
  (intAt members name).any fun count => decide (0 ≤ count)

def isStatus : Document → Bool
  | .int status => decide (100 ≤ status ∧ status ≤ 599)
  | _ => false

/-- The checks of the scenario proof, the last ones those of `CaseBinding`. -/
def validProof (incident : List (Text × Document)) : Bool :=
  match field incident "response_statuses", field incident "counts" with
  | some (.arr statuses), some (.obj counts) =>
      hasKeys counts ["receipts", "jobs", "deliveries"] &&
        (stringAt incident "scenario" == some provenScenario) &&
        (stringAt incident "plan_id" == some provenPlanId) && digestAt incident "plan_sha256" &&
        ((stringAt incident "execution_status").any executionStatuses.contains) &&
        decide (1 ≤ statuses.length ∧ statuses.length ≤ 32) && statuses.all isStatus &&
        countAt counts "receipts" && countAt counts "jobs" && countAt counts "deliveries" &&
        digestAt incident "trusted_observation_sha256"
  | _, _ => false

def validateIncident (incident : List (Text × Document)) : Attempt String := do
  require (hasKeys incident incidentKeys = true ∨
    hasKeys incident (incidentKeys ++ proofKeys) = true) (rejected "MANIFEST_SCHEMA")
  match stringAt incident "id" with
  | none => reject "INCIDENT_BINDING"
  | some incidentId => do
      require (isIncidentId incidentId = true) (rejected "INCIDENT_BINDING")
      require ((stringAt incident "base_sha").any isGitSha = true) (rejected "INCIDENT_BINDING")
      require ((["receipt_sha256", "timeline_head", "verdict_sha256", "warrant_sha256"].all
        fun name => digestAt incident name) = true) (rejected "INCIDENT_BINDING")
      require ((proofKeys.all fun name => (field incident name).isSome) = true →
        validProof incident = true) (rejected "INCIDENT_BINDING")
      .ok incidentId

/-- A file of the manifest. -/
structure FileEntry where
  path : String
  kind : String
  provenance : Text
  sha256 : String
  sizeBytes : Nat

def fileKeys : List String := ["incident_id", "kind", "path", "provenance", "sha256", "size_bytes"]

/-- Lists and objects cannot be looked for in a set. -/
def allowedKind : Document → Attempt (Option String)
  | .str text => .ok ((plainText text).filter fun kind => allowedArtifactKinds.contains kind)
  | .arr _ | .obj _ => .error ⟨.typeError, "unhashable type"⟩
  | _ => .ok none

def validateFile (incidentId previous : String) : Document → Attempt FileEntry
  | .obj entry => do
      require (hasKeys entry fileKeys = true) (rejected "MANIFEST_SCHEMA")
      match stringAt entry "path" with
      | none => reject "MANIFEST_SCHEMA"
      | some path => do
          let _ ← safeMemberName tables path
          require (previous < path) (rejected "MANIFEST_ORDER")
          require (stringAt entry "incident_id" = some incidentId ∧
            startsWith path.toList (incidentRoot incidentId ++ "/") = true)
            (rejected "CROSS_INCIDENT_MEMBER")
          let kind ← allowedKind ((field entry "kind").getD .null)
          match kind with
          | none => reject "PRIVATE_MEMBER"
          | some kind => do
              require (((pureParts path.toList).drop 2).all (fun part =>
                !startsRaw tables part) = true) (rejected "PRIVATE_MEMBER")
              match textAt entry "provenance" with
              | none => reject "MANIFEST_SCHEMA"
              | some provenance => do
                  require (provenance ≠ []) (rejected "MANIFEST_SCHEMA")
                  match stringAt entry "sha256" with
                  | none => reject "MANIFEST_SCHEMA"
                  | some sha256 => do
                      require (isSha256 sha256 = true) (rejected "MANIFEST_SCHEMA")
                      match intAt entry "size_bytes" with
                      | some (.ofNat sizeBytes) =>
                          .ok ⟨path, kind, provenance, sha256, sizeBytes⟩
                      | _ => reject "MANIFEST_SCHEMA"
  | _ => reject "MANIFEST_SCHEMA"

def validateFiles (incidentId previous : String) : List Document → Attempt (List FileEntry)
  | [] => .ok []
  | entry :: rest => do
      let file ← validateFile tables incidentId previous entry
      let files ← validateFiles incidentId file.path rest
      .ok (file :: files)

def validateManifest (manifest : List (Text × Document)) : Attempt (List FileEntry) := do
  require (hasKeys manifest ["files", "format", "incident"] = true ∧
    stringAt manifest "format" = some format) (rejected "MANIFEST_SCHEMA")
  match field manifest "incident" with
  | some (.obj incident) => do
      let incidentId ← validateIncident incident
      match field manifest "files" with
      | some (.arr files) => validateFiles tables incidentId "" files
      | _ => reject "MANIFEST_SCHEMA"
  | _ => reject "MANIFEST_SCHEMA"

/-! ## Verification -/

def decodeSignature (text : Bytes) : Attempt Bytes :=
  match Base64.decode (text.map fun byte => Char.ofNat byte.toNat) with
  | some signature => do
      require (signature.length = 64) (rejected "SIGNATURE_INVALID")
      .ok signature
  | none => reject "SIGNATURE_INVALID"

/-- The member of one file has the size and the digest of the manifest. -/
def verifyFile (archive : Bytes) (infos : List ZipInfo) (file : FileEntry) : Attempt Unit :=
  match byName infos file.path with
  | none => .error ⟨.keyError, file.path⟩
  | some info => do
      require (info.fileSize = file.sizeBytes) (rejected "MEMBER_SIZE_MISMATCH")
      let payload ← readBounded zip archive info limits.maxMemberBytes
      require (hexdigest payload = file.sha256) (rejected "MEMBER_HASH_MISMATCH")

/-- The names are those of the manifest, its signature and its files. -/
def expectedNames (infos : List ZipInfo) (files : List FileEntry) : Bool :=
  let expected := manifestName :: signatureName :: files.map FileEntry.path
  (infos.all fun info => expected.contains info.filename) &&
    expected.all fun name => (byName infos name).isSome

def verifyArchive (archive : Bytes) (key : keys.Key) : Attempt Document := do
  validateCentralDirectoryBounds limits archive
  let infos ← zip.infolist archive
  require (2 ≤ infos.length ∧ infos.length ≤ limits.maxMembers) (rejected "MEMBER_COUNT")
  validateDirectory limits tables [] infos
  match byName infos manifestName, byName infos signatureName with
  | some manifestInfo, some signatureInfo => do
      let manifestBytes ← readBounded zip archive manifestInfo limits.maxMemberBytes
      let signatureText ← readBounded zip archive signatureInfo 256
      let manifest ← parseManifest decoder manifestBytes
      let signature ← decodeSignature signatureText
      require (keys.verify key signature manifestBytes = true) (rejected "SIGNATURE_INVALID")
      let files ← validateManifest tables manifest
      require (expectedNames infos files = true) (rejected "UNMANIFESTED_MEMBER")
      forEach (verifyFile limits zip archive infos) files
      .ok (.obj manifest)
  | _, _ => reject "MANIFEST_MISSING"

def publicKeyOf (publicKey : Bytes) : Attempt keys.Key := do
  require (publicKey.length = 32) (rejected "PUBLIC_KEY_INVALID")
  match keys.fromPublicBytes publicKey with
  | some key => .ok key
  | none => reject "PUBLIC_KEY_INVALID"

def verifyBytes (archive publicKey : Bytes) : Attempt Document := do
  require (archive.length ≤ limits.maxArchiveBytes) (rejected "ARCHIVE_SIZE")
  let key ← publicKeyOf keys publicKey
  verifyArchive limits zip keys tables decoder archive key

/-- What `verify_export` catches besides rejections. -/
def exportError (error : Raised) : Bool :=
  error.isA .osError || error.isA .valueError || error.isA .typeError ||
    error.isA .badZipFile || error.isA .runtimeError

def verifyExport (archive publicKey : Bytes) : Attempt VerificationResult :=
  match verifyBytes limits zip keys tables decoder archive publicKey with
  | .ok manifest => .ok ⟨true, [], some manifest⟩
  | .error error =>
      if error.cls = .archiveRejected then .ok ⟨false, [error.message], none⟩
      else if exportError error then .ok ⟨false, ["ARCHIVE_INVALID"], none⟩
      else .error error

/-! ## Stages -/

/-- The archive is opened with the key, and its directory is accepted. -/
structure Opened (archive publicKey : Bytes) (key : keys.Key) (infos : List ZipInfo) : Prop where
  bounded : archive.length ≤ limits.maxArchiveBytes
  key : publicKeyOf keys publicKey = .ok key
  bounds : validateCentralDirectoryBounds limits archive = .ok ()
  listed : zip.infolist archive = .ok infos
  count : 2 ≤ infos.length ∧ infos.length ≤ limits.maxMembers
  directory : validateDirectory limits tables [] infos = .ok ()

/-- The entries of the manifest and of its signature. -/
structure Located (infos : List ZipInfo) (manifestInfo signatureInfo : ZipInfo) : Prop where
  manifest : byName infos manifestName = some manifestInfo
  signature : byName infos signatureName = some signatureInfo

/-- The manifest is canonical and signed, and it lists the members of the archive. -/
structure Signed (archive : Bytes) (key : keys.Key) (infos : List ZipInfo)
    (manifestInfo signatureInfo : ZipInfo) (manifestBytes : Bytes)
    (members : List (Text × Document)) (files : List FileEntry) : Prop where
  read : readBounded zip archive manifestInfo limits.maxMemberBytes = .ok manifestBytes
  parsed : parseManifest decoder manifestBytes = .ok members
  signature : ∃ text signature, readBounded zip archive signatureInfo 256 = .ok text ∧
    decodeSignature text = .ok signature ∧ keys.verify key signature manifestBytes = true
  validated : validateManifest tables members = .ok files
  names : expectedNames infos files = true

end CrossPatch.Export.Verifier
