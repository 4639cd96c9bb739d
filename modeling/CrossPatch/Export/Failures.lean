import CrossPatch.Export.Verifier

/-!
# What verification raises

Every rejection carries one of finitely many codes, and the errors of the zip reader are
turned into codes as well, but for those of the decompressors and of a seek that is out of
range.  So `verifyExport` returns exactly when no member that it comes to read has its header
out of range or is corrupt up to where it stops reading.
-/

namespace CrossPatch.Export.Verifier

open CrossPatch.Broker.Paths CrossPatch.Domain.Failure CrossPatch.Domain.Hashing
open CrossPatch.Domain.Text
open CrossPatch.Export.Builder
open CrossPatch.Library CrossPatch.Library.Attempt CrossPatch.Library.Documents
open CrossPatch.Library.JsonReader (Decoder)
open CrossPatch.Library.Octets CrossPatch.Library.Sha256

/-! ## The zip reader -/

/-- The errors of the zip reader itself, which rejects nothing on behalf of the verifier. -/
def ownError (error : Raised) : Bool :=
  error.cls != .archiveRejected && (error.isA .badZipFile || error.isA .runtimeError ||
    error.isA .osError || error.isA .valueError)

/-- The errors of the decompressors. -/
def corrupt (error : Raised) : Bool :=
  error.cls == .zlibError || error.cls == .lzmaError

/-- What the reader of the standard library raises.  A seek to a header outside of the range
of a signed 64-bit number, which ZIP64 fields can ask for, overflows. -/
structure ZipReader.Standard (zip : ZipReader) : Prop where
  infolist_error : ∀ archive error, zip.infolist archive = .error error → ownError error = true
  open_error : ∀ archive info error, zip.openMember archive info = .error error →
    ownError error = true ∨ error.cls = .eofError ∨ error.cls = .overflowError
  read_error : ∀ stream count error, zip.read stream count = .error error →
    ownError error = true ∨ error.cls = .eofError ∨ corrupt error = true

/-! ## Codes -/

def failureCodes : List String :=
  ["ARCHIVE_SIZE", "PUBLIC_KEY_INVALID", "ARCHIVE_INVALID", "MULTIDISK_ARCHIVE",
   "ZIP64_UNSUPPORTED", "MEMBER_COUNT", "CENTRAL_DIRECTORY_SIZE", "UNSAFE_MEMBER_NAME",
   "DUPLICATE_MEMBER", "ENCRYPTED_MEMBER", "UNSAFE_MEMBER_TYPE", "MEMBER_SIZE", "TOTAL_SIZE",
   "COMPRESSION_RATIO", "MANIFEST_MISSING", "MEMBER_READ", "MANIFEST_INVALID",
   "MANIFEST_DUPLICATE_KEY", "MANIFEST_NONCANONICAL", "SIGNATURE_INVALID", "MANIFEST_SCHEMA",
   "INCIDENT_BINDING", "MANIFEST_ORDER", "CROSS_INCIDENT_MEMBER", "PRIVATE_MEMBER",
   "UNMANIFESTED_MEMBER", "MEMBER_SIZE_MISMATCH", "MEMBER_HASH_MISMATCH"]

/-- Valid, or with exactly one code. -/
inductive VerificationResult.Settled : VerificationResult → Prop where
  | valid (manifest : Option Document) : Settled ⟨true, [], manifest⟩
  | failed (code : String) (listed : code ∈ failureCodes) : Settled ⟨false, [code], none⟩

/-- The errors that end in a result with a listed code. -/
def handled (error : Raised) : Bool :=
  if error.cls = .archiveRejected then failureCodes.contains error.message else exportError error

variable {limits : VerificationLimits} {zip : ZipReader} {keys : Ed25519} {tables : PathTables}
  {decoder : Decoder}

theorem settles_iff_not_escapes {archive publicKey : Bytes} :
    (∃ result, verifyExport limits zip keys tables decoder archive publicKey = .ok result ∧
        result.Settled) ↔
      ¬ Escapes handled (verifyBytes limits zip keys tables decoder archive publicKey) := by
  unfold verifyExport
  cases verified : verifyBytes limits zip keys tables decoder archive publicKey with
  | ok manifest =>
      simp only [escapes_ok, not_false_eq_true, iff_true]
      exact ⟨_, rfl, .valid (some manifest)⟩
  | error error =>
      rw [escapes_error, Bool.not_eq_false, handled]
      dsimp only
      split
      · rw [List.contains_iff_mem]
        constructor
        · rintro ⟨_, ⟨⟩, settled⟩
          cases settled with
          | failed _ listed => exact listed
        · exact fun listed => ⟨_, rfl, .failed _ listed⟩
      · split
        · rename_i caught
          exact iff_of_true ⟨_, rfl, .failed _ (by decide)⟩ caught
        · rename_i lost
          refine iff_of_false ?_ lost
          rintro ⟨_, returned, _⟩
          cases returned

theorem handled_of_ownError {error : Raised} (own : ownError error = true) :
    handled error = true := by
  rw [ownError, Bool.and_eq_true, bne_iff_ne] at own
  obtain ⟨other, family⟩ := own
  rw [handled, if_neg other, exportError]
  simp only [Bool.or_eq_true] at family ⊢
  tauto

/-! ## Checks that only reject -/

theorem not_escapes_reject {α : Type} {code : String} (listed : failureCodes.contains code = true) :
    ¬ Escapes handled (reject code : Attempt α) := by
  rw [reject, escapes_error]
  change ¬ failureCodes.contains code = false
  rw [listed]
  decide

theorem not_escapes_check {condition : Prop} [Decidable condition] {code : String}
    (listed : failureCodes.contains code = true) :
    ¬ Escapes handled (require condition (rejected code)) := by
  unfold require
  split
  · exact escapes_ok _
  · exact not_escapes_reject listed

theorem not_escapes_publicKeyOf (publicKey : Bytes) :
    ¬ Escapes handled (publicKeyOf keys publicKey) := by
  refine not_escapes_bind (not_escapes_check (by decide)) fun _ _ => ?_
  split
  · exact escapes_ok _
  · exact not_escapes_reject (by decide)

theorem not_escapes_validateCentralDirectoryBounds (archive : Bytes) :
    ¬ Escapes handled (validateCentralDirectoryBounds limits archive) := by
  unfold validateCentralDirectoryBounds
  split
  · exact not_escapes_reject (by decide)
  · refine not_escapes_bind (not_escapes_check (by decide)) fun _ _ => ?_
    refine not_escapes_bind (not_escapes_check (by decide)) fun _ _ => ?_
    refine not_escapes_bind (not_escapes_check (by decide)) fun _ _ => ?_
    refine not_escapes_bind (not_escapes_check (by decide)) fun _ _ => ?_
    refine not_escapes_bind (not_escapes_check (by decide)) fun _ _ => ?_
    refine not_escapes_bind (not_escapes_check (by decide)) fun _ _ => ?_
    exact not_escapes_check (by decide)

theorem not_escapes_safeMemberName (value : String) :
    ¬ Escapes handled (safeMemberName tables value) := by
  refine not_escapes_bind (not_escapes_check (by decide)) fun _ _ => ?_
  refine not_escapes_bind (not_escapes_check (by decide)) fun _ _ => ?_
  refine not_escapes_bind (not_escapes_check (by decide)) fun _ _ => ?_
  refine not_escapes_bind (not_escapes_check (by decide)) fun _ _ => ?_
  refine not_escapes_bind (not_escapes_check (by decide)) fun _ _ => ?_
  exact escapes_ok _

theorem not_escapes_validateEntry (before : List ZipInfo) (info : ZipInfo) :
    ¬ Escapes handled (validateEntry limits tables before info) := by
  refine not_escapes_bind (not_escapes_safeMemberName _) fun _ _ => ?_
  refine not_escapes_bind (not_escapes_check (by decide)) fun _ _ => ?_
  refine not_escapes_bind (not_escapes_check (by decide)) fun _ _ => ?_
  refine not_escapes_bind (not_escapes_check (by decide)) fun _ _ => ?_
  refine not_escapes_bind (not_escapes_check (by decide)) fun _ _ => ?_
  refine not_escapes_bind (not_escapes_check (by decide)) fun _ _ => ?_
  exact not_escapes_check (by decide)

theorem not_escapes_validateDirectory (before infos : List ZipInfo) :
    ¬ Escapes handled (validateDirectory limits tables before infos) := by
  induction infos generalizing before with
  | nil => exact escapes_ok _
  | cons info rest ih =>
      exact not_escapes_bind (not_escapes_validateEntry before info) fun _ _ => ih _

theorem not_escapes_canonicalJsonBytes (document : Document) :
    ¬ Escapes handled (canonicalJsonBytes decoder document) := by
  refine not_escapes_bind ?_ fun _ _ => escapes_ok _
  rw [escapes_require]
  rintro ⟨_, lost⟩
  exact absurd lost (by decide)

theorem not_escapes_parseManifest (value : Bytes) :
    ¬ Escapes handled (parseManifest decoder value) := by
  unfold parseManifest
  split
  · exact not_escapes_reject (by decide)
  · split
    · split
      · exact not_escapes_reject (by decide)
      · split
        · rw [escapes_error]
          decide
        · rw [escapes_error]
          decide
        · exact not_escapes_reject (by decide)
    · split
      · exact not_escapes_reject (by decide)
      · split
        · refine not_escapes_bind (not_escapes_canonicalJsonBytes _) fun _ _ => ?_
          exact not_escapes_bind (not_escapes_check (by decide)) fun _ _ => escapes_ok _
        · exact not_escapes_reject (by decide)

theorem not_escapes_decodeSignature (text : Bytes) :
    ¬ Escapes handled (decodeSignature text) := by
  unfold decodeSignature
  split
  · exact not_escapes_bind (not_escapes_check (by decide)) fun _ _ => escapes_ok _
  · exact not_escapes_reject (by decide)

theorem not_escapes_validateIncident (incident : List (Text × Document)) :
    ¬ Escapes handled (validateIncident incident) := by
  refine not_escapes_bind (not_escapes_check (by decide)) fun _ _ => ?_
  split
  · exact not_escapes_reject (by decide)
  · refine not_escapes_bind (not_escapes_check (by decide)) fun _ _ => ?_
    refine not_escapes_bind (not_escapes_check (by decide)) fun _ _ => ?_
    refine not_escapes_bind (not_escapes_check (by decide)) fun _ _ => ?_
    exact not_escapes_bind (not_escapes_check (by decide)) fun _ _ => escapes_ok _

theorem not_escapes_allowedKind (kind : Document) : ¬ Escapes handled (allowedKind kind) := by
  unfold allowedKind
  split
  · exact escapes_ok _
  · rw [escapes_error]
    decide
  · rw [escapes_error]
    decide
  · exact escapes_ok _

theorem not_escapes_validateFile (incidentId previous : String) (entry : Document) :
    ¬ Escapes handled (validateFile tables incidentId previous entry) := by
  unfold validateFile
  split
  · refine not_escapes_bind (not_escapes_check (by decide)) fun _ _ => ?_
    split
    · exact not_escapes_reject (by decide)
    · refine not_escapes_bind (not_escapes_safeMemberName _) fun _ _ => ?_
      refine not_escapes_bind (not_escapes_check (by decide)) fun _ _ => ?_
      refine not_escapes_bind (not_escapes_check (by decide)) fun _ _ => ?_
      refine not_escapes_bind (not_escapes_allowedKind _) fun _ _ => ?_
      split
      · exact not_escapes_reject (by decide)
      · refine not_escapes_bind (not_escapes_check (by decide)) fun _ _ => ?_
        split
        · exact not_escapes_reject (by decide)
        · refine not_escapes_bind (not_escapes_check (by decide)) fun _ _ => ?_
          split
          · exact not_escapes_reject (by decide)
          · refine not_escapes_bind (not_escapes_check (by decide)) fun _ _ => ?_
            split
            · exact escapes_ok _
            · exact not_escapes_reject (by decide)
  · exact not_escapes_reject (by decide)

theorem not_escapes_validateFiles (incidentId previous : String) (entries : List Document) :
    ¬ Escapes handled (validateFiles tables incidentId previous entries) := by
  induction entries generalizing previous with
  | nil => exact escapes_ok _
  | cons entry rest ih =>
      refine not_escapes_bind (not_escapes_validateFile incidentId previous entry) fun _ _ => ?_
      exact not_escapes_bind (ih _) fun _ _ => escapes_ok _

theorem not_escapes_validateManifest (manifest : List (Text × Document)) :
    ¬ Escapes handled (validateManifest tables manifest) := by
  refine not_escapes_bind (not_escapes_check (by decide)) fun _ _ => ?_
  split
  · refine not_escapes_bind (not_escapes_validateIncident _) fun _ _ => ?_
    split
    · exact not_escapes_validateFiles _ _ _
    · exact not_escapes_reject (by decide)
  · exact not_escapes_reject (by decide)

/-! ## Unreadable members -/

section Unreadable

variable (zip : ZipReader) (info : ZipInfo) (maximum : Nat)

/-- After so many bytes, the decompressor fails before reading stops. -/
inductive Corrupted : Nat → zip.Stream → Prop where
  | here {size : Nat} {stream : zip.Stream} {error : Raised}
      (raised : zip.read stream (min readChunk (maximum - size + 1)) = .error error)
      (decompressor : corrupt error = true) : Corrupted size stream
  | later {size : Nat} {stream next : zip.Stream} {piece : Bytes}
      (given : zip.read stream (min readChunk (maximum - size + 1)) = .ok (piece, next))
      (some : piece ≠ [])
      (fits : size + piece.length ≤ maximum ∧ size + piece.length ≤ info.fileSize)
      (rest : Corrupted (size + piece.length) next) : Corrupted size stream

/-- Opening the member overflows, or the decompressor fails on it. -/
inductive Unreadable (archive : Bytes) : Prop where
  | outOfRange {error : Raised} (raised : zip.openMember archive info = .error error)
      (overflow : error.cls = .overflowError) : Unreadable archive
  | corrupt {stream : zip.Stream} (opened : zip.openMember archive info = .ok stream)
      (corrupted : Corrupted zip info maximum 0 stream) : Unreadable archive

end Unreadable

/-- What is handled around the reading of a member. -/
def readHandled (error : Raised) : Bool := memberError error || handled error

theorem readHandled_of_corrupt {error : Raised} (decompressor : corrupt error = true) :
    readHandled error = false := by
  rw [corrupt, Bool.or_eq_true, beq_iff_eq, beq_iff_eq] at decompressor
  obtain ⟨cls, message⟩ := error
  obtain rfl | rfl := decompressor
  · rfl
  · rfl

theorem readHandled_of_overflow {error : Raised} (overflow : error.cls = .overflowError) :
    readHandled error = false := by
  obtain ⟨cls, message⟩ := error
  cases overflow
  rfl

theorem readHandled_of_own {error : Raised}
    (own : ownError error = true ∨ error.cls = .eofError) : readHandled error = true := by
  rw [readHandled, Bool.or_eq_true]
  obtain own | eof := own
  · exact .inr (handled_of_ownError own)
  · obtain ⟨cls, message⟩ := error
    cases eof
    exact .inl rfl

theorem escapes_readLoop (standard : zip.Standard) {info : ZipInfo} {maximum : Nat}
    (read : Bytes) (stream : zip.Stream) :
    Escapes readHandled (readLoop zip info maximum read stream) ↔
      Corrupted zip info maximum read.length stream := by
  fun_induction readLoop zip info maximum read stream with
  | case1 read stream error raised =>
      rw [escapes_error]
      constructor
      · intro lost
        obtain own | eof | decompressor := standard.read_error _ _ _ raised
        · rw [readHandled_of_own (.inl own)] at lost
          cases lost
        · rw [readHandled_of_own (.inr eof)] at lost
          cases lost
        · exact .here raised decompressor
      · intro corrupted
        cases corrupted with
        | here again decompressor =>
            rw [raised] at again
            cases again
            exact readHandled_of_corrupt decompressor
        | later given some fits rest =>
            rw [raised] at given
            cases given
  | case2 read stream next ended =>
      refine iff_of_false (escapes_ok _) fun corrupted => ?_
      cases corrupted with
      | here raised decompressor =>
          rw [ended] at raised
          cases raised
      | later given some fits rest =>
          rw [ended] at given
          cases given
          exact some rfl
  | case3 read stream byte rest next given tooLarge =>
      refine iff_of_false (fun escapes => ?_) fun corrupted => ?_
      · rw [reject, escapes_error] at escapes
        exact absurd escapes (by decide)
      · cases corrupted with
        | here raised decompressor =>
            rw [given] at raised
            cases raised
        | later again some fits rest =>
            rw [given] at again
            cases again
            rw [List.length_cons] at fits
            omega
  | case4 read stream byte rest next given fitting ih =>
      rw [ih, List.length_append]
      constructor
      · intro corrupted
        refine .later given (List.cons_ne_nil _ _) ?_ corrupted
        rw [List.length_cons]
        omega
      · intro corrupted
        cases corrupted with
        | here raised decompressor =>
            rw [given] at raised
            cases raised
        | later again some fits rest =>
            rw [given] at again
            cases again
            exact rest

theorem escapes_readBounded (standard : zip.Standard) {archive : Bytes} {info : ZipInfo}
    {maximum : Nat} :
    Escapes handled (readBounded zip archive info maximum) ↔
      Unreadable zip info maximum archive := by
  have translated : Escapes handled (readBounded zip archive info maximum) ↔
      Escapes readHandled (do
        let stream ← zip.openMember archive info
        readLoop zip info maximum [] stream) := by
    unfold readBounded
    generalize (do
      let stream ← zip.openMember archive info
      readLoop zip info maximum [] stream : Attempt Bytes) = attempt
    cases attempt with
    | ok bytes =>
        refine iff_of_false ?_ (escapes_ok _)
        dsimp only
        split
        · exact escapes_ok _
        · exact not_escapes_reject (by decide)
    | error error =>
        rw [escapes_error, readHandled]
        dsimp only
        split
        · rename_i caught
          rw [caught, Bool.true_or]
          exact iff_of_false (not_escapes_reject (by decide)) (by decide)
        · rename_i passed
          rw [escapes_error, Bool.eq_false_of_not_eq_true passed, Bool.false_or]
  refine translated.trans ?_
  cases opened : zip.openMember archive info with
  | error error =>
      rw [error_bind, escapes_error]
      constructor
      · intro lost
        obtain own | eof | overflow := standard.open_error _ _ _ opened
        · rw [readHandled_of_own (.inl own)] at lost
          cases lost
        · rw [readHandled_of_own (.inr eof)] at lost
          cases lost
        · exact .outOfRange opened overflow
      · intro unreadable
        cases unreadable with
        | outOfRange raised overflow =>
            rw [opened] at raised
            cases raised
            exact readHandled_of_overflow overflow
        | corrupt opens corrupted =>
            rw [opened] at opens
            cases opens
  | ok stream =>
      rw [ok_bind, escapes_readLoop standard, List.length_nil]
      constructor
      · exact fun corrupted => .corrupt opened corrupted
      · intro unreadable
        cases unreadable with
        | outOfRange raised overflow =>
            rw [opened] at raised
            cases raised
        | corrupt opens corrupted =>
            rw [opened] at opens
            cases opens
            exact corrupted

/-! ## Which members are read -/

section Asks

variable (limits : VerificationLimits) (zip : ZipReader) (keys : Ed25519) (tables : PathTables)
  (decoder : Decoder)

/-- The verification comes to read a member, up to so many bytes. -/
inductive Asks (archive publicKey : Bytes) : ZipInfo → Nat → Prop where
  | manifest {key : keys.Key} {infos : List ZipInfo} {manifestInfo signatureInfo : ZipInfo}
      (opened : Opened limits zip keys tables archive publicKey key infos)
      (located : Located infos manifestInfo signatureInfo) :
      Asks archive publicKey manifestInfo limits.maxMemberBytes
  | signature {key : keys.Key} {infos : List ZipInfo} {manifestInfo signatureInfo : ZipInfo}
      (opened : Opened limits zip keys tables archive publicKey key infos)
      (located : Located infos manifestInfo signatureInfo)
      (read : ∃ bytes, readBounded zip archive manifestInfo limits.maxMemberBytes = .ok bytes) :
      Asks archive publicKey signatureInfo 256
  | file {key : keys.Key} {infos : List ZipInfo} {manifestInfo signatureInfo info : ZipInfo}
      {manifestBytes : Bytes} {members : List (Text × Document)} {before after : List FileEntry}
      {file : FileEntry}
      (opened : Opened limits zip keys tables archive publicKey key infos)
      (located : Located infos manifestInfo signatureInfo)
      (signed : Signed limits zip keys tables decoder archive key infos manifestInfo
        signatureInfo manifestBytes members (before ++ file :: after))
      (verified : ∀ earlier ∈ before, verifyFile limits zip archive infos earlier = .ok ())
      (listed : byName infos file.path = some info) (size : info.fileSize = file.sizeBytes) :
      Asks archive publicKey info limits.maxMemberBytes

end Asks

theorem byName_isSome {infos : List ZipInfo} {files : List FileEntry} {file : FileEntry}
    (names : expectedNames infos files = true) (member : file ∈ files) :
    ∃ info, byName infos file.path = some info := by
  rw [expectedNames, Bool.and_eq_true] at names
  apply Option.isSome_iff_exists.mp
  apply List.all_eq_true.mp names.2
  exact List.mem_cons_of_mem _ (List.mem_cons_of_mem _ (List.mem_map_of_mem member))

theorem escapes_verifyFile (standard : zip.Standard) {archive : Bytes} {infos : List ZipInfo}
    {file : FileEntry}
    (named : ∃ info, byName infos file.path = some info) :
    Escapes handled (verifyFile limits zip archive infos file) ↔
      ∃ info, byName infos file.path = some info ∧ info.fileSize = file.sizeBytes ∧
        Unreadable zip info limits.maxMemberBytes archive := by
  obtain ⟨info, listed⟩ := named
  unfold verifyFile
  rw [listed]
  dsimp only
  rw [escapes_bind]
  constructor
  · rintro (lost | ⟨_, size, lost⟩)
    · exact absurd lost (not_escapes_check (by decide))
    · rw [require_eq_ok] at size
      rw [escapes_bind] at lost
      obtain lost | ⟨_, _, lost⟩ := lost
      · exact ⟨info, rfl, size, (escapes_readBounded standard).mp lost⟩
      · exact absurd lost (not_escapes_check (by decide))
  · rintro ⟨_, ⟨⟩, size, corrupted⟩
    refine .inr ⟨(), require_true size _, ?_⟩
    rw [escapes_bind]
    exact .inl ((escapes_readBounded standard).mpr corrupted)

/-! ## Whole verifications -/

/-- What is left to do once the archive is opened and its two entries are found. -/
theorem verifyBytes_of_located {archive publicKey : Bytes} {key : keys.Key}
    {infos : List ZipInfo} {manifestInfo signatureInfo : ZipInfo}
    (opened : Opened limits zip keys tables archive publicKey key infos)
    (located : Located infos manifestInfo signatureInfo) :
    verifyBytes limits zip keys tables decoder archive publicKey = (do
      let manifestBytes ← readBounded zip archive manifestInfo limits.maxMemberBytes
      let signatureText ← readBounded zip archive signatureInfo 256
      let manifest ← parseManifest decoder manifestBytes
      let signature ← decodeSignature signatureText
      require (keys.verify key signature manifestBytes = true) (rejected "SIGNATURE_INVALID")
      let files ← validateManifest tables manifest
      require (expectedNames infos files = true) (rejected "UNMANIFESTED_MEMBER")
      forEach (verifyFile limits zip archive infos) files
      .ok (.obj manifest)) := by
  unfold verifyBytes verifyArchive
  rw [require_true opened.bounded, ok_bind, opened.key, ok_bind, opened.bounds, ok_bind,
    opened.listed, ok_bind, require_true opened.count, ok_bind, opened.directory, ok_bind,
    located.manifest, located.signature]

theorem opened_of_escapes (standard : zip.Standard) {archive publicKey : Bytes}
    (escapes : Escapes handled (verifyBytes limits zip keys tables decoder archive publicKey)) :
    ∃ key infos manifestInfo signatureInfo,
      Opened limits zip keys tables archive publicKey key infos ∧
        Located infos manifestInfo signatureInfo := by
  unfold verifyBytes at escapes
  rw [escapes_bind] at escapes
  obtain lost | ⟨_, bounded, escapes⟩ := escapes
  · exact absurd lost (not_escapes_check (by decide))
  rw [escapes_bind] at escapes
  obtain lost | ⟨key, keyed, escapes⟩ := escapes
  · exact absurd lost (not_escapes_publicKeyOf _)
  unfold verifyArchive at escapes
  rw [escapes_bind] at escapes
  obtain lost | ⟨_, bounds, escapes⟩ := escapes
  · exact absurd lost (not_escapes_validateCentralDirectoryBounds _)
  rw [escapes_bind] at escapes
  obtain ⟨error, raised, lost⟩ | ⟨infos, listed, escapes⟩ := escapes
  · rw [handled_of_ownError (standard.infolist_error _ _ raised)] at lost
    cases lost
  rw [escapes_bind] at escapes
  obtain lost | ⟨_, count, escapes⟩ := escapes
  · exact absurd lost (not_escapes_check (by decide))
  rw [escapes_bind] at escapes
  obtain lost | ⟨_, directory, escapes⟩ := escapes
  · exact absurd lost (not_escapes_validateDirectory _ _)
  split at escapes
  · rename_i manifestInfo signatureInfo manifest signature
    exact ⟨key, infos, manifestInfo, signatureInfo,
      ⟨require_eq_ok.mp bounded, keyed, bounds, listed, require_eq_ok.mp count, directory⟩,
      ⟨manifest, signature⟩⟩
  · exact absurd escapes (not_escapes_reject (by decide))

/-- An exception gets out exactly while an unreadable member is read. -/
theorem escapes_verifyBytes (standard : zip.Standard) {archive publicKey : Bytes} :
    Escapes handled (verifyBytes limits zip keys tables decoder archive publicKey) ↔
      ∃ info maximum, Asks limits zip keys tables decoder archive publicKey info maximum ∧
        Unreadable zip info maximum archive := by
  constructor
  · intro escapes
    obtain ⟨key, infos, manifestInfo, signatureInfo, opened, located⟩ := opened_of_escapes standard escapes
    rw [verifyBytes_of_located opened located, escapes_bind] at escapes
    obtain corrupted | ⟨manifestBytes, read, escapes⟩ := escapes
    · exact ⟨_, _, .manifest opened located, (escapes_readBounded standard).mp corrupted⟩
    rw [escapes_bind] at escapes
    obtain corrupted | ⟨text, readText, escapes⟩ := escapes
    · exact ⟨_, _, .signature opened located ⟨_, read⟩, (escapes_readBounded standard).mp corrupted⟩
    rw [escapes_bind] at escapes
    obtain lost | ⟨members, parsed, escapes⟩ := escapes
    · exact absurd lost (not_escapes_parseManifest _)
    rw [escapes_bind] at escapes
    obtain lost | ⟨signature, decoded, escapes⟩ := escapes
    · exact absurd lost (not_escapes_decodeSignature _)
    rw [escapes_bind] at escapes
    obtain lost | ⟨_, verified, escapes⟩ := escapes
    · exact absurd lost (not_escapes_check (by decide))
    rw [escapes_bind] at escapes
    obtain lost | ⟨files, validated, escapes⟩ := escapes
    · exact absurd lost (not_escapes_validateManifest _)
    rw [escapes_bind] at escapes
    obtain lost | ⟨_, names, escapes⟩ := escapes
    · exact absurd lost (not_escapes_check (by decide))
    rw [require_eq_ok] at names
    rw [escapes_bind] at escapes
    obtain escapes | ⟨_, _, lost⟩ := escapes
    · obtain ⟨before, file, after, rfl, passed, lost⟩ := escapes_forEach.mp escapes
      have named := byName_isSome names (List.mem_append_right _ List.mem_cons_self)
      obtain ⟨info, found, size, corrupted⟩ := (escapes_verifyFile standard named).mp lost
      have signed : Signed limits zip keys tables decoder archive key infos manifestInfo
          signatureInfo manifestBytes members (before ++ file :: after) :=
        ⟨read, parsed, ⟨text, signature, readText, decoded, require_eq_ok.mp verified⟩, validated,
          names⟩
      exact ⟨info, _, .file opened located signed passed found size, corrupted⟩
    · exact absurd lost (escapes_ok _)
  · rintro ⟨info, maximum, asks, corrupted⟩
    cases asks with
    | manifest opened located =>
        rw [verifyBytes_of_located opened located, escapes_bind]
        exact .inl ((escapes_readBounded standard).mpr corrupted)
    | signature opened located read =>
        obtain ⟨bytes, read⟩ := read
        rw [verifyBytes_of_located opened located, read, ok_bind, escapes_bind]
        exact .inl ((escapes_readBounded standard).mpr corrupted)
    | file opened located signed passed found size =>
        obtain ⟨text, signature, readText, decoded, verified⟩ := signed.signature
        rw [verifyBytes_of_located opened located, signed.read, ok_bind, readText, ok_bind,
          signed.parsed, ok_bind, decoded, ok_bind, require_true verified, ok_bind,
          signed.validated, ok_bind, require_true signed.names, ok_bind, escapes_bind]
        have named := byName_isSome signed.names (List.mem_append_right _ List.mem_cons_self)
        exact .inl (escapes_forEach.mpr ⟨_, _, _, rfl, passed,
          (escapes_verifyFile standard named).mpr ⟨_, found, size, corrupted⟩⟩)

/-- For every archive and every key, verification returns a result that is valid or carries
exactly one of the codes, if and only if no member that it comes to read is unreadable. -/
theorem settles_iff_readable (limits : VerificationLimits) (zip : ZipReader) (keys : Ed25519)
    (tables : PathTables) (decoder : Decoder) (archive publicKey : Bytes)
    (standard : zip.Standard) :
    (∃ result, verifyExport limits zip keys tables decoder archive publicKey = .ok result ∧
        result.Settled) ↔
      ∀ info maximum, Asks limits zip keys tables decoder archive publicKey info maximum →
        ¬ Unreadable zip info maximum archive := by
  rw [settles_iff_not_escapes, escapes_verifyBytes standard]
  constructor
  · exact fun quiet info maximum asks corrupted => quiet ⟨info, maximum, asks, corrupted⟩
  · rintro readable ⟨info, maximum, asks, corrupted⟩
    exact readable info maximum asks corrupted

/-! ## Corrupt deflate data -/

def plainTables : PathTables where
  toUnicodeTables := .asciiOnly
  fold character := [character.toLower]
  fold_ascii _ _ := rfl
  nfc_slash _ _ _ _ := rfl

/-- Two members of one byte, which opens a block of no known type. -/
def corruptArchive : Bytes :=
  [80, 75, 3, 4, 20, 0, 0, 0, 8, 0, 0, 0, 33, 0, 0, 0, 0, 0, 1, 0, 0, 0, 1, 0, 0, 0, 13, 0, 0, 0,
   109, 97, 110, 105, 102, 101, 115, 116, 46, 106, 115, 111, 110, 7, 80, 75, 3, 4, 20, 0, 0, 0, 8,
   0, 0, 0, 33, 0, 0, 0, 0, 0, 1, 0, 0, 0, 1, 0, 0, 0, 12, 0, 0, 0, 109, 97, 110, 105, 102, 101,
   115, 116, 46, 115, 105, 103, 7, 80, 75, 1, 2, 20, 3, 20, 0, 0, 0, 8, 0, 0, 0, 33, 0, 0, 0, 0,
   0, 1, 0, 0, 0, 1, 0, 0, 0, 13, 0, 0, 0, 0, 0, 0, 0, 0, 0, 0, 0, 128, 129, 0, 0, 0, 0, 109, 97,
   110, 105, 102, 101, 115, 116, 46, 106, 115, 111, 110, 80, 75, 1, 2, 20, 3, 20, 0, 0, 0, 8, 0, 0,
   0, 33, 0, 0, 0, 0, 0, 1, 0, 0, 0, 1, 0, 0, 0, 12, 0, 0, 0, 0, 0, 0, 0, 0, 0, 0, 0, 128, 129,
   44, 0, 0, 0, 109, 97, 110, 105, 102, 101, 115, 116, 46, 115, 105, 103, 80, 75, 5, 6, 0, 0, 0, 0,
   2, 0, 2, 0, 117, 0, 0, 0, 87, 0, 0, 0, 0, 0]

def inflateError : Raised := ⟨.zlibError, "Error -3 while decompressing data: invalid block type"⟩

def corruptInfos : List ZipInfo :=
  [⟨manifestName, 0, 2172649472, 1, 1, 0⟩, ⟨signatureName, 0, 2172649472, 1, 1, 44⟩]

/-- A reader that knows this archive only. -/
def corruptReader : ZipReader where
  Stream := Unit
  infolist archive :=
    if archive = corruptArchive then .ok corruptInfos
    else .error ⟨.badZipFile, "File is not a zip file"⟩
  openMember _ _ := .ok ()
  read _ _ := .error inflateError

theorem corruptReader_standard : corruptReader.Standard where
  infolist_error archive error raised := by
    dsimp only [corruptReader] at raised
    split at raised
    · cases raised
    · cases raised
      rfl
  open_error _ _ _ raised := by cases raised
  read_error _ _ _ raised := by
    cases raised
    exact .inr (.inr rfl)

def anyKeys : Ed25519 where
  Key := Unit
  fromPublicBytes _ := some ()
  verify _ _ _ := false

set_option maxRecDepth 20000 in
theorem corruptArchive_opened : Opened .default corruptReader anyKeys plainTables corruptArchive
    (List.replicate 32 0) () corruptInfos where
  bounded := by decide
  key := rfl
  bounds := by rfl
  listed := by simp [corruptReader]
  count := by decide
  directory := by rfl

/-- With this reader nothing at all is a readable archive, and `corruptArchive` is none. -/
theorem corruptReader_readable :
    (∀ info maximum, Asks .default corruptReader anyKeys plainTables .plain []
        (List.replicate 32 0) info maximum → ¬ Unreadable corruptReader info maximum []) ∧
      ¬ ∃ result, verifyExport .default corruptReader anyKeys plainTables .plain corruptArchive
        (List.replicate 32 0) = .ok result ∧ result.Settled := by
  constructor
  · exact (settles_iff_readable .default corruptReader anyKeys plainTables .plain []
      (List.replicate 32 0) corruptReader_standard).mp ⟨_, rfl, .failed _ (by decide)⟩
  · rw [settles_iff_readable .default corruptReader anyKeys plainTables .plain corruptArchive
      (List.replicate 32 0) corruptReader_standard]
    exact fun readable => readable _ _ (.manifest corruptArchive_opened ⟨rfl, rfl⟩)
      (.corrupt rfl (.here rfl rfl))

/-- The error of the decompressor gets out. -/
theorem corruptArchive_escapes : ¬ ∃ result,
    verifyExport .default corruptReader anyKeys plainTables .plain corruptArchive
        (List.replicate 32 0) = .ok result ∧ result.Settled := by
  rw [settles_iff_not_escapes, not_not]
  exact (escapes_verifyBytes corruptReader_standard).mpr
    ⟨_, _, .manifest corruptArchive_opened ⟨rfl, rfl⟩, .corrupt rfl (.here rfl rfl)⟩

end CrossPatch.Export.Verifier
