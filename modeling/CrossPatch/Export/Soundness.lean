import CrossPatch.Broker.Containment
import CrossPatch.Export.Failures

/-!
# What a valid archive carries

A valid archive carries the signed bytes of a canonical manifest, and besides it and its
signature exactly the files that the manifest lists, each under a safe path below the root
of its incident and with the size and the digest of its entry.
-/

namespace CrossPatch.Export.Verifier

open CrossPatch.Broker.Paths CrossPatch.Domain.Failure CrossPatch.Domain.Hashing
open CrossPatch.Domain.Text
open CrossPatch.Export.Builder
open CrossPatch.Library CrossPatch.Library.Attempt CrossPatch.Library.Documents
open CrossPatch.Library.JsonReader (Decoder)
open CrossPatch.Library.Octets CrossPatch.Library.Sha256

variable {limits : VerificationLimits} {zip : ZipReader} {keys : Ed25519} {tables : PathTables}
  {decoder : Decoder}

/-! ## Names and paths -/

/-- A canonical relative path that stays below the directory it is taken from. -/
structure SafeName (tables : PathTables) (name : String) : Prop where
  bounded : name ≠ "" ∧ name.length ≤ 2048
  plain : '\\' ∉ name.toList ∧ '\x00' ∉ name.toList
  normal : tables.nfc name = name
  relative : startsWith name.toList "/" = false
  canonical : asPosix name.toList = name.toList
  below : ∀ part ∈ pureParts name.toList, part ≠ ['.', '.']
  unqualified : qualified name.toList = false

theorem safeMemberName_eq_ok {value result : String} :
    safeMemberName tables value = .ok result ↔ SafeName tables value ∧ result = value := by
  simp only [safeMemberName, bind_eq_ok, require_eq_ok, Except.ok.injEq, List.all_eq_true,
    bne_iff_ne]
  constructor
  · rintro ⟨_, ⟨named, short, slash, null⟩, _, normal, _, ⟨relative, canonical⟩, _, below, _,
      unqualified, rfl⟩
    exact ⟨⟨⟨named, short⟩, ⟨slash, null⟩, normal, relative, canonical, below, unqualified⟩, rfl⟩
  · rintro ⟨safe, rfl⟩
    exact ⟨(), ⟨safe.bounded.1, safe.bounded.2, safe.plain⟩, (), safe.normal, (),
      ⟨safe.relative, safe.canonical⟩, (), safe.below, (), safe.unqualified, rfl⟩

/-- The path is below the root of the incident, and no part of it from there on starts with
`raw`, in whatever case. -/
structure Below (tables : PathTables) (incidentId path : String) : Prop where
  root : (incidentRoot incidentId ++ "/").toList <+: path.toList
  published : ∀ part ∈ (pureParts path.toList).drop 2, startsRaw tables part = false

/-! ## The manifest -/

/-- The entry is that of the file. -/
structure Describes (incidentId : String) (entry : Document) (file : FileEntry) : Prop where
  fields : ∃ members, entry = .obj members ∧ hasKeys members fileKeys = true ∧
    stringAt members "incident_id" = some incidentId ∧ stringAt members "path" = some file.path ∧
    stringAt members "kind" = some file.kind ∧
    textAt members "provenance" = some file.provenance ∧
    stringAt members "sha256" = some file.sha256 ∧
    intAt members "size_bytes" = some (.ofNat file.sizeBytes)
  kind : file.kind ∈ allowedArtifactKinds
  provenance : file.provenance ≠ []
  sha256 : isSha256 file.sha256 = true

theorem Describes.unique {incidentId : String} {entry : Document} {left right : FileEntry}
    (first : Describes incidentId entry left) (second : Describes incidentId entry right) :
    left = right := by
  obtain ⟨members, rfl, _, _, path, kind, provenance, sha256, size⟩ := first.fields
  obtain ⟨_, ⟨⟩, _, _, path', kind', provenance', sha256', size'⟩ := second.fields
  rw [path, Option.some.injEq] at path'
  rw [kind, Option.some.injEq] at kind'
  rw [provenance, Option.some.injEq] at provenance'
  rw [sha256, Option.some.injEq] at sha256'
  rw [size, Option.some.injEq, Int.ofNat.injEq] at size'
  cases left
  cases right
  simp_all

/-- The manifest binds the incident and lists the files. -/
structure Lists (manifest : Document) (incidentId : String) (files : List FileEntry) : Prop where
  listed : ∃ members incident entries, manifest = .obj members ∧
    hasKeys members ["files", "format", "incident"] = true ∧
    stringAt members "format" = some format ∧
    field members "incident" = some (.obj incident) ∧ validateIncident incident = .ok incidentId ∧
    field members "files" = some (.arr entries) ∧
    List.Forall₂ (Describes incidentId) entries files

theorem Lists.unique {manifest : Document} {left right : String}
    {files files' : List FileEntry} (first : Lists manifest left files)
    (second : Lists manifest right files') : left = right ∧ files = files' := by
  obtain ⟨members, incident, entries, rfl, _, _, incidentField, validated, filesField, described⟩ :=
    first.listed
  obtain ⟨_, _, _, ⟨⟩, _, _, incidentField', validated', filesField', described'⟩ := second.listed
  rw [incidentField, Option.some.injEq, Document.obj.injEq] at incidentField'
  subst incidentField'
  rw [validated, Except.ok.injEq] at validated'
  subst validated'
  rw [filesField, Option.some.injEq, Document.arr.injEq] at filesField'
  subst filesField'
  have functional : Relator.RightUnique (Describes left) := fun _ _ _ => Describes.unique
  exact ⟨rfl, functional.forall₂ described described'⟩

theorem validateFile_ok {incidentId previous : String} {entry : Document} {file : FileEntry}
    (validated : validateFile tables incidentId previous entry = .ok file) :
    Describes incidentId entry file ∧ SafeName tables file.path ∧ previous < file.path ∧
      Below tables incidentId file.path := by
  unfold validateFile at validated
  split at validated
  · rename_i members
    obtain ⟨_, keyed, validated⟩ := bind_eq_ok.mp validated
    split at validated
    · cases validated
    · rename_i path pathField
      obtain ⟨_, safe, validated⟩ := bind_eq_ok.mp validated
      obtain ⟨_, later, validated⟩ := bind_eq_ok.mp validated
      obtain ⟨_, bound, validated⟩ := bind_eq_ok.mp validated
      obtain ⟨kind, allowed, validated⟩ := bind_eq_ok.mp validated
      rw [require_eq_ok] at keyed later bound
      split at validated
      · cases validated
      · rename_i kind
        obtain ⟨_, published, validated⟩ := bind_eq_ok.mp validated
        split at validated
        · cases validated
        · rename_i provenance provenanceField
          obtain ⟨_, nonempty, validated⟩ := bind_eq_ok.mp validated
          split at validated
          · cases validated
          · rename_i sha256 digestField
            obtain ⟨_, digest, validated⟩ := bind_eq_ok.mp validated
            rw [require_eq_ok] at published nonempty digest
            split at validated
            · rename_i size sizeField
              cases validated
              obtain ⟨kindField, listed⟩ : stringAt members "kind" = some kind ∧
                  kind ∈ allowedArtifactKinds := by
                cases found : field members "kind" with
                | none =>
                    rw [found] at allowed
                    cases allowed
                | some value =>
                    rw [found] at allowed
                    cases value with
                    | str text =>
                        have kept := Except.ok.inj allowed
                        rw [Option.filter_eq_some_iff, List.contains_iff_mem] at kept
                        rw [stringAt, textAt, found]
                        exact kept
                    | _ => cases allowed
              refine ⟨⟨⟨members, rfl, keyed, bound.1, pathField, kindField, provenanceField,
                digestField, sizeField⟩, listed, nonempty, digest⟩,
                (safeMemberName_eq_ok.mp safe).1, later, ?_, ?_⟩
              · exact List.isPrefixOf_iff_prefix.mp bound.2
              · intro part member
                have kept := List.all_eq_true.mp published part member
                rwa [Bool.not_eq_true'] at kept
            · cases validated
  · cases validated

theorem validateFiles_ok {incidentId previous : String} {entries : List Document}
    {files : List FileEntry}
    (validated : validateFiles tables incidentId previous entries = .ok files) :
    List.Forall₂ (Describes incidentId) entries files ∧
      (∀ file ∈ files, SafeName tables file.path ∧ Below tables incidentId file.path) ∧
      (previous :: files.map FileEntry.path).Pairwise (· < ·) := by
  induction entries generalizing previous files with
  | nil =>
      cases validated
      exact ⟨.nil, fun _ member => absurd member List.not_mem_nil, List.pairwise_singleton _ _⟩
  | cons entry rest ih =>
      obtain ⟨file, first, validated⟩ := bind_eq_ok.mp validated
      obtain ⟨others, later, validated⟩ := bind_eq_ok.mp validated
      cases validated
      obtain ⟨described, safe, after, below⟩ := validateFile_ok first
      obtain ⟨describes, safes, increasing⟩ := ih later
      refine ⟨.cons described describes, List.forall_mem_cons.mpr ⟨⟨safe, below⟩, safes⟩, ?_⟩
      rw [List.map_cons, List.pairwise_cons]
      refine ⟨fun path member => ?_, increasing⟩
      obtain rfl | member := List.mem_cons.mp member
      · exact after
      · exact lt_trans after (List.rel_of_pairwise_cons increasing member)

theorem validateManifest_ok {members : List (Text × Document)} {files : List FileEntry}
    (validated : validateManifest tables members = .ok files) :
    ∃ incidentId, Lists (.obj members) incidentId files ∧
      (∀ file ∈ files, SafeName tables file.path ∧ Below tables incidentId file.path) ∧
      (files.map FileEntry.path).Pairwise (· < ·) := by
  obtain ⟨_, keyed, validated⟩ := bind_eq_ok.mp validated
  rw [require_eq_ok] at keyed
  split at validated
  · rename_i incident incidentField
    obtain ⟨incidentId, bound, validated⟩ := bind_eq_ok.mp validated
    split at validated
    · rename_i entries filesField
      obtain ⟨described, safe, increasing⟩ := validateFiles_ok validated
      exact ⟨incidentId, ⟨members, incident, entries, rfl, keyed.1, keyed.2, incidentField, bound,
        filesField, described⟩, safe, (List.pairwise_cons.mp increasing).2⟩
    · cases validated
  · cases validated

/-! ## The directory -/

theorem validateEntry_ok {before : List ZipInfo} {info : ZipInfo}
    (validated : validateEntry limits tables before info = .ok ()) :
    SafeName tables info.filename ∧
      collisionKey tables info.filename ∉ before.map (fun other =>
        collisionKey tables other.filename) := by
  obtain ⟨name, safe, validated⟩ := bind_eq_ok.mp validated
  obtain ⟨_, apart, _⟩ := bind_eq_ok.mp validated
  obtain ⟨sound, rfl⟩ := safeMemberName_eq_ok.mp safe
  exact ⟨sound, (require_eq_ok.mp apart).2⟩

theorem validateDirectory_ok {before infos : List ZipInfo}
    (validated : validateDirectory limits tables before infos = .ok ())
    (distinct : (before.map fun info => collisionKey tables info.filename).Nodup) :
    (∀ info ∈ infos, SafeName tables info.filename) ∧
      ((before ++ infos).map fun info => collisionKey tables info.filename).Nodup := by
  induction infos generalizing before with
  | nil =>
      rw [List.append_nil]
      exact ⟨fun _ member => absurd member List.not_mem_nil, distinct⟩
  | cons info rest ih =>
      obtain ⟨_, first, later⟩ := bind_eq_ok.mp validated
      obtain ⟨safe, apart⟩ := validateEntry_ok first
      have extended : ((before ++ [info]).map fun info =>
          collisionKey tables info.filename).Nodup := by
        rw [List.map_append, List.map_singleton, List.nodup_append_comm]
        exact List.nodup_cons.mpr ⟨apart, distinct⟩
      obtain ⟨safes, whole⟩ := ih later extended
      rw [List.append_assoc, List.singleton_append] at whole
      exact ⟨List.forall_mem_cons.mpr ⟨safe, safes⟩, whole⟩

/-- What the reader returns for a name of the directory. -/
def memberBytes (limits : VerificationLimits) (zip : ZipReader) (archive : Bytes)
    (infos : List ZipInfo) (name : String) : Option Bytes :=
  (byName infos name).bind fun info =>
    (readBounded zip archive info limits.maxMemberBytes).toOption

theorem byName_mem {infos : List ZipInfo} {name : String} {info : ZipInfo}
    (found : byName infos name = some info) : info ∈ infos ∧ info.filename = name := by
  have named : (info.filename == name) = true := List.find?_some (p := fun other : ZipInfo =>
    other.filename == name) found
  exact ⟨List.mem_of_find?_eq_some found, beq_iff_eq.mp named⟩

theorem readBounded_length {archive bytes : Bytes} {info : ZipInfo} {maximum : Nat}
    (read : readBounded zip archive info maximum = .ok bytes) : bytes.length = info.fileSize := by
  unfold readBounded at read
  split at read
  · split at read
    · rename_i complete
      cases read
      exact complete
    · cases read
  · split at read
    · cases read
    · cases read

theorem verifyFile_ok {archive : Bytes} {infos : List ZipInfo} {file : FileEntry}
    (verified : verifyFile limits zip archive infos file = .ok ()) :
    ∃ payload, memberBytes limits zip archive infos file.path = some payload ∧
      payload.length = file.sizeBytes ∧ hexdigest payload = file.sha256 := by
  unfold verifyFile at verified
  split at verified
  · cases verified
  · rename_i info found
    obtain ⟨_, size, verified⟩ := bind_eq_ok.mp verified
    obtain ⟨payload, read, digest⟩ := bind_eq_ok.mp verified
    rw [require_eq_ok] at size digest
    refine ⟨payload, ?_, (readBounded_length read).trans size, digest⟩
    rw [memberBytes, found, Option.bind_some, read]
    rfl

/-! ## Valid archives -/

theorem verifyBytes_ok {archive publicKey : Bytes} {manifest : Document}
    (verified : verifyBytes limits zip keys tables decoder archive publicKey = .ok manifest) :
    ∃ key infos manifestInfo signatureInfo manifestBytes members files,
      Opened limits zip keys tables archive publicKey key infos ∧
      Located infos manifestInfo signatureInfo ∧
      Signed limits zip keys tables decoder archive key infos manifestInfo signatureInfo
        manifestBytes members files ∧
      (∀ file ∈ files, verifyFile limits zip archive infos file = .ok ()) ∧
      manifest = .obj members := by
  obtain ⟨_, bounded, verified⟩ := bind_eq_ok.mp verified
  obtain ⟨key, keyed, verified⟩ := bind_eq_ok.mp verified
  obtain ⟨_, bounds, verified⟩ := bind_eq_ok.mp verified
  obtain ⟨infos, listed, verified⟩ := bind_eq_ok.mp verified
  obtain ⟨_, count, verified⟩ := bind_eq_ok.mp verified
  obtain ⟨_, directory, verified⟩ := bind_eq_ok.mp verified
  split at verified
  · rename_i manifestInfo signatureInfo manifestFound signatureFound
    obtain ⟨manifestBytes, read, verified⟩ := bind_eq_ok.mp verified
    obtain ⟨text, readText, verified⟩ := bind_eq_ok.mp verified
    obtain ⟨members, parsed, verified⟩ := bind_eq_ok.mp verified
    obtain ⟨signature, decoded, verified⟩ := bind_eq_ok.mp verified
    obtain ⟨_, signed, verified⟩ := bind_eq_ok.mp verified
    obtain ⟨files, validated, verified⟩ := bind_eq_ok.mp verified
    obtain ⟨_, names, verified⟩ := bind_eq_ok.mp verified
    obtain ⟨_, checked, verified⟩ := bind_eq_ok.mp verified
    cases verified
    exact ⟨key, infos, manifestInfo, signatureInfo, manifestBytes, members, files,
      ⟨require_eq_ok.mp bounded, keyed, bounds, listed, require_eq_ok.mp count, directory⟩,
      ⟨manifestFound, signatureFound⟩,
      ⟨read, parsed, ⟨text, signature, readText, decoded, require_eq_ok.mp signed⟩, validated,
        require_eq_ok.mp names⟩, forEach_eq_ok.mp checked, rfl⟩
  · cases verified

theorem verifyExport_valid {archive publicKey : Bytes} {result : VerificationResult}
    (returned : verifyExport limits zip keys tables decoder archive publicKey = .ok result)
    (valid : result.valid = true) : ∃ manifest, result = ⟨true, [], some manifest⟩ ∧
      verifyBytes limits zip keys tables decoder archive publicKey = .ok manifest := by
  unfold verifyExport at returned
  split at returned
  · rename_i manifest verified
    cases returned
    exact ⟨manifest, rfl, verified⟩
  · split at returned
    · cases returned
      cases valid
    · split at returned
      · cases returned
        cases valid
      · cases returned

theorem parseManifest_ok {bytes : Bytes} {members : List (Text × Document)}
    (parsed : parseManifest decoder bytes = .ok members) :
    canonicalJsonBytes decoder (.obj members) = .ok bytes ∧
      Document.repeats (.obj members) = false ∧ ∃ text, decodeAscii bytes = some text ∧
        read decoder text = .ok (.obj members) := by
  unfold parseManifest at parsed
  split at parsed
  · cases parsed
  · rename_i text decoded
    split at parsed
    · split at parsed
      · cases parsed
      · split at parsed
        · cases parsed
        · cases parsed
        · cases parsed
    · rename_i document finished
      split at parsed
      · cases parsed
      · rename_i once
        split at parsed
        · obtain ⟨canonical, written, parsed⟩ := bind_eq_ok.mp parsed
          obtain ⟨_, same, parsed⟩ := bind_eq_ok.mp parsed
          cases parsed
          rw [require_eq_ok] at same
          subst same
          exact ⟨written, Bool.eq_false_of_not_eq_true once, text, decoded, finished⟩
        · cases parsed

/-- What a valid archive carries. -/
structure Carries (limits : VerificationLimits) (zip : ZipReader) (keys : Ed25519)
    (tables : PathTables) (decoder : Decoder) (archive publicKey : Bytes) (manifest : Document)
    (infos : List ZipInfo) (manifestBytes : Bytes) (incidentId : String)
    (files : List FileEntry) : Prop where
  listed : zip.infolist archive = .ok infos
  stored : memberBytes limits zip archive infos manifestName = some manifestBytes
  canonical : canonicalJsonBytes decoder manifest = .ok manifestBytes
  parsed : ∃ text, decodeAscii manifestBytes = some text ∧ read decoder text = .ok manifest
  once : manifest.repeats = false
  signed : ∃ key info text signature, publicKeyOf keys publicKey = .ok key ∧
    byName infos signatureName = some info ∧ readBounded zip archive info 256 = .ok text ∧
    decodeSignature text = .ok signature ∧ keys.verify key signature manifestBytes = true
  lists : Lists manifest incidentId files
  names : (infos.map ZipInfo.filename).Perm
    (manifestName :: signatureName :: files.map FileEntry.path)
  apart : (infos.map fun info => collisionKey tables info.filename).Nodup
  increasing : (files.map FileEntry.path).Pairwise (· < ·)
  safe : ∀ file ∈ files, SafeName tables file.path ∧ Below tables incidentId file.path
  contents : ∀ file ∈ files, ∃ payload,
    memberBytes limits zip archive infos file.path = some payload ∧
      payload.length = file.sizeBytes ∧ hexdigest payload = file.sha256

theorem Below.ne_manifest {incidentId path : String} (below : Below tables incidentId path) :
    path ≠ manifestName ∧ path ≠ signatureName := by
  obtain ⟨rest, whole⟩ := below.root
  constructor
  · rintro rfl
    simp [incidentRoot, manifestName] at whole
  · rintro rfl
    simp [incidentRoot, signatureName] at whole

theorem names_perm {infos : List ZipInfo} {files : List FileEntry} {incidentId : String}
    (names : expectedNames infos files = true)
    (apart : (infos.map fun info => collisionKey tables info.filename).Nodup)
    (increasing : (files.map FileEntry.path).Pairwise (· < ·))
    (below : ∀ file ∈ files, Below tables incidentId file.path) :
    (infos.map ZipInfo.filename).Perm
      (manifestName :: signatureName :: files.map FileEntry.path) := by
  have distinct : (infos.map ZipInfo.filename).Nodup := by
    refine List.Nodup.of_map (collisionKey tables) ?_
    rw [List.map_map]
    exact apart
  have expected : (manifestName :: signatureName :: files.map FileEntry.path).Nodup := by
    rw [List.nodup_cons, List.nodup_cons, List.mem_cons]
    refine ⟨?_, ?_, increasing.imp fun first => first.ne⟩
    · rintro (same | member)
      · exact absurd same (by decide)
      · obtain ⟨file, listed, same⟩ := List.mem_map.mp member
        exact (below file listed).ne_manifest.1 same
    · intro member
      obtain ⟨file, listed, same⟩ := List.mem_map.mp member
      exact (below file listed).ne_manifest.2 same
  rw [expectedNames, Bool.and_eq_true, List.all_eq_true, List.all_eq_true] at names
  rw [List.perm_ext_iff_of_nodup distinct expected]
  intro name
  constructor
  · intro member
    obtain ⟨info, listed, rfl⟩ := List.mem_map.mp member
    exact List.contains_iff_mem.mp (names.1 info listed)
  · intro member
    obtain ⟨info, found⟩ := Option.isSome_iff_exists.mp (names.2 name member)
    obtain ⟨listed, rfl⟩ := byName_mem found
    exact List.mem_map_of_mem listed

theorem carries_of_verifyBytes {archive publicKey : Bytes} {manifest : Document}
    (verified : verifyBytes limits zip keys tables decoder archive publicKey = .ok manifest) :
    ∃ infos manifestBytes incidentId files, Carries limits zip keys tables decoder archive
      publicKey manifest infos manifestBytes incidentId files := by
  obtain ⟨key, infos, manifestInfo, signatureInfo, manifestBytes, members, files, opened, located,
    signed, checked, rfl⟩ := verifyBytes_ok verified
  obtain ⟨canonical, once, text, decoded, finished⟩ := parseManifest_ok signed.parsed
  obtain ⟨incidentId, lists, safe, increasing⟩ := validateManifest_ok signed.validated
  obtain ⟨_, apart⟩ := validateDirectory_ok opened.directory List.nodup_nil
  obtain ⟨signatureText, signature, readText, decodes, accepted⟩ := signed.signature
  refine ⟨infos, manifestBytes, incidentId, files, {
    listed := opened.listed
    stored := ?_
    canonical := canonical
    parsed := ⟨text, decoded, finished⟩
    once := once
    signed := ⟨key, signatureInfo, signatureText, signature, opened.key, located.signature,
      readText, decodes, accepted⟩
    lists := lists
    names := names_perm signed.names apart increasing fun file member => (safe file member).2
    apart := apart
    increasing := increasing
    safe := safe
    contents := fun file member => verifyFile_ok (checked file member) }⟩
  rw [memberBytes, located.manifest, Option.bind_some, signed.read]
  rfl

/-- What the reader returns for the files. -/
def payloads (limits : VerificationLimits) (zip : ZipReader) (archive : Bytes)
    (infos : List ZipInfo) (files : List FileEntry) : List Bytes :=
  files.filterMap fun file => memberBytes limits zip archive infos file.path

/-- The bytes of the manifest determine the files and, unless SHA-256 collides on what they
hold, what they hold. -/
theorem Carries.unique {archive archive' publicKey publicKey' : Bytes}
    {manifest manifest' : Document} {infos infos' : List ZipInfo} {manifestBytes : Bytes}
    {incidentId incidentId' : String} {files files' : List FileEntry}
    (first : Carries limits zip keys tables decoder archive publicKey manifest infos manifestBytes
      incidentId files)
    (second : Carries limits zip keys tables decoder archive' publicKey' manifest' infos'
      manifestBytes incidentId' files')
    (free : CollisionFree (payloads limits zip archive infos files ++
      payloads limits zip archive' infos' files')) :
    manifest' = manifest ∧ files' = files ∧ ∀ file ∈ files,
      memberBytes limits zip archive' infos' file.path =
        memberBytes limits zip archive infos file.path := by
  obtain ⟨text, decoded, finished⟩ := first.parsed
  obtain ⟨text', decoded', finished'⟩ := second.parsed
  rw [decoded, Option.some.injEq] at decoded'
  rw [← decoded', finished, Except.ok.injEq] at finished'
  subst finished'
  obtain ⟨_, rfl⟩ := first.lists.unique second.lists
  refine ⟨rfl, rfl, fun file member => ?_⟩
  obtain ⟨payload, held, _, digest⟩ := first.contents file member
  obtain ⟨payload', held', _, digest'⟩ := second.contents file member
  have same := free.hexdigest
    (List.mem_append_left _ (List.mem_filterMap.mpr ⟨file, member, held⟩))
    (List.mem_append_right _ (List.mem_filterMap.mpr ⟨file, member, held'⟩))
    (digest.trans digest'.symm)
  rw [held, held', same]

/-- A valid result means that the archive carries a manifest, signed with the pinned key, and
exactly the files that it lists; two valid archives with one manifest have the same files. -/
theorem verifyExport_sound (limits : VerificationLimits) (zip : ZipReader) (keys : Ed25519)
    (tables : PathTables) (decoder : Decoder) (archive publicKey : Bytes)
    (result : VerificationResult)
    (returned : verifyExport limits zip keys tables decoder archive publicKey = .ok result)
    (valid : result.valid = true) :
    ∃ manifest infos manifestBytes incidentId files, result = ⟨true, [], some manifest⟩ ∧
      Carries limits zip keys tables decoder archive publicKey manifest infos manifestBytes
        incidentId files ∧
      ∀ archive' publicKey' result',
        verifyExport limits zip keys tables decoder archive' publicKey' = .ok result' →
        result'.valid = true →
        ∃ manifest' infos' manifestBytes' incidentId' files',
          result' = ⟨true, [], some manifest'⟩ ∧
          Carries limits zip keys tables decoder archive' publicKey' manifest' infos'
            manifestBytes' incidentId' files' ∧
          (manifestBytes' = manifestBytes →
            CollisionFree (payloads limits zip archive infos files ++
              payloads limits zip archive' infos' files') →
            files' = files ∧ ∀ file ∈ files,
              memberBytes limits zip archive' infos' file.path =
                memberBytes limits zip archive infos file.path) := by
  obtain ⟨manifest, rfl, verified⟩ := verifyExport_valid returned valid
  obtain ⟨infos, manifestBytes, incidentId, files, carries⟩ := carries_of_verifyBytes verified
  refine ⟨manifest, infos, manifestBytes, incidentId, files, rfl, carries, ?_⟩
  intro archive' publicKey' result' returned' valid'
  obtain ⟨manifest', rfl, verified'⟩ := verifyExport_valid returned' valid'
  obtain ⟨infos', manifestBytes', incidentId', files', carries'⟩ := carries_of_verifyBytes verified'
  refine ⟨manifest', infos', manifestBytes', incidentId', files', rfl, carries', ?_⟩
  rintro rfl free
  exact (carries.unique carries' free).2

end CrossPatch.Export.Verifier
