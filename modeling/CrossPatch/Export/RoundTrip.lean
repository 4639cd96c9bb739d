import CrossPatch.Export.Manifest
import CrossPatch.Export.StoredZip
import CrossPatch.Library.Pairing

/-!
# Archives that were built

An archive that `build` packs is verified with the key of its signer, unless an artifact is
put at the root of its incident itself or the paths of two artifacts fold to one text.  The
builder accepts both.
-/

namespace CrossPatch.Export.RoundTrip

open CrossPatch.Broker.Containment CrossPatch.Broker.Paths
open CrossPatch.Domain.Failure CrossPatch.Domain.Hashing CrossPatch.Domain.Text
open CrossPatch.Export.Builder CrossPatch.Export.Layout CrossPatch.Export.Manifest
open CrossPatch.Export.Members CrossPatch.Export.StoredZip CrossPatch.Export.Verifier
open CrossPatch.Library CrossPatch.Library.Attempt CrossPatch.Library.Documents
open CrossPatch.Library.JsonReader (Decoder)
open CrossPatch.Library.JsonText CrossPatch.Library.Octets CrossPatch.Library.Pairing
open CrossPatch.Library.Sha256

variable {tables : PathTables} {decoder : Decoder}

/-! ## The directory -/

theorem getLast?_joinSlash {parts : List (List Char)} (nonempty : parts ≠ [])
    (whole : ∀ part ∈ parts, part ≠ [] ∧ '/' ∉ part) : (joinSlash parts).getLast? ≠ some '/' := by
  induction parts with
  | nil => exact absurd rfl nonempty
  | cons part rest ih =>
      obtain ⟨first, others⟩ := List.forall_mem_cons.mp whole
      cases rest with
      | nil => exact fun last => first.2 (List.mem_of_getLast? last)
      | cons next later =>
          rw [joinSlash_cons part (List.cons_ne_nil _ _)]
          obtain ⟨head, tail, joined⟩ := List.exists_cons_of_ne_nil (l := joinSlash (next :: later))
            (by
              intro empty
              have named := (List.forall_mem_cons.mp others).1.1
              cases later with
              | nil => exact named empty
              | cons _ _ =>
                  rw [joinSlash_cons next (List.cons_ne_nil _ _)] at empty
                  exact named (List.append_eq_nil_iff.mp empty).1)
          have last := ih (List.cons_ne_nil _ _) others
          rw [joined] at last ⊢
          rw [List.getLast?_append, List.getLast?_cons_cons]
          simpa using last

/-- A safe name is not that of a directory. -/
theorem safeName_file {name : String} (safe : SafeName tables name) :
    name.toList.getLast? ≠ some '/' := by
  have canonical := safe.canonical
  rw [asPosix] at canonical
  have parts : ∀ part ∈ pureParts name.toList, part ≠ [] ∧ '/' ∉ part := by
    intro part member
    obtain ⟨split, named⟩ := List.mem_filter.mp member
    rw [Bool.and_eq_true, bne_iff_ne] at named
    exact ⟨named.1, slash_not_mem split⟩
  cases listed : pureParts name.toList with
  | nil =>
      rw [listed] at canonical
      rw [← canonical]
      decide
  | cons part rest =>
      rw [listed] at canonical parts
      rw [← canonical]
      exact getLast?_joinSlash (List.cons_ne_nil _ _) parts

/-- Entries as the writer makes them, within the limits, are accepted. -/
theorem validateDirectory_of {limits : VerificationLimits} {before infos : List ZipInfo}
    (safe : ∀ info ∈ infos, SafeName tables info.filename)
    (stored : ∀ info ∈ infos, ∃ member, Stored member info)
    (within : ∀ info ∈ infos, info.fileSize ≤ limits.maxMemberBytes ∧
      (info.fileSize ≠ 0 → limits.exceeds info.fileSize info.compressSize = false))
    (total : ((before ++ infos).map ZipInfo.fileSize).sum ≤ limits.maxTotalBytes)
    (apart : ((before ++ infos).map fun info => collisionKey tables info.filename).Nodup) :
    validateDirectory limits tables before infos = .ok () := by
  induction infos generalizing before with
  | nil => rfl
  | cons info rest ih =>
      obtain ⟨ownSafe, restSafe⟩ := List.forall_mem_cons.mp safe
      obtain ⟨⟨member, own⟩, restStored⟩ := List.forall_mem_cons.mp stored
      obtain ⟨⟨small, ratio⟩, restWithin⟩ := List.forall_mem_cons.mp within
      have key : collisionKey tables info.filename ∉ before.map fun other =>
          collisionKey tables other.filename := by
        rw [List.map_append, List.map_cons, List.nodup_append_comm] at apart
        intro inside
        exact (List.nodup_cons.mp apart).1 (List.mem_append_right _ inside)
      have name : info.filename ∉ before.map ZipInfo.filename := by
        intro inside
        obtain ⟨other, listed, same⟩ := List.mem_map.mp inside
        exact key (List.mem_map.mpr ⟨other, listed, congrArg (collisionKey tables) same⟩)
      have plain : plainMode info = true := by
        rw [plainMode, own.mode]
        have file := safeName_file ownSafe
        simp [file]
      have sum : (before.map ZipInfo.fileSize).sum + info.fileSize ≤ limits.maxTotalBytes := by
        rw [List.map_append, List.map_cons, List.sum_append, List.sum_cons] at total
        omega
      have packed : info.fileSize ≠ 0 → info.compressSize ≠ 0 ∧
          limits.exceeds info.fileSize info.compressSize = false := by
        intro positive
        refine ⟨own.compressed ?_, ratio positive⟩
        rintro empty
        rw [own.size, empty] at positive
        exact positive rfl
      have accepted : validateEntry limits tables before info = .ok () := by
        unfold validateEntry
        rw [safeMemberName_eq_ok.mpr ⟨ownSafe, rfl⟩, ok_bind, require_true ⟨name, key⟩, ok_bind,
          require_true own.unencrypted, ok_bind, require_true plain, ok_bind, require_true small,
          ok_bind, require_true sum, ok_bind, require_true packed]
      rw [List.append_cons] at total apart
      rw [validateDirectory, accepted, ok_bind]
      exact ih restSafe restStored restWithin total apart

theorem filenames_of_forall₂ {related : String × Bytes → ZipInfo → Prop}
    {members : List (String × Bytes)} {infos : List ZipInfo}
    (pairs : List.Forall₂ related members infos)
    (named : ∀ member info, related member info → info.filename = member.1) :
    infos.map ZipInfo.filename = members.map Prod.fst := by
  induction pairs with
  | nil => rfl
  | cons own _ ih => rw [List.map_cons, List.map_cons, ih, named _ _ own]

/-- The entry of a member of the archive is found by its name, and it is that member's. -/
theorem byName_of_forall₂ {related : String × Bytes → ZipInfo → Prop}
    {members : List (String × Bytes)} {infos : List ZipInfo}
    (pairs : List.Forall₂ related members infos)
    (named : ∀ member info, related member info → info.filename = member.1)
    (distinct : (members.map Prod.fst).Nodup) :
    ∀ member ∈ members, ∃ info, byName infos member.1 = some info ∧ related member info := by
  induction pairs with
  | nil => exact fun _ member => absurd member List.not_mem_nil
  | @cons first info members infos own _ ih =>
      rw [List.map_cons, List.nodup_cons] at distinct
      intro member inside
      rcases List.mem_cons.mp inside with rfl | later
      · refine ⟨info, ?_, own⟩
        rw [byName, List.find?_cons_of_pos]
        exact beq_iff_eq.mpr (named _ _ own)
      · obtain ⟨found, listed, holds⟩ := ih distinct.2 member later
        refine ⟨found, ?_, holds⟩
        rw [byName, List.find?_cons_of_neg]
        · exact listed
        · rw [beq_iff_eq, named _ _ own]
          intro same
          exact distinct.1 (same ▸ List.mem_map_of_mem later)

/-! ## Building and verifying -/

def stagedOf (binding : CaseBinding) (artifact : ExportArtifact) : Staged :=
  ⟨memberPath binding artifact, artifact⟩

def inPathOrder (binding : CaseBinding) (artifacts : List ExportArtifact) : List Staged :=
  (artifacts.map (stagedOf binding)).insertionSort fun left right => left.path ≤ right.path

/-- The manifest that is signed. -/
def exportManifest (binding : CaseBinding) (artifacts : List ExportArtifact) : Document :=
  (ofJson (manifestOf binding ((inPathOrder binding artifacts).map Staged.entry))).ordered

def exportMembers (signer : Signer) (manifestBytes : Bytes) (staged : List Staged) :
    List (String × Bytes) :=
  (manifestName, manifestBytes) ::
    (signatureName, utf8 (String.ofList (Base64.encode (signer.sign manifestBytes)))) ::
      staged.map Staged.member

/-- The verifier takes what the signer signs. -/
structure Honest (keys : Ed25519) (signer : Signer) : Prop where
  size : signer.publicKey.length = 32
  accepted : ∃ key, keys.fromPublicBytes signer.publicKey = some key ∧ ∀ message,
    (signer.sign message).length = 64 ∧ keys.verify key (signer.sign message) message = true

section Build

variable {binding : CaseBinding}

theorem stage_ok {artifacts : List ExportArtifact} {seen staged : List Staged}
    (done : stage tables binding seen artifacts = .ok staged)
    (distinct : (seen.map Staged.path).Nodup) :
    staged = seen ++ artifacts.map (stagedOf binding) ∧
      (∀ artifact ∈ artifacts, Publishable tables binding artifact) ∧
      (staged.map Staged.path).Nodup := by
  induction artifacts generalizing seen with
  | nil =>
      cases done
      exact ⟨(List.append_nil _).symm, fun _ member => absurd member List.not_mem_nil, distinct⟩
  | cons artifact rest ih =>
      obtain ⟨path, accepted, done⟩ := bind_eq_ok.mp done
      obtain ⟨_, fresh, done⟩ := bind_eq_ok.mp done
      obtain ⟨publishable, rfl⟩ := artifactMember_ok accepted
      rw [require_eq_ok] at fresh
      have extended : ((seen ++ [stagedOf binding artifact]).map Staged.path).Nodup := by
        rw [List.map_append, List.map_singleton, List.nodup_append_comm]
        exact List.nodup_cons.mpr ⟨fresh, distinct⟩
      obtain ⟨rfl, others, whole⟩ := ih done extended
      refine ⟨?_, List.forall_mem_cons.mpr ⟨publishable, others⟩, whole⟩
      rw [List.append_assoc, List.singleton_append, List.map_cons]
      rfl

theorem safeRelativePath_of {path : String} (safe : SafeRelative tables path) :
    safeRelativePath tables path = .ok path := by
  have below : (pureParts path.toList).all (fun part => part != ['.', '.']) = true :=
    List.all_eq_true.mpr fun part member => bne_iff_ne.mpr (safe.below part member)
  rw [safeRelativePath, require_true safe.bounded, ok_bind,
    require_true ⟨safe.normal, safe.plain⟩, ok_bind,
    require_true ⟨safe.relative, safe.canonical⟩, ok_bind, require_true below, ok_bind,
    require_true safe.unqualified, ok_bind]

theorem artifactMember_of_publishable {artifact : ExportArtifact}
    (publishable : Publishable tables binding artifact) :
    artifactMember tables binding artifact = .ok (memberPath binding artifact) := by
  have published : (pureParts artifact.path.toList).all (fun part => !startsRaw tables part) =
      true := by
    refine List.all_eq_true.mpr fun part member => ?_
    rw [publishable.published part member]
    rfl
  rw [artifactMember, require_true publishable.incident, ok_bind,
    require_true publishable.publicable, ok_bind, require_true publishable.kind, ok_bind,
    safeRelativePath_of publishable.path, ok_bind, require_true published, ok_bind]
  rfl

theorem stage_of_publishable {artifacts : List ExportArtifact} {seen : List Staged}
    (publishable : ∀ artifact ∈ artifacts, Publishable tables binding artifact)
    (distinct : ((seen ++ artifacts.map (stagedOf binding)).map Staged.path).Nodup) :
    stage tables binding seen artifacts = .ok (seen ++ artifacts.map (stagedOf binding)) := by
  induction artifacts generalizing seen with
  | nil => rw [stage, List.map_nil, List.append_nil]
  | cons artifact rest ih =>
      obtain ⟨own, others⟩ := List.forall_mem_cons.mp publishable
      rw [List.map_cons, List.append_cons] at distinct ⊢
      have fresh : memberPath binding artifact ∉ seen.map Staged.path := by
        rw [List.map_append, List.map_append, List.map_singleton] at distinct
        have first := (List.nodup_append.mp distinct).1
        rw [List.nodup_append_comm] at first
        exact (List.nodup_cons.mp first).1
      rw [stage, artifactMember_of_publishable own, ok_bind, require_true fresh, ok_bind]
      exact ih others distinct

/-- What a successful build has packed. -/
structure Built (tables : PathTables) (decoder : Decoder) (signer : Signer)
    (writeZip : List (String × Bytes) → Bytes) (binding : CaseBinding)
    (artifacts : List ExportArtifact) (archive manifestBytes : Bytes) : Prop where
  publishable : ∀ artifact ∈ artifacts, Publishable tables binding artifact
  increasing : ((inPathOrder binding artifacts).map Staged.path).Pairwise (· < ·)
  written : canonicalJsonBytes decoder
    (ofJson (manifestOf binding ((inPathOrder binding artifacts).map Staged.entry))) =
      .ok manifestBytes
  archive : archive = writeZip (exportMembers signer manifestBytes (inPathOrder binding artifacts))

theorem build_ok {signer : Signer} {writeZip : List (String × Bytes) → Bytes}
    {artifacts : List ExportArtifact} {archive : Bytes}
    (built : build tables decoder signer writeZip binding artifacts = .ok archive) :
    ∃ manifestBytes,
      Built tables decoder signer writeZip binding artifacts archive manifestBytes := by
  obtain ⟨staged, done, built⟩ := bind_eq_ok.mp built
  obtain ⟨manifestBytes, written, built⟩ := bind_eq_ok.mp built
  cases built
  obtain ⟨rfl, publishable, distinct⟩ := stage_ok done List.nodup_nil
  refine ⟨manifestBytes, publishable, ?_, written, rfl⟩
  have total : Std.Total fun left right : Staged => left.path ≤ right.path :=
    ⟨fun left right => le_total left.path right.path⟩
  have transitive : IsTrans Staged fun left right => left.path ≤ right.path :=
    ⟨fun _ _ _ => le_trans⟩
  have sorted := List.pairwise_insertionSort (fun left right : Staged => left.path ≤ right.path)
    (artifacts.map (stagedOf binding))
  have apart : ((inPathOrder binding artifacts).map Staged.path).Nodup :=
    ((List.perm_insertionSort _ _).map Staged.path).nodup_iff.mpr distinct
  rw [List.pairwise_map]
  rw [List.Nodup, List.pairwise_map] at apart
  exact sorted.imp₂ (fun _ _ le ne => lt_of_le_of_ne le ne) apart

theorem mem_inPathOrder {artifacts : List ExportArtifact} {staged : Staged} :
    staged ∈ inPathOrder binding artifacts ↔
      ∃ artifact ∈ artifacts, stagedOf binding artifact = staged := by
  rw [inPathOrder, (List.perm_insertionSort _ _).mem_iff, List.mem_map]

end Build

section Keys

variable {binding : CaseBinding} {artifacts : List ExportArtifact}

theorem inPathOrder_keys
    (publishable : ∀ artifact ∈ artifacts, Publishable tables binding artifact) :
    ((inPathOrder binding artifacts).map fun staged => collisionKey tables staged.path).Nodup ↔
      (artifacts.map fun artifact => casefold tables artifact.path.toList).Nodup := by
  have keys : ((inPathOrder binding artifacts).map fun staged =>
      collisionKey tables staged.path).Perm ((artifacts.map fun artifact =>
        casefold tables artifact.path.toList).map
          (casefold tables (incidentRoot binding.incidentId ++ "/").toList ++ ·)) := by
    refine ((List.perm_insertionSort _ _).map _).trans (.of_eq ?_)
    rw [List.map_map, List.map_map]
    refine List.map_congr_left fun artifact member => ?_
    exact collisionKey_memberPath (publishable artifact member).path
  rw [keys.nodup_iff, List.nodup_map_iff (List.append_right_injective _)]

/-- No path of an artifact is taken for the manifest or its signature. -/
theorem collisionKey_apart {artifact : ExportArtifact}
    (publishable : Publishable tables binding artifact) :
    collisionKey tables (memberPath binding artifact) ≠ collisionKey tables manifestName ∧
      collisionKey tables (memberPath binding artifact) ≠ collisionKey tables signatureName := by
  have leads : ∃ rest, collisionKey tables (memberPath binding artifact) = 'i' :: rest := by
    rw [collisionKey_memberPath publishable.path, String.toList_append, toList_incidentRoot]
    change ∃ rest, (tables.fold 'i' ++ _) ++ _ = _
    rw [tables.fold_ascii 'i' (by decide)]
    exact ⟨_, rfl⟩
  obtain ⟨rest, leads⟩ := leads
  rw [leads, collisionKey_fixed.1, collisionKey_fixed.2]
  simp

end Keys

/-! ## Verifying what was built -/

section Verified

variable {zip : ZipReader} {keys : Ed25519} {signer : Signer}
  {writeZip : List (String × Bytes) → Bytes} {binding : CaseBinding}
  {artifacts : List ExportArtifact} {archive manifestBytes : Bytes}

theorem exportMembers_names (staged : List Staged) :
    (exportMembers signer manifestBytes staged).map Prod.fst =
      manifestName :: signatureName :: staged.map Staged.path := by
  rw [exportMembers, List.map_cons, List.map_cons, List.map_map]
  rfl

/-- The archive keeps the names of everything that is packed. -/
theorem storable_exportMembers
    (publishable : ∀ artifact ∈ artifacts, Publishable tables binding artifact) :
    Storable (exportMembers signer manifestBytes (inPathOrder binding artifacts)) := by
  intro member inside
  simp only [exportMembers, List.mem_cons, List.mem_map] at inside
  rcases inside with rfl | rfl | ⟨staged, listed, rfl⟩
  · change manifestName ≠ "" ∧ '\x00' ∉ manifestName.toList ∧ manifestName.length ≤ 2048
    decide
  · change signatureName ≠ "" ∧ '\x00' ∉ signatureName.toList ∧ signatureName.length ≤ 2048
    decide
  · obtain ⟨artifact, own, rfl⟩ := mem_inPathOrder.mp listed
    obtain ⟨bounded, _, null⟩ :=
      @memberPath_kept tables binding artifact (publishable artifact own).path
    exact ⟨bounded.1, null, bounded.2⟩

/-- Neither kind of path that the builder overlooks. -/
structure Distinct (tables : PathTables) (artifacts : List ExportArtifact) : Prop where
  below : ∀ artifact ∈ artifacts, artifact.path ≠ "."
  folded : (artifacts.map fun artifact => casefold tables artifact.path.toList).Nodup

theorem Distinct.placed (distinct : Distinct tables artifacts)
    (publishable : ∀ artifact ∈ artifacts, Publishable tables binding artifact) :
    ∀ staged ∈ inPathOrder binding artifacts, Placed tables binding staged := by
  intro staged member
  obtain ⟨artifact, own, rfl⟩ := mem_inPathOrder.mp member
  exact ⟨publishable artifact own, rfl, distinct.below artifact own⟩

section Directory

variable {infos : List ZipInfo}
  (names : infos.map ZipInfo.filename =
    manifestName :: signatureName :: (inPathOrder binding artifacts).map Staged.path)

include names

theorem directory_keys : (infos.map fun info => collisionKey tables info.filename) =
    collisionKey tables manifestName :: collisionKey tables signatureName ::
      (inPathOrder binding artifacts).map fun staged => collisionKey tables staged.path := by
  have keys := congrArg (List.map (collisionKey tables)) names
  rw [List.map_cons, List.map_cons, List.map_map, List.map_map] at keys
  exact keys

/-- No two entries collide. -/
theorem directory_apart
    (publishable : ∀ artifact ∈ artifacts, Publishable tables binding artifact)
    (folded : (artifacts.map fun artifact => casefold tables artifact.path.toList).Nodup) :
    (infos.map fun info => collisionKey tables info.filename).Nodup := by
  rw [directory_keys names, List.nodup_cons, List.nodup_cons, List.mem_cons]
  refine ⟨?_, ?_, (inPathOrder_keys publishable).mpr folded⟩
  · rintro (same | member)
    · rw [collisionKey_fixed.1, collisionKey_fixed.2] at same
      exact absurd same (by decide)
    · obtain ⟨staged, listed, same⟩ := List.mem_map.mp member
      obtain ⟨artifact, own, rfl⟩ := mem_inPathOrder.mp listed
      exact (collisionKey_apart (publishable artifact own)).1 same
  · intro member
    obtain ⟨staged, listed, same⟩ := List.mem_map.mp member
    obtain ⟨artifact, own, rfl⟩ := mem_inPathOrder.mp listed
    exact (collisionKey_apart (publishable artifact own)).2 same

theorem directory_safe
    (placed : ∀ staged ∈ inPathOrder binding artifacts, Placed tables binding staged) :
    ∀ info ∈ infos, SafeName tables info.filename := by
  intro info member
  have listed := List.mem_map_of_mem (f := ZipInfo.filename) member
  rw [names, List.mem_cons, List.mem_cons, List.mem_map] at listed
  rcases listed with same | same | ⟨staged, own, same⟩
  · rw [same]
    exact safeName_fixed.1
  · rw [same]
    exact safeName_fixed.2
  · rw [← same]
    exact (placed staged own).safe

/-- The entries are the manifest, its signature and the listed files. -/
theorem directory_expected :
    expectedNames infos ((inPathOrder binding artifacts).map fileOf) = true := by
  have paths : ((inPathOrder binding artifacts).map fileOf).map FileEntry.path =
      (inPathOrder binding artifacts).map Staged.path := by
    rw [List.map_map]
    rfl
  rw [expectedNames, paths, ← names, Bool.and_eq_true, List.all_eq_true, List.all_eq_true]
  constructor
  · exact fun info member => List.contains_iff_mem.mpr (List.mem_map_of_mem member)
  · intro name member
    obtain ⟨info, inside, rfl⟩ := List.mem_map.mp member
    rw [byName, List.find?_isSome]
    exact ⟨info, inside, beq_self_eq_true _⟩

theorem exportMembers_once
    (apart : (infos.map fun info => collisionKey tables info.filename).Nodup) :
    ((exportMembers signer manifestBytes (inPathOrder binding artifacts)).map Prod.fst).Nodup := by
  rw [exportMembers_names, ← names]
  refine List.Nodup.of_map (collisionKey tables) ?_
  rw [List.map_map]
  exact apart

end Directory

/-- A packed file has the size and the digest that the manifest gives. -/
theorem verifyFile_of_read {limits : VerificationLimits} {infos : List ZipInfo} {info : ZipInfo}
    {staged : Staged} (located : byName infos (fileOf staged).path = some info)
    (size : info.fileSize = (fileOf staged).sizeBytes)
    (payload : readBounded zip archive info limits.maxMemberBytes = .ok staged.artifact.data) :
    verifyFile limits zip archive infos (fileOf staged) = .ok () := by
  have digest : hexdigest staged.artifact.data = (fileOf staged).sha256 := rfl
  unfold verifyFile
  rw [located]
  dsimp only
  rw [require_true size, ok_bind, payload, ok_bind, require_true digest]

variable (built : Built tables decoder signer writeZip binding artifacts archive manifestBytes)
  (packs : Packs zip archive (exportMembers signer manifestBytes (inPathOrder binding artifacts)))

include built packs

/-- What the builder overlooks, the verifier does not. -/
theorem distinct_of_verifyBytes {limits : VerificationLimits} {publicKey : Bytes}
    {manifest : Document}
    (verified : verifyBytes limits zip keys tables decoder archive publicKey = .ok manifest) :
    Distinct tables artifacts := by
  obtain ⟨_, infos, _, listed, pairs⟩ := packs.listed
  obtain ⟨_, found, _, _, _, _, _, opened, _⟩ := verifyBytes_ok verified
  obtain rfl : found = infos := by
    have again := opened.listed
    rw [listed, Except.ok.injEq] at again
    exact again.symm
  obtain ⟨safe, apart⟩ := validateDirectory_ok opened.directory List.nodup_nil
  have names := (filenames_of_forall₂ pairs fun _ _ own => own.1.filename).trans
    (exportMembers_names _)
  constructor
  · intro artifact member root
    have listed : memberPath binding artifact ∈ found.map ZipInfo.filename := by
      rw [names]
      refine List.mem_cons_of_mem _ (List.mem_cons_of_mem _ (List.mem_map.mpr
        ⟨stagedOf binding artifact, ?_, rfl⟩))
      exact mem_inPathOrder.mpr ⟨artifact, member, rfl⟩
    obtain ⟨info, inside, named⟩ := List.mem_map.mp listed
    exact not_safeName_root root (named ▸ safe info inside)
  · rw [List.nil_append, directory_keys names] at apart
    exact (inPathOrder_keys built.publishable).mp (apart.of_cons).of_cons

/-- The archive passes the checks before its manifest is read. -/
theorem opened_of_distinct {key : keys.Key} {infos : List ZipInfo}
    (keyed : publicKeyOf keys signer.publicKey = .ok key)
    (within : Within .default zip archive) (listed : zip.infolist archive = .ok infos)
    (stored : List.Forall₂ Stored
      (exportMembers signer manifestBytes (inPathOrder binding artifacts)) infos)
    (distinct : Distinct tables artifacts) :
    Opened .default zip keys tables archive signer.publicKey key infos := by
  have names := (filenames_of_forall₂ stored fun _ _ own => own.filename).trans
    (exportMembers_names _)
  have placed := distinct.placed built.publishable
  constructor
  case bounded => exact within.size
  case key => exact keyed
  case bounds =>
    exact validateCentralDirectoryBounds_of_packs packs (Nat.le_add_left 2 _) within
  case listed => exact listed
  case count => exact ⟨stored.length_eq ▸ Nat.le_add_left 2 _, within.count infos listed⟩
  case directory =>
    refine validateDirectory_of (directory_safe names placed) (fun info member => ?_)
      (within.members infos listed) (within.total infos listed)
      (directory_apart names built.publishable distinct.folded)
    obtain ⟨one, _, own⟩ := exists_left stored member
    exact ⟨one, own⟩

/-- Everything else that the verifier checks holds of what was built. -/
theorem verifyBytes_of_distinct (honest : Honest keys signer) (within : Within .default zip archive)
    (distinct : Distinct tables artifacts) :
    verifyBytes .default zip keys tables decoder archive signer.publicKey =
      .ok (exportManifest binding artifacts) := by
  obtain ⟨holds, infos, gives, listed, pairs⟩ := packs.listed
  obtain ⟨key, fromBytes, accepted⟩ := honest.accepted
  obtain ⟨signatureSize, signed⟩ := accepted manifestBytes
  have names := (filenames_of_forall₂ pairs fun _ _ own => own.1.filename).trans
    (exportMembers_names _)
  have keyed : publicKeyOf keys signer.publicKey = .ok key := by
    rw [publicKeyOf, require_true honest.size, ok_bind, fromBytes]
  have opened := opened_of_distinct built packs keyed within listed
    (pairs.imp fun _ _ own => own.1) distinct
  have once : ((exportMembers signer manifestBytes
      (inPathOrder binding artifacts)).map Prod.fst).Nodup :=
    exportMembers_once names (directory_apart names built.publishable distinct.folded)
  have found := byName_of_forall₂ pairs (fun _ _ own => own.1.filename) once
  obtain ⟨manifestInfo, manifestFound, manifestStored, manifestStream, manifestOpens,
    manifestHolds⟩ := found _ List.mem_cons_self
  obtain ⟨signatureInfo, signatureFound, signatureStored, signatureStream, signatureOpens,
    signatureHolds⟩ := found _ (List.mem_cons_of_mem _ List.mem_cons_self)
  have small {info : ZipInfo} {name : String} (named : byName infos name = some info) :
      info.fileSize ≤ VerificationLimits.default.maxMemberBytes :=
    (within.members infos listed info (byName_mem named).1).1
  have readManifest : readBounded zip archive manifestInfo
      VerificationLimits.default.maxMemberBytes = .ok manifestBytes :=
    readBounded_of_holds gives manifestOpens manifestHolds manifestStored.size
      (manifestStored.size ▸ small manifestFound)
  have readSignature : readBounded zip archive signatureInfo 256 =
      .ok (utf8 (String.ofList (Base64.encode (signer.sign manifestBytes)))) := by
    refine readBounded_of_holds gives signatureOpens signatureHolds signatureStored.size ?_
    rw [utf8_of_ascii (Base64.encode_ascii _), List.length_map, Base64.length_encode, signatureSize]
    decide
  have parsed : parseManifest decoder manifestBytes =
      .ok (inOrder (manifestMembers binding (inPathOrder binding artifacts))) :=
    parseManifest_written built.written (manifest_flat _ _).1 (manifest_flat _ _).2
  have validated :=
    validateManifest_members (distinct.placed built.publishable) built.increasing
  have checked : forEach (verifyFile .default zip archive infos)
      ((inPathOrder binding artifacts).map fileOf) = .ok () := by
    refine forEach_eq_ok.mpr fun file member => ?_
    obtain ⟨staged, own, rfl⟩ := List.mem_map.mp member
    obtain ⟨info, named, stores, stream, opens, full⟩ := found staged.member
      (List.mem_cons_of_mem _ (List.mem_cons_of_mem _ (List.mem_map_of_mem own)))
    exact verifyFile_of_read named stores.size
      (readBounded_of_holds gives opens full stores.size (stores.size ▸ small named))
  rw [verifyBytes_of_located opened ⟨manifestFound, signatureFound⟩, readManifest, ok_bind,
    readSignature, ok_bind, parsed, ok_bind, decodeSignature_encode signatureSize, ok_bind,
    require_true signed, ok_bind, validated, ok_bind, require_true (directory_expected names),
    ok_bind, checked, ok_bind]
  rfl

end Verified

/-- For every binding and all artifacts that are packed within the limits, the archive is
valid under the key of its signer and returns the signed manifest if and only if no artifact
is at the root of its incident and no two paths fold to one text. -/
theorem verifies_iff_distinct (zip : ZipReader) (keys : Ed25519) (tables : PathTables)
    (decoder : Decoder) (signer : Signer) (writeZip : List (String × Bytes) → Bytes)
    (binding : CaseBinding) (artifacts : List ExportArtifact) (archive : Bytes)
    (honest : Honest keys signer)
    (packs : ∀ members, Storable members → writeZip members = archive → Packs zip archive members)
    (built : build tables decoder signer writeZip binding artifacts = .ok archive)
    (within : Within .default zip archive) :
    verifyExport .default zip keys tables decoder archive signer.publicKey =
        .ok ⟨true, [], some (exportManifest binding artifacts)⟩ ↔
      (∀ artifact ∈ artifacts, artifact.path ≠ ".") ∧
        (artifacts.map fun artifact => casefold tables artifact.path.toList).Nodup := by
  obtain ⟨manifestBytes, done⟩ := build_ok built
  have packed := packs _ (storable_exportMembers done.publishable) done.archive.symm
  constructor
  · intro verified
    obtain ⟨_, _, valid⟩ := verifyExport_valid verified rfl
    obtain ⟨below, folded⟩ := distinct_of_verifyBytes done packed valid
    exact ⟨below, folded⟩
  · rintro ⟨below, folded⟩
    rw [verifyExport, verifyBytes_of_distinct done packed honest within ⟨below, folded⟩]

/-! ## Sample archives -/

def sampleDigest : String := hex (List.replicate 32 0)

def sampleBinding : CaseBinding where
  incidentId := "INC-1"
  baseSha := hex (List.replicate 20 0)
  verdictSha256 := sampleDigest
  warrantSha256 := sampleDigest
  receiptSha256 := sampleDigest
  timelineHead := sampleDigest
  proof := none
  incident := by decide
  base := by decide
  digests := ⟨by decide, by decide, by decide, by decide⟩

def sampleArtifact (path : String) : ExportArtifact where
  path := path
  incidentId := "INC-1"
  kind := "test"
  data := [104, 105]
  provenance := "runner"
  publicable := true
  bounded := by decide

/-- A signature repeats the digest of what it signs. -/
def sampleSigner : Signer where
  sign message := sha256 message ++ sha256 message
  publicKey := List.replicate 32 0

def sampleKeys : Ed25519 where
  Key := Unit
  fromPublicBytes _ := some ()
  verify _ signature message := signature == sha256 message ++ sha256 message

theorem sampleSigner_honest : Honest sampleKeys sampleSigner where
  size := List.length_replicate
  accepted := by
    refine ⟨(), rfl, fun message => ⟨?_, beq_self_eq_true _⟩⟩
    rw [sampleSigner, List.length_append, length_sha256]

section Sample

variable (paths : List String)

def sampleArtifacts : List ExportArtifact := paths.map sampleArtifact

def sampleStaged : List Staged := inPathOrder sampleBinding (sampleArtifacts paths)

def sampleManifest : Json := .obj (manifestMembers sampleBinding (sampleStaged paths))

def sampleBytes : Bytes :=
  utf8 (String.ofList (ofJson (sampleManifest paths)).ordered.asciiText)

def sampleMembers : List (String × Bytes) :=
  exportMembers sampleSigner (sampleBytes paths) (sampleStaged paths)

def sampleArchive : Bytes := packed (sampleMembers paths)

/-- The builder accepts artifacts at these paths. -/
structure Accepted : Prop where
  publishable : ∀ artifact ∈ sampleArtifacts paths,
    Publishable plainTables sampleBinding artifact
  distinct : (((sampleArtifacts paths).map (stagedOf sampleBinding)).map Staged.path).Nodup
  few : paths.length ≤ 2
  short : ∀ path ∈ paths, path.length ≤ 100

end Sample

section Accepted

variable {paths : List String}

/-- What is staged is the artifact at one of the paths. -/
theorem mem_sampleStaged {staged : Staged} (member : staged ∈ sampleStaged paths) :
    ∃ path ∈ paths, staged = stagedOf sampleBinding (sampleArtifact path) := by
  obtain ⟨artifact, listed, rfl⟩ := mem_inPathOrder.mp member
  obtain ⟨path, own, rfl⟩ := List.mem_map.mp listed
  exact ⟨path, own, rfl⟩

theorem length_sampleStaged : (sampleStaged paths).length = paths.length := by
  rw [sampleStaged, inPathOrder, List.length_insertionSort, List.length_map, sampleArtifacts,
    List.length_map]

theorem printableItems_map {digits : Nat} {staged : List Staged}
    (each : ∀ one ∈ staged, (ofJson one.entry).printable digits = true) :
    printableItems digits (ofItems (staged.map Staged.entry)) = true := by
  induction staged with
  | nil => rfl
  | cons one rest ih =>
      obtain ⟨own, others⟩ := List.forall_mem_cons.mp each
      rw [List.map_cons, ofItems, printableItems, own, ih others]
      rfl

theorem sampleManifest_written :
    canonicalJsonBytes .plain (ofJson (sampleManifest paths)) = .ok (sampleBytes paths) := by
  have entries : printableItems Decoder.plain.maxDigits
      (ofItems ((sampleStaged paths).map Staged.entry)) = true := by
    refine printableItems_map fun one member => ?_
    obtain ⟨path, _, rfl⟩ := mem_sampleStaged member
    simp [stagedOf, sampleArtifact, Staged.entry, ofJson, ofMembers, Document.printable,
      printableMembers, Decoder.plain]
    decide
  have printable : (ofJson (sampleManifest paths)).printable Decoder.plain.maxDigits = true := by
    simp [sampleManifest, manifestMembers, incidentMembers, proofMembers, sampleBinding, ofJson,
      ofMembers, Document.printable, printableMembers, entries]
  rw [canonicalJsonBytes, require_true printable, ok_bind]
  rfl

theorem sample_built (accepted : Accepted paths) :
    build plainTables .plain sampleSigner packed sampleBinding (sampleArtifacts paths) =
      .ok (sampleArchive paths) := by
  have staged := @stage_of_publishable plainTables sampleBinding (sampleArtifacts paths) []
    accepted.publishable accepted.distinct
  rw [build, staged, ok_bind, List.nil_append]
  change (canonicalJsonBytes .plain (ofJson (sampleManifest paths)) >>= _) = _
  rw [sampleManifest_written, ok_bind]
  rfl

theorem roomItems_map {bound : Nat} {staged : List Staged}
    (each : ∀ one ∈ staged, room one.entry ≤ bound) :
    roomItems (staged.map Staged.entry) ≤ staged.length * (bound + 1) := by
  induction staged with
  | nil => exact Nat.zero_le _
  | cons one rest ih =>
      obtain ⟨own, others⟩ := List.forall_mem_cons.mp each
      have later := ih others
      rw [List.map_cons, roomItems, List.length_cons, Nat.succ_mul]
      omega

theorem room_sampleEntry {path : String} (short : path.length ≤ 100) :
    room (stagedOf sampleBinding (sampleArtifact path)).entry ≤ 2200 := by
  have hashed : (hexdigest [104, 105]).length = 64 := by
    rw [← String.length_toList, length_hexdigest]
  have place : (memberPath sampleBinding (sampleArtifact path)).length = 16 + path.length := by
    rw [← String.length_toList, toList_memberPath]
    simp only [List.length_append, List.length_cons, String.length_toList]
    rw [show incidentsPart.length = 9 from rfl, show sampleBinding.incidentId.length = 5 from rfl]
    change 9 + (5 + (path.length + 1) + 1) = _
    omega
  have names : ∀ name ∈ ["incident_id", "kind", "path", "provenance", "sha256", "size_bytes",
      "INC-1", "test", "runner"], name.length ≤ 18 := by
    decide
  have two : (intText ([104, 105] : Bytes).length).length = 1 := by decide
  simp only [List.forall_mem_cons] at names
  simp only [stagedOf, Staged.entry, room, roomMembers, place]
  simp only [sampleArtifact, hashed, two]
  omega

theorem sampleBytes_short (accepted : Accepted paths) : (sampleBytes paths).length ≤ 100000 := by
  have bound := length_canonical_le (@sampleManifest_written paths)
  have entries := @roomItems_map 2200 (sampleStaged paths) (by
    intro one member
    obtain ⟨path, own, rfl⟩ := mem_sampleStaged member
    exact room_sampleEntry (accepted.short path own))
  rw [length_sampleStaged] at entries
  have few := accepted.few
  have digest : sampleDigest.length = 64 := by decide
  have base : (hex (List.replicate 20 0)).length = 40 := by decide
  have size : room (sampleManifest paths) ≤ 8300 := by
    have names : ∀ name ∈ ["files", "format", "incident", "base_sha", "id", "receipt_sha256",
        "timeline_head", "verdict_sha256", "warrant_sha256", "INC-1", format],
        name.length ≤ 18 := by
      decide
    simp only [List.forall_mem_cons] at names
    simp only [sampleManifest, manifestMembers, incidentMembers, room, roomMembers,
      List.cons_append, List.nil_append]
    simp only [sampleBinding, proofMembers, roomMembers, digest, base]
    omega
  omega

theorem length_sampleSignature : (utf8 (String.ofList (Base64.encode (sampleSigner.sign
    (sampleBytes paths))))).length = 88 := by
  have size : (sampleSigner.sign (sampleBytes paths)).length = 64 := by
    rw [sampleSigner, List.length_append, length_sha256]
  rw [utf8_of_ascii (Base64.encode_ascii _), List.length_map, Base64.length_encode, size]

theorem sampleMembers_sizes (accepted : Accepted paths) :
    ∀ member ∈ sampleMembers paths, member.2.length ≤ 100000 := by
  rw [sampleMembers, exportMembers, List.forall_mem_cons, List.forall_mem_cons,
    length_sampleSignature]
  refine ⟨sampleBytes_short accepted, by decide, fun member listed => ?_⟩
  obtain ⟨one, own, rfl⟩ := List.mem_map.mp listed
  obtain ⟨path, _, rfl⟩ := mem_sampleStaged own
  exact (by decide : ([104, 105] : Bytes).length ≤ 100000)

theorem sampleMembers_storable (accepted : Accepted paths) : Storable (sampleMembers paths) :=
  storable_exportMembers accepted.publishable

theorem sample_limits (accepted : Accepted paths) :
    (sampleArchive paths).length < 46 * 256 ^ 2 ∧
      Within .default storedReader (sampleArchive paths) := by
  refine within_packed (sampleMembers_storable accepted) ?_ (sampleMembers_sizes accepted)
  have few := accepted.few
  rw [sampleMembers, exportMembers, List.length_cons, List.length_cons, List.length_map,
    length_sampleStaged]
  omega

theorem sample_packs (accepted : Accepted paths) : ∀ members, Storable members →
    packed members = sampleArchive paths → Packs storedReader (sampleArchive paths) members := by
  intro members storable same
  have small := (sample_limits accepted).1
  rw [← same] at small ⊢
  exact packs_packed storable small

theorem sample_publishable {path : String} (safe : safeRelativePath plainTables path = .ok path)
    (published : ((pureParts path.toList).all fun part => !startsRaw plainTables part) = true) :
    Publishable plainTables sampleBinding (sampleArtifact path) := by
  have incident : (sampleArtifact path).incidentId = sampleBinding.incidentId := rfl
  have publicable : (sampleArtifact path).publicable = true := rfl
  have kind : (sampleArtifact path).kind ∈ allowedArtifactKinds :=
    show "test" ∈ allowedArtifactKinds by decide
  have accepted : artifactMember plainTables sampleBinding (sampleArtifact path) =
      .ok (memberPath sampleBinding (sampleArtifact path)) := by
    rw [artifactMember, require_true incident, ok_bind, require_true publicable, ok_bind,
      require_true kind, ok_bind]
    change (safeRelativePath plainTables path >>= _) = _
    rw [safe, ok_bind, require_true published, ok_bind]
    rfl
  exact (artifactMember_ok accepted).1

end Accepted

theorem root_accepted : Accepted ["."] where
  publishable := List.forall_mem_singleton.mpr (sample_publishable rfl (by decide))
  distinct := List.nodup_singleton _
  few := by decide
  short := by decide

theorem logAndPatch_accepted : Accepted ["log", "patch"] where
  publishable := List.forall_mem_cons.mpr ⟨sample_publishable rfl (by decide),
    List.forall_mem_singleton.mpr (sample_publishable rfl (by decide))⟩
  distinct := by decide
  few := by decide
  short := by decide

/-- An artifact at the root of its incident is packed, and the archive is refused. -/
theorem rootArtifact_refused :
    Honest sampleKeys sampleSigner ∧
      (∀ members, Storable members → packed members = sampleArchive ["."] →
        Packs storedReader (sampleArchive ["."]) members) ∧
      build plainTables .plain sampleSigner packed sampleBinding (sampleArtifacts ["."]) =
        .ok (sampleArchive ["."]) ∧
      Within .default storedReader (sampleArchive ["."]) ∧
      ∀ manifest, verifyExport .default storedReader sampleKeys plainTables .plain
        (sampleArchive ["."]) sampleSigner.publicKey ≠ .ok ⟨true, [], some manifest⟩ := by
  have built := sample_built root_accepted
  refine ⟨sampleSigner_honest, sample_packs root_accepted, built,
    (sample_limits root_accepted).2, ?_⟩
  intro manifest verified
  obtain ⟨_, _, valid⟩ := verifyExport_valid verified rfl
  obtain ⟨_, done⟩ := build_ok built
  have packs := sample_packs root_accepted _ (storable_exportMembers done.publishable)
    done.archive.symm
  exact (distinct_of_verifyBytes done packs valid).below _ List.mem_cons_self rfl

theorem logAndPatch_distinct : Distinct plainTables (sampleArtifacts ["log", "patch"]) where
  below := by
    intro artifact member
    obtain ⟨path, own, rfl⟩ := List.mem_map.mp member
    simp only [List.mem_cons, List.not_mem_nil, or_false] at own
    rcases own with rfl | rfl <;> decide
  folded := by decide

/-- Two artifacts below the root of their incident are verified. -/
theorem logAndPatch_verified :
    verifyExport .default storedReader sampleKeys plainTables .plain
        (sampleArchive ["log", "patch"]) sampleSigner.publicKey =
      .ok ⟨true, [], some (exportManifest sampleBinding (sampleArtifacts ["log", "patch"]))⟩ :=
  (verifies_iff_distinct _ _ _ _ _ _ _ _ _ sampleSigner_honest
    (sample_packs logAndPatch_accepted) (sample_built logAndPatch_accepted)
    (sample_limits logAndPatch_accepted).2).mpr
      ⟨logAndPatch_distinct.below, logAndPatch_distinct.folded⟩

theorem logAndPatch_valid :
    verifyBytes .default storedReader sampleKeys plainTables .plain
      (sampleArchive ["log", "patch"]) sampleSigner.publicKey =
        .ok (exportManifest sampleBinding (sampleArtifacts ["log", "patch"])) := by
  obtain ⟨_, done⟩ := build_ok (sample_built logAndPatch_accepted)
  have packs := sample_packs logAndPatch_accepted _ (storable_exportMembers done.publishable)
    done.archive.symm
  exact verifyBytes_of_distinct done packs sampleSigner_honest
    (sample_limits logAndPatch_accepted).2 logAndPatch_distinct

/-- What the archive of those artifacts carries. -/
theorem logAndPatch_carried : ∃ infos manifestBytes incidentId files,
    Carries .default storedReader sampleKeys plainTables .plain (sampleArchive ["log", "patch"])
      sampleSigner.publicKey (exportManifest sampleBinding (sampleArtifacts ["log", "patch"]))
      infos manifestBytes incidentId files := by
  obtain ⟨_, infos, manifestBytes, incidentId, files, same, carries, _⟩ :=
    verifyExport_sound .default storedReader sampleKeys plainTables .plain
      (sampleArchive ["log", "patch"]) sampleSigner.publicKey
      ⟨true, [], some (exportManifest sampleBinding (sampleArtifacts ["log", "patch"]))⟩
      (by rw [verifyExport, logAndPatch_valid]) rfl
  cases same
  exact ⟨infos, manifestBytes, incidentId, files, carries⟩

end CrossPatch.Export.RoundTrip
