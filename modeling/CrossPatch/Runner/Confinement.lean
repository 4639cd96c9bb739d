import CrossPatch.Broker.Claim
import CrossPatch.Runner.Worktree

/-!
# Confinement of a prepared worktree

The two walks list every file with its digest and refuse links and special files, so a
workspace that `_prepare` returns differs from the bound base in the allowed paths only,
whatever `git apply` has done.
-/

namespace CrossPatch.Runner.Worktree

open CrossPatch.Domain.Failure CrossPatch.Domain.Hashing CrossPatch.Domain.Text
open CrossPatch.Library CrossPatch.Library.Attempt CrossPatch.Library.FileTree
open CrossPatch.Library.JsonText CrossPatch.Library.Octets CrossPatch.Library.Sha256
open CrossPatch.Broker.Containment CrossPatch.Broker.Paths CrossPatch.Broker.Warrant

/-! ## Path texts -/

theorem splitSlash_textOf {names : List FileName} (nonempty : names ≠ []) :
    splitSlash (textOf names).toList = names.map Subtype.val := by
  rw [textOf, pathOf, String.toList_ofList]
  apply splitSlash_joinSlash
  · exact fun empty => nonempty (List.map_eq_nil_iff.mp empty)
  · intro part member
    obtain ⟨name, _, rfl⟩ := List.mem_map.mp member
    exact name.2.2

/-- A text names at most one file. -/
theorem textOf_injective {left right : List FileName} (leftNonempty : left ≠ [])
    (rightNonempty : right ≠ []) (same : textOf left = textOf right) : left = right := by
  have parts := splitSlash_textOf leftNonempty
  rw [same, splitSlash_textOf rightNonempty] at parts
  exact (List.map_injective_iff.mpr Subtype.val_injective parts).symm

/-! ## One walk -/

section Walk

variable {parent : List FileName} {manifest result : Manifest}

theorem mem_recordFiles {entries : List (FileName × Tree)}
    (recorded : recordFiles parent entries manifest = .ok result) (record : String × String) :
    record ∈ result ↔ record ∈ manifest ∨ ∃ name file, (name, .file file) ∈ entries ∧
      record = (textOf (parent ++ [name]), hexdigest file.content) := by
  induction entries generalizing manifest with
  | nil =>
      cases recorded
      simp
  | cons entry rest ih =>
      obtain ⟨name, node⟩ := entry
      cases node with
      | file file =>
          rw [recordFiles] at recorded
          obtain ⟨_, _, recorded⟩ := bind_eq_ok.mp recorded
          rw [ih recorded, List.mem_append, List.mem_singleton, or_assoc]
          apply or_congr_right
          constructor
          · rintro (rfl | ⟨other, content, member, rfl⟩)
            · exact ⟨name, file, List.mem_cons_self, rfl⟩
            · exact ⟨other, content, List.mem_cons_of_mem _ member, rfl⟩
          · rintro ⟨other, content, member, rfl⟩
            obtain same | member := List.mem_cons.mp member
            · cases same
              exact .inl rfl
            · exact .inr ⟨other, content, member, rfl⟩
      | directory entries =>
          rw [recordFiles] at recorded
          rw [ih recorded]
          simp
      | link toDirectory =>
          cases toDirectory with
          | true =>
              rw [recordFiles] at recorded
              rw [ih recorded]
              simp
          | false => cases recorded
      | special => cases recorded

/-- What the two loops over one directory let pass. -/
theorem plain_of_recorded {entries : List (FileName × Tree)}
    (refused : refuseLinkedDirectories entries = .ok ())
    (recorded : recordFiles parent entries manifest = .ok result) :
    ∀ entry ∈ entries, (∃ file, entry.2 = .file file) ∨ ∃ below, entry.2 = .directory below := by
  rw [refuseLinkedDirectories, forEach_eq_ok] at refused
  induction entries generalizing manifest with
  | nil => exact fun _ member => absurd member List.not_mem_nil
  | cons entry rest ih =>
      obtain ⟨linked, unlinked⟩ := List.forall_mem_cons.mp refused
      obtain ⟨name, node⟩ := entry
      rw [List.forall_mem_cons]
      cases node with
      | file file =>
          rw [recordFiles] at recorded
          obtain ⟨_, _, recorded⟩ := bind_eq_ok.mp recorded
          exact ⟨.inl ⟨file, rfl⟩, ih unlinked recorded⟩
      | directory below =>
          rw [recordFiles] at recorded
          exact ⟨.inr ⟨below, rfl⟩, ih unlinked recorded⟩
      | link toDirectory =>
          cases toDirectory with
          | true => cases require_eq_ok.mp linked
          | false => cases recorded
      | special => cases recorded

end Walk

mutual

/-- A walk ends in a tree without links and special files. -/
theorem regular_walk (node : Tree) {parent : List FileName} {manifest result : Manifest}
    (walked : walk parent node manifest = .ok result)
    (kept : (∃ file, node = .file file) ∨ ∃ below, node = .directory below) : Regular node := by
  cases node with
  | file file => exact .file file
  | directory entries =>
      rw [walk] at walked
      obtain ⟨_, refused, walked⟩ := bind_eq_ok.mp walked
      obtain ⟨recorded, recordedOk, walked⟩ := bind_eq_ok.mp walked
      exact .directory (regular_walkEntries entries walked (plain_of_recorded refused recordedOk))
  | link toDirectory => rcases kept with ⟨_, kept⟩ | ⟨_, kept⟩ <;> cases kept
  | special => rcases kept with ⟨_, kept⟩ | ⟨_, kept⟩ <;> cases kept

theorem regular_walkEntries (entries : List (FileName × Tree)) {parent : List FileName}
    {manifest result : Manifest} (walked : walkEntries parent entries manifest = .ok result)
    (kept : ∀ entry ∈ entries,
      (∃ file, entry.2 = .file file) ∨ ∃ below, entry.2 = .directory below) :
    ∀ entry ∈ entries, Regular entry.2 := by
  cases entries with
  | nil => exact fun _ member => absurd member List.not_mem_nil
  | cons entry rest =>
      obtain ⟨name, node⟩ := entry
      rw [walkEntries] at walked
      obtain ⟨first, firstOk, others⟩ := bind_eq_ok.mp walked
      obtain ⟨head, tail⟩ := List.forall_mem_cons.mp kept
      exact List.forall_mem_cons.mpr
        ⟨regular_walk node firstOk head, regular_walkEntries rest others tail⟩

end

mutual

/-- A walk records the files below its node, each under its path. -/
theorem mem_walk (node : Tree) {parent : List FileName} {manifest result : Manifest}
    (walked : walk parent node manifest = .ok result) (formed : WellFormed node)
    (record : String × String) :
    record ∈ result ↔ record ∈ manifest ∨ ∃ name rest file,
      fileAt (name :: rest) node = some file ∧
        record = (textOf (parent ++ name :: rest), hexdigest file.content) := by
  cases node with
  | file file =>
      cases walked
      simp [fileAt, nodeAt]
  | link toDirectory =>
      cases walked
      simp [fileAt, nodeAt]
  | special =>
      cases walked
      simp [fileAt, nodeAt]
  | directory entries =>
      obtain ⟨distinct, children⟩ : (entries.map Prod.fst).Nodup ∧
          ∀ entry ∈ entries, WellFormed entry.2 := by
        cases formed with
        | directory distinct children => exact ⟨distinct, children⟩
      rw [walk] at walked
      obtain ⟨_, refused, walked⟩ := bind_eq_ok.mp walked
      obtain ⟨recorded, recordedOk, walked⟩ := bind_eq_ok.mp walked
      rw [mem_walkEntries entries walked children, mem_recordFiles recordedOk, or_assoc]
      apply or_congr_right
      constructor
      · rintro (⟨name, file, member, rfl⟩ | ⟨name, child, next, rest, file, member, found, rfl⟩)
        · refine ⟨name, [], file, ?_, rfl⟩
          rw [fileAt_directory, lookup_of_mem distinct member]
          rfl
        · refine ⟨name, next :: rest, file, ?_, rfl⟩
          rw [fileAt_directory, lookup_of_mem distinct member]
          exact found
      · rintro ⟨name, rest, file, found, rfl⟩
        rw [fileAt_directory] at found
        obtain ⟨child, present, found⟩ := Option.bind_eq_some_iff.mp found
        have member := mem_of_lookup present
        cases rest with
        | nil =>
            cases child with
            | file other =>
                cases found
                exact .inl ⟨name, file, member, rfl⟩
            | directory | link | special => cases found
        | cons next rest => exact .inr ⟨name, child, next, rest, file, member, found, rfl⟩

theorem mem_walkEntries (entries : List (FileName × Tree)) {parent : List FileName}
    {manifest result : Manifest} (walked : walkEntries parent entries manifest = .ok result)
    (formed : ∀ entry ∈ entries, WellFormed entry.2) (record : String × String) :
    record ∈ result ↔ record ∈ manifest ∨ ∃ name child next rest file,
      (name, child) ∈ entries ∧ fileAt (next :: rest) child = some file ∧
        record = (textOf (parent ++ name :: next :: rest), hexdigest file.content) := by
  cases entries with
  | nil =>
      cases walked
      simp
  | cons entry others =>
      obtain ⟨name, node⟩ := entry
      rw [walkEntries] at walked
      obtain ⟨first, firstOk, walked⟩ := bind_eq_ok.mp walked
      obtain ⟨head, tail⟩ := List.forall_mem_cons.mp formed
      rw [mem_walkEntries others walked tail, mem_walk node firstOk head, or_assoc]
      apply or_congr_right
      constructor
      · rintro (⟨next, rest, file, found, rfl⟩ | ⟨later, child, next, rest, file, member, found, rfl⟩)
        · refine ⟨name, node, next, rest, file, List.mem_cons_self, found, ?_⟩
          rw [List.append_assoc, List.singleton_append]
        · exact ⟨later, child, next, rest, file, List.mem_cons_of_mem _ member, found, rfl⟩
      · rintro ⟨later, child, next, rest, file, member, found, rfl⟩
        obtain same | member := List.mem_cons.mp member
        · cases same
          refine .inl ⟨next, rest, file, found, ?_⟩
          rw [List.append_assoc, List.singleton_append]
        · exact .inr ⟨later, child, next, rest, file, member, found, rfl⟩

end

/-! ## Manifests -/

theorem lookup_eq_some_of_functional {manifest : Manifest} {path digest : String}
    (member : (path, digest) ∈ manifest)
    (functional : ∀ other, (path, other) ∈ manifest → other = digest) :
    manifest.lookup path = some digest := by
  induction manifest with
  | nil => cases member
  | cons record rest ih =>
      obtain ⟨head, value⟩ := record
      rw [List.lookup_cons]
      split
      · rename_i same
        rw [functional value (beq_iff_eq.mp same ▸ List.mem_cons_self)]
      · rename_i differs
        obtain same | member := List.mem_cons.mp member
        · cases same
          simp at differs
        · exact ih member fun other later => functional other (List.mem_cons_of_mem _ later)

theorem lookup_eq_none_of_absent {manifest : Manifest} {path : String}
    (absent : ∀ digest, (path, digest) ∉ manifest) : manifest.lookup path = none := by
  rw [List.lookup_eq_none_iff]
  rintro ⟨other, digest⟩ member
  rw [bne_iff_ne]
  rintro rfl
  exact absent digest member

section Manifest

variable {entries : List (FileName × Tree)} {manifest : Manifest}

theorem mem_treeManifest (walked : treeManifest (.directory entries) = .ok manifest)
    (formed : WellFormed (.directory entries : Tree)) (record : String × String) :
    record ∈ manifest ↔ ∃ name rest file, fileAt (name :: rest) (.directory entries) = some file ∧
      record = (textOf (name :: rest), hexdigest file.content) := by
  rw [mem_walk _ walked formed]
  simp

/-- The manifest of a tree gives each path the digest of its file. -/
theorem lookup_treeManifest (walked : treeManifest (.directory entries) = .ok manifest)
    (formed : WellFormed (.directory entries : Tree)) {names : List FileName}
    (nonempty : names ≠ []) :
    manifest.lookup (textOf names) = (contentAt names (.directory entries)).map hexdigest := by
  have members := mem_treeManifest walked formed
  have same : ∀ name rest file digest, fileAt (name :: rest) (.directory entries) = some file →
      (textOf names, digest) = (textOf (name :: rest), hexdigest file.content) →
      fileAt names (.directory entries) = some file ∧ digest = hexdigest file.content := by
    intro name rest file digest found equal
    obtain ⟨path, digests⟩ := Prod.mk.inj equal
    rw [textOf_injective nonempty (List.cons_ne_nil _ _) path]
    exact ⟨found, digests⟩
  cases found : fileAt names (.directory entries) with
  | none =>
      rw [contentAt, found]
      apply lookup_eq_none_of_absent
      intro digest member
      obtain ⟨name, rest, file, present, equal⟩ := (members _).mp member
      have clash := (same name rest file digest present equal).1
      rw [found] at clash
      cases clash
  | some file =>
      rw [contentAt, found]
      apply lookup_eq_some_of_functional
      · obtain ⟨name, rest, rfl⟩ := List.exists_cons_of_ne_nil nonempty
        exact (members _).mpr ⟨name, rest, file, found, rfl⟩
      · intro other member
        obtain ⟨name, rest, file', present, equal⟩ := (members _).mp member
        obtain ⟨present', digest⟩ := same name rest file' other present equal
        rw [found] at present'
        cases present'
        exact digest

/-- The paths of a manifest are those of the files of its tree. -/
theorem names_of_lookup {path digest : String}
    (walked : treeManifest (.directory entries) = .ok manifest)
    (formed : WellFormed (.directory entries : Tree)) (member : (path, digest) ∈ manifest) :
    ∃ names, names ≠ [] ∧ path = textOf names := by
  obtain ⟨name, rest, _, _, equal⟩ := (mem_treeManifest walked formed _).mp member
  exact ⟨name :: rest, List.cons_ne_nil _ _, (Prod.mk.inj equal).1⟩

end Manifest

/-! ## The extracted tree -/

variable {tables : UnicodeTables}

/-- The member is a regular file with the given path and content. -/
def Member.Yields (member : Member) (names : List FileName) (file : SourceFile) : Prop :=
  member.kind = .regular ∧ namesOf member.name = names ∧ member.content = some file.content ∧
    member.executable = file.executable

/-- The tree is a well-formed directory that holds the regular members and no other file. -/
structure Extracted (tree : Tree) (members : List Member) : Prop where
  rooted : ∃ entries, tree = .directory entries
  wellFormed : WellFormed tree
  files : ∀ names file, fileAt names tree = some file ↔
    ∃ member ∈ members, member.Yields names file

theorem safeMemberName_eq_ok {name : String} {names : List FileName}
    (accepted : safeMemberName tables name = .ok names) : names = namesOf name := by
  simp only [safeMemberName, bind_eq_ok, require_eq_ok, Except.ok.injEq] at accepted
  obtain ⟨_, _, _, _, _, _, rfl⟩ := accepted
  rfl

theorem Extracted.directories {before after : Tree} {members : List Member} {member : Member}
    {names : List FileName} (extracted : Extracted before members)
    (made : makeDirectories names before = .ok after) (notRegular : member.kind ≠ .regular) :
    Extracted after (members ++ [member]) where
  rooted := directory_of_makeDirectories made
  wellFormed := extracted.wellFormed.makeDirectories made
  files path file := by
    rw [fileAt_makeDirectories made, extracted.files]
    constructor
    · rintro ⟨earlier, member, yields⟩
      exact ⟨earlier, List.mem_append_left _ member, yields⟩
    · rintro ⟨other, inside, yields⟩
      obtain earlier | last := List.mem_append.mp inside
      · exact ⟨other, earlier, yields⟩
      · rw [List.mem_singleton.mp last] at yields
        exact absurd yields.1 notRegular

theorem Extracted.file {before prepared after : Tree} {members : List Member} {member : Member}
    {content : Bytes} (extracted : Extracted before members)
    (made : makeDirectories (namesOf member.name).dropLast before = .ok prepared)
    (created : createFile ⟨content, member.executable⟩ (namesOf member.name) prepared = .ok after)
    (regular : member.kind = .regular) (read : member.content = some content) :
    Extracted after (members ++ [member]) where
  rooted := directory_of_createFile created
  wellFormed := (extracted.wellFormed.makeDirectories made).createFile created
  files path file := by
    have fresh : fileAt (namesOf member.name) before = none := by
      rw [← fileAt_makeDirectories made]
      exact fileAt_eq_none_of_createFile created
    rw [fileAt_createFile created, fileAt_makeDirectories made]
    constructor
    · intro found
      split at found
      · rename_i here
        cases found
        exact ⟨member, List.mem_append_right _ List.mem_cons_self, regular, here.symm, read, rfl⟩
      · obtain ⟨earlier, inside, yields⟩ := (extracted.files path file).mp found
        exact ⟨earlier, List.mem_append_left _ inside, yields⟩
    · rintro ⟨other, inside, yields⟩
      obtain earlier | last := List.mem_append.mp inside
      · have found := (extracted.files path file).mpr ⟨other, earlier, yields⟩
        rw [if_neg]
        · exact found
        · rintro rfl
          rw [fresh] at found
          cases found
      · rw [List.mem_singleton.mp last] at yields
        obtain ⟨_, here, same, executable⟩ := yields
        rw [read] at same
        cases same
        rw [if_pos here.symm, executable]

theorem extracted_step {state next : Extraction} {members : List Member} {member : Member}
    (extracted : Extracted state.tree members)
    (stepped : extractMember tables state member = .ok next) :
    Extracted next.tree (members ++ [member]) := by
  unfold extractMember at stepped
  obtain ⟨relative, named, stepped⟩ := bind_eq_ok.mp stepped
  obtain rfl := safeMemberName_eq_ok named
  obtain ⟨_, _, stepped⟩ := bind_eq_ok.mp stepped
  cases kind : member.kind with
  | directory =>
      rw [kind] at stepped
      obtain ⟨tree, made, put⟩ := bind_eq_ok.mp stepped
      cases put
      exact extracted.directories (mapFailure_eq_ok.mp made) (by rw [kind]; decide)
  | other =>
      rw [kind] at stepped
      cases stepped
  | regular =>
      rw [kind] at stepped
      obtain ⟨_, _, stepped⟩ := bind_eq_ok.mp stepped
      obtain ⟨prepared, made, stepped⟩ := bind_eq_ok.mp stepped
      cases read : member.content with
      | none =>
          rw [read] at stepped
          cases stepped
      | some content =>
          rw [read] at stepped
          obtain ⟨tree, created, put⟩ := bind_eq_ok.mp stepped
          cases put
          exact extracted.file (mapFailure_eq_ok.mp made) (mapFailure_eq_ok.mp created) kind read

/-- The archive becomes a directory with exactly its regular members as files. -/
theorem extracted_of_archive {members : List Member} {tree : Tree}
    (extracted : extractRegularArchive tables members = .ok tree) : Extracted tree members := by
  obtain ⟨state, folded, put⟩ := bind_eq_ok.mp extracted
  cases put
  have start : Extracted (.directory [] : Tree) [] := by
    refine ⟨⟨[], rfl⟩, .empty, ?_⟩
    intro names file
    rw [fileAt_empty]
    simp
  exact foldlM_invariant (fun state members => Extracted state.tree members)
    (fun _ _ _ _ before stepped => extracted_step before stepped) start folded

/-! ## What a returned workspace is -/

/-- The warrant binds the commit and the listing of its files, and the tree is that of the
regular members of its archive. -/
structure Bound (tables : UnicodeTables) (host : Host) (document : WarrantDocument) (base : Tree) :
    Prop where
  commit : ∃ output, host.revParse document.baseSha = .ok output ∧
    asciiOutput output = .ok document.baseSha
  manifest : ∃ listing, host.lsTree document.baseSha = .ok listing ∧
    hexdigest listing = document.repositoryManifestSha256
  archived : ∃ archive members, host.archive document.baseSha = .ok (some archive) ∧
    host.readArchive archive = .ok members ∧ Extracted base members

/-- Files differ at the listed paths and nowhere else, short of a SHA-256 collision
between the two contents of a path. -/
structure Confined (allowed : List String) (base candidate : Tree) : Prop where
  named : ∀ path ∈ allowed, ∃ names, names ≠ [] ∧ path = textOf names
  changed : ∀ names, textOf names ∈ allowed → contentAt names base ≠ contentAt names candidate
  allowed : ∀ names, contentAt names base ≠ contentAt names candidate → textOf names ∈ allowed ∨
    ∃ left right, contentAt names base = some left ∧ contentAt names candidate = some right ∧
      left ≠ right ∧ sha256 left = sha256 right

/-- What a workspace is whose preparation has returned. -/
structure Contains (tables : UnicodeTables) (host : Host) (document : WarrantDocument)
    (candidate : Tree) : Prop where
  base : ∃ base, Bound tables host document base ∧ Confined document.allowedPaths base candidate
  derived : ∃ patch, document.patchBytes = .ok patch ∧
    derivePatchPaths tables patch = .ok document.allowedPaths
  distinct : document.allowedPaths.Nodup
  sorted : document.allowedPaths.insertionSort (· ≤ ·) = document.allowedPaths
  unprotected : ∀ path ∈ document.allowedPaths, isProtected path = false
  regular : Regular candidate

variable {host : Host} {document : WarrantDocument}

theorem bound_of_materialize {base : Tree} (materialized : materialize tables host document = .ok base) :
    Bound tables host document base := by
  unfold materialize at materialized
  obtain ⟨_, _, materialized⟩ := bind_eq_ok.mp materialized
  obtain ⟨_, _, materialized⟩ := bind_eq_ok.mp materialized
  obtain ⟨output, parsed, materialized⟩ := bind_eq_ok.mp materialized
  obtain ⟨commit, read, materialized⟩ := bind_eq_ok.mp materialized
  obtain ⟨_, same, materialized⟩ := bind_eq_ok.mp materialized
  obtain ⟨listing, listed, materialized⟩ := bind_eq_ok.mp materialized
  obtain ⟨_, digest, materialized⟩ := bind_eq_ok.mp materialized
  obtain ⟨archived, archiveOk, materialized⟩ := bind_eq_ok.mp materialized
  rw [require_eq_ok] at same digest
  rw [same] at read
  cases archived with
  | none => cases materialized
  | some archive =>
      obtain ⟨_, _, materialized⟩ := bind_eq_ok.mp materialized
      obtain ⟨members, membersOk, materialized⟩ := bind_eq_ok.mp materialized
      exact ⟨⟨output, parsed, read⟩, ⟨listing, listed, digest⟩,
        ⟨archive, members, archiveOk, membersOk, extracted_of_archive materialized⟩⟩

theorem sortedSet_eq (paths : List String) :
    (sortedSet paths).Nodup ∧ (sortedSet paths).insertionSort (· ≤ ·) = sortedSet paths := by
  have order := List.perm_insertionSort (· ≤ ·) paths.dedup
  refine ⟨order.nodup_iff.mpr paths.nodup_dedup, ?_⟩
  exact List.Pairwise.insertionSort_eq (List.pairwise_insertionSort (· ≤ ·) paths.dedup)

theorem mem_changedPaths {base candidate : Manifest} {path : String} :
    path ∈ changedPaths base candidate ↔ base.lookup path ≠ candidate.lookup path := by
  have order := List.perm_insertionSort (· ≤ ·)
    ((base.map Prod.fst ++ candidate.map Prod.fst).filter fun path =>
      base.lookup path != candidate.lookup path).dedup
  rw [changedPaths, sortedSet, order.mem_iff, List.mem_dedup, List.mem_filter, bne_iff_ne,
    and_iff_right_iff_imp, List.mem_append]
  intro differs
  by_contra absent
  rw [not_or] at absent
  apply differs
  rw [lookup_eq_none_of_absent fun digest member => absent.1 (List.mem_map.mpr ⟨_, member, rfl⟩),
    lookup_eq_none_of_absent fun digest member => absent.2 (List.mem_map.mpr ⟨_, member, rfl⟩)]

theorem textOf_ne_empty {names : List FileName} (nonempty : names ≠ []) : textOf names ≠ "" := by
  intro empty
  have parts := splitSlash_textOf nonempty
  rw [empty] at parts
  obtain ⟨name, rest, rfl⟩ := List.exists_cons_of_ne_nil nonempty
  exact name.2.1 (List.cons.inj parts).1.symm

/-- Equal digests of different contents are a collision. -/
theorem collision_of_digests {left right : Option Bytes} (differ : left ≠ right)
    (same : left.map hexdigest = right.map hexdigest) :
    ∃ first second, left = some first ∧ right = some second ∧ first ≠ second ∧
      sha256 first = sha256 second := by
  cases left with
  | none =>
      cases right with
      | none => exact absurd rfl differ
      | some second => cases same
  | some first =>
      cases right with
      | none => cases same
      | some second =>
          refine ⟨first, second, rfl, rfl, ?_, hex_injective (Option.some.inj same)⟩
          rintro rfl
          exact differ rfl

theorem confined_of_manifests {base candidate : List (FileName × Tree)}
    {baseManifest candidateManifest : Manifest}
    (baseFormed : WellFormed (.directory base : Tree))
    (candidateFormed : WellFormed (.directory candidate : Tree))
    (baseWalked : treeManifest (.directory base) = .ok baseManifest)
    (candidateWalked : treeManifest (.directory candidate) = .ok candidateManifest) :
    Confined (changedPaths baseManifest candidateManifest) (.directory base)
      (.directory candidate) := by
  have named : ∀ path ∈ changedPaths baseManifest candidateManifest,
      ∃ names, names ≠ [] ∧ path = textOf names := by
    intro path member
    rw [changedPaths, sortedSet, List.mem_insertionSort, List.mem_dedup, List.mem_filter,
      List.mem_append, List.mem_map, List.mem_map] at member
    obtain ⟨⟨⟨path', digest⟩, inside, rfl⟩ | ⟨⟨path', digest⟩, inside, rfl⟩, _⟩ := member
    · exact names_of_lookup baseWalked baseFormed inside
    · exact names_of_lookup candidateWalked candidateFormed inside
  constructor
  case named => exact named
  case changed =>
    intro names member same
    by_cases root : names = []
    · rw [root] at member
      obtain ⟨others, nonempty, empty⟩ := named _ member
      exact textOf_ne_empty nonempty empty.symm
    · rw [mem_changedPaths, lookup_treeManifest baseWalked baseFormed root,
        lookup_treeManifest candidateWalked candidateFormed root, same] at member
      exact member rfl
  case allowed =>
    intro names differ
    by_cases root : names = []
    · rw [root] at differ
      exact absurd rfl differ
    · rw [mem_changedPaths, lookup_treeManifest baseWalked baseFormed root,
        lookup_treeManifest candidateWalked candidateFormed root]
      by_cases same : (contentAt names (.directory base)).map hexdigest =
          (contentAt names (.directory candidate)).map hexdigest
      · exact .inr (collision_of_digests differ same)
      · exact .inl same

/-- A workspace that `_prepare` returns is confined to the allowed paths. -/
theorem contains_of_prepare {prepared : PreparedWorkspace}
    (returned : prepare tables host document = .ok prepared) :
    Contains tables host document prepared.tree := by
  obtain ⟨base, materialized, applied⟩ := bind_eq_ok.mp returned
  have bound := bound_of_materialize materialized
  obtain ⟨_, _, _, _, extracted⟩ := bound.archived
  obtain ⟨entries, rfl⟩ := extracted.rooted
  unfold applyApproved at applied
  obtain ⟨patch, decoded, applied⟩ := bind_eq_ok.mp applied
  obtain ⟨_, validated, applied⟩ := bind_eq_ok.mp applied
  obtain ⟨baseManifest, baseWalked, applied⟩ := bind_eq_ok.mp applied
  obtain ⟨answer, _, applied⟩ := bind_eq_ok.mp applied
  cases answer with
  | none => cases applied
  | some candidate =>
      obtain ⟨candidateManifest, candidateWalked, applied⟩ := bind_eq_ok.mp applied
      obtain ⟨_, exactly, applied⟩ := bind_eq_ok.mp applied
      obtain ⟨_, _, applied⟩ := bind_eq_ok.mp applied
      obtain ⟨_, _, put⟩ := bind_eq_ok.mp applied
      cases put
      rw [require_eq_ok] at exactly
      have confined := confined_of_manifests extracted.wellFormed candidate.wellFormed baseWalked
        candidateWalked
      obtain ⟨distinct, sorted⟩ := sortedSet_eq ((baseManifest.map Prod.fst ++
        candidateManifest.map Prod.fst).filter fun path =>
          baseManifest.lookup path != candidateManifest.lookup path)
      rw [exactly] at confined
      rw [← changedPaths, exactly] at distinct sorted
      refine ⟨⟨_, bound, confined⟩, ⟨patch, decoded, ?_⟩, distinct, sorted, ?_, ?_⟩
      · exact (validateDeclaredPatchPaths_eq_ok validated distinct sorted).1
      · simp only [validateDeclaredPatchPaths, bind_eq_ok] at validated
        obtain ⟨_, _, _, accepted, _⟩ := validated
        exact fun path member => (validatePatchPaths_accepted accepted path member).unprotected
      · exact regular_walk _ candidateWalked (.inr ⟨candidate.entries, rfl⟩)

/-! ## A repository that keeps a file out of its archives -/

/-- The paths in the output of `git ls-tree -r -z`. -/
def listedPaths (listing : Bytes) : List Bytes :=
  (listing.splitOn 0).filterMap fun entry =>
    match entry.dropWhile (· != 9) with
    | [] => none
    | _ :: path => some path

/-- Every file that the listing names is in the tree. -/
def Complete (listing : Bytes) (base : Tree) : Prop :=
  ∀ path ∈ listedPaths listing, ∃ text file, decodeUtf8 path = some text ∧
    fileAt (namesOf text) base = some file

/-- A commit of three files; `.gitattributes` has the line `notes.md export-ignore`. -/
def sampleListing : Bytes :=
  utf8 ("100644 blob 93fd565f6fe6d8640180f031bdb58cead95711f0\t.gitattributes\x00" ++
    "100644 blob 78981922613b2afb6025042ff6bd878ac1994e85\tapp.py\x00" ++
    "100644 blob 8ba3a16384aacc37d01564b28401755ce8053f51\tnotes.md\x00")

def sampleBound : WarrantFields :=
  { Broker.Claim.sampleFields with repositoryManifestSha256 := hexdigest sampleListing }

theorem sampleBound_accepted : sampleBound.accepted = true := by
  have digest : isSha256 Broker.Claim.sampleDigest = true := by decide
  have base : isGitSha Broker.Claim.sampleDigest = true := by decide
  have identifiers : sampleBound.identifiers.all isIdentifier = true := by decide
  have digests : sampleBound.digests.all isSha256 = true := by
    simp [WarrantFields.digests, sampleBound, Broker.Claim.sampleFields, digest, hexdigest_isSha256,
      Broker.Claim.sampleTestPlanSha256_spec.2]
  rw [WarrantFields.accepted, identifiers, digests,
    show isGitSha sampleBound.baseSha = true from base]
  decide

def sampleWarrant : WarrantDocument := ⟨sampleBound, sampleBound_accepted⟩

def attributesName : FileName := ⟨".gitattributes".toList, by decide⟩

def sampleName : FileName := ⟨"app.py".toList, by decide⟩

def attributes : Bytes := utf8 "notes.md export-ignore\n"

def samplePatched : Checkout where
  entries := [(attributesName, .file ⟨attributes, false⟩), (sampleName, .file ⟨utf8 "b\n", false⟩)]
  wellFormed := .directory (by decide) fun _ member => by
    obtain rfl | member := List.mem_cons.mp member
    · exact .file _
    · rw [List.mem_singleton.mp member]
      exact .file _

def sampleMembers : List Member :=
  [⟨".gitattributes", .regular, 23, false, some attributes⟩,
   ⟨"app.py", .regular, 2, false, some (utf8 "a\n")⟩]

def sampleHost : Host where
  isDirectory := .ok true
  revParse commit := .ok (utf8 (commit ++ "\n"))
  lsTree _ := .ok sampleListing
  archive _ := .ok (some [])
  readArchive _ := .ok sampleMembers
  applyPatch _ _ := .ok (some samplePatched)
  workspace := "/srv/workspaces/warrant-1"

theorem sample_returns :
    ∃ prepared, prepare .asciiOnly sampleHost sampleWarrant = .ok prepared := by
  have returns : (prepare .asciiOnly sampleHost sampleWarrant).toOption.isSome = true := by
    decide +kernel
  cases result : prepare .asciiOnly sampleHost sampleWarrant with
  | error error =>
      rw [result] at returns
      cases returns
  | ok prepared => exact ⟨prepared, rfl⟩

theorem contains_sample : ∃ prepared,
    prepare .asciiOnly sampleHost sampleWarrant = .ok prepared ∧
      Contains .asciiOnly sampleHost sampleWarrant prepared.tree := by
  obtain ⟨prepared, returned⟩ := sample_returns
  exact ⟨prepared, returned, contains_of_prepare returned⟩

/-- Nothing compares the archive with the listing that the warrant binds: `notes.md` is
listed, and the base tree does not have it. -/
theorem excluded_file_missing : ∃ base prepared listing,
    prepare .asciiOnly sampleHost sampleWarrant = .ok prepared ∧
      materialize .asciiOnly sampleHost sampleWarrant = .ok base ∧
      sampleHost.lsTree sampleWarrant.baseSha = .ok listing ∧
      hexdigest listing = sampleWarrant.repositoryManifestSha256 ∧ ¬ Complete listing base := by
  obtain ⟨prepared, returned⟩ := sample_returns
  obtain ⟨base, materialized, _⟩ := bind_eq_ok.mp returned
  obtain ⟨archive, members, _, read, extracted⟩ := (bound_of_materialize materialized).archived
  cases read
  refine ⟨base, prepared, sampleListing, returned, materialized, rfl, rfl, fun complete => ?_⟩
  obtain ⟨text, file, decoded, found⟩ := complete (utf8 "notes.md") (by decide)
  rw [decodeUtf8_utf8] at decoded
  cases decoded
  obtain ⟨member, archived, _, named, _⟩ := (extracted.files _ _).mp found
  have absent : ∀ member ∈ sampleMembers, namesOf member.name ≠ namesOf "notes.md" := by decide
  exact absent member archived named

end CrossPatch.Runner.Worktree
