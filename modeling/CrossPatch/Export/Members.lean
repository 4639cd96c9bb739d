import CrossPatch.Export.Soundness

/-!
# The paths of an archive

An artifact that the builder accepts is packed below the root of its incident.  Its path stays
safe there, unless it is the root itself, and it collides with another one only if the two
paths of the artifacts fold to one text.
-/

namespace CrossPatch.Export.Members

open CrossPatch.Broker.Containment CrossPatch.Broker.Paths
open CrossPatch.Domain.Failure CrossPatch.Domain.Text
open CrossPatch.Export.Builder CrossPatch.Export.Verifier
open CrossPatch.Library.Attempt

variable {tables : PathTables}

/-! ## Paths -/

def memberPath (binding : CaseBinding) (artifact : ExportArtifact) : String :=
  incidentRoot binding.incidentId ++ "/" ++ artifact.path

/-- What `safe_relative_path` accepts. -/
structure SafeRelative (tables : PathTables) (path : String) : Prop where
  bounded : path ≠ "" ∧ path.length ≤ 1024
  plain : '\\' ∉ path.toList ∧ '\x00' ∉ path.toList
  normal : tables.nfc path = path
  relative : startsWith path.toList "/" = false
  canonical : asPosix path.toList = path.toList
  below : ∀ part ∈ pureParts path.toList, part ≠ ['.', '.']
  unqualified : qualified path.toList = false

/-- The artifact may be put into an archive of the incident. -/
structure Publishable (tables : PathTables) (binding : CaseBinding) (artifact : ExportArtifact) :
    Prop where
  incident : artifact.incidentId = binding.incidentId
  publicable : artifact.publicable = true
  kind : artifact.kind ∈ allowedArtifactKinds
  path : SafeRelative tables artifact.path
  published : ∀ part ∈ pureParts artifact.path.toList, startsRaw tables part = false

theorem safeRelativePath_ok {value result : String}
    (accepted : safeRelativePath tables value = .ok result) :
    SafeRelative tables value ∧ result = value := by
  simp only [safeRelativePath, bind_eq_ok, require_eq_ok, Except.ok.injEq, List.all_eq_true,
    bne_iff_ne] at accepted
  obtain ⟨_, bounded, _, ⟨normal, slash, null⟩, _, ⟨relative, canonical⟩, _, below, _,
    unqualified, rfl⟩ := accepted
  exact ⟨⟨bounded, ⟨slash, null⟩, normal, relative, canonical, below, unqualified⟩, rfl⟩

theorem artifactMember_ok {binding : CaseBinding} {artifact : ExportArtifact} {path : String}
    (accepted : artifactMember tables binding artifact = .ok path) :
    Publishable tables binding artifact ∧ path = memberPath binding artifact := by
  simp only [artifactMember, bind_eq_ok, require_eq_ok, Except.ok.injEq, List.all_eq_true,
    Bool.not_eq_true'] at accepted
  obtain ⟨_, incident, _, publicable, _, kind, _, safe, _, published, rfl⟩ := accepted
  obtain ⟨relative, rfl⟩ := safeRelativePath_ok safe
  exact ⟨⟨incident, publicable, kind, relative, published⟩, rfl⟩

section Names

variable {binding : CaseBinding} {artifact : ExportArtifact}

theorem isIncidentId_characters {incidentId : String} (valid : isIncidentId incidentId = true) :
    ∃ head tail, incidentId.toList = head :: tail ∧ isIdentifierHead head = true ∧
      (∀ character ∈ tail, isIdentifierTail character = true) ∧ tail.length ≤ 127 := by
  rw [isIncidentId, Bool.and_eq_true, isIdentifier] at valid
  cases characters : incidentId.toList with
  | nil =>
      rw [characters] at valid
      cases valid.1
  | cons head tail =>
      rw [characters] at valid
      simp only [Bool.and_eq_true, List.all_eq_true, decide_eq_true_eq] at valid
      exact ⟨head, tail, rfl, valid.1.1.1, valid.1.1.2, valid.1.2⟩

/-- Marks that no identifier of an incident has. -/
theorem mark_not_mem {incidentId : String} (valid : isIncidentId incidentId = true) {mark : Char}
    (head : isIdentifierHead mark = false) (tail : isIdentifierTail mark = false) :
    mark ∉ incidentId.toList := by
  obtain ⟨first, rest, characters, leads, follows, _⟩ := isIncidentId_characters valid
  rw [characters, List.mem_cons]
  rintro (rfl | member)
  · rw [head] at leads
    cases leads
  · have own := follows mark member
    rw [tail] at own
    cases own

theorem incidentId_parts {incidentId : String} (valid : isIncidentId incidentId = true) :
    '/' ∉ incidentId.toList ∧ incidentId.toList ≠ [] ∧ incidentId.toList ≠ ['.'] ∧
      incidentId.toList ≠ ['.', '.'] := by
  refine ⟨mark_not_mem valid (by decide) (by decide), ?_⟩
  obtain ⟨head, tail, characters, leads, _, _⟩ := isIncidentId_characters valid
  rw [characters]
  have dotless : head ≠ '.' := by
    rintro rfl
    exact absurd leads (by decide)
  simp [dotless]

def incidentsPart : List Char := ['i', 'n', 'c', 'i', 'd', 'e', 'n', 't', 's']

theorem toList_incidentRoot (incidentId : String) :
    (incidentRoot incidentId).toList = incidentsPart ++ '/' :: incidentId.toList := by
  rw [incidentRoot, String.toList_append]
  rfl

theorem toList_memberPath : (memberPath binding artifact).toList =
    incidentsPart ++ '/' :: (binding.incidentId.toList ++ '/' :: artifact.path.toList) := by
  rw [memberPath, String.toList_append, String.toList_append, toList_incidentRoot]
  simp

/-- The parts of a path of the archive are those of the artifact below its incident. -/
theorem pureParts_memberPath : pureParts (memberPath binding artifact).toList =
    incidentsPart :: binding.incidentId.toList :: pureParts artifact.path.toList := by
  obtain ⟨whole, named, undotted, _⟩ := incidentId_parts binding.incident
  rw [toList_memberPath, pureParts, splitSlash_append (by decide), splitSlash_append whole,
    List.filter_cons_of_pos (by decide), List.filter_cons_of_pos, pureParts]
  rw [Bool.and_eq_true, bne_iff_ne, bne_iff_ne]
  exact ⟨named, undotted⟩

theorem asPosix_memberPath (safe : SafeRelative tables artifact.path) (below : artifact.path ≠ ".") :
    asPosix (memberPath binding artifact).toList = (memberPath binding artifact).toList := by
  have canonical := safe.canonical
  rw [asPosix] at canonical ⊢
  rw [pureParts_memberPath, toList_memberPath]
  cases parts : pureParts artifact.path.toList with
  | nil =>
      rw [parts] at canonical
      exact absurd (String.toList_inj.mp canonical.symm) below
  | cons part rest =>
      rw [parts] at canonical
      dsimp only at canonical ⊢
      rw [joinSlash_cons _ (List.cons_ne_nil _ _), joinSlash_cons _ (List.cons_ne_nil _ _),
        canonical]

theorem incidentRoot_ascii : isAscii (incidentRoot binding.incidentId) = true := by
  have valid := binding.incident
  rw [isIncidentId, Bool.and_eq_true] at valid
  have ascii := isIdentifier_ascii valid.1
  apply isAscii_of_forall
  intro character member
  rw [toList_incidentRoot, List.mem_append, List.mem_cons] at member
  rcases member with fixed | rfl | own
  · have all : incidentsPart.all (fun listed => listed.toNat < 128) = true := by decide
    exact of_decide_eq_true (List.all_eq_true.mp all character fixed)
  · decide
  · exact of_decide_eq_true (List.all_eq_true.mp ascii character own)

/-- Whatever the path, the archive can keep its name. -/
theorem memberPath_kept (safe : SafeRelative tables artifact.path) :
    (memberPath binding artifact ≠ "" ∧ (memberPath binding artifact).length ≤ 2048) ∧
      '\\' ∉ (memberPath binding artifact).toList ∧ '\x00' ∉ (memberPath binding artifact).toList := by
  have mark {mark : Char} (fixed : mark ∉ incidentsPart) (slash : mark ≠ '/')
      (head : isIdentifierHead mark = false) (tail : isIdentifierTail mark = false)
      (own : mark ∉ artifact.path.toList) : mark ∉ (memberPath binding artifact).toList := by
    rw [toList_memberPath]
    simp only [List.mem_append, List.mem_cons, not_or]
    exact ⟨fixed, slash, mark_not_mem binding.incident head tail, slash, own⟩
  refine ⟨?_, mark (by decide) (by decide) (by decide) (by decide) safe.plain.1,
    mark (by decide) (by decide) (by decide) (by decide) safe.plain.2⟩
  have size : (memberPath binding artifact).length =
      11 + binding.incidentId.toList.length + artifact.path.length := by
    rw [← String.length_toList, toList_memberPath]
    simp only [List.length_append, List.length_cons, String.length_toList]
    rw [show incidentsPart.length = 9 from rfl]
    omega
  obtain ⟨head, tail, characters, _, _, short⟩ := isIncidentId_characters binding.incident
  rw [characters, List.length_cons] at size
  have relative := safe.bounded.2
  refine ⟨?_, by omega⟩
  intro empty
  rw [empty, String.length_empty] at size
  omega

/-- Below the root of its incident, an accepted path keeps what made it safe. -/
theorem safeName_memberPath (safe : SafeRelative tables artifact.path)
    (below : artifact.path ≠ ".") : SafeName tables (memberPath binding artifact) := by
  obtain ⟨whole, _, _, undotted⟩ := incidentId_parts binding.incident
  constructor
  case bounded => exact (memberPath_kept safe).1
  case plain => exact (memberPath_kept safe).2
  case normal =>
    rw [memberPath]
    exact tables.nfc_slash _ _ incidentRoot_ascii safe.normal
  case relative =>
    rw [toList_memberPath]
    rfl
  case canonical => exact asPosix_memberPath safe below
  case below =>
    rw [pureParts_memberPath]
    refine List.forall_mem_cons.mpr ⟨by decide, List.forall_mem_cons.mpr ⟨undotted, safe.below⟩⟩
  case unqualified =>
    rw [qualified, pureParts_memberPath]
    change incidentsPart.contains ':' = false
    decide

/-- The root of an incident itself is no safe name. -/
theorem not_safeName_root (root : artifact.path = ".") :
    ¬ SafeName tables (memberPath binding artifact) := by
  intro safe
  have canonical := safe.canonical
  have none : pureParts artifact.path.toList = [] := by
    rw [root]
    rfl
  rw [asPosix, pureParts_memberPath, none, toList_memberPath] at canonical
  dsimp only at canonical
  have lengths := congrArg List.length canonical
  rw [joinSlash_cons _ (List.cons_ne_nil _ _)] at lengths
  simp [joinSlash] at lengths

theorem collisionKey_memberPath (safe : SafeRelative tables artifact.path) :
    collisionKey tables (memberPath binding artifact) =
      casefold tables (incidentRoot binding.incidentId ++ "/").toList ++
        casefold tables artifact.path.toList := by
  have normal : tables.nfc (memberPath binding artifact) = memberPath binding artifact :=
    tables.nfc_slash _ _ incidentRoot_ascii safe.normal
  rw [collisionKey, normal, memberPath, casefold, casefold, casefold, String.toList_append,
    List.flatMap_append]

end Names

/-! ## Collisions -/

theorem casefold_ascii {text : List Char} (ascii : ∀ character ∈ text, character.toNat < 128) :
    casefold tables text = text.map Char.toLower := by
  induction text with
  | nil => rfl
  | cons character rest ih =>
      obtain ⟨low, later⟩ := List.forall_mem_cons.mp ascii
      change tables.fold character ++ casefold tables rest = _
      rw [tables.fold_ascii character low, ih later, List.map_cons, List.singleton_append]

theorem collisionKey_ascii {name : String} (ascii : isAscii name = true) :
    collisionKey tables name = name.toList.map Char.toLower := by
  rw [isAscii, List.all_eq_true] at ascii
  rw [collisionKey, tables.nfc_ascii name (List.all_eq_true.mpr ascii), casefold_ascii]
  exact fun character member => of_decide_eq_true (ascii character member)

theorem collisionKey_fixed :
    collisionKey tables manifestName =
        ['m', 'a', 'n', 'i', 'f', 'e', 's', 't', '.', 'j', 's', 'o', 'n'] ∧
      collisionKey tables signatureName =
        ['m', 'a', 'n', 'i', 'f', 'e', 's', 't', '.', 's', 'i', 'g'] := by
  constructor
  · rw [collisionKey_ascii (by decide)]
    decide
  · rw [collisionKey_ascii (by decide)]
    decide

theorem safeName_fixed : SafeName tables manifestName ∧ SafeName tables signatureName := by
  have plain {name : String} (ascii : isAscii name = true) (bounded : name ≠ "" ∧ name.length ≤ 2048)
      (marks : '\\' ∉ name.toList ∧ '\x00' ∉ name.toList)
      (relative : startsWith name.toList "/" = false) (canonical : asPosix name.toList = name.toList)
      (below : ∀ part ∈ pureParts name.toList, part ≠ ['.', '.'])
      (unqualified : qualified name.toList = false) : SafeName tables name :=
    ⟨bounded, marks, tables.nfc_ascii name ascii, relative, canonical, below, unqualified⟩
  constructor
  · exact plain (by decide) (by decide) (by decide) (by decide) (by decide) (by decide) (by decide)
  · exact plain (by decide) (by decide) (by decide) (by decide) (by decide) (by decide) (by decide)

end CrossPatch.Export.Members
