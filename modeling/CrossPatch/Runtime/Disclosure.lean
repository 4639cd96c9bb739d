import CrossPatch.Library.DocumentText
import CrossPatch.Library.Pairing
import CrossPatch.Runtime.Redaction

/-!
# What published evidence discloses

The published text of an evidence row shows no private key and keeps every other field,
under a condition on the text that is published.
-/

namespace CrossPatch.Runtime.Redaction

open CrossPatch.Domain.Failure CrossPatch.Domain.Hashing CrossPatch.Domain.Text
open CrossPatch.Library CrossPatch.Library.Attempt CrossPatch.Library.Documents
open CrossPatch.Library.JsonText CrossPatch.Library.Octets CrossPatch.Library.Pairing
open CrossPatch.Runtime.Records
open CrossPatch.Library.JsonReader (Decoder Flaw)

/-! ## Texts in composed form -/

section Composed

variable (tables : UnicodeTables)

/-- Half of a surrogate pair is composed with nothing. -/
def composeRun : List Char → Text → Text
  | run, [] => ofString (tables.nfc (String.ofList run))
  | run, .char character :: rest => composeRun (run ++ [character]) rest
  | run, .lone unit :: rest =>
      ofString (tables.nfc (String.ofList run)) ++ .lone unit :: composeRun [] rest

/-- `unicodedata.normalize("NFC", text)`. -/
def composed (text : Text) : Text := composeRun tables [] text

theorem composeRun_chars (run characters : List Char) :
    composeRun tables run (characters.map .char) =
      ofString (tables.nfc (String.ofList (run ++ characters))) := by
  induction characters generalizing run with
  | nil => rw [List.map_nil, composeRun, List.append_nil]
  | cons character rest ih =>
      rw [List.map_cons, composeRun, ih, List.append_assoc, List.singleton_append]

@[simp]
theorem composed_ofString (text : String) :
    composed tables (ofString text) = ofString (tables.nfc text) := by
  rw [composed, ofString, composeRun_chars, List.nil_append, String.ofList_toList]

mutual

/-- No two keys of an object have one composed form. -/
def Separate : Document → Prop
  | .arr items => SeparateItems items
  | .obj members =>
      (members.map fun member => composed tables member.1).Nodup ∧ SeparateMembers members
  | _ => True

def SeparateItems : List Document → Prop
  | [] => True
  | item :: rest => Separate item ∧ SeparateItems rest

def SeparateMembers : List (Text × Document) → Prop
  | [] => True
  | (_, value) :: rest => Separate value ∧ SeparateMembers rest

end

end Composed

/-! ## Canonical form -/

section Canonical

variable {tables : UnicodeTables}

theorem separateItems_iff {items : List Document} :
    SeparateItems tables items ↔ ∀ item ∈ items, Separate tables item := by
  induction items with
  | nil => simp [SeparateItems]
  | cons item rest ih => simp [SeparateItems, ih]

theorem separateMembers_iff {members : List (Text × Document)} :
    SeparateMembers tables members ↔ ∀ member ∈ members, Separate tables member.2 := by
  induction members with
  | nil => simp [SeparateMembers]
  | cons member rest ih => simp [SeparateMembers, ih]

theorem composed_keys (members : List (String × Json)) :
    ((ofMembers members).map fun member => composed tables member.1) =
      (members.map fun member => tables.nfc member.1).map ofString := by
  rw [ofMembers_eq, List.map_map, List.map_map]
  exact List.map_congr_left fun member _ => composed_ofString tables member.1

mutual

/-- A value has a canonical form as soon as its keys are separate. -/
theorem normalize_of_separate : (value : Json) → Separate tables (ofJson value) →
    ∃ normalized, normalize tables value = .ok normalized
  | .null, _ => ⟨_, rfl⟩
  | .bool _, _ => ⟨_, rfl⟩
  | .int _, _ => ⟨_, rfl⟩
  | .float _, _ => ⟨_, rfl⟩
  | .str _, _ => ⟨_, rfl⟩
  | .arr items, separate => by
      rw [ofJson, Separate] at separate
      exact normalize_arr_ok (normalizeItems_of_separate items separate)
  | .obj members, separate => by
      rw [ofJson, Separate, composed_keys] at separate
      have distinct := separate.1.of_map
      obtain ⟨result, done⟩ := @normalizeMembers_ok tables [] members
        (fun _ _ => List.not_mem_nil) distinct (normalizeMembers_of_separate members separate.2)
      exact ⟨.obj (sortMembers result), by simp [Domain.Hashing.normalize, done]⟩

theorem normalizeItems_of_separate : (items : List Json) →
    SeparateItems tables (ofItems items) →
    ∀ item ∈ items, ∃ normalized, normalize tables item = .ok normalized
  | [], _, _, member => by cases member
  | item :: rest, separate, inner, member => by
      rw [ofItems, SeparateItems] at separate
      rcases List.mem_cons.mp member with same | later
      · rw [same]
        exact normalize_of_separate item separate.1
      · exact normalizeItems_of_separate rest separate.2 inner later

theorem normalizeMembers_of_separate : (members : List (String × Json)) →
    SeparateMembers tables (ofMembers members) →
    ∀ member ∈ members, ∃ normalized, normalize tables member.2 = .ok normalized
  | [], _, _, member => by cases member
  | (key, value) :: rest, separate, inner, member => by
      rw [ofMembers, SeparateMembers] at separate
      rcases List.mem_cons.mp member with same | later
      · rw [same]
        exact normalize_of_separate value separate.1
      · exact normalizeMembers_of_separate rest separate.2 inner later

end

/-- The items of an array are normalized each for itself. -/
theorem normalizeItems_forall {items normalized : List Json}
    (done : normalizeItems tables items = .ok normalized) :
    List.Forall₂ (fun item read => normalize tables item = .ok read) items normalized := by
  induction items generalizing normalized with
  | nil =>
      cases done
      exact .nil
  | cons item rest ih =>
      rw [normalizeItems] at done
      simp only [bind_eq_ok, Except.ok.injEq] at done
      obtain ⟨first, known, others, later, rfl⟩ := done
      exact .cons known (ih later)

theorem normalizeMembers_forall {seen : List String} {members normalized : List (String × Json)}
    (done : normalizeMembers tables seen members = .ok normalized) :
    List.Forall₂ (fun member read => read.1 = tables.nfc member.1 ∧
      normalize tables member.2 = .ok read.2) members normalized := by
  induction members generalizing seen normalized with
  | nil =>
      cases done
      exact .nil
  | cons member rest ih =>
      obtain ⟨key, value⟩ := member
      rw [normalizeMembers] at done
      simp only [bind_eq_ok, require_eq_ok, Except.ok.injEq] at done
      obtain ⟨_, _, first, known, others, later, rfl⟩ := done
      exact .cons ⟨rfl, known⟩ (ih later)

theorem normalize_arr {items : List Json} {normalized : Json}
    (done : normalize tables (.arr items) = .ok normalized) :
    ∃ read, normalized = .arr read ∧
      List.Forall₂ (fun item read => normalize tables item = .ok read) items read := by
  simp only [Domain.Hashing.normalize, bind_eq_ok, Except.ok.injEq] at done
  obtain ⟨read, known, rfl⟩ := done
  exact ⟨read, rfl, normalizeItems_forall known⟩

theorem normalize_obj {members : List (String × Json)} {normalized : Json}
    (done : normalize tables (.obj members) = .ok normalized) :
    ∃ read, normalized = .obj (sortMembers read) ∧ (read.map Prod.fst).Nodup ∧
      List.Forall₂ (fun member read => read.1 = tables.nfc member.1 ∧
        normalize tables member.2 = .ok read.2) members read := by
  simp only [Domain.Hashing.normalize, bind_eq_ok, Except.ok.injEq] at done
  obtain ⟨read, known, rfl⟩ := done
  exact ⟨read, rfl, (normalizeMembers_keys known).1, normalizeMembers_forall known⟩

/-- What holds of a value and its canonical form: leaf by leaf, and for containers as soon as
it holds of their parts. -/
structure Canonizes (tables : UnicodeTables) (motive : Json → Json → Prop) : Prop where
  null : motive .null .null
  bool : ∀ value, motive (.bool value) (.bool value)
  int : ∀ value, motive (.int value) (.int value)
  float : ∀ value, motive (.float value) (.float value)
  str : ∀ text, motive (.str text) (.str (tables.nfc text))
  arr : ∀ items read, List.Forall₂ motive items read → motive (.arr items) (.arr read)
  obj : ∀ members read, (read.map Prod.fst).Nodup →
    List.Forall₂ (fun member read => read.1 = tables.nfc member.1 ∧ motive member.2 read.2)
      members read → motive (.obj members) (.obj (sortMembers read))

mutual

theorem Canonizes.of_normalize {motive : Json → Json → Prop} (holds : Canonizes tables motive) :
    (value : Json) → (normalized : Json) → normalize tables value = .ok normalized →
      motive value normalized
  | .null, _, done => by cases done; exact holds.null
  | .bool value, _, done => by cases done; exact holds.bool value
  | .int value, _, done => by cases done; exact holds.int value
  | .float value, _, done => by cases done; exact holds.float value
  | .str text, _, done => by cases done; exact holds.str text
  | .arr items, _, done => by
      obtain ⟨read, rfl, pairs⟩ := normalize_arr done
      exact holds.arr items read (holds.of_normalizeItems items read pairs)
  | .obj members, _, done => by
      obtain ⟨read, rfl, distinct, pairs⟩ := normalize_obj done
      exact holds.obj members read distinct (holds.of_normalizeMembers members read pairs)

theorem Canonizes.of_normalizeItems {motive : Json → Json → Prop}
    (holds : Canonizes tables motive) : (items read : List Json) →
    List.Forall₂ (fun item read => normalize tables item = .ok read) items read →
    List.Forall₂ motive items read
  | [], _, pairs => by cases pairs; exact .nil
  | item :: rest, [], pairs => by cases pairs
  | item :: rest, first :: others, pairs => by
      rw [List.forall₂_cons] at pairs
      exact .cons (holds.of_normalize item first pairs.1)
        (holds.of_normalizeItems rest others pairs.2)

theorem Canonizes.of_normalizeMembers {motive : Json → Json → Prop}
    (holds : Canonizes tables motive) : (members read : List (String × Json)) →
    List.Forall₂ (fun member read => read.1 = tables.nfc member.1 ∧
      normalize tables member.2 = .ok read.2) members read →
    List.Forall₂ (fun member read => read.1 = tables.nfc member.1 ∧ motive member.2 read.2)
      members read
  | [], _, pairs => by cases pairs; exact .nil
  | member :: rest, [], pairs => by cases pairs
  | (key, value) :: rest, first :: others, pairs => by
      rw [List.forall₂_cons] at pairs
      exact .cons ⟨pairs.1.1, holds.of_normalize value first.2 pairs.1.2⟩
        (holds.of_normalizeMembers rest others pairs.2)

end

theorem read_keys {members read : List (String × Json)} {related : Json → Json → Prop}
    (pairs : List.Forall₂ (fun member read => read.1 = tables.nfc member.1 ∧
      related member.2 read.2) members read) :
    read.map Prod.fst = members.map fun member => tables.nfc member.1 := by
  induction pairs with
  | nil => rfl
  | cons first _ ih => rw [List.map_cons, List.map_cons, ih, first.1]

theorem mem_ofMembers {members : List (String × Json)} {key : Text} {value : Document} :
    (key, value) ∈ ofMembers members ↔
      ∃ member ∈ members, key = ofString member.1 ∧ value = ofJson member.2 := by
  rw [ofMembers_eq, List.mem_map]
  refine exists_congr fun member => and_congr_right fun _ => ?_
  rw [Prod.mk.injEq, eq_comm, @eq_comm _ (ofJson member.2)]

/-- Only a value with separate keys has a canonical form. -/
theorem separate_canonizes :
    Canonizes tables fun value _ => Separate tables (ofJson value) where
  null := trivial
  bool _ := trivial
  int _ := trivial
  float _ := trivial
  str _ := trivial
  arr items read pairs := by
    rw [ofJson, Separate, separateItems_iff, ofItems_eq, List.forall_mem_map]
    intro item member
    obtain ⟨_, _, separate⟩ := exists_right pairs member
    exact separate
  obj members read distinct pairs := by
    rw [ofJson, Separate, separateMembers_iff, composed_keys]
    have keys := @read_keys tables members read (fun value _ => Separate tables (ofJson value)) pairs
    refine ⟨(keys ▸ distinct).map ofString_injective, ?_⟩
    rintro ⟨key, value⟩ inside
    obtain ⟨member, there, rfl, rfl⟩ := mem_ofMembers.mp inside
    obtain ⟨_, _, _, separate⟩ := exists_right pairs there
    exact separate

theorem normalize_iff_separate {value : Json} :
    (∃ normalized, normalize tables value = .ok normalized) ↔ Separate tables (ofJson value) :=
  ⟨fun ⟨normalized, done⟩ => separate_canonizes.of_normalize value normalized done,
    normalize_of_separate value⟩

/-- The keys of the canonical form are those of the value, composed. -/
theorem keys_canonizes : Canonizes tables fun value normalized =>
    ∀ key, key ∈ (ofJson normalized).keys ↔
      ∃ name ∈ (ofJson value).keys, key = composed tables name where
  null key := by simp [ofJson, Document.keys]
  bool _ key := by simp [ofJson, Document.keys]
  int _ key := by simp [ofJson, Document.keys]
  float _ key := by simp [ofJson, Document.keys]
  str _ key := by simp [ofJson, Document.keys]
  arr items read pairs key := by
    rw [ofJson, ofJson, Document.keys, Document.keys, ofItems_eq, ofItems_eq]
    simp only [mem_itemKeys, List.mem_map, exists_exists_and_eq_and]
    constructor
    · rintro ⟨item, inside, member⟩
      obtain ⟨earlier, there, same⟩ := exists_left pairs inside
      obtain ⟨name, named, rfl⟩ := (same key).mp member
      exact ⟨name, ⟨earlier, there, named⟩, rfl⟩
    · rintro ⟨name, ⟨item, inside, named⟩, rfl⟩
      obtain ⟨later, there, same⟩ := exists_right pairs inside
      exact ⟨later, there, (same _).mpr ⟨name, named, rfl⟩⟩
  obj members read distinct pairs key := by
    rw [ofJson, ofJson, Document.keys, Document.keys]
    simp only [mem_memberKeys]
    constructor
    · rintro ⟨⟨name, value⟩, inside, member⟩
      obtain ⟨own, there, rfl, rfl⟩ := mem_ofMembers.mp inside
      obtain ⟨earlier, before, composes, same⟩ := exists_left pairs (mem_sortMembers.mp there)
      rcases member with rfl | deeper
      · exact ⟨ofString earlier.1, ⟨_, mem_ofMembers.mpr ⟨earlier, before, rfl, rfl⟩, .inl rfl⟩,
          by rw [composed_ofString, composes]⟩
      · obtain ⟨inner, named, rfl⟩ := (same key).mp deeper
        exact ⟨inner, ⟨_, mem_ofMembers.mpr ⟨earlier, before, rfl, rfl⟩, .inr named⟩, rfl⟩
    · rintro ⟨name, ⟨⟨outer, value⟩, inside, named⟩, rfl⟩
      obtain ⟨own, there, rfl, rfl⟩ := mem_ofMembers.mp inside
      obtain ⟨later, after, composes, same⟩ := exists_right pairs there
      have listed := mem_ofMembers.mpr ⟨later, mem_sortMembers.mpr after, rfl, rfl⟩
      rcases named with rfl | deeper
      · exact ⟨_, listed, .inl (by rw [composed_ofString, composes])⟩
      · exact ⟨_, listed, .inr ((same _).mpr ⟨name, deeper, rfl⟩)⟩

theorem distinctItems_iff {items : List Document} :
    DistinctItems items ↔ ∀ item ∈ items, item.Distinct := by
  induction items with
  | nil => simp [DistinctItems]
  | cons item rest ih => simp [DistinctItems, ih]

theorem distinctMembers_iff {members : List (Text × Document)} :
    DistinctMembers members ↔ ∀ member ∈ members, member.2.Distinct := by
  induction members with
  | nil => simp [DistinctMembers]
  | cons member rest ih => simp [DistinctMembers, ih]

theorem distinct_canonizes :
    Canonizes tables fun _ normalized => (ofJson normalized).Distinct where
  null := trivial
  bool _ := trivial
  int _ := trivial
  float _ := trivial
  str _ := trivial
  arr items read pairs := by
    rw [ofJson, Document.Distinct, distinctItems_iff, ofItems_eq, List.forall_mem_map]
    intro item member
    obtain ⟨_, _, distinct⟩ := exists_left pairs member
    exact distinct
  obj members read distinct pairs := by
    rw [ofJson, Document.Distinct, distinctMembers_iff, ofMembers_keys]
    have sorted := (((sortMembers_perm read).map Prod.fst).nodup_iff.mpr distinct)
    refine ⟨sorted.map ofString_injective, ?_⟩
    rintro ⟨key, value⟩ inside
    obtain ⟨member, there, rfl, rfl⟩ := mem_ofMembers.mp inside
    obtain ⟨_, _, _, deeper⟩ := exists_left pairs (mem_sortMembers.mp there)
    exact deeper

theorem within_canonizes {decoder : Decoder} : Canonizes tables fun value normalized =>
    ∀ room, Within decoder room (ofJson value) → Within decoder room (ofJson normalized) where
  null _ within := within
  bool _ _ within := within
  int _ _ within := within
  float _ _ within := within
  str _ _ _ := trivial
  arr items read pairs room within := by
    rw [ofJson, Within, withinItems_iff, ofItems_eq, List.forall_mem_map] at within ⊢
    refine ⟨within.1, fun item member => ?_⟩
    obtain ⟨earlier, there, keeps⟩ := exists_left pairs member
    exact keeps _ (within.2 earlier there)
  obj members read distinct pairs room within := by
    rw [ofJson, Within, withinMembers_iff] at within ⊢
    refine ⟨within.1, ?_⟩
    rintro ⟨key, value⟩ inside
    obtain ⟨member, there, rfl, rfl⟩ := mem_ofMembers.mp inside
    obtain ⟨earlier, before, _, keeps⟩ := exists_left pairs (mem_sortMembers.mp there)
    exact keeps _ (within.2 _ (mem_ofMembers.mpr ⟨earlier, before, rfl, rfl⟩))

end Canonical

/-! ## Kept fields -/

section Kept

variable (tables : UnicodeTables)

def SameStep : Step → Step → Prop
  | .key left, .key right => composed tables left = composed tables right
  | .index left, .index right => left = right
  | _, _ => False

/-- Leaves are alike up to composition, and containers in their kind. -/
def Alike : Document → Document → Prop
  | .str left, .str right => composed tables left = composed tables right
  | .arr _, .arr _ => True
  | .obj _, .obj _ => True
  | left, right => left = right

/-- Whatever is neither private nor inside of something private is found where it was. -/
def Kept (before after : Document) : Prop :=
  ∀ path value, before.at path = some value →
    (∀ step ∈ path, step.shown isPrivateEvidenceKey = true) →
    ∃ path' value', List.Forall₂ (SameStep tables) path path' ∧ after.at path' = some value' ∧
      Alike tables value value'

end Kept

variable {tables : UnicodeTables}

theorem SameStep.refl (step : Step) : SameStep tables step step := by
  cases step <;> rfl

theorem Alike.refl (document : Document) : Alike tables document document := by
  cases document <;> first | rfl | trivial

theorem Alike.of_without {hidden : Text → Bool} {document after : Document}
    (alike : Alike tables (document.without hidden) after) : Alike tables document after := by
  cases document with
  | arr items => cases after <;> trivial
  | obj members => cases after <;> trivial
  | _ => exact alike

theorem Kept.refl (document : Document) : Kept tables document document := by
  intro path value there _
  exact ⟨path, value, List.forall₂_same.mpr fun step _ => SameStep.refl step, there,
    Alike.refl value⟩

theorem lookup_of_mem {members : List (Text × Document)} {key : Text} {value : Document}
    (distinct : (members.map Prod.fst).Nodup) (member : (key, value) ∈ members) :
    members.lookup key = some value := by
  induction members with
  | nil => cases member
  | cons first rest ih =>
      obtain ⟨name, own⟩ := first
      rw [List.map_cons, List.nodup_cons] at distinct
      rcases List.mem_cons.mp member with same | later
      · cases same
        rw [List.lookup_cons, beq_self_eq_true]
      · have differs : (key == name) = false := by
          rw [beq_eq_false_iff_ne]
          rintro rfl
          exact distinct.1 (List.mem_map.mpr ⟨_, later, rfl⟩)
        rw [List.lookup_cons, differs]
        exact ih distinct.2 later

theorem mem_of_lookup {members : List (Text × Document)} {key : Text} {value : Document}
    (found : members.lookup key = some value) : (key, value) ∈ members := by
  obtain ⟨before, after, split, _⟩ := List.lookup_eq_some_iff.mp found
  rw [split]
  exact List.mem_append_right _ List.mem_cons_self

/-- Two leaves that are alike are alike at every path, of which only the empty one leads
anywhere. -/
theorem at_leaf {one two inner : Document} {path : List Step}
    (ends : ∀ step rest, one.at (step :: rest) = none) (alike : Alike tables one two)
    (there : one.at path = some inner) :
    ∃ path' inner', List.Forall₂ (SameStep tables) path path' ∧ two.at path' = some inner' ∧
      Alike tables inner inner' := by
  cases path with
  | nil =>
      rw [Document.at, Option.some.injEq] at there
      exact ⟨[], two, .nil, by rw [Document.at], there ▸ alike⟩
  | cons step rest =>
      rw [ends step rest] at there
      cases there

/-- A path into a value leads to the same in its canonical form. -/
theorem at_canonizes : Canonizes tables fun value normalized =>
    ∀ path inner, (ofJson value).at path = some inner →
      ∃ path' inner', List.Forall₂ (SameStep tables) path path' ∧
        (ofJson normalized).at path' = some inner' ∧ Alike tables inner inner' where
  null _ _ := at_leaf (fun step _ => by cases step <;> rfl) rfl
  bool _ _ _ := at_leaf (fun step _ => by cases step <;> rfl) rfl
  int _ _ _ := at_leaf (fun step _ => by cases step <;> rfl) rfl
  float _ _ _ := at_leaf (fun step _ => by cases step <;> rfl) rfl
  str text _ _ := at_leaf (fun step _ => by cases step <;> rfl) (by
    rw [ofJson, ofJson, Alike, composed_ofString, composed_ofString, tables.nfc_nfc])
  arr items read pairs path inner there := by
    rw [ofJson] at there ⊢
    cases path with
    | nil =>
        rw [Document.at, Option.some.injEq] at there
        subst there
        exact ⟨[], .arr (ofItems read), .nil, by rw [Document.at], trivial⟩
    | cons step rest =>
        cases step with
        | key name => cases there
        | index index =>
            rw [Document.at, Option.bind_eq_some_iff] at there
            obtain ⟨item, found, deeper⟩ := there
            rw [ofItems_eq, List.getElem?_map, Option.map_eq_some_iff] at found
            obtain ⟨own, place, rfl⟩ := found
            obtain ⟨later, found', same⟩ := exists_at pairs place
            obtain ⟨path', inner', steps, leads, alike⟩ := same rest inner deeper
            refine ⟨.index index :: path', inner', .cons rfl steps, ?_, alike⟩
            rw [Document.at, ofItems_eq, List.getElem?_map, found']
            exact leads
  obj members read distinct pairs path inner there := by
    rw [ofJson] at there ⊢
    cases path with
    | nil =>
        rw [Document.at, Option.some.injEq] at there
        subst there
        exact ⟨[], .obj (ofMembers (sortMembers read)), .nil, by rw [Document.at], trivial⟩
    | cons step rest =>
        cases step with
        | index index => cases there
        | key name =>
            rw [Document.at, Option.bind_eq_some_iff] at there
            obtain ⟨value, found, deeper⟩ := there
            obtain ⟨member, inside, rfl, rfl⟩ := mem_ofMembers.mp (mem_of_lookup found)
            obtain ⟨later, after, composes, same⟩ := exists_right pairs inside
            obtain ⟨path', inner', steps, leads, alike⟩ := same rest inner deeper
            have listed := mem_ofMembers.mpr ⟨later, mem_sortMembers.mpr after, rfl, rfl⟩
            have distinct' : ((ofMembers (sortMembers read)).map Prod.fst).Nodup := by
              rw [ofMembers_keys]
              exact (((sortMembers_perm read).map Prod.fst).nodup_iff.mpr distinct).map
                ofString_injective
            refine ⟨.key (ofString later.1) :: path', inner', .cons ?_ steps, ?_, alike⟩
            · rw [SameStep, composed_ofString, composed_ofString, composes, tables.nfc_nfc]
            · rw [Document.at, lookup_of_mem distinct' listed]
              exact leads

/-! ## Publication -/

section Publication

variable {interpreter : Interpreter} {record : EvidenceRecord} {text : String}

/-- No object of the document has a private key, at any depth and in any occurrence. -/
def Clean (document : Document) : Prop :=
  ∀ key ∈ document.keys, isPrivateEvidenceKey key = false

/-- Publication returns, and a published text that is JSON shows no private key and keeps every
other field. -/
def HidesPrivateFields (interpreter : Interpreter) (record : EvidenceRecord) : Prop :=
  ∃ published, publishedEvidence interpreter record = .ok published ∧
    ∀ after, Documents.read interpreter.decoder published.text.toList = .ok after →
      Clean after ∧
      ∀ before, Documents.read interpreter.decoder record.sanitizedText.toList = .ok before →
        Kept interpreter.tables before.parsed after.parsed

/-- What is left of a value can be written, and no key of it becomes private by composition. -/
structure Writable (interpreter : Interpreter) (redacted : Document) : Prop where
  shallow : redacted.calls ≤ interpreter.normalizeCalls
  plain : redacted.toJson.isSome = true
  separate : Separate interpreter.tables redacted
  remains : ∀ key ∈ redacted.keys, isPrivateEvidenceKey (composed interpreter.tables key) = false

/-- The conditions on a text that is JSON: what is left of it is nested no deeper than the
interpreter allows, it is not the number that differs from itself, what is left can be written
where something private is taken out, and otherwise its repeated keys hide nothing private. -/
structure Publishable (interpreter : Interpreter) (document : Document) : Prop where
  shallow : (withoutPrivateEvidenceFields document.parsed).calls ≤ interpreter.redactCalls
  number : document ≠ .nonFinite .nan
  writable : ¬ Clean document.parsed →
    Writable interpreter (withoutPrivateEvidenceFields document.parsed)
  hidesNothing : Clean document.parsed → Clean document

/-- The marker is no JSON text. -/
theorem read_marker (decoder : Decoder) :
    ∀ document, Documents.read decoder redactionMarker.toList ≠ .ok document := by
  intro document done
  have marker : redactionMarker.toList = '[' :: 'P' :: redactionMarker.toList.drop 2 := by
    decide
  have open' : step decoder ⟨.value, []⟩ '[' = .ok ⟨.item, [.array []]⟩ := by
    have room : 0 < decoder.maxDepth := by
      have roomy := decoder.roomy.2
      omega
    exact if_pos room
  have refused : step decoder ⟨.item, [.array []]⟩ 'P' = .error .malformed := rfl
  rw [Documents.read, marker, List.foldlM_cons, open'] at done
  cases done

theorem parsed_nan {document : Document} :
    document.parsed = .nonFinite .nan ↔ document = .nonFinite .nan := by
  cases document <;> simp [Document.parsed]

/-- The redacted value differs where something private is visible, and where it is no number. -/
theorem differs_iff {structured : Document} :
    differs (withoutPrivateEvidenceFields structured) structured = true ↔
      structured = .nonFinite .nan ∨ ¬ Clean structured := by
  have unequal : (!(withoutPrivateEvidenceFields structured).equals structured) = true ↔
      ¬ Clean structured := by
    rw [Bool.not_eq_true', ← Bool.not_eq_true, equals_iff, withoutPrivateEvidenceFields,
      without_eq_self_iff]
    exact Iff.rfl
  unfold differs
  split
  · exact iff_of_true rfl (.inl rfl)
  · rename_i number
    rw [unequal]
    exact (or_iff_right fun same => number same).symm

theorem canonicalDocument_ok {redacted : Document} {bytes : Bytes} :
    canonicalDocument interpreter redacted = .ok bytes ↔
      redacted.calls ≤ interpreter.normalizeCalls ∧ ∃ value normalized,
        redacted = ofJson value ∧ normalize interpreter.tables value = .ok normalized ∧
          encode normalized = bytes := by
  unfold canonicalDocument
  rw [bind_eq_ok]
  simp only [require_eq_ok, exists_and_right, exists_const]
  refine and_congr_right fun _ => ?_
  cases known : redacted.toJson with
  | none =>
      have impossible : ∀ value, redacted ≠ ofJson value := by
        intro value same
        rw [toJson_eq_some.mpr same] at known
        cases known
      dsimp only
      refine iff_of_false ?_ ?_
      · split
        · exact fun done => by cases done
        · exact fun done => by cases done
      · rintro ⟨value, _, same, _⟩
        exact impossible value same
  | some value =>
      have same := toJson_eq_some.mp known
      dsimp only
      rw [canonicalJson, bind_eq_ok]
      constructor
      · rintro ⟨normalized, done, written⟩
        exact ⟨value, normalized, same, done, Except.ok.inj written⟩
      · rintro ⟨other, normalized, same', done, rfl⟩
        rw [toJson_eq_some.mpr same', Option.some.injEq] at known
        exact ⟨normalized, known ▸ done, rfl⟩

theorem publishedText_json {document : Document} {shown : String} {added : List String}
    (known : Documents.read interpreter.decoder text.toList = .ok document) :
    publishedText interpreter text = .ok (shown, added) ↔
      (withoutPrivateEvidenceFields document.parsed).calls ≤ interpreter.redactCalls ∧
        if differs (withoutPrivateEvidenceFields document.parsed) document.parsed = true then
          ∃ bytes, canonicalDocument interpreter (withoutPrivateEvidenceFields document.parsed) =
            .ok bytes ∧ decodeUtf8 bytes = some shown ∧ added = [redactionTag]
        else shown = text ∧ added = [] := by
  rw [publishedText, known]
  dsimp only
  rw [bind_eq_ok]
  simp only [require_eq_ok, exists_and_right, exists_const]
  refine and_congr_right fun _ => ?_
  split
  · rw [bind_eq_ok]
    refine exists_congr fun bytes => and_congr_right fun _ => ?_
    cases decodeUtf8 bytes with
    | none => exact iff_of_false (fun done => by cases done) (fun impossible => by cases impossible.1)
    | some canonical => simp [eq_comm]
  · simp [eq_comm]

theorem publishedEvidence_text {published : EvidenceDto}
    (done : publishedEvidence interpreter record = .ok published) :
    ∃ added, publishedText interpreter record.sanitizedText = .ok (published.text, added) := by
  rw [publishedEvidence, bind_eq_ok] at done
  obtain ⟨⟨shown, added⟩, known, built⟩ := done
  cases built
  exact ⟨added, known⟩

theorem publishedEvidence_of_text {shown : String} {added : List String}
    (known : publishedText interpreter record.sanitizedText = .ok (shown, added)) :
    ∃ published, publishedEvidence interpreter record = .ok published ∧
      published.text = shown := by
  rw [publishedEvidence, known]
  exact ⟨_, rfl, rfl⟩

/-- What is left of a value is read back in canonical form, with its fields in place. -/
theorem canonical_read {document : Document} {text : List Char}
    (known : Documents.read interpreter.decoder text = .ok document) {value normalized : Json}
    (left : withoutPrivateEvidenceFields document.parsed = ofJson value)
    (canonical : normalize interpreter.tables value = .ok normalized) :
    Documents.read interpreter.decoder (write normalized) = .ok (ofJson normalized) ∧
      Kept interpreter.tables document.parsed (ofJson normalized).parsed ∧
      (Clean (ofJson normalized) ↔ ∀ key ∈ (withoutPrivateEvidenceFields document.parsed).keys,
        isPrivateEvidenceKey (composed interpreter.tables key) = false) := by
  have within : Within interpreter.decoder interpreter.decoder.maxDepth (ofJson value) := by
    rw [← left]
    exact within_without _ _ (within_parsed _ _ (within_read known))
  refine ⟨?_, ?_, ?_⟩
  · exact read_write (readable_of_within normalized _
      (within_canonizes.of_normalize value normalized canonical _ within))
  · rw [parsed_of_distinct _ (distinct_canonizes.of_normalize value normalized canonical)]
    intro path inner there shown
    have kept := at_without shown there
    rw [← withoutPrivateEvidenceFields, left] at kept
    obtain ⟨path', inner', steps, leads, alike⟩ :=
      at_canonizes.of_normalize value normalized canonical path _ kept
    exact ⟨path', inner', steps, leads, alike.of_without⟩
  · rw [left]
    have keys := keys_canonizes.of_normalize value normalized canonical
    constructor
    · intro clean key member
      exact clean _ ((keys _).mpr ⟨key, member, rfl⟩)
    · intro remains key member
      obtain ⟨name, named, rfl⟩ := (keys key).mp member
      exact remains name named

theorem decodeUtf8_encode (value : Json) :
    decodeUtf8 (encode value) = some (String.ofList (write value)) := by
  rw [encode, decodeUtf8_utf8]

/-- Something private is visible, and it is taken out. -/
theorem hides_iff_of_differs {document : Document}
    (known : Documents.read interpreter.decoder record.sanitizedText.toList = .ok document)
    (visible : differs (withoutPrivateEvidenceFields document.parsed) document.parsed = true) :
    HidesPrivateFields interpreter record ↔
      (withoutPrivateEvidenceFields document.parsed).calls ≤ interpreter.redactCalls ∧
        Writable interpreter (withoutPrivateEvidenceFields document.parsed) := by
  constructor
  · rintro ⟨published, done, hides⟩
    obtain ⟨added, text⟩ := publishedEvidence_text done
    rw [publishedText_json known, if_pos visible] at text
    obtain ⟨shallow, bytes, written, decoded, _⟩ := text
    obtain ⟨deep, value, normalized, left, canonical, rfl⟩ := canonicalDocument_ok.mp written
    rw [decodeUtf8_encode, Option.some.injEq] at decoded
    obtain ⟨readBack, _, clean⟩ := canonical_read known left canonical
    refine ⟨shallow, deep, ?_, ?_, ?_⟩
    · rw [left, toJson_ofJson]
      rfl
    · rw [left]
      exact normalize_iff_separate.mp ⟨normalized, canonical⟩
    · refine clean.mp (hides _ ?_).1
      rw [← decoded, String.toList_ofList]
      exact readBack
  · rintro ⟨shallow, deep, plain, separate, remains⟩
    obtain ⟨value, some⟩ := Option.isSome_iff_exists.mp plain
    have left := toJson_eq_some.mp some
    rw [left] at separate
    obtain ⟨normalized, canonical⟩ := normalize_iff_separate.mpr separate
    obtain ⟨readBack, kept, clean⟩ := canonical_read known left canonical
    have written := canonicalDocument_ok.mpr ⟨deep, value, normalized, left, canonical, rfl⟩
    have text : publishedText interpreter record.sanitizedText =
        .ok (String.ofList (write normalized), [redactionTag]) := by
      rw [publishedText_json known, if_pos visible]
      exact ⟨shallow, _, written, decodeUtf8_encode normalized, rfl⟩
    obtain ⟨published, done, shown⟩ := publishedEvidence_of_text text
    refine ⟨published, done, fun after read => ?_⟩
    rw [shown, String.toList_ofList, readBack, Except.ok.injEq] at read
    subst read
    refine ⟨clean.mpr remains, fun before read => ?_⟩
    rw [known, Except.ok.injEq] at read
    exact read ▸ kept

/-- Nothing private is visible, and the text is published as it stands. -/
theorem hides_iff_of_same {document : Document}
    (known : Documents.read interpreter.decoder record.sanitizedText.toList = .ok document)
    (same : differs (withoutPrivateEvidenceFields document.parsed) document.parsed = false) :
    HidesPrivateFields interpreter record ↔
      (withoutPrivateEvidenceFields document.parsed).calls ≤ interpreter.redactCalls ∧
        Clean document := by
  have unchanged : ¬ differs (withoutPrivateEvidenceFields document.parsed) document.parsed =
      true := by
    rw [same]
    decide
  constructor
  · rintro ⟨published, done, hides⟩
    obtain ⟨added, text⟩ := publishedEvidence_text done
    rw [publishedText_json known, if_neg unchanged] at text
    obtain ⟨shallow, shown, _⟩ := text
    exact ⟨shallow, (hides document (shown ▸ known)).1⟩
  · rintro ⟨shallow, clean⟩
    have text : publishedText interpreter record.sanitizedText =
        .ok (record.sanitizedText, []) := by
      rw [publishedText_json known, if_neg unchanged]
      exact ⟨shallow, rfl, rfl⟩
    obtain ⟨published, done, shown⟩ := publishedEvidence_of_text text
    refine ⟨published, done, fun after read => ?_⟩
    rw [shown, known, Except.ok.injEq] at read
    subst read
    refine ⟨clean, fun before read => ?_⟩
    rw [known, Except.ok.injEq] at read
    exact read ▸ Kept.refl _

/-- A text that is not JSON is published, or replaced as a whole, unless the reader gives up. -/
theorem hides_iff_of_error {flaw : Flaw}
    (known : Documents.read interpreter.decoder record.sanitizedText.toList = .error flaw) :
    HidesPrivateFields interpreter record ↔ flaw ≠ .nesting := by
  constructor
  · rintro ⟨published, done, _⟩ rfl
    obtain ⟨added, text⟩ := publishedEvidence_text done
    rw [publishedText, known] at text
    cases text
  · intro caught
    obtain ⟨shown, added, text, unread⟩ : ∃ shown added,
        publishedText interpreter record.sanitizedText = .ok (shown, added) ∧
          ∀ after, Documents.read interpreter.decoder shown.toList ≠ .ok after := by
      unfold publishedText
      rw [known]
      cases flaw with
      | nesting => exact absurd rfl caught
      | _ =>
          dsimp only
          split
          · exact ⟨_, _, rfl, read_marker _⟩
          · refine ⟨_, _, rfl, fun after read => ?_⟩
            rw [known] at read
            cases read
    obtain ⟨published, done, same⟩ := publishedEvidence_of_text text
    exact ⟨published, done, fun after read => absurd (same ▸ read) (unread after)⟩

/-- Private fields are hidden, and the others kept, exactly on publishable texts. -/
theorem hidesPrivateFields_iff (interpreter : Interpreter) (record : EvidenceRecord) :
    HidesPrivateFields interpreter record ↔
      match Documents.read interpreter.decoder record.sanitizedText.toList with
      | .error flaw => flaw ≠ .nesting
      | .ok document => Publishable interpreter document := by
  split
  · rename_i flaw known
    exact hides_iff_of_error known
  · rename_i document known
    cases differing : differs (withoutPrivateEvidenceFields document.parsed) document.parsed with
    | true =>
        rw [hides_iff_of_differs known differing]
        constructor
        · rintro ⟨shallow, writable⟩
          refine ⟨shallow, ?_, fun _ => writable, ?_⟩
          · rintro rfl
            exact absurd writable.plain (by decide)
          · intro clean
            rcases differs_iff.mp differing with number | dirty
            · rw [parsed_nan.mp number] at writable
              exact absurd writable.plain (by decide)
            · exact absurd clean dirty
        · rintro ⟨shallow, number, writable, _⟩
          rcases differs_iff.mp differing with same | dirty
          · exact absurd (parsed_nan.mp same) number
          · exact ⟨shallow, writable dirty⟩
    | false =>
        rw [hides_iff_of_same known differing]
        have clean : Clean document.parsed := by
          by_contra dirty
          rw [differs_iff.mpr (.inr dirty)] at differing
          cases differing
        constructor
        · rintro ⟨shallow, whole⟩
          refine ⟨shallow, ?_, fun dirty => absurd clean dirty, fun _ => whole⟩
          rintro rfl
          cases differing
        · rintro ⟨shallow, _, _, hidesNothing⟩
          exact ⟨shallow, hidesNothing clean⟩

end Publication

/-! ## A repeated key -/

def sampleInterpreter : Interpreter := ⟨.asciiOnly, .plain, 900, 900⟩

/-- The second member under its key hides the first one from the filter. -/
def repeatedKeyRecord : EvidenceRecord where
  id := "evidence-1"
  incidentId := "incident-1"
  kind := .log
  provenance := "service log"
  sanitizedText := "\x7b\"a\":\x7b\"token\":\"x\"\x7d,\"a\":1\x7d"
  rawSha256 := byteSha256 []
  sanitizedSha256 := byteSha256 []
  envelopeJson := []
  tags := []
  published := true
  createdAt := .epoch

set_option maxRecDepth 20000 in
/-- The text is published as it stands, and its first member shows a token. -/
theorem repeatedKey_discloses :
    (publishedEvidence sampleInterpreter repeatedKeyRecord).map (·.text) =
        .ok repeatedKeyRecord.sanitizedText ∧
      ¬ HidesPrivateFields sampleInterpreter repeatedKeyRecord := by
  have text : (publishedText sampleInterpreter repeatedKeyRecord.sanitizedText).toOption =
      some (repeatedKeyRecord.sanitizedText, []) := by
    decide +kernel
  have dirty : ((Documents.read sampleInterpreter.decoder
      repeatedKeyRecord.sanitizedText.toList).toOption.any fun document =>
        document.keys.any isPrivateEvidenceKey) = true := by
    decide +kernel
  cases shown : publishedText sampleInterpreter repeatedKeyRecord.sanitizedText with
  | error error =>
      rw [shown] at text
      cases text
  | ok result =>
      rw [shown, Except.toOption, Option.some.injEq] at text
      subst text
      refine ⟨by rw [publishedEvidence, shown]; rfl, ?_⟩
      rintro ⟨published, done, hides⟩
      obtain ⟨added, same⟩ := publishedEvidence_text done
      rw [shown, Except.ok.injEq, Prod.mk.injEq] at same
      cases known : Documents.read sampleInterpreter.decoder
          repeatedKeyRecord.sanitizedText.toList with
      | error flaw =>
          rw [known] at dirty
          cases dirty
      | ok document =>
          rw [known, Except.toOption, Option.any_some, List.any_eq_true] at dirty
          obtain ⟨key, member, hidden⟩ := dirty
          rw [(hides document (same.1 ▸ known)).1 key member] at hidden
          cases hidden

end CrossPatch.Runtime.Redaction
