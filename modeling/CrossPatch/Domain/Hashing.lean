import CrossPatch.Domain.Text
import CrossPatch.Library.Calendar
import CrossPatch.Library.JsonText
import CrossPatch.Library.Sha256

/-!
# Canonical byte encoding

`canonicalJson` normalizes text, refuses keys that become equal, sorts the
members and writes compact UTF-8.  Equal canonical bytes mean equal normalized
values, member by member.
-/

namespace CrossPatch.Domain.Hashing

open CrossPatch.Domain.Failure CrossPatch.Domain.Text
open CrossPatch.Library.Attempt CrossPatch.Library.Calendar CrossPatch.Library.JsonText
open CrossPatch.Library.Octets CrossPatch.Library.Sha256

def sortMembers (members : List (String × Json)) : List (String × Json) :=
  members.insertionSort fun left right => left.1 ≤ right.1

theorem sortMembers_perm (members : List (String × Json)) : (sortMembers members).Perm members :=
  List.perm_insertionSort _ members

theorem mem_sortMembers {members : List (String × Json)} {member : String × Json} :
    member ∈ sortMembers members ↔ member ∈ members :=
  (sortMembers_perm members).mem_iff

mutual

/-- Members in the order of their keys, at every depth. -/
def ordered : Json → Json
  | .arr items => .arr (orderedItems items)
  | .obj members => .obj (sortMembers (orderedMembers members))
  | value => value

def orderedItems : List Json → List Json
  | [] => []
  | item :: rest => ordered item :: orderedItems rest

def orderedMembers : List (String × Json) → List (String × Json)
  | [] => []
  | (key, value) :: rest => (key, ordered value) :: orderedMembers rest

end

/-- Equality of decoded values, which ignores the order of object members. -/
def sameValue (left right : Json) : Bool := decide (ordered left = ordered right)

section Normalization

variable (tables : UnicodeTables)

mutual

def normalize : Json → Attempt Json
  | .null => .ok .null
  | .bool value => .ok (.bool value)
  | .int value => .ok (.int value)
  | .float value => .ok (.float value)
  | .str text => .ok (.str (tables.nfc text))
  | .arr items => do
      let normalized ← normalizeItems items
      .ok (.arr normalized)
  | .obj members => do
      let normalized ← normalizeMembers [] members
      .ok (.obj (sortMembers normalized))

def normalizeItems : List Json → Attempt (List Json)
  | [] => .ok []
  | item :: rest => do
      let first ← normalize item
      let others ← normalizeItems rest
      .ok (first :: others)

def normalizeMembers (seen : List String) : List (String × Json) → Attempt (List (String × Json))
  | [] => .ok []
  | (key, value) :: rest => do
      require (tables.nfc key ∉ seen) ⟨.canonicalizationError,
        "duplicate key after Unicode normalization: " ++ tables.nfc key⟩
      let first ← normalize value
      let others ← normalizeMembers (tables.nfc key :: seen) rest
      .ok ((tables.nfc key, first) :: others)

end

@[simp]
theorem normalize_null : normalize tables .null = .ok .null := rfl

@[simp]
theorem normalize_bool (value : Bool) : normalize tables (.bool value) = .ok (.bool value) := rfl

@[simp]
theorem normalize_int (value : Int) : normalize tables (.int value) = .ok (.int value) := rfl

@[simp]
theorem normalize_str (text : String) :
    normalize tables (.str text) = .ok (.str (tables.nfc text)) := rfl

def canonicalJson (value : Json) : Attempt Bytes := do
  let normalized ← normalize tables value
  .ok (encode normalized)

def sha256Hex (value : Json) : Attempt String := do
  let bytes ← canonicalJson tables value
  .ok (hexdigest bytes)

end Normalization

def byteSha256 (data : Bytes) : String := hexdigest data

theorem hex_ascii (bytes : Bytes) : isAscii (hex bytes) = true :=
  isAscii_of_forall fun _ member =>
    isLowerHex_ascii (List.contains_iff_mem.mpr (mem_hex member))

theorem hexdigest_isSha256 (message : Bytes) : isSha256 (hexdigest message) = true := by
  rw [isSha256, Bool.and_eq_true, List.all_eq_true, length_hexdigest]
  exact ⟨rfl, fun _ member => List.contains_iff_mem.mpr (mem_hexdigest member)⟩

/-- Timestamps enter canonical JSON as UTC text with microseconds. -/
def timestampText (instant : Instant) : String := String.ofList (isoText instant ++ ['Z'])

theorem timestampText_injective {left right : Instant}
    (equal : timestampText left = timestampText right) : left = right := by
  have texts := String.ofList_injective equal
  exact isoText_injective (List.append_inj_left texts
    (by rw [length_isoText, length_isoText]))

theorem timestampText_ascii (instant : Instant) : isAscii (timestampText instant) = true := by
  apply isAscii_of_forall
  intro character member
  rw [timestampText, String.toList_ofList, List.mem_append, List.mem_singleton] at member
  rcases member with inside | rfl
  · exact isoText_ascii instant character inside
  · decide

/-! ## Normalized members -/

section Members

variable {tables : UnicodeTables}

theorem normalizeMembers_keys {seen : List String} {members result : List (String × Json)}
    (normalized : normalizeMembers tables seen members = .ok result) :
    (result.map Prod.fst).Nodup ∧ ∀ key ∈ seen, key ∉ result.map Prod.fst := by
  induction members generalizing seen result with
  | nil =>
      rw [normalizeMembers] at normalized
      cases normalized
      simp
  | cons member rest ih =>
      obtain ⟨key, value⟩ := member
      rw [normalizeMembers] at normalized
      simp only [bind_eq_ok, require_eq_ok, Except.ok.injEq] at normalized
      obtain ⟨_, fresh, first, _, others, remaining, rfl⟩ := normalized
      obtain ⟨distinct, disjoint⟩ := ih remaining
      refine ⟨List.nodup_cons.mpr ⟨disjoint _ List.mem_cons_self, distinct⟩, ?_⟩
      intro earlier member inside
      rcases List.mem_cons.mp inside with rfl | later
      · exact fresh member
      · exact disjoint earlier (List.mem_cons_of_mem _ member) later

theorem normalizeMembers_mem {seen : List String} {members result : List (String × Json)}
    (normalized : normalizeMembers tables seen members = .ok result)
    {key : String} {value : Json} (member : (key, value) ∈ members) :
    ∃ value', normalize tables value = .ok value' ∧ (tables.nfc key, value') ∈ result := by
  induction members generalizing seen result with
  | nil => cases member
  | cons head rest ih =>
      obtain ⟨headKey, headValue⟩ := head
      rw [normalizeMembers] at normalized
      simp only [bind_eq_ok, require_eq_ok, Except.ok.injEq] at normalized
      obtain ⟨_, _, first, firstOk, others, remaining, rfl⟩ := normalized
      rcases List.mem_cons.mp member with equal | later
      · cases equal
        exact ⟨first, firstOk, List.mem_cons_self⟩
      · obtain ⟨value', valueOk, inside⟩ := ih remaining later
        exact ⟨value', valueOk, List.mem_cons_of_mem _ inside⟩

/-- Values with one normal form. -/
def SameCanonical (tables : UnicodeTables) (left right : Json) : Prop :=
  ∃ normalized, normalize tables left = .ok normalized ∧ normalize tables right = .ok normalized

theorem SameCanonical.ofBytes {left right : Json} {bytes : Bytes}
    (leftOk : canonicalJson tables left = .ok bytes)
    (rightOk : canonicalJson tables right = .ok bytes) : SameCanonical tables left right := by
  simp only [canonicalJson, bind_eq_ok, Except.ok.injEq] at leftOk rightOk
  obtain ⟨first, firstOk, firstBytes⟩ := leftOk
  obtain ⟨second, secondOk, secondBytes⟩ := rightOk
  have equal : first = second := encode_injective (firstBytes.trans secondBytes.symm)
  exact ⟨first, firstOk, by rw [secondOk, equal]⟩

/-- Objects with one normal form have, under each key, values with one normal
form. -/
theorem SameCanonical.member {left right : List (String × Json)}
    (same : SameCanonical tables (.obj left) (.obj right))
    (key : String) {value value' : Json}
    (inLeft : (key, value) ∈ left) (inRight : (key, value') ∈ right) :
    SameCanonical tables value value' := by
  obtain ⟨normalized, leftOk, rightOk⟩ := same
  simp only [normalize, bind_eq_ok, Except.ok.injEq] at leftOk rightOk
  obtain ⟨members, membersOk, rfl⟩ := leftOk
  obtain ⟨members', membersOk', equalObjects⟩ := rightOk
  have sorted : sortMembers members' = sortMembers members := by
    injection equalObjects
  obtain ⟨common, commonOk, inside⟩ := normalizeMembers_mem membersOk inLeft
  obtain ⟨other, otherOk, inside'⟩ := normalizeMembers_mem membersOk' inRight
  have distinct : ((sortMembers members).map Prod.fst).Nodup :=
    ((sortMembers_perm members).map Prod.fst).nodup_iff.mpr
      (normalizeMembers_keys membersOk).1
  have memCommon : (tables.nfc key, common) ∈ sortMembers members :=
    mem_sortMembers.mpr inside
  have memOther : (tables.nfc key, other) ∈ sortMembers members := by
    rw [← sorted]
    exact mem_sortMembers.mpr inside'
  have equal : common = other := by
    have pairs := List.inj_on_of_nodup_map distinct memCommon memOther rfl
    exact congrArg Prod.snd pairs
  exact ⟨common, commonOk, equal ▸ otherOk⟩

theorem SameCanonical.str {left right : String}
    (same : SameCanonical tables (.str left) (.str right)) :
    tables.nfc left = tables.nfc right := by
  obtain ⟨normalized, leftOk, rightOk⟩ := same
  simp only [normalize, Except.ok.injEq] at leftOk rightOk
  exact Json.str.inj (leftOk.trans rightOk.symm)

/-- ASCII text is its own normal form. -/
theorem SameCanonical.ascii {left right : String}
    (same : SameCanonical tables (.str left) (.str right))
    (leftAscii : isAscii left = true) (rightAscii : isAscii right = true) : left = right := by
  have equal := same.str
  rwa [tables.nfc_ascii left leftAscii, tables.nfc_ascii right rightAscii] at equal

theorem normalizeItems_forall₂ {left right normalized : List Json}
    (leftOk : normalizeItems tables left = .ok normalized)
    (rightOk : normalizeItems tables right = .ok normalized) :
    List.Forall₂ (SameCanonical tables) left right := by
  induction left generalizing right normalized with
  | nil =>
      rw [normalizeItems] at leftOk
      cases leftOk
      cases right with
      | nil => exact .nil
      | cons item rest => simp [normalizeItems] at rightOk
  | cons item rest ih =>
      simp only [normalizeItems, bind_eq_ok, Except.ok.injEq] at leftOk
      obtain ⟨first, firstOk, others, othersOk, rfl⟩ := leftOk
      cases right with
      | nil => simp [normalizeItems] at rightOk
      | cons item' rest' =>
          simp only [normalizeItems, bind_eq_ok, Except.ok.injEq, List.cons.injEq] at rightOk
          obtain ⟨_, firstOk', _, othersOk', rfl, rfl⟩ := rightOk
          exact .cons ⟨_, firstOk, firstOk'⟩ (ih othersOk othersOk')

theorem SameCanonical.arr {left right : List Json}
    (same : SameCanonical tables (.arr left) (.arr right)) :
    List.Forall₂ (SameCanonical tables) left right := by
  obtain ⟨normalized, leftOk, rightOk⟩ := same
  simp only [normalize, bind_eq_ok, Except.ok.injEq] at leftOk rightOk
  obtain ⟨items, itemsOk, rfl⟩ := leftOk
  obtain ⟨items', itemsOk', equal⟩ := rightOk
  cases equal
  exact normalizeItems_forall₂ itemsOk itemsOk'

theorem SameCanonical.strings {left right : List String}
    (same : SameCanonical tables (.arr (left.map .str)) (.arr (right.map .str))) :
    left.map tables.nfc = right.map tables.nfc := by
  have pairs := same.arr
  rw [List.forall₂_map_left_iff, List.forall₂_map_right_iff] at pairs
  rw [← List.forall₂_eq_eq_eq, List.forall₂_map_left_iff, List.forall₂_map_right_iff]
  exact pairs.imp fun _ _ => SameCanonical.str

/-! ## Success -/

theorem normalizeMembers_ok {seen : List String} {members : List (String × Json)}
    (fresh : ∀ member ∈ members, tables.nfc member.1 ∉ seen)
    (distinct : (members.map fun member => tables.nfc member.1).Nodup)
    (values : ∀ member ∈ members, ∃ value, normalize tables member.2 = .ok value) :
    ∃ result, normalizeMembers tables seen members = .ok result := by
  induction members generalizing seen with
  | nil => exact ⟨[], rfl⟩
  | cons member rest ih =>
      obtain ⟨key, value⟩ := member
      rw [List.map_cons, List.nodup_cons] at distinct
      obtain ⟨first, firstOk⟩ := values (key, value) List.mem_cons_self
      have later : ∀ member ∈ rest, tables.nfc member.1 ∉ tables.nfc key :: seen := by
        intro member inside
        rw [List.mem_cons, not_or]
        refine ⟨?_, fresh member (List.mem_cons_of_mem _ inside)⟩
        intro equal
        exact distinct.1 (List.mem_map.mpr ⟨member, inside, equal⟩)
      obtain ⟨others, othersOk⟩ := ih later distinct.2
        fun member inside => values member (List.mem_cons_of_mem _ inside)
      refine ⟨(tables.nfc key, first) :: others, ?_⟩
      simp [normalizeMembers, require_true (fresh (key, value) List.mem_cons_self), firstOk,
        othersOk]

/-- An object with distinct ASCII keys normalizes as soon as its values do. -/
theorem normalize_obj_ok {members : List (String × Json)} (keys : List String)
    (named : members.map Prod.fst = keys) (ascii : keys.all isAscii = true)
    (distinct : keys.Nodup)
    (values : ∀ member ∈ members, ∃ value, normalize tables member.2 = .ok value) :
    ∃ normalized, normalize tables (.obj members) = .ok normalized := by
  have fixed : (members.map fun member => tables.nfc member.1) = keys := by
    rw [← named]
    refine List.map_congr_left fun member inside => tables.nfc_ascii _ ?_
    rw [← named, List.all_eq_true] at ascii
    exact ascii member.1 (List.mem_map_of_mem inside)
  have fresh : ∀ member ∈ members, tables.nfc member.1 ∉ ([] : List String) :=
    fun _ _ => List.not_mem_nil
  obtain ⟨result, resultOk⟩ := normalizeMembers_ok fresh (fixed ▸ distinct) values
  exact ⟨.obj (sortMembers result), by simp [normalize, resultOk]⟩

theorem normalize_arr_ok {items : List Json}
    (each : ∀ item ∈ items, ∃ value, normalize tables item = .ok value) :
    ∃ normalized, normalize tables (.arr items) = .ok normalized := by
  suffices ∃ result, normalizeItems tables items = .ok result by
    obtain ⟨result, resultOk⟩ := this
    exact ⟨.arr result, by simp [normalize, resultOk]⟩
  induction items with
  | nil => exact ⟨[], rfl⟩
  | cons item rest ih =>
      obtain ⟨first, firstOk⟩ := each item List.mem_cons_self
      obtain ⟨others, othersOk⟩ := ih fun inner inside => each inner (List.mem_cons_of_mem _ inside)
      exact ⟨first :: others, by simp [normalizeItems, firstOk, othersOk]⟩

theorem canonicalJson_ok {value normalized : Json}
    (normalizes : normalize tables value = .ok normalized) :
    canonicalJson tables value = .ok (encode normalized) := by
  simp [canonicalJson, normalizes]

end Members

end CrossPatch.Domain.Hashing
