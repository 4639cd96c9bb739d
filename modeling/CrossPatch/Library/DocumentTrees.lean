import CrossPatch.Library.Documents

/-!
# Trees of documents

The keys of a document, the dictionaries that an interpreter makes of its objects, the
paths into it, and the document without the members under hidden keys.
-/

namespace CrossPatch.Library.Documents

open CrossPatch.Library.JsonReader (Decoder)
open CrossPatch.Library.JsonText CrossPatch.Library.Numerals

/-! ## Keys -/

mutual

/-- The keys of every member, at every depth. -/
def Document.keys : Document → List Text
  | .arr items => itemKeys items
  | .obj members => memberKeys members
  | _ => []

def itemKeys : List Document → List Text
  | [] => []
  | item :: rest => item.keys ++ itemKeys rest

def memberKeys : List (Text × Document) → List Text
  | [] => []
  | (key, value) :: rest => key :: (value.keys ++ memberKeys rest)

end

/-! ## Dictionaries -/

/-- `members[key] = value`. -/
def put (members : List (Text × Document)) (key : Text) (value : Document) :
    List (Text × Document) :=
  if key ∈ members.map Prod.fst then
    members.map fun member => if member.1 = key then (key, value) else member
  else members ++ [(key, value)]

/-- The last member under a key is kept, where the first one stood. -/
def dictionary (pairs : List (Text × Document)) : List (Text × Document) :=
  pairs.foldl (fun members pair => put members pair.1 pair.2) []

mutual

/-- The value that an interpreter makes of a document. -/
def Document.parsed : Document → Document
  | .arr items => .arr (parsedItems items)
  | .obj members => .obj (dictionary (parsedMembers members))
  | value => value

def parsedItems : List Document → List Document
  | [] => []
  | item :: rest => item.parsed :: parsedItems rest

def parsedMembers : List (Text × Document) → List (Text × Document)
  | [] => []
  | (key, value) :: rest => (key, value.parsed) :: parsedMembers rest

end

theorem mem_put {members : List (Text × Document)} {key : Text} {value : Document}
    {member : Text × Document} (inside : member ∈ put members key value) :
    member = (key, value) ∨ member ∈ members := by
  unfold put at inside
  split at inside
  · obtain ⟨earlier, there, rfl⟩ := List.mem_map.mp inside
    split
    · exact .inl rfl
    · exact .inr there
  · rcases List.mem_append.mp inside with earlier | last
    · exact .inr earlier
    · exact .inl (List.mem_singleton.mp last)

theorem mem_dictionary {pairs : List (Text × Document)} {member : Text × Document}
    (inside : member ∈ dictionary pairs) : member ∈ pairs := by
  suffices ∀ start : List (Text × Document),
      member ∈ pairs.foldl (fun members pair => put members pair.1 pair.2) start →
        member ∈ start ∨ member ∈ pairs by
    exact (this [] inside).resolve_left List.not_mem_nil
  clear inside
  induction pairs with
  | nil => exact fun start there => .inl there
  | cons pair rest ih =>
      intro start there
      rcases ih _ there with early | late
      · rcases mem_put early with rfl | earlier
        · exact .inr List.mem_cons_self
        · exact .inl earlier
      · exact .inr (List.mem_cons_of_mem _ late)

/-- Members under distinct keys are a dictionary as they stand. -/
theorem dictionary_of_nodup {pairs : List (Text × Document)}
    (distinct : (pairs.map Prod.fst).Nodup) : dictionary pairs = pairs := by
  suffices ∀ start : List (Text × Document), ((start ++ pairs).map Prod.fst).Nodup →
      pairs.foldl (fun members pair => put members pair.1 pair.2) start = start ++ pairs by
    exact this [] distinct
  clear distinct
  induction pairs with
  | nil => exact fun start _ => (List.append_nil start).symm
  | cons pair rest ih =>
      intro start distinct
      have fresh : pair.1 ∉ start.map Prod.fst := by
        rw [List.map_append, List.map_cons] at distinct
        have disjoint := (List.nodup_append'.mp distinct).2.2
        exact fun there => disjoint there List.mem_cons_self
      have added : put start pair.1 pair.2 = start ++ [pair] := by
        rw [put, if_neg fresh]
      rw [List.foldl_cons, added, ih (start ++ [pair]) (by simpa using distinct)]
      simp

mutual

/-- The keys of every object are distinct. -/
def Document.Distinct : Document → Prop
  | .arr items => DistinctItems items
  | .obj members => (members.map Prod.fst).Nodup ∧ DistinctMembers members
  | _ => True

def DistinctItems : List Document → Prop
  | [] => True
  | item :: rest => item.Distinct ∧ DistinctItems rest

def DistinctMembers : List (Text × Document) → Prop
  | [] => True
  | (_, value) :: rest => value.Distinct ∧ DistinctMembers rest

end

mutual

theorem parsed_of_distinct : (document : Document) → document.Distinct → document.parsed = document
  | .null, _ => rfl
  | .bool _, _ => rfl
  | .int _, _ => rfl
  | .float _, _ => rfl
  | .nonFinite _, _ => rfl
  | .str _, _ => rfl
  | .arr items, distinct => by
      rw [Document.Distinct] at distinct
      rw [Document.parsed, parsedItems_of_distinct items distinct]
  | .obj members, distinct => by
      rw [Document.Distinct] at distinct
      rw [Document.parsed, parsedMembers_of_distinct members distinct.2,
        dictionary_of_nodup distinct.1]

theorem parsedItems_of_distinct : (items : List Document) → DistinctItems items →
    parsedItems items = items
  | [], _ => rfl
  | item :: rest, distinct => by
      rw [DistinctItems] at distinct
      rw [parsedItems, parsed_of_distinct item distinct.1,
        parsedItems_of_distinct rest distinct.2]

theorem parsedMembers_of_distinct : (members : List (Text × Document)) →
    DistinctMembers members → parsedMembers members = members
  | [], _ => rfl
  | (key, value) :: rest, distinct => by
      rw [DistinctMembers] at distinct
      rw [parsedMembers, parsed_of_distinct value distinct.1,
        parsedMembers_of_distinct rest distinct.2]

end

/-! ## Hidden members -/

section Hidden

variable (hidden : Text → Bool)

mutual

/-- The document without the members under hidden keys, at any depth. -/
def Document.without : Document → Document
  | .arr items => .arr (withoutItems items)
  | .obj members => .obj (withoutMembers members)
  | value => value

def withoutItems : List Document → List Document
  | [] => []
  | item :: rest => item.without :: withoutItems rest

def withoutMembers : List (Text × Document) → List (Text × Document)
  | [] => []
  | (key, value) :: rest =>
      if hidden key then withoutMembers rest else (key, value.without) :: withoutMembers rest

end

variable {hidden}

mutual

theorem without_eq_self : (document : Document) →
    (∀ key ∈ document.keys, hidden key = false) → document.without hidden = document
  | .null, _ => rfl
  | .bool _, _ => rfl
  | .int _, _ => rfl
  | .float _, _ => rfl
  | .nonFinite _, _ => rfl
  | .str _, _ => rfl
  | .arr items, shown => by
      rw [Document.keys] at shown
      rw [Document.without, withoutItems_eq_self items shown]
  | .obj members, shown => by
      rw [Document.keys] at shown
      rw [Document.without, withoutMembers_eq_self members shown]

theorem withoutItems_eq_self : (items : List Document) →
    (∀ key ∈ itemKeys items, hidden key = false) → withoutItems hidden items = items
  | [], _ => rfl
  | item :: rest, shown => by
      rw [itemKeys, List.forall_mem_append] at shown
      rw [withoutItems, without_eq_self item shown.1, withoutItems_eq_self rest shown.2]

theorem withoutMembers_eq_self : (members : List (Text × Document)) →
    (∀ key ∈ memberKeys members, hidden key = false) → withoutMembers hidden members = members
  | [], _ => rfl
  | (key, value) :: rest, shown => by
      rw [memberKeys, List.forall_mem_cons, List.forall_mem_append] at shown
      rw [withoutMembers, if_neg (by rw [shown.1]; decide), without_eq_self value shown.2.1,
        withoutMembers_eq_self rest shown.2.2]

end

mutual

/-- No hidden key is left. -/
theorem keys_without : (document : Document) → ∀ key ∈ (document.without hidden).keys,
    hidden key = false
  | .null, _, member => by cases member
  | .bool _, _, member => by cases member
  | .int _, _, member => by cases member
  | .float _, _, member => by cases member
  | .nonFinite _, _, member => by cases member
  | .str _, _, member => by cases member
  | .arr items, key, member => by
      rw [Document.without, Document.keys] at member
      exact keys_withoutItems items key member
  | .obj members, key, member => by
      rw [Document.without, Document.keys] at member
      exact keys_withoutMembers members key member

theorem keys_withoutItems : (items : List Document) →
    ∀ key ∈ itemKeys (withoutItems hidden items), hidden key = false
  | [], _, member => by cases member
  | item :: rest, key, member => by
      rw [withoutItems, itemKeys, List.mem_append] at member
      rcases member with inside | later
      · exact keys_without item key inside
      · exact keys_withoutItems rest key later

theorem keys_withoutMembers : (members : List (Text × Document)) →
    ∀ key ∈ memberKeys (withoutMembers hidden members), hidden key = false
  | [], _, member => by cases member
  | (name, value) :: rest, key, member => by
      rw [withoutMembers] at member
      split at member
      · exact keys_withoutMembers rest key member
      · rename_i shown
        rw [memberKeys, List.mem_cons, List.mem_append] at member
        rcases member with rfl | inside | later
        · exact Bool.not_eq_true _ ▸ shown
        · exact keys_without value key inside
        · exact keys_withoutMembers rest key later

end

/-- Only a hidden key changes a document. -/
theorem without_eq_self_iff {document : Document} :
    document.without hidden = document ↔ ∀ key ∈ document.keys, hidden key = false :=
  ⟨fun same key member => keys_without document key (by rwa [same]), without_eq_self document⟩

end Hidden

theorem mem_itemKeys {items : List Document} {key : Text} :
    key ∈ itemKeys items ↔ ∃ item ∈ items, key ∈ item.keys := by
  induction items with
  | nil => simp [itemKeys]
  | cons item rest ih => simp [itemKeys, ih]

theorem mem_memberKeys {members : List (Text × Document)} {key : Text} :
    key ∈ memberKeys members ↔ ∃ member ∈ members, key = member.1 ∨ key ∈ member.2.keys := by
  induction members with
  | nil => simp [memberKeys]
  | cons member rest ih => simp [memberKeys, ih, or_assoc]

/-! ## Comparison -/

mutual

/-- Equality of decoded values, where each is the same object as itself. -/
def Document.equals : Document → Document → Bool
  | .null, .null => true
  | .bool left, .bool right => left == right
  | .int left, .int right => left == right
  | .float left, .float right => decide (left = right)
  | .nonFinite left, .nonFinite right => decide (left = right)
  | .str left, .str right => decide (left = right)
  | .arr left, .arr right => equalItems left right
  | .obj left, .obj right => equalMembers left right
  | _, _ => false

def equalItems : List Document → List Document → Bool
  | [], [] => true
  | item :: rest, item' :: rest' => item.equals item' && equalItems rest rest'
  | _, _ => false

def equalMembers : List (Text × Document) → List (Text × Document) → Bool
  | [], [] => true
  | (key, value) :: rest, (key', value') :: rest' =>
      decide (key = key') && value.equals value' && equalMembers rest rest'
  | _, _ => false

end

mutual

theorem equals_self : (document : Document) → document.equals document = true
  | .null => rfl
  | .bool _ => by simp [Document.equals]
  | .int _ => by simp [Document.equals]
  | .float _ => by simp [Document.equals]
  | .nonFinite _ => by simp [Document.equals]
  | .str _ => by simp [Document.equals]
  | .arr items => by rw [Document.equals, equalItems_self items]
  | .obj members => by rw [Document.equals, equalMembers_self members]

theorem equalItems_self : (items : List Document) → equalItems items items = true
  | [] => rfl
  | item :: rest => by rw [equalItems, equals_self item, equalItems_self rest, Bool.and_self]

theorem equalMembers_self : (members : List (Text × Document)) →
    equalMembers members members = true
  | [] => rfl
  | (key, value) :: rest => by
      rw [equalMembers, equals_self value, equalMembers_self rest]
      simp

end

mutual

theorem eq_of_equals : (left right : Document) → left.equals right = true → left = right
  | .null, right, same => by cases right <;> first | rfl | cases same
  | .bool _, right, same => by cases right <;> simp_all [Document.equals]
  | .int _, right, same => by cases right <;> simp_all [Document.equals]
  | .float _, right, same => by cases right <;> simp_all [Document.equals]
  | .nonFinite _, right, same => by cases right <;> simp_all [Document.equals]
  | .str _, right, same => by cases right <;> simp_all [Document.equals]
  | .arr items, right, same => by
      cases right with
      | arr items' => rw [eq_of_equalItems items items' same]
      | _ => cases same
  | .obj members, right, same => by
      cases right with
      | obj members' => rw [eq_of_equalMembers members members' same]
      | _ => cases same

theorem eq_of_equalItems : (left right : List Document) → equalItems left right = true →
    left = right
  | [], [], _ => rfl
  | [], _ :: _, same => by cases same
  | _ :: _, [], same => by cases same
  | item :: rest, item' :: rest', same => by
      rw [equalItems, Bool.and_eq_true] at same
      rw [eq_of_equals item item' same.1, eq_of_equalItems rest rest' same.2]

theorem eq_of_equalMembers : (left right : List (Text × Document)) →
    equalMembers left right = true → left = right
  | [], [], _ => rfl
  | [], _ :: _, same => by cases same
  | _ :: _, [], same => by cases same
  | (key, value) :: rest, (key', value') :: rest', same => by
      rw [equalMembers, Bool.and_eq_true, Bool.and_eq_true, decide_eq_true_eq] at same
      rw [same.1.1, eq_of_equals value value' same.1.2, eq_of_equalMembers rest rest' same.2]

end

theorem equals_iff {left right : Document} : left.equals right = true ↔ left = right := by
  constructor
  · exact eq_of_equals left right
  · rintro rfl
    exact equals_self left

/-! ## Nesting -/

mutual

/-- How deep the calls of a function are nested that calls itself for every part. -/
def Document.calls : Document → Nat
  | .arr items => itemCalls items + 1
  | .obj members => memberCalls members + 1
  | _ => 1

def itemCalls : List Document → Nat
  | [] => 0
  | item :: rest => max item.calls (itemCalls rest)

def memberCalls : List (Text × Document) → Nat
  | [] => 0
  | (_, value) :: rest => max value.calls (memberCalls rest)

end

section Bounds

variable {decoder : Decoder}

theorem within_dictionary {room : Nat} {pairs : List (Text × Document)}
    (within : WithinMembers decoder room pairs) : WithinMembers decoder room (dictionary pairs) :=
  withinMembers_iff.mpr fun member inside =>
    withinMembers_iff.mp within member (mem_dictionary inside)

mutual

theorem within_parsed : (document : Document) → (room : Nat) → Within decoder room document →
    Within decoder room document.parsed
  | .null, _, within => within
  | .bool _, _, within => within
  | .int _, _, within => within
  | .float _, _, within => within
  | .nonFinite _, _, within => within
  | .str _, _, within => within
  | .arr items, room, within => by
      rw [Within] at within
      rw [Document.parsed, Within]
      exact ⟨within.1, withinItems_parsed items _ within.2⟩
  | .obj members, room, within => by
      rw [Within] at within
      rw [Document.parsed, Within]
      exact ⟨within.1, within_dictionary (withinMembers_parsed members _ within.2)⟩

theorem withinItems_parsed : (items : List Document) → (room : Nat) →
    WithinItems decoder room items → WithinItems decoder room (parsedItems items)
  | [], _, _ => trivial
  | item :: rest, room, within => by
      rw [WithinItems] at within
      rw [parsedItems, WithinItems]
      exact ⟨within_parsed item room within.1, withinItems_parsed rest room within.2⟩

theorem withinMembers_parsed : (members : List (Text × Document)) → (room : Nat) →
    WithinMembers decoder room members → WithinMembers decoder room (parsedMembers members)
  | [], _, _ => trivial
  | (key, value) :: rest, room, within => by
      rw [WithinMembers] at within
      rw [parsedMembers, WithinMembers]
      exact ⟨within_parsed value room within.1, withinMembers_parsed rest room within.2⟩

end

variable {hidden : Text → Bool}

mutual

theorem within_without : (document : Document) → (room : Nat) → Within decoder room document →
    Within decoder room (document.without hidden)
  | .null, _, within => within
  | .bool _, _, within => within
  | .int _, _, within => within
  | .float _, _, within => within
  | .nonFinite _, _, within => within
  | .str _, _, within => within
  | .arr items, room, within => by
      rw [Within] at within
      rw [Document.without, Within]
      exact ⟨within.1, withinItems_without items _ within.2⟩
  | .obj members, room, within => by
      rw [Within] at within
      rw [Document.without, Within]
      exact ⟨within.1, withinMembers_without members _ within.2⟩

theorem withinItems_without : (items : List Document) → (room : Nat) →
    WithinItems decoder room items → WithinItems decoder room (withoutItems hidden items)
  | [], _, _ => trivial
  | item :: rest, room, within => by
      rw [WithinItems] at within
      rw [withoutItems, WithinItems]
      exact ⟨within_without item room within.1, withinItems_without rest room within.2⟩

theorem withinMembers_without : (members : List (Text × Document)) → (room : Nat) →
    WithinMembers decoder room members →
    WithinMembers decoder room (withoutMembers hidden members)
  | [], _, _ => trivial
  | (key, value) :: rest, room, within => by
      rw [WithinMembers] at within
      rw [withoutMembers]
      split
      · exact withinMembers_without rest room within.2
      · rw [WithinMembers]
        exact ⟨within_without value room within.1, withinMembers_without rest room within.2⟩

end

end Bounds

/-! ## Values that can be written -/

def Point.plain : Point → Option Char
  | .char character => some character
  | .lone _ => none

def plainText (text : Text) : Option String := (text.mapM Point.plain).map String.ofList

mutual

/-- The value of a document without halves of surrogate pairs and numbers that are not finite. -/
def Document.toJson : Document → Option Json
  | .null => some .null
  | .bool value => some (.bool value)
  | .int value => some (.int value)
  | .float value => some (.float value)
  | .nonFinite _ => none
  | .str text => (plainText text).map .str
  | .arr items => (itemsJson items).map .arr
  | .obj members => (membersJson members).map .obj

def itemsJson : List Document → Option (List Json)
  | [] => some []
  | item :: rest => do
      let first ← item.toJson
      let others ← itemsJson rest
      some (first :: others)

def membersJson : List (Text × Document) → Option (List (String × Json))
  | [] => some []
  | (key, value) :: rest => do
      let name ← plainText key
      let first ← value.toJson
      let others ← membersJson rest
      some ((name, first) :: others)

end

theorem plainText_ofString (text : String) : plainText (ofString text) = some text := by
  have read : ∀ characters : List Char,
      (characters.map Point.char).mapM Point.plain = some characters := by
    intro characters
    induction characters with
    | nil => rfl
    | cons character rest ih => simp [Point.plain, ih]
  rw [plainText, ofString, read, Option.map_some, String.ofList_toList]

theorem plainText_eq_some {text : Text} {string : String} (plain : plainText text = some string) :
    text = ofString string := by
  obtain ⟨characters, read, rfl⟩ := Option.map_eq_some_iff.mp plain
  rw [ofString, String.toList_ofList]
  clear plain
  induction text generalizing characters with
  | nil =>
      cases read
      rfl
  | cons point rest ih =>
      simp only [List.mapM_cons, Option.bind_eq_bind, Option.bind_eq_some_iff, Option.pure_def,
        Option.some.injEq] at read
      obtain ⟨character, first, others, later, rfl⟩ := read
      cases point with
      | char own =>
          cases first
          rw [List.map_cons, ih others later]
      | lone unit => cases first

theorem ofString_injective : Function.Injective ofString := by
  intro left right same
  have texts := congrArg plainText same
  rwa [plainText_ofString, plainText_ofString, Option.some.injEq] at texts

mutual

theorem toJson_ofJson : (value : Json) → (ofJson value).toJson = some value
  | .null => rfl
  | .bool _ => rfl
  | .int _ => rfl
  | .float _ => rfl
  | .str text => by rw [ofJson, Document.toJson, plainText_ofString, Option.map_some]
  | .arr items => by rw [ofJson, Document.toJson, itemsJson_ofItems items, Option.map_some]
  | .obj members => by
      rw [ofJson, Document.toJson, membersJson_ofMembers members, Option.map_some]

theorem itemsJson_ofItems : (items : List Json) → itemsJson (ofItems items) = some items
  | [] => rfl
  | item :: rest => by
      rw [ofItems, itemsJson, toJson_ofJson item, itemsJson_ofItems rest]
      rfl

theorem membersJson_ofMembers : (members : List (String × Json)) →
    membersJson (ofMembers members) = some members
  | [] => rfl
  | (key, value) :: rest => by
      rw [ofMembers, membersJson, plainText_ofString, toJson_ofJson value,
        membersJson_ofMembers rest]
      rfl

end

mutual

theorem ofJson_of_toJson : (document : Document) → (value : Json) →
    document.toJson = some value → document = ofJson value
  | .null, _, same => by cases same; rfl
  | .bool _, _, same => by cases same; rfl
  | .int _, _, same => by cases same; rfl
  | .float _, _, same => by cases same; rfl
  | .nonFinite _, _, same => by cases same
  | .str text, _, same => by
      obtain ⟨string, plain, rfl⟩ := Option.map_eq_some_iff.mp same
      rw [ofJson, plainText_eq_some plain]
  | .arr items, _, same => by
      obtain ⟨values, known, rfl⟩ := Option.map_eq_some_iff.mp same
      rw [ofJson, ofItems_of_itemsJson items values known]
  | .obj members, _, same => by
      obtain ⟨values, known, rfl⟩ := Option.map_eq_some_iff.mp same
      rw [ofJson, ofMembers_of_membersJson members values known]

theorem ofItems_of_itemsJson : (items : List Document) → (values : List Json) →
    itemsJson items = some values → items = ofItems values
  | [], _, same => by cases same; rfl
  | item :: rest, _, same => by
      simp only [itemsJson, Option.bind_eq_bind, Option.bind_eq_some_iff, Option.some.injEq]
        at same
      obtain ⟨first, known, others, later, rfl⟩ := same
      rw [ofItems, ofJson_of_toJson item first known, ofItems_of_itemsJson rest others later]

theorem ofMembers_of_membersJson : (members : List (Text × Document)) →
    (values : List (String × Json)) → membersJson members = some values →
    members = ofMembers values
  | [], _, same => by cases same; rfl
  | (key, value) :: rest, _, same => by
      simp only [membersJson, Option.bind_eq_bind, Option.bind_eq_some_iff, Option.some.injEq]
        at same
      obtain ⟨name, plain, first, known, others, later, rfl⟩ := same
      rw [ofMembers, plainText_eq_some plain, ofJson_of_toJson value first known,
        ofMembers_of_membersJson rest others later]

end

theorem toJson_eq_some {document : Document} {value : Json} :
    document.toJson = some value ↔ document = ofJson value := by
  constructor
  · exact ofJson_of_toJson document value
  · rintro rfl
    exact toJson_ofJson value

mutual

theorem readable_of_within {decoder : Decoder} : (value : Json) → (room : Nat) →
    Within decoder room (ofJson value) →
    JsonReader.Readable (decoder.hooked some) room value
  | .null, _, _ => trivial
  | .bool _, _, _ => trivial
  | .int _, _, within => within
  | .float _, _, _ => trivial
  | .str _, _, _ => trivial
  | .arr items, room, within => by
      rw [ofJson, Within] at within
      rw [JsonReader.Readable]
      exact ⟨within.1, readableItems_of_within items _ within.2⟩
  | .obj members, room, within => by
      rw [ofJson, Within] at within
      rw [JsonReader.Readable]
      exact ⟨within.1, rfl, readableMembers_of_within members _ within.2⟩

theorem readableItems_of_within {decoder : Decoder} : (items : List Json) → (room : Nat) →
    WithinItems decoder room (ofItems items) →
    JsonReader.ReadableItems (decoder.hooked some) room items
  | [], _, _ => trivial
  | item :: rest, room, within => by
      rw [ofItems, WithinItems] at within
      rw [JsonReader.ReadableItems]
      exact ⟨readable_of_within item room within.1, readableItems_of_within rest room within.2⟩

theorem readableMembers_of_within {decoder : Decoder} : (members : List (String × Json)) →
    (room : Nat) → WithinMembers decoder room (ofMembers members) →
    JsonReader.ReadableMembers (decoder.hooked some) room members
  | [], _, _ => trivial
  | (key, value) :: rest, room, within => by
      rw [ofMembers, WithinMembers] at within
      rw [JsonReader.ReadableMembers]
      exact ⟨readable_of_within value room within.1, readableMembers_of_within rest room within.2⟩

end

/-! ## Paths -/

/-- A step from a container to one of its values. -/
inductive Step where
  | key (key : Text)
  | index (index : Nat)
  deriving DecidableEq

def Document.at : Document → List Step → Option Document
  | value, [] => some value
  | .obj members, .key key :: path => (members.lookup key).bind fun value => value.at path
  | .arr items, .index index :: path => items[index]?.bind fun value => value.at path
  | _, _ :: _ => none

def Step.shown (hidden : Text → Bool) : Step → Bool
  | .key name => !hidden name
  | .index _ => true

section Lookup

variable {hidden : Text → Bool}

theorem withoutItems_eq_map (items : List Document) :
    withoutItems hidden items = items.map (Document.without hidden) := by
  induction items with
  | nil => rfl
  | cons item rest ih => rw [withoutItems, ih, List.map_cons]

theorem lookup_withoutMembers {key : Text} (shown : hidden key = false)
    (members : List (Text × Document)) :
    (withoutMembers hidden members).lookup key =
      (members.lookup key).map (Document.without hidden) := by
  induction members with
  | nil => rfl
  | cons member rest ih =>
      obtain ⟨name, value⟩ := member
      rw [withoutMembers]
      by_cases same : key = name
      · subst same
        simp [shown]
      · have differs : (key == name) = false := by simpa using same
        split
        · rw [ih, List.lookup_cons, differs]
        · rw [List.lookup_cons, List.lookup_cons, differs, ih]

/-- What a shown path leads to is left, without what is hidden in it. -/
theorem at_without {document value : Document} {path : List Step}
    (shown : ∀ step ∈ path, step.shown hidden = true) (there : document.at path = some value) :
    (document.without hidden).at path = some (value.without hidden) := by
  induction path generalizing document with
  | nil =>
      cases document <;> cases there <;> rfl
  | cons step rest ih =>
      obtain ⟨first, others⟩ := List.forall_mem_cons.mp shown
      cases document with
      | obj members =>
          cases step with
          | key key =>
              obtain ⟨inner, found, inside⟩ := Option.bind_eq_some_iff.mp there
              have kept : hidden key = false := by simpa [Step.shown] using first
              rw [Document.without, Document.at, lookup_withoutMembers kept, found]
              exact ih others inside
          | index index => cases there
      | arr items =>
          cases step with
          | key key => cases there
          | index index =>
              obtain ⟨inner, found, inside⟩ := Option.bind_eq_some_iff.mp there
              rw [Document.without, Document.at, withoutItems_eq_map, List.getElem?_map, found]
              exact ih others inside
      | _ => cases step <;> cases there

end Lookup

end CrossPatch.Library.Documents
