import CrossPatch.Library.DocumentTrees

/-!
# The text of a document

Documents are written compactly in ASCII, and their members can be put in the order of
their keys.  A document without halves of surrogate pairs and numbers that are not finite
is written as its value is.
-/

namespace CrossPatch.Library.Documents

open CrossPatch.Library.JsonReader (Decoder asciiSpell unicodeEscape)
open CrossPatch.Library.JsonText CrossPatch.Library.Numerals

/-! ## Order -/

def Point.code : Point → Nat
  | .char character => character.toNat
  | .lone unit => unit

def codes (text : Text) : List Nat := text.map Point.code

def sortPairs (members : List (Text × Document)) : List (Text × Document) :=
  members.insertionSort fun left right => codes left.1 ≤ codes right.1

mutual

/-- Members in the order of their keys, at every depth. -/
def Document.ordered : Document → Document
  | .arr items => .arr (sortedItems items)
  | .obj members => .obj (sortPairs (sortedMembers members))
  | value => value

def sortedItems : List Document → List Document
  | [] => []
  | item :: rest => item.ordered :: sortedItems rest

def sortedMembers : List (Text × Document) → List (Text × Document)
  | [] => []
  | (key, value) :: rest => (key, value.ordered) :: sortedMembers rest

end

theorem codes_ofString_lt (left right : List Char) :
    codes (left.map .char) < codes (right.map .char) ↔ left < right := by
  induction left generalizing right with
  | nil => cases right <;> simp [codes]
  | cons character rest ih =>
      cases right with
      | nil => simp [codes]
      | cons other others =>
          have later := ih others
          simp only [codes, List.map_cons, Point.code] at later ⊢
          rw [List.cons_lt_cons_iff, List.cons_lt_cons_iff, later, Char.toNat_inj]
          rfl

theorem codes_ofString_le (left right : String) :
    codes (ofString left) ≤ codes (ofString right) ↔ left ≤ right := by
  rw [← not_lt, ← not_lt, ofString, ofString, codes_ofString_lt, String.lt_iff_toList_lt]

/-! ## Writer -/

def plainly (text : List Char) : Text := text.map .char

def escapePoint : Point → Text
  | .char character => plainly (escape character)
  | .lone unit => [.lone unit]

def quoteText (text : Text) : Text := .char '"' :: (text.flatMap escapePoint ++ [.char '"'])

def nonFiniteText : NonFinite → List Char
  | .nan => ['N', 'a', 'N']
  | .infinity => 'I' :: infinityLetters
  | .negativeInfinity => '-' :: 'I' :: infinityLetters

mutual

def Document.written : Document → Text
  | .null => plainly ['n', 'u', 'l', 'l']
  | .bool true => plainly ['t', 'r', 'u', 'e']
  | .bool false => plainly ['f', 'a', 'l', 's', 'e']
  | .int value => plainly (intText value)
  | .float value => plainly value.text
  | .nonFinite value => plainly (nonFiniteText value)
  | .str text => quoteText text
  | .arr [] => plainly ['[', ']']
  | .arr (item :: rest) => .char '[' :: item.written ++ writtenItems rest
  | .obj [] => plainly ['{', '}']
  | .obj ((key, value) :: rest) =>
      .char '{' :: quoteText key ++ .char ':' :: value.written ++ writtenMembers rest

def writtenItems : List Document → Text
  | [] => [.char ']']
  | item :: rest => .char ',' :: item.written ++ writtenItems rest

def writtenMembers : List (Text × Document) → Text
  | [] => [.char '}']
  | (key, value) :: rest =>
      .char ',' :: quoteText key ++ .char ':' :: value.written ++ writtenMembers rest

end

/-- What is not printable ASCII is escaped. -/
def spellPoint : Point → List Char
  | .char character => asciiSpell character
  | .lone unit => unicodeEscape unit

def Document.asciiText (document : Document) : List Char := document.written.flatMap spellPoint

theorem quoteText_ofString (text : String) : quoteText (ofString text) = plainly (quote text) := by
  have body : ∀ characters : List Char,
      (characters.map Point.char).flatMap escapePoint ++ [.char '"'] =
        plainly (quoteBody characters) := by
    intro characters
    induction characters with
    | nil => rfl
    | cons character rest ih =>
        rw [List.map_cons, List.flatMap_cons, List.append_assoc, ih, quoteBody, plainly, plainly,
          List.map_append]
        rfl
  rw [quoteText, ofString, body, quote]
  rfl

mutual

theorem written_ofJson : (value : Json) → (ofJson value).written = plainly (write value)
  | .null => rfl
  | .bool true => rfl
  | .bool false => rfl
  | .int _ => rfl
  | .float _ => rfl
  | .str text => by
      rw [ofJson, Document.written, quoteText_ofString, write]
  | .arr [] => rfl
  | .arr (item :: rest) => by
      rw [ofJson, ofItems, Document.written, written_ofJson item, writtenItems_ofItems rest, write]
      simp [plainly]
  | .obj [] => rfl
  | .obj ((key, value) :: rest) => by
      rw [ofJson, ofMembers, Document.written, quoteText_ofString, written_ofJson value,
        writtenMembers_ofMembers rest, write]
      simp [plainly]

theorem writtenItems_ofItems : (items : List Json) →
    writtenItems (ofItems items) = plainly (writeItems items)
  | [] => rfl
  | item :: rest => by
      rw [ofItems, writtenItems, written_ofJson item, writtenItems_ofItems rest, writeItems]
      simp [plainly]

theorem writtenMembers_ofMembers : (members : List (String × Json)) →
    writtenMembers (ofMembers members) = plainly (writeMembers members)
  | [] => rfl
  | (key, value) :: rest => by
      rw [ofMembers, writtenMembers, quoteText_ofString, written_ofJson value,
        writtenMembers_ofMembers rest, writeMembers]
      simp [plainly]

end

theorem asciiText_ofJson (value : Json) :
    (ofJson value).asciiText = (write value).flatMap asciiSpell := by
  rw [Document.asciiText, written_ofJson, plainly, List.flatMap_map]
  rfl

/-- What is written of a value is read back. -/
theorem read_asciiText {decoder : Decoder} {value : Json}
    (readable : JsonReader.Readable (decoder.hooked some) decoder.maxDepth value) :
    read decoder (ofJson value).asciiText = .ok (ofJson value) := by
  rw [asciiText_ofJson]
  exact read_ofJson
    (JsonReader.read_write (JsonReader.Spelling.ascii (decoder.hooked some)) readable)

/-! ## What can be written -/

mutual

/-- Every number is finite, and no integer is longer than the interpreter converts. -/
def Document.printable (maxDigits : Nat) : Document → Bool
  | .int value => decide ((Nat.toDigits 10 value.natAbs).length ≤ maxDigits)
  | .nonFinite _ => false
  | .arr items => printableItems maxDigits items
  | .obj members => printableMembers maxDigits members
  | _ => true

def printableItems (maxDigits : Nat) : List Document → Bool
  | [] => true
  | item :: rest => item.printable maxDigits && printableItems maxDigits rest

def printableMembers (maxDigits : Nat) : List (Text × Document) → Bool
  | [] => true
  | (_, value) :: rest => value.printable maxDigits && printableMembers maxDigits rest

end

mutual

/-- Some object has two members of one key. -/
def Document.repeats : Document → Bool
  | .arr items => repeatsItems items
  | .obj members => decide (¬ (members.map Prod.fst).Nodup) || repeatsMembers members
  | _ => false

def repeatsItems : List Document → Bool
  | [] => false
  | item :: rest => item.repeats || repeatsItems rest

def repeatsMembers : List (Text × Document) → Bool
  | [] => false
  | (_, value) :: rest => value.repeats || repeatsMembers rest

end

/-! ## What ordering keeps -/

theorem sortedItems_eq_map (items : List Document) :
    sortedItems items = items.map Document.ordered := by
  induction items with
  | nil => rfl
  | cons item rest ih => rw [sortedItems, ih, List.map_cons]

theorem sortedMembers_eq_map (members : List (Text × Document)) :
    sortedMembers members = members.map fun member => (member.1, member.2.ordered) := by
  induction members with
  | nil => rfl
  | cons member rest ih => rw [sortedMembers, ih, List.map_cons]

theorem sortPairs_perm (members : List (Text × Document)) : (sortPairs members).Perm members :=
  List.perm_insertionSort _ members

theorem sortedMembers_keys (members : List (Text × Document)) :
    (sortedMembers members).map Prod.fst = members.map Prod.fst := by
  rw [sortedMembers_eq_map, List.map_map]
  rfl

/-- Members of distinct keys are found in whatever order they stand. -/
theorem lookup_eq_of_perm {left right : List (Text × Document)} (same : left.Perm right)
    (distinct : (left.map Prod.fst).Nodup) (key : Text) : left.lookup key = right.lookup key := by
  induction same with
  | nil => rfl
  | cons member _ ih =>
      rw [List.map_cons, List.nodup_cons] at distinct
      rw [List.lookup_cons, List.lookup_cons, ih distinct.2]
  | swap first second rest =>
      rw [List.map_cons, List.map_cons, List.nodup_cons, List.mem_cons] at distinct
      rw [List.lookup_cons, List.lookup_cons, List.lookup_cons, List.lookup_cons]
      by_cases one : key = first.1
      · have other : (key == second.1) = false := by
          rw [beq_eq_false_iff_ne, one]
          exact fun equal => distinct.1 (.inl equal.symm)
        rw [other]
      · rw [beq_eq_false_iff_ne.mpr one]
  | trans one _ ihOne ihTwo =>
      rw [ihOne distinct, ihTwo (((one.map Prod.fst).nodup_iff).mp distinct)]

theorem lookup_sortedMembers (members : List (Text × Document)) (key : Text) :
    (sortedMembers members).lookup key = (members.lookup key).map Document.ordered := by
  induction members with
  | nil => rfl
  | cons member rest ih =>
      rw [sortedMembers, List.lookup_cons, List.lookup_cons, ih]
      cases key == member.1 <;> rfl

theorem lookup_ordered {members : List (Text × Document)}
    (distinct : (members.map Prod.fst).Nodup) (key : Text) :
    (sortPairs (sortedMembers members)).lookup key = (members.lookup key).map Document.ordered := by
  rw [← lookup_sortedMembers]
  refine lookup_eq_of_perm (sortPairs_perm _) ?_ key
  rwa [((sortPairs_perm _).map Prod.fst).nodup_iff, sortedMembers_keys]

theorem sortPairs_sorted {members : List (Text × Document)}
    (sorted : members.Pairwise fun left right => codes left.1 ≤ codes right.1) :
    sortPairs members = members :=
  List.Pairwise.insertionSort_eq sorted

theorem sortPairs_pairwise (members : List (Text × Document)) :
    (sortPairs members).Pairwise fun left right => codes left.1 ≤ codes right.1 := by
  have total : Std.Total fun left right : Text × Document => codes left.1 ≤ codes right.1 :=
    ⟨fun left right => le_total (codes left.1) (codes right.1)⟩
  have transitive : IsTrans (Text × Document) fun left right => codes left.1 ≤ codes right.1 :=
    ⟨fun _ _ _ => le_trans⟩
  exact List.pairwise_insertionSort _ members

theorem sortedMembers_sortPairs (members : List (Text × Document)) :
    sortedMembers (sortPairs members) = sortPairs (sortedMembers members) := by
  rw [sortedMembers_eq_map, sortedMembers_eq_map, sortPairs, sortPairs]
  exact List.map_insertionSort _ _ _ _ fun _ _ _ _ => Iff.rfl

mutual

theorem ordered_ordered : (document : Document) → document.ordered.ordered = document.ordered
  | .null => rfl
  | .bool _ => rfl
  | .int _ => rfl
  | .float _ => rfl
  | .nonFinite _ => rfl
  | .str _ => rfl
  | .arr items => by rw [Document.ordered, Document.ordered, sortedItems_sortedItems items]
  | .obj members => by
      rw [Document.ordered, Document.ordered, sortedMembers_sortPairs,
        sortedMembers_sortedMembers members, sortPairs_sorted (sortPairs_pairwise _)]

theorem sortedItems_sortedItems : (items : List Document) →
    sortedItems (sortedItems items) = sortedItems items
  | [] => rfl
  | item :: rest => by
      rw [sortedItems, sortedItems, ordered_ordered item, sortedItems_sortedItems rest]

theorem sortedMembers_sortedMembers : (members : List (Text × Document)) →
    sortedMembers (sortedMembers members) = sortedMembers members
  | [] => rfl
  | (key, value) :: rest => by
      rw [sortedMembers, sortedMembers, ordered_ordered value, sortedMembers_sortedMembers rest]

end

theorem repeatsMembers_eq_any (members : List (Text × Document)) :
    repeatsMembers members = members.any fun member => member.2.repeats := by
  induction members with
  | nil => rfl
  | cons member rest ih => rw [repeatsMembers, ih, List.any_cons]

theorem printableMembers_eq_all (maxDigits : Nat) (members : List (Text × Document)) :
    printableMembers maxDigits members = members.all fun member =>
      member.2.printable maxDigits := by
  induction members with
  | nil => rfl
  | cons member rest ih => rw [printableMembers, ih, List.all_cons]

mutual

theorem repeats_ordered : (document : Document) → document.ordered.repeats = document.repeats
  | .null => rfl
  | .bool _ => rfl
  | .int _ => rfl
  | .float _ => rfl
  | .nonFinite _ => rfl
  | .str _ => rfl
  | .arr items => by
      rw [Document.ordered, Document.repeats, Document.repeats, repeatsItems_sorted items]
  | .obj members => by
      rw [Document.ordered, Document.repeats, Document.repeats, repeatsMembers_eq_any,
        (sortPairs_perm _).any_eq, ← repeatsMembers_eq_any, repeatsMembers_sorted members]
      have keys := ((sortPairs_perm (sortedMembers members)).map Prod.fst).nodup_iff
      rw [sortedMembers_keys] at keys
      rw [decide_eq_decide.mpr (not_congr keys)]

theorem repeatsItems_sorted : (items : List Document) →
    repeatsItems (sortedItems items) = repeatsItems items
  | [] => rfl
  | item :: rest => by
      rw [sortedItems, repeatsItems, repeatsItems, repeats_ordered item, repeatsItems_sorted rest]

theorem repeatsMembers_sorted : (members : List (Text × Document)) →
    repeatsMembers (sortedMembers members) = repeatsMembers members
  | [] => rfl
  | (key, value) :: rest => by
      rw [sortedMembers, repeatsMembers, repeatsMembers, repeats_ordered value,
        repeatsMembers_sorted rest]

end

mutual

theorem printable_ordered (maxDigits : Nat) : (document : Document) →
    document.ordered.printable maxDigits = document.printable maxDigits
  | .null => rfl
  | .bool _ => rfl
  | .int _ => rfl
  | .float _ => rfl
  | .nonFinite _ => rfl
  | .str _ => rfl
  | .arr items => by
      rw [Document.ordered, Document.printable, Document.printable,
        printableItems_sorted maxDigits items]
  | .obj members => by
      rw [Document.ordered, Document.printable, Document.printable, printableMembers_eq_all,
        (sortPairs_perm _).all_eq, ← printableMembers_eq_all,
        printableMembers_sorted maxDigits members]

theorem printableItems_sorted (maxDigits : Nat) : (items : List Document) →
    printableItems maxDigits (sortedItems items) = printableItems maxDigits items
  | [] => rfl
  | item :: rest => by
      rw [sortedItems, printableItems, printableItems, printable_ordered maxDigits item,
        printableItems_sorted maxDigits rest]

theorem printableMembers_sorted (maxDigits : Nat) : (members : List (Text × Document)) →
    printableMembers maxDigits (sortedMembers members) = printableMembers maxDigits members
  | [] => rfl
  | (key, value) :: rest => by
      rw [sortedMembers, printableMembers, printableMembers, printable_ordered maxDigits value,
        printableMembers_sorted maxDigits rest]

end

theorem ofMembers_keys (members : List (String × Json)) :
    (ofMembers members).map Prod.fst = (members.map Prod.fst).map ofString := by
  rw [ofMembers_eq, List.map_map, List.map_map]
  rfl

theorem lookup_ofMembers (members : List (String × Json)) (name : String) :
    (ofMembers members).lookup (ofString name) = (members.lookup name).map ofJson := by
  induction members with
  | nil => rfl
  | cons member rest ih =>
      have same : (ofString name == ofString member.1) = (name == member.1) := by
        rw [Bool.eq_iff_iff, beq_iff_eq, beq_iff_eq, ofString_injective.eq_iff]
      rw [ofMembers, List.lookup_cons, List.lookup_cons, same, ih]
      cases name == member.1 <;> rfl

/-! ## Reading what is written in order -/

section Nesting

variable {decoder : Decoder}

mutual

/-- What can be written and is not nested deeper than there is room can be read. -/
theorem within_of_printable : (document : Document) → (room : Nat) →
    document.printable decoder.maxDigits = true → document.calls ≤ room →
    Within decoder room document
  | .null, _, _, _ => trivial
  | .bool _, _, _, _ => trivial
  | .int _, _, printable, _ => by
      rw [Document.printable, decide_eq_true_eq] at printable
      exact printable
  | .float _, _, _, _ => trivial
  | .nonFinite _, _, _, _ => trivial
  | .str _, _, _, _ => trivial
  | .arr items, room, printable, nested => by
      rw [Document.calls] at nested
      rw [Within]
      exact ⟨by omega, withinItems_of_printable items _ printable (by omega)⟩
  | .obj members, room, printable, nested => by
      rw [Document.calls] at nested
      rw [Within]
      exact ⟨by omega, withinMembers_of_printable members _ printable (by omega)⟩

theorem withinItems_of_printable : (items : List Document) → (room : Nat) →
    printableItems decoder.maxDigits items = true → itemCalls items ≤ room →
    WithinItems decoder room items
  | [], _, _, _ => trivial
  | item :: rest, room, printable, nested => by
      rw [printableItems, Bool.and_eq_true] at printable
      rw [itemCalls] at nested
      rw [WithinItems]
      exact ⟨within_of_printable item room printable.1 (by omega),
        withinItems_of_printable rest room printable.2 (by omega)⟩

theorem withinMembers_of_printable : (members : List (Text × Document)) → (room : Nat) →
    printableMembers decoder.maxDigits members = true → memberCalls members ≤ room →
    WithinMembers decoder room members
  | [], _, _, _ => trivial
  | (key, value) :: rest, room, printable, nested => by
      rw [printableMembers, Bool.and_eq_true] at printable
      rw [memberCalls] at nested
      rw [WithinMembers]
      exact ⟨within_of_printable value room printable.1 (by omega),
        withinMembers_of_printable rest room printable.2 (by omega)⟩

end

theorem memberCalls_le {members : List (Text × Document)} {bound : Nat} :
    memberCalls members ≤ bound ↔ ∀ member ∈ members, member.2.calls ≤ bound := by
  induction members with
  | nil => simp [memberCalls]
  | cons member rest ih => simp [memberCalls, ih]

mutual

theorem calls_ordered : (document : Document) → document.ordered.calls = document.calls
  | .null => rfl
  | .bool _ => rfl
  | .int _ => rfl
  | .float _ => rfl
  | .nonFinite _ => rfl
  | .str _ => rfl
  | .arr items => by
      rw [Document.ordered, Document.calls, Document.calls, itemCalls_sorted items]
  | .obj members => by
      have same : memberCalls (sortPairs (sortedMembers members)) =
          memberCalls (sortedMembers members) := by
        refine eq_of_forall_ge_iff fun bound => ?_
        rw [memberCalls_le, memberCalls_le]
        exact forall_congr' fun member => by rw [(sortPairs_perm _).mem_iff]
      rw [Document.ordered, Document.calls, Document.calls, same, memberCalls_sorted members]

theorem itemCalls_sorted : (items : List Document) →
    itemCalls (sortedItems items) = itemCalls items
  | [] => rfl
  | item :: rest => by
      rw [sortedItems, itemCalls, itemCalls, calls_ordered item, itemCalls_sorted rest]

theorem memberCalls_sorted : (members : List (Text × Document)) →
    memberCalls (sortedMembers members) = memberCalls members
  | [] => rfl
  | (key, value) :: rest => by
      rw [sortedMembers, memberCalls, memberCalls, calls_ordered value, memberCalls_sorted rest]

end

end Nesting

/-! ## Repeated keys while reading -/

/-- Some object that is complete already has two members of one key. -/
def State.repeats (state : State) : Bool :=
  state.stack.any (fun frame => repeatsItems frame.values) ||
    match state.mode with
    | .done value => value.repeats
    | _ => false

/-- While the text is read, until it ends or is refused, an object is complete that has two
members of one key. -/
def repeatsWhileRead (decoder : Decoder) (text : List Char) : Bool :=
  (List.range (text.length + 1)).any fun count =>
    match (text.take count).foldlM (step decoder) ⟨.value, []⟩ with
    | .ok state => state.repeats
    | .error _ => false

end CrossPatch.Library.Documents
