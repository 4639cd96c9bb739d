import CrossPatch.Library.Numerals
import CrossPatch.Library.Octets

/-!
# Compact JSON text

Values, the compact writer that escapes only what JSON requires, and the proof
that the written text determines the value.  The argument never parses: no
written value extends another one past a delimiter, so two equal texts split at
the same places.
-/

namespace CrossPatch.Library.JsonText

open CrossPatch.Library.Numerals CrossPatch.Library.Octets

inductive Json where
  | null
  | bool (value : Bool)
  | int (value : Int)
  | float (value : FloatText)
  | str (value : String)
  | arr (items : List Json)
  | obj (members : List (String × Json))

/-! ## Writer -/

/-- Characters with a two-character escape, each with the letter that stands for it. -/
def shortEscapes : List (Char × Char) :=
  [('"', '"'), ('\\', '\\'), ('\n', 'n'), ('\r', 'r'), ('\t', 't'), ('\x0c', 'f'),
   ('\x08', 'b')]

def escape (character : Char) : List Char :=
  match shortEscapes.lookup character with
  | some letter => ['\\', letter]
  | none =>
      if character.toNat < 32 then
        '\\' :: 'u' :: '0' :: '0' :: hexByte (UInt8.ofNat character.toNat)
      else [character]

/-- A quoted string, without its opening quote. -/
def quoteBody : List Char → List Char
  | [] => ['"']
  | character :: rest => escape character ++ quoteBody rest

def quote (text : String) : List Char := '"' :: quoteBody text.toList

def intText : Int → List Char
  | .ofNat value => Nat.toDigits 10 value
  | .negSucc value => '-' :: Nat.toDigits 10 (value + 1)

mutual

def write : Json → List Char
  | .null => ['n', 'u', 'l', 'l']
  | .bool true => ['t', 'r', 'u', 'e']
  | .bool false => ['f', 'a', 'l', 's', 'e']
  | .int value => intText value
  | .float value => value.text
  | .str text => quote text
  | .arr [] => ['[', ']']
  | .arr (item :: rest) => '[' :: write item ++ writeItems rest
  | .obj [] => ['{', '}']
  | .obj ((key, value) :: rest) => '{' :: quote key ++ ':' :: write value ++ writeMembers rest

def writeItems : List Json → List Char
  | [] => [']']
  | item :: rest => ',' :: write item ++ writeItems rest

def writeMembers : List (String × Json) → List Char
  | [] => ['}']
  | (key, value) :: rest => ',' :: quote key ++ ':' :: write value ++ writeMembers rest

end

def encode (value : Json) : Bytes := utf8 (String.ofList (write value))

/-! ## Strings -/

/-- The three shapes of a written character. -/
inductive Escaped (character : Char) : List Char → Prop where
  | short (letter : Char) (listed : (character, letter) ∈ shortEscapes) :
      Escaped character ['\\', letter]
  | control (low : character.toNat < 32) :
      Escaped character ('\\' :: 'u' :: '0' :: '0' :: hexByte (UInt8.ofNat character.toNat))
  | plain (notQuote : character ≠ '"') (notSlash : character ≠ '\\') :
      Escaped character [character]

theorem escape_escaped (character : Char) : Escaped character (escape character) := by
  unfold escape
  cases found : shortEscapes.lookup character with
  | some letter =>
      obtain ⟨before, after, split, _⟩ := List.lookup_eq_some_iff.mp found
      exact .short letter (by rw [split]; simp)
  | none =>
      dsimp only
      split
      · exact .control ‹_›
      · refine .plain ?_ ?_
        · rintro rfl
          exact absurd found (by decide)
        · rintro rfl
          exact absurd found (by decide)

theorem shortEscapes_functional : ∀ first ∈ shortEscapes, ∀ second ∈ shortEscapes,
    first.2 = second.2 → first.1 = second.1 := by
  decide

theorem shortEscapes_not_u : ∀ pair ∈ shortEscapes, pair.2 ≠ 'u' := by
  decide

theorem Escaped.append_inj {left right : Char} {text text' tail tail' : List Char}
    (first : Escaped left text) (second : Escaped right text')
    (same : text ++ tail = text' ++ tail') : left = right ∧ tail = tail' := by
  cases first with
  | short letter listed =>
      cases second with
      | short letter' listed' =>
          simp only [List.cons_append, List.nil_append, List.cons.injEq, true_and] at same
          exact ⟨shortEscapes_functional _ listed _ listed' same.1, same.2⟩
      | control low =>
          simp only [List.cons_append, List.cons.injEq, true_and] at same
          exact absurd same.1 (shortEscapes_not_u _ listed)
      | plain notQuote notSlash =>
          simp only [List.cons_append, List.cons.injEq] at same
          exact absurd same.1.symm notSlash
  | control low =>
      cases second with
      | short letter' listed' =>
          simp only [List.cons_append, List.cons.injEq, true_and] at same
          exact absurd same.1.symm (shortEscapes_not_u _ listed')
      | control low' =>
          simp only [List.cons_append, List.cons.injEq, true_and] at same
          obtain ⟨bytes, tails⟩ := List.append_inj same rfl
          have octets := congrArg UInt8.toNat (hexByte_injective bytes)
          rw [UInt8.toNat_ofNat', UInt8.toNat_ofNat'] at octets
          refine ⟨Char.toNat_inj.mp ?_, tails⟩
          omega
      | plain notQuote notSlash =>
          simp only [List.cons_append, List.cons.injEq] at same
          exact absurd same.1.symm notSlash
  | plain notQuote notSlash =>
      cases second with
      | short letter' listed' =>
          simp only [List.cons_append, List.cons.injEq] at same
          exact absurd same.1 notSlash
      | control low' =>
          simp only [List.cons_append, List.cons.injEq] at same
          exact absurd same.1 notSlash
      | plain notQuote' notSlash' =>
          simpa using same

theorem Escaped.ne_quote {character : Char} {text tail tail' : List Char}
    (escaped : Escaped character text) : text ++ tail ≠ '"' :: tail' := by
  cases escaped with
  | short letter listed => simp
  | control low => simp
  | plain notQuote notSlash => simp [notQuote]

theorem quoteBody_append_inj {left right : List Char} {tail tail' : List Char}
    (same : quoteBody left ++ tail = quoteBody right ++ tail') :
    left = right ∧ tail = tail' := by
  induction left generalizing right with
  | nil =>
      cases right with
      | nil => simpa [quoteBody] using same
      | cons character rest =>
          rw [quoteBody, quoteBody, List.append_assoc] at same
          exact absurd same.symm (escape_escaped character).ne_quote
  | cons character rest ih =>
      cases right with
      | nil =>
          rw [quoteBody, quoteBody, List.append_assoc] at same
          exact absurd same (escape_escaped character).ne_quote
      | cons other rest' =>
          rw [quoteBody, quoteBody, List.append_assoc, List.append_assoc] at same
          obtain ⟨heads, remainder⟩ :=
            (escape_escaped character).append_inj (escape_escaped other) same
          obtain ⟨bodies, tails⟩ := ih remainder
          rw [heads, bodies]
          exact ⟨rfl, tails⟩

theorem quote_append_inj {left right : String} {tail tail' : List Char}
    (same : quote left ++ tail = quote right ++ tail') : left = right ∧ tail = tail' := by
  have bodies := quoteBody_append_inj (List.cons.inj same).2
  exact ⟨String.toList_inj.mp bodies.1, bodies.2⟩

/-! ## Numbers -/

def isDelimiter (character : Char) : Bool :=
  character == ',' || character == ']' || character == '}'

/-- What may follow a value: nothing, a separator or a closing bracket. -/
inductive Delimited : List Char → Prop where
  | nil : Delimited []
  | cons {character : Char} (tail : List Char) (delimits : isDelimiter character = true) :
      Delimited (character :: tail)

theorem delimited_token_inj {left right tail tail' : List Char}
    (plainLeft : ∀ character ∈ left, isDelimiter character = false)
    (plainRight : ∀ character ∈ right, isDelimiter character = false)
    (ends : Delimited tail) (ends' : Delimited tail')
    (same : left ++ tail = right ++ tail') : left = right ∧ tail = tail' := by
  induction left generalizing right with
  | nil =>
      cases right with
      | nil => exact ⟨rfl, same⟩
      | cons character rest =>
          rw [List.nil_append] at same
          subst same
          cases ends with
          | cons _ delimits => simp [plainRight] at delimits
  | cons character rest ih =>
      cases right with
      | nil =>
          rw [List.nil_append] at same
          subst same
          cases ends' with
          | cons _ delimits => simp [plainLeft] at delimits
      | cons other rest' =>
          simp only [List.cons_append, List.cons.injEq] at same
          obtain ⟨tokens, tails⟩ := ih
            (fun inner member => plainLeft inner (List.mem_cons_of_mem _ member))
            (fun inner member => plainRight inner (List.mem_cons_of_mem _ member)) same.2
          rw [same.1, tokens]
          exact ⟨rfl, tails⟩

theorem digit_not_delimiter {character : Char} (digit : character.isDigit = true) :
    isDelimiter character = false := by
  unfold isDelimiter
  by_contra delimits
  simp only [Bool.not_eq_false, Bool.or_eq_true, beq_iff_eq] at delimits
  rcases delimits with (rfl | rfl) | rfl <;> exact absurd digit (by decide)

theorem toDigits_digit {value : Nat} {character : Char}
    (member : character ∈ Nat.toDigits 10 value) : character.isDigit = true :=
  Nat.isDigit_of_mem_toDigits (by decide) (by decide) member

theorem toDigits_injective {left right : Nat}
    (same : Nat.toDigits 10 left = Nat.toDigits 10 right) : left = right := by
  have values := congrArg (fun digits => Nat.ofDigitChars 10 digits 0) same
  simpa only [Nat.ofDigitChars_ten_toDigits] using values

/-- A number starts with a digit or a minus sign. -/
theorem intText_head (value : Int) :
    ∃ character rest, intText value = character :: rest ∧
      (character = '-' ∨ character.isDigit = true) := by
  cases value with
  | ofNat value =>
      cases digits : Nat.toDigits 10 value with
      | nil => exact absurd digits Nat.toDigits_ne_nil
      | cons character rest =>
          have member : character ∈ Nat.toDigits 10 value := by
            rw [digits]
            exact List.mem_cons_self
          exact ⟨character, rest, digits, Or.inr (toDigits_digit member)⟩
  | negSucc value => exact ⟨'-', _, rfl, Or.inl rfl⟩

theorem intText_not_delimiter (value : Int) :
    ∀ character ∈ intText value, isDelimiter character = false := by
  intro character member
  cases value with
  | ofNat value => exact digit_not_delimiter (toDigits_digit member)
  | negSucc value =>
      rcases List.mem_cons.mp member with rfl | inside
      · rfl
      · exact digit_not_delimiter (toDigits_digit inside)

theorem minus_not_toDigits (value : Nat) : '-' ∉ Nat.toDigits 10 value :=
  fun member => absurd (toDigits_digit member) (by decide)

theorem intText_injective {left right : Int} (same : intText left = intText right) :
    left = right := by
  cases left with
  | ofNat left =>
      cases right with
      | ofNat right => rw [toDigits_injective same]
      | negSucc right =>
          refine absurd ?_ (minus_not_toDigits left)
          rw [show Nat.toDigits 10 left = _ from same]
          exact List.mem_cons_self
  | negSucc left =>
      cases right with
      | ofNat right =>
          refine absurd ?_ (minus_not_toDigits right)
          rw [show Nat.toDigits 10 right = _ from same.symm]
          exact List.mem_cons_self
      | negSucc right =>
          have digits := toDigits_injective (List.cons.inj same).2
          rw [Nat.add_right_cancel digits]

theorem scaleMark_not_delimiter {character : Char} (mark : isScaleMark character = true) :
    isDelimiter character = false := by
  simp only [isScaleMark, Bool.or_eq_true, beq_iff_eq] at mark
  rcases mark with ((((digit | rfl) | rfl) | rfl) | rfl) | rfl
  · exact digit_not_delimiter digit
  all_goals rfl

theorem floatText_not_delimiter (value : FloatText) :
    ∀ character ∈ value.text, isDelimiter character = false :=
  fun character member => scaleMark_not_delimiter (value.marks character member)

/-- No float prints like an integer. -/
theorem floatText_ne_intText (value : FloatText) (number : Int) :
    value.text ≠ intText number := by
  intro same
  obtain ⟨character, member, notMinus, notDigit⟩ := value.fractional
  rw [same] at member
  cases number with
  | ofNat number => exact absurd (toDigits_digit member) (by rw [notDigit]; decide)
  | negSucc number =>
      rcases List.mem_cons.mp member with minus | inside
      · exact notMinus minus
      · exact absurd (toDigits_digit inside) (by rw [notDigit]; decide)

/-! ## Values -/

/-- The constructor that a leading character announces. -/
def leadKind (character : Char) : Nat :=
  if character = 'n' then 0
  else if character = 't' then 1
  else if character = 'f' then 2
  else if character = '"' then 3
  else if character = '[' then 4
  else if character = '{' then 5
  else 6

def kind : Json → Nat
  | .null => 0
  | .bool true => 1
  | .bool false => 2
  | .str _ => 3
  | .arr _ => 4
  | .obj _ => 5
  | .int _ => 6
  | .float _ => 6

theorem leadKind_number {character : Char}
    (number : character = '-' ∨ character.isDigit = true) : leadKind character = 6 := by
  unfold leadKind
  rcases number with rfl | digit
  · rfl
  · have differs (other : Char) (letter : other.isDigit = false) : character ≠ other := by
      rintro rfl
      rw [digit] at letter
      cases letter
    simp [differs 'n' rfl, differs 't' rfl, differs 'f' rfl, differs '"' rfl,
      differs '[' rfl, differs '{' rfl]

theorem write_head (value : Json) :
    ∃ character rest, write value = character :: rest ∧
      leadKind character = kind value ∧ isDelimiter character = false := by
  cases value with
  | null => exact ⟨_, _, rfl, rfl, rfl⟩
  | bool value => cases value <;> exact ⟨_, _, by rw [write], rfl, rfl⟩
  | int value =>
      obtain ⟨character, rest, text, number⟩ := intText_head value
      refine ⟨character, rest, by rw [write, text], leadKind_number number, ?_⟩
      exact intText_not_delimiter value character (by rw [text]; exact List.mem_cons_self)
  | float value =>
      obtain ⟨character, rest, text, number⟩ := value.head
      refine ⟨character, rest, by rw [write, text], leadKind_number number, ?_⟩
      exact floatText_not_delimiter value character (by rw [text]; exact List.mem_cons_self)
  | str text => exact ⟨_, _, by rw [write, quote], rfl, rfl⟩
  | arr items => cases items <;> exact ⟨_, _, by rw [write]; try rfl, rfl, rfl⟩
  | obj members => cases members <;> exact ⟨_, _, by rw [write]; try rfl, rfl, rfl⟩

theorem write_ne_delimiter {value : Json} {character : Char} {tail tail' : List Char}
    (delimits : isDelimiter character = true) :
    write value ++ tail ≠ character :: tail' := by
  intro same
  obtain ⟨first, rest, text, _, plain⟩ := write_head value
  rw [text] at same
  rw [(List.cons.inj same).1, delimits] at plain
  cases plain

theorem kind_eq_of_write {left right : Json} {tail tail' : List Char}
    (same : write left ++ tail = write right ++ tail') : kind left = kind right := by
  obtain ⟨character, rest, text, lead, _⟩ := write_head left
  obtain ⟨character', rest', text', lead', _⟩ := write_head right
  rw [text, text'] at same
  rw [← lead, ← lead', (List.cons.inj same).1]

theorem writeItems_delimited (items : List Json) (tail : List Char) :
    Delimited (writeItems items ++ tail) := by
  cases items with
  | nil => exact .cons _ rfl
  | cons item rest => rw [writeItems]; exact .cons _ rfl

theorem writeMembers_delimited (members : List (String × Json)) (tail : List Char) :
    Delimited (writeMembers members ++ tail) := by
  cases members with
  | nil => exact .cons _ rfl
  | cons member rest => rw [writeMembers]; exact .cons _ rfl

/-- The member part of an object, after its opening bracket or a separator. -/
theorem member_append_inj {key key' : String} {value value' : Json}
    {tail tail' : List Char} (ends : Delimited tail) (ends' : Delimited tail')
    (values : ∀ {first second : List Char}, Delimited first → Delimited second →
      write value ++ first = write value' ++ second → value = value' ∧ first = second)
    (same : quote key ++ ':' :: (write value ++ tail) =
      quote key' ++ ':' :: (write value' ++ tail')) :
    (key, value) = (key', value') ∧ tail = tail' := by
  obtain ⟨keys, remainder⟩ := quote_append_inj same
  obtain ⟨equal, tails⟩ := values ends ends' (List.cons.inj remainder).2
  rw [keys, equal]
  exact ⟨rfl, tails⟩

mutual

/-- Two written values that are followed by a delimiter agree only when the
values and everything after them agree. -/
theorem write_append_inj : (left right : Json) → {tail tail' : List Char} →
    Delimited tail → Delimited tail' → write left ++ tail = write right ++ tail' →
    left = right ∧ tail = tail'
  | .null, right, tail, tail', _, _, same => by
      have kinds := kind_eq_of_write same
      cases right with
      | null => simpa [write] using same
      | bool value => cases value <;> simp [kind] at kinds
      | _ => simp [kind] at kinds
  | .bool value, right, tail, tail', _, _, same => by
      have kinds := kind_eq_of_write same
      cases right with
      | bool value' =>
          cases value <;> cases value' <;> simp_all [kind, write]
      | _ => cases value <;> simp [kind] at kinds
  | .int value, right, tail, tail', ends, ends', same => by
      have kinds := kind_eq_of_write same
      cases right with
      | int value' =>
          rw [write, write] at same
          obtain ⟨texts, tails⟩ := delimited_token_inj (intText_not_delimiter value)
            (intText_not_delimiter value') ends ends' same
          rw [intText_injective texts]
          exact ⟨rfl, tails⟩
      | float value' =>
          rw [write, write] at same
          obtain ⟨texts, _⟩ := delimited_token_inj (intText_not_delimiter value)
            (floatText_not_delimiter value') ends ends' same
          exact absurd texts.symm (floatText_ne_intText value' value)
      | bool value => cases value <;> simp [kind] at kinds
      | _ => simp [kind] at kinds
  | .float value, right, tail, tail', ends, ends', same => by
      have kinds := kind_eq_of_write same
      cases right with
      | int value' =>
          rw [write, write] at same
          obtain ⟨texts, _⟩ := delimited_token_inj (floatText_not_delimiter value)
            (intText_not_delimiter value') ends ends' same
          exact absurd texts (floatText_ne_intText value value')
      | float value' =>
          rw [write, write] at same
          obtain ⟨texts, tails⟩ := delimited_token_inj (floatText_not_delimiter value)
            (floatText_not_delimiter value') ends ends' same
          obtain ⟨text, printed⟩ := value
          cases texts
          exact ⟨rfl, tails⟩
      | bool value => cases value <;> simp [kind] at kinds
      | _ => simp [kind] at kinds
  | .str text, right, tail, tail', _, _, same => by
      have kinds := kind_eq_of_write same
      cases right with
      | str text' =>
          rw [write, write] at same
          obtain ⟨texts, tails⟩ := quote_append_inj same
          rw [texts]
          exact ⟨rfl, tails⟩
      | bool value => cases value <;> simp [kind] at kinds
      | _ => simp [kind] at kinds
  | .arr [], right, tail, tail', _, _, same => by
      have kinds := kind_eq_of_write same
      cases right with
      | arr items' =>
          cases items' with
          | nil => simpa [write] using same
          | cons item' rest' =>
              simp only [write, List.cons_append, List.cons.injEq, true_and,
                List.append_assoc] at same
              exact absurd same.symm (write_ne_delimiter rfl)
      | bool value => cases value <;> simp [kind] at kinds
      | _ => simp [kind] at kinds
  | .arr (item :: rest), right, tail, tail', _, _, same => by
      have kinds := kind_eq_of_write same
      cases right with
      | arr items' =>
          cases items' with
          | nil =>
              simp only [write, List.cons_append, List.cons.injEq, true_and,
                List.append_assoc] at same
              exact absurd same (write_ne_delimiter rfl)
          | cons item' rest' =>
              simp only [write, List.cons_append, List.cons.injEq, true_and,
                List.append_assoc] at same
              obtain ⟨items, remainder⟩ := write_append_inj item item'
                (writeItems_delimited rest tail) (writeItems_delimited rest' tail') same
              obtain ⟨rests, tails⟩ := writeItems_append_inj rest rest' remainder
              rw [items, rests]
              exact ⟨rfl, tails⟩
      | bool value => cases value <;> simp [kind] at kinds
      | _ => simp [kind] at kinds
  | .obj [], right, tail, tail', _, _, same => by
      have kinds := kind_eq_of_write same
      cases right with
      | obj members' =>
          cases members' with
          | nil => simpa [write] using same
          | cons member' rest' => simp [write, quote] at same
      | bool value => cases value <;> simp [kind] at kinds
      | _ => simp [kind] at kinds
  | .obj ((key, value) :: rest), right, tail, tail', _, _, same => by
      have kinds := kind_eq_of_write same
      cases right with
      | obj members' =>
          cases members' with
          | nil => simp [write, quote] at same
          | cons member' rest' =>
              simp only [write, List.cons_append, List.cons.injEq, true_and,
                List.append_assoc] at same
              obtain ⟨members, remainder⟩ := member_append_inj
                (writeMembers_delimited rest tail) (writeMembers_delimited rest' tail')
                (write_append_inj value member'.2) same
              obtain ⟨rests, tails⟩ := writeMembers_append_inj rest rest' remainder
              rw [members, rests]
              exact ⟨rfl, tails⟩
      | bool value => cases value <;> simp [kind] at kinds
      | _ => simp [kind] at kinds

theorem writeItems_append_inj : (left right : List Json) → {tail tail' : List Char} →
    writeItems left ++ tail = writeItems right ++ tail' → left = right ∧ tail = tail'
  | [], [], _, _, same => by simpa [writeItems] using same
  | [], _ :: _, _, _, same => by simp [writeItems] at same
  | _ :: _, [], _, _, same => by simp [writeItems] at same
  | item :: rest, item' :: rest', tail, tail', same => by
      rw [writeItems, writeItems] at same
      simp only [List.cons_append, List.append_assoc, List.cons.injEq, true_and] at same
      obtain ⟨items, remainder⟩ := write_append_inj item item'
        (writeItems_delimited rest tail) (writeItems_delimited rest' tail') same
      obtain ⟨rests, tails⟩ := writeItems_append_inj rest rest' remainder
      rw [items, rests]
      exact ⟨rfl, tails⟩

theorem writeMembers_append_inj : (left right : List (String × Json)) →
    {tail tail' : List Char} →
    writeMembers left ++ tail = writeMembers right ++ tail' → left = right ∧ tail = tail'
  | [], [], _, _, same => by simpa [writeMembers] using same
  | [], _ :: _, _, _, same => by simp [writeMembers] at same
  | _ :: _, [], _, _, same => by simp [writeMembers] at same
  | (key, value) :: rest, member' :: rest', tail, tail', same => by
      rw [writeMembers, writeMembers] at same
      simp only [List.cons_append, List.append_assoc, List.cons.injEq, true_and] at same
      obtain ⟨members, remainder⟩ := member_append_inj
        (writeMembers_delimited rest tail) (writeMembers_delimited rest' tail')
        (write_append_inj value member'.2) same
      obtain ⟨rests, tails⟩ := writeMembers_append_inj rest rest' remainder
      rw [members, rests]
      exact ⟨rfl, tails⟩

end

/-- The encoded bytes determine the value. -/
theorem encode_injective {left right : Json} (same : encode left = encode right) :
    left = right := by
  have texts : write left ++ [] = write right ++ [] := by
    rw [List.append_nil, List.append_nil]
    exact String.ofList_injective (utf8_injective same)
  exact (write_append_inj left right .nil .nil texts).1

/-! ## Lines -/

theorem hexByte_no_newline (byte : UInt8) : '\n' ∉ hexByte byte := by
  intro member
  simp only [hexByte, List.mem_cons, List.not_mem_nil, or_false] at member
  have listed : '\n' ∈ hexDigits := by
    rcases member with high | low
    · exact high ▸ hexDigit_mem _
    · exact low ▸ hexDigit_mem _
  exact absurd listed (by decide)

theorem escape_no_newline (character : Char) : '\n' ∉ escape character := by
  unfold escape
  cases found : shortEscapes.lookup character with
  | some letter =>
      obtain ⟨before, after, split, _⟩ := List.lookup_eq_some_iff.mp found
      have listed : (character, letter) ∈ shortEscapes := by rw [split]; simp
      have letters : ∀ pair ∈ shortEscapes, pair.2 ≠ '\n' := by decide
      have other := letters _ listed
      simpa using Ne.symm other
  | none =>
      dsimp only
      split
      · have digits := hexByte_no_newline (UInt8.ofNat character.toNat)
        simpa using digits
      · rw [List.mem_singleton]
        rintro rfl
        exact absurd found (by decide)

theorem quoteBody_no_newline (text : List Char) : '\n' ∉ quoteBody text := by
  induction text with
  | nil => decide
  | cons character rest ih =>
      rw [quoteBody, List.mem_append]
      rintro (inside | later)
      · exact escape_no_newline character inside
      · exact ih later

theorem quote_no_newline (text : String) : '\n' ∉ quote text := by
  rw [quote, List.mem_cons]
  rintro (head | inside)
  · exact absurd head (by decide)
  · exact quoteBody_no_newline _ inside

theorem intText_no_newline (value : Int) : '\n' ∉ intText value := by
  intro member
  cases value with
  | ofNat value => exact absurd (toDigits_digit member) (by decide)
  | negSucc value =>
      rcases List.mem_cons.mp member with head | inside
      · exact absurd head (by decide)
      · exact absurd (toDigits_digit inside) (by decide)

mutual

/-- A written value stays on its line. -/
theorem write_no_newline : (value : Json) → '\n' ∉ write value
  | .null => by decide
  | .bool true => by decide
  | .bool false => by decide
  | .int value => intText_no_newline value
  | .float value => fun member => absurd (value.marks _ member) (by decide)
  | .str text => quote_no_newline text
  | .arr [] => by decide
  | .arr (item :: rest) => by
      have first := write_no_newline item
      have later := writeItems_no_newline rest
      simp [write, first, later]
  | .obj [] => by decide
  | .obj ((key, value) :: rest) => by
      have named := quote_no_newline key
      have first := write_no_newline value
      have later := writeMembers_no_newline rest
      simp [write, named, first, later]

theorem writeItems_no_newline : (items : List Json) → '\n' ∉ writeItems items
  | [] => by decide
  | item :: rest => by
      have first := write_no_newline item
      have later := writeItems_no_newline rest
      simp [writeItems, first, later]

theorem writeMembers_no_newline : (members : List (String × Json)) → '\n' ∉ writeMembers members
  | [] => by decide
  | (key, value) :: rest => by
      have named := quote_no_newline key
      have first := write_no_newline value
      have later := writeMembers_no_newline rest
      simp [writeMembers, named, first, later]

end

instance : DecidableEq Json := fun left right =>
  decidable_of_iff (encode left = encode right) ⟨encode_injective, congrArg encode⟩

end CrossPatch.Library.JsonText
