import CrossPatch.Library.JsonText

/-!
# Reading JSON text

A reader takes a text character by character.  Its state is what it expects next and the
containers that are still open, so a text is read by folding one step over it and the
reading of a text continues that of its beginning.  Every written value is read back, also
when the writer spells characters outside ASCII as escapes.
-/

namespace CrossPatch.Library.JsonReader

open CrossPatch.Library.JsonText CrossPatch.Library.Numerals CrossPatch.Library.Octets

/-! ## Reader -/

/-- Why a text is refused: its bytes are no text, it is no JSON text, a number has no value,
containers are nested too deeply, or the members of an object are not wanted. -/
inductive Flaw where
  | encoding
  | malformed
  | number
  | nesting
  | members
  deriving DecidableEq

/-- The values of literals with a fraction or an exponent, unless they are too large, the
digits that an integer may have, the depth of nesting, and what becomes of the members of
an object. -/
structure Reader where
  float : List Char → Option FloatText
  maxDigits : Nat
  maxDepth : Nat
  hook : List (String × Json) → Option (List (String × Json))
  float_text : ∀ value : FloatText, float value.text = some value

/-- An open container. -/
inductive Frame where
  | array (items : List Json)
  | object (members : List (String × Json))
  | member (members : List (String × Json)) (name : String)

/-- What is expected next; texts and literals that are being read stand in reverse. -/
inductive Mode where
  | value
  | item
  | name
  | nextName
  | colon
  | next
  | done (value : Json)
  | text (read : List Char)
  | escaped (read : List Char)
  | unit (read : List Char) (high : Option Nat) (left unit : Nat)
  | pair (read : List Char) (high : Nat)
  | pairUnit (read : List Char) (high : Nat)
  | literal (rest : List Char) (value : Option Json)
  | number (read : List Char)

structure State where
  mode : Mode
  stack : List Frame

def isBlank (character : Char) : Bool :=
  character == ' ' || character == '\t' || character == '\n' || character == '\r'

/-- A value is complete. -/
def place (value : Json) : List Frame → State
  | [] => ⟨.done value, []⟩
  | .array items :: rest => ⟨.next, .array (items ++ [value]) :: rest⟩
  | .member members name :: rest => ⟨.next, .object (members ++ [(name, value)]) :: rest⟩
  | .object members :: rest => ⟨.next, .object members :: rest⟩

variable (reader : Reader)

def push (frame : Frame) (mode : Mode) (stack : List Frame) : Except Flaw State :=
  if stack.length < reader.maxDepth then .ok ⟨mode, frame :: stack⟩ else .error .nesting

/-- The first character of a value. -/
def start (stack : List Frame) (character : Char) : Except Flaw State :=
  if character = '"' then .ok ⟨.text [], stack⟩
  else if character = '[' then push reader (.array []) .item stack
  else if character = '{' then push reader (.object []) .name stack
  else if character = 'n' then .ok ⟨.literal ['u', 'l', 'l'] (some .null), stack⟩
  else if character = 't' then .ok ⟨.literal ['r', 'u', 'e'] (some (.bool true)), stack⟩
  else if character = 'f' then .ok ⟨.literal ['a', 'l', 's', 'e'] (some (.bool false)), stack⟩
  else if character = 'N' then .ok ⟨.literal ['a', 'N'] none, stack⟩
  else if character = 'I' then .ok ⟨.literal ['n', 'f', 'i', 'n', 'i', 't', 'y'] none, stack⟩
  else if character = '-' ∨ character.isDigit = true then .ok ⟨.number [character], stack⟩
  else .error .malformed

def closeArray : List Frame → Except Flaw State
  | .array items :: rest => .ok (place (.arr items) rest)
  | _ => .error .malformed

def closeObject : List Frame → Except Flaw State
  | .object members :: rest =>
      match reader.hook members with
      | some kept => .ok (place (.obj kept) rest)
      | none => .error .members
  | _ => .error .malformed

def separate : List Frame → Except Flaw State
  | .array items :: rest => .ok ⟨.value, .array items :: rest⟩
  | .object members :: rest => .ok ⟨.nextName, .object members :: rest⟩
  | _ => .error .malformed

/-- A character after a complete value. -/
def settle (state : State) (character : Char) : Except Flaw State :=
  if isBlank character then .ok state
  else match state.mode with
    | .next =>
        if character = ',' then separate state.stack
        else if character = ']' then closeArray state.stack
        else if character = '}' then closeObject reader state.stack
        else .error .malformed
    | _ => .error .malformed

/-- A text is complete; it is the name of a member where one is expected. -/
def closeText (text : String) : List Frame → State
  | .object members :: rest => ⟨.colon, .member members text :: rest⟩
  | stack => place (.str text) stack

def hexValue (character : Char) : Option Nat :=
  let code := character.toNat
  if 48 ≤ code ∧ code ≤ 57 then some (code - 48)
  else if 97 ≤ code ∧ code ≤ 102 then some (code - 87)
  else if 65 ≤ code ∧ code ≤ 70 then some (code - 55)
  else none

def isHigh (unit : Nat) : Bool := decide (0xd800 ≤ unit ∧ unit < 0xdc00)

def isLow (unit : Nat) : Bool := decide (0xdc00 ≤ unit ∧ unit < 0xe000)

/-- A code unit is complete; no text has half of a surrogate pair. -/
def closeUnit (read : List Char) (high : Option Nat) (unit : Nat) : Except Flaw Mode :=
  match high with
  | none =>
      if isHigh unit then .ok (.pair read unit)
      else if isLow unit then .error .malformed
      else .ok (.text (Char.ofNat unit :: read))
  | some high =>
      if isLow unit then
        .ok (.text (Char.ofNat (0x10000 + (high - 0xd800) * 0x400 + (unit - 0xdc00)) :: read))
      else .error .malformed

def escapeValue (character : Char) : Option Char :=
  if character = '/' then some '/'
  else (shortEscapes.find? fun pair => pair.2 == character).map Prod.fst

def closeLiteral (value : Option Json) (stack : List Frame) : Except Flaw State :=
  match value with
  | some value => .ok (place value stack)
  | none => .error .number

def wholeValue : List Char → Int
  | '-' :: digits => -(Nat.ofDigitChars 10 digits 0 : Int)
  | digits => Nat.ofDigitChars 10 digits 0

def digitCount (whole : List Char) : Nat := (whole.filter Char.isDigit).length

def numberValue (text : List Char) : Except Flaw Json :=
  match scanNumber text with
  | none => .error .malformed
  | some literal =>
      if literal.rest ≠ [] then .error .malformed
      else if literal.scale = [] then
        if digitCount literal.whole ≤ reader.maxDigits then .ok (.int (wholeValue literal.whole))
        else .error .number
      else match reader.float text with
        | some value => .ok (.float value)
        | none => .error .number

def textStep (read : List Char) (stack : List Frame) (character : Char) : Except Flaw State :=
  if character = '"' then .ok (closeText (String.ofList read.reverse) stack)
  else if character = '\\' then .ok ⟨.escaped read, stack⟩
  else if character.toNat < 32 then .error .malformed
  else .ok ⟨.text (character :: read), stack⟩

def escapedStep (read : List Char) (stack : List Frame) (character : Char) : Except Flaw State :=
  if character = 'u' then .ok ⟨.unit read none 4 0, stack⟩
  else match escapeValue character with
    | some plain => .ok ⟨.text (plain :: read), stack⟩
    | none => .error .malformed

def unitStep (read : List Char) (high : Option Nat) (left unit : Nat) (stack : List Frame)
    (character : Char) : Except Flaw State :=
  match hexValue character with
  | none => .error .malformed
  | some digit =>
      if left = 1 then (closeUnit read high (unit * 16 + digit)).map fun mode => ⟨mode, stack⟩
      else .ok ⟨.unit read high (left - 1) (unit * 16 + digit), stack⟩

def numberStep (read : List Char) (stack : List Frame) (character : Char) : Except Flaw State :=
  if isScaleMark character then .ok ⟨.number (character :: read), stack⟩
  else if read = ['-'] ∧ character = 'I' then
    .ok ⟨.literal ['n', 'f', 'i', 'n', 'i', 't', 'y'] none, stack⟩
  else match numberValue reader read.reverse with
    | .ok value => settle reader (place value stack) character
    | .error flaw => .error flaw

def expect (wanted character : Char) (state next : State) : Except Flaw State :=
  if isBlank character then .ok state
  else if character = wanted then .ok next
  else .error .malformed

def step (state : State) (character : Char) : Except Flaw State :=
  match state.mode with
  | .value => if isBlank character then .ok state else start reader state.stack character
  | .item =>
      if isBlank character then .ok state
      else if character = ']' then closeArray state.stack
      else start reader state.stack character
  | .name =>
      if character = '}' then closeObject reader state.stack
      else expect '"' character state ⟨.text [], state.stack⟩
  | .nextName => expect '"' character state ⟨.text [], state.stack⟩
  | .colon => expect ':' character state ⟨.value, state.stack⟩
  | .next | .done _ => settle reader state character
  | .text read => textStep read state.stack character
  | .escaped read => escapedStep read state.stack character
  | .unit read high left unit => unitStep read high left unit state.stack character
  | .pair read high =>
      if character = '\\' then .ok ⟨.pairUnit read high, state.stack⟩ else .error .malformed
  | .pairUnit read high =>
      if character = 'u' then .ok ⟨.unit read (some high) 4 0, state.stack⟩
      else .error .malformed
  | .literal [] value => closeLiteral value state.stack
  | .literal [last] value =>
      if character = last then closeLiteral value state.stack else .error .malformed
  | .literal (letter :: rest) value =>
      if character = letter then .ok ⟨.literal rest value, state.stack⟩ else .error .malformed
  | .number read => numberStep reader read state.stack character

def finish (state : State) : Except Flaw Json :=
  match state.mode, state.stack with
  | .done value, _ => .ok value
  | .number read, [] => numberValue reader read.reverse
  | _, _ => .error .malformed

def feed (state : State) (text : List Char) : Except Flaw State :=
  text.foldlM (step reader) state

def read (text : List Char) : Except Flaw Json := feed reader ⟨.value, []⟩ text >>= finish reader

/-! ## Feeding -/

variable {reader}

@[simp]
theorem feed_nil (state : State) : feed reader state [] = .ok state := rfl

theorem feed_cons (state : State) (character : Char) (rest : List Char) :
    feed reader state (character :: rest) =
      step reader state character >>= fun next => feed reader next rest := rfl

theorem feed_cons_ok {state next : State} {character : Char}
    (steps : step reader state character = .ok next) (rest : List Char) :
    feed reader state (character :: rest) = feed reader next rest := by
  rw [feed_cons, steps]
  rfl

theorem feed_append (state : State) (first second : List Char) :
    feed reader state (first ++ second) =
      feed reader state first >>= fun next => feed reader next second :=
  List.foldlM_append

theorem feed_append_ok {state next : State} {first : List Char}
    (reads : feed reader state first = .ok next) (second : List Char) :
    feed reader state (first ++ second) = feed reader next second := by
  rw [feed_append, reads]
  rfl

/-! ## Characters of a text -/

theorem hexValue_hexDigit : ∀ nibble < 16, hexValue (hexDigit nibble) = some nibble := by
  decide

/-- A code unit as an escape. -/
def unicodeEscape (unit : Nat) : List Char :=
  ['\\', 'u', hexDigit (unit / 4096), hexDigit (unit / 256 % 16), hexDigit (unit / 16 % 16),
    hexDigit (unit % 16)]

theorem unitStep_more {read : List Char} {high : Option Nat} {stack : List Frame} {digit unit : Nat}
    (small : digit < 16) (left : Nat) :
    step reader ⟨.unit read high (left + 2) unit, stack⟩ (hexDigit digit) =
      .ok ⟨.unit read high (left + 1) (unit * 16 + digit), stack⟩ := by
  simp only [step, unitStep, hexValue_hexDigit digit small]
  rw [if_neg (by omega)]
  rfl

theorem unitStep_last {read : List Char} {high : Option Nat} {stack : List Frame} {digit unit : Nat}
    {mode : Mode} (small : digit < 16) (closes : closeUnit read high (unit * 16 + digit) = .ok mode) :
    step reader ⟨.unit read high 1 unit, stack⟩ (hexDigit digit) = .ok ⟨mode, stack⟩ := by
  simp only [step, unitStep, hexValue_hexDigit digit small, if_true, closes]
  rfl

/-- Four hexadecimal digits are read as their value. -/
theorem feed_digits {read : List Char} {high : Option Nat} {stack : List Frame} {unit : Nat}
    {mode : Mode} (small : unit < 65536) (closes : closeUnit read high unit = .ok mode) :
    feed reader ⟨.unit read high 4 0, stack⟩
      [hexDigit (unit / 4096), hexDigit (unit / 256 % 16), hexDigit (unit / 16 % 16),
        hexDigit (unit % 16)] = .ok ⟨mode, stack⟩ := by
  have value : ((0 * 16 + unit / 4096) * 16 + unit / 256 % 16) * 16 + unit / 16 % 16 = unit / 16 := by
    omega
  have whole : unit / 16 * 16 + unit % 16 = unit := by omega
  rw [feed_cons_ok (unitStep_more (by omega) 2), feed_cons_ok (unitStep_more (by omega) 1),
    feed_cons_ok (unitStep_more (by omega) 0), value,
    feed_cons_ok (unitStep_last (by omega) (whole.symm ▸ closes)), feed_nil]

theorem feed_unicodeEscape {read : List Char} {stack : List Frame} {unit : Nat} {mode : Mode}
    (small : unit < 65536) (closes : closeUnit read none unit = .ok mode) :
    feed reader ⟨.text read, stack⟩ (unicodeEscape unit) = .ok ⟨mode, stack⟩ := by
  have slash : step reader ⟨.text read, stack⟩ '\\' = .ok ⟨.escaped read, stack⟩ := rfl
  have letter : step reader ⟨.escaped read, stack⟩ 'u' = .ok ⟨.unit read none 4 0, stack⟩ := rfl
  rw [unicodeEscape, feed_cons_ok slash, feed_cons_ok letter]
  exact feed_digits small closes

theorem feed_pair {read : List Char} {stack : List Frame} {high unit : Nat} {mode : Mode}
    (small : unit < 65536) (closes : closeUnit read (some high) unit = .ok mode) :
    feed reader ⟨.pair read high, stack⟩ (unicodeEscape unit) = .ok ⟨mode, stack⟩ := by
  have slash : step reader ⟨.pair read high, stack⟩ '\\' = .ok ⟨.pairUnit read high, stack⟩ := rfl
  have letter : step reader ⟨.pairUnit read high, stack⟩ 'u' =
      .ok ⟨.unit read (some high) 4 0, stack⟩ := rfl
  rw [unicodeEscape, feed_cons_ok slash, feed_cons_ok letter]
  exact feed_digits small closes

/-! ## Spellings -/

/-- How a writer spells the characters of texts that are not printable ASCII; the reader takes
a spelling for its character. -/
structure Spelling (reader : Reader) where
  spell : Char → List Char
  plain : ∀ character, character.toNat < 127 → spell character = [character]
  reads : ∀ character read stack, 127 ≤ character.toNat →
    feed reader ⟨.text read, stack⟩ (spell character) = .ok ⟨.text (character :: read), stack⟩

theorem textStep_plain {character : Char} (read : List Char) (stack : List Frame)
    (notQuote : character ≠ '"') (notSlash : character ≠ '\\') (high : 32 ≤ character.toNat) :
    step reader ⟨.text read, stack⟩ character = .ok ⟨.text (character :: read), stack⟩ := by
  simp only [step, textStep]
  rw [if_neg notQuote, if_neg notSlash, if_neg (by omega)]

/-- Each character stands for itself. -/
def Spelling.literal (reader : Reader) : Spelling reader where
  spell character := [character]
  plain _ _ := rfl
  reads character read stack high := by
    have notQuote : character ≠ '"' := by rintro rfl; exact absurd high (by decide)
    have notSlash : character ≠ '\\' := by rintro rfl; exact absurd high (by decide)
    rw [feed_cons_ok (textStep_plain read stack notQuote notSlash (by omega)), feed_nil]

def asciiSpell (character : Char) : List Char :=
  let code := character.toNat
  if code < 127 then [character]
  else if code < 0x10000 then unicodeEscape code
  else unicodeEscape (0xd800 + (code - 0x10000) / 0x400) ++
    unicodeEscape (0xdc00 + (code - 0x10000) % 0x400)

theorem feed_asciiSpell (character : Char) (read : List Char) (stack : List Frame)
    (high : 127 ≤ character.toNat) :
    feed reader ⟨.text read, stack⟩ (asciiSpell character) =
      .ok ⟨.text (character :: read), stack⟩ := by
  have scalar := character.valid
  have same : Char.ofNat character.toNat = character := Char.ofNat_toNat character
  have valid : character.toNat < 0xd800 ∨ 0xdfff < character.toNat ∧ character.toNat < 0x110000 :=
    scalar
  unfold asciiSpell
  dsimp only
  rw [if_neg (by omega)]
  split
  · rename_i basic
    refine feed_unicodeEscape basic ?_
    have notHigh : isHigh character.toNat = false := decide_eq_false (by omega)
    have notLow : isLow character.toNat = false := decide_eq_false (by omega)
    simp only [closeUnit, notHigh, notLow, Bool.false_eq_true, if_false, same]
  · rename_i astral
    have first : closeUnit read none (0xd800 + (character.toNat - 0x10000) / 0x400) =
        .ok (.pair read (0xd800 + (character.toNat - 0x10000) / 0x400)) := by
      have isFirst : isHigh (0xd800 + (character.toNat - 0x10000) / 0x400) = true :=
        decide_eq_true (by omega)
      simp only [closeUnit, isFirst, if_true]
    have second : closeUnit read (some (0xd800 + (character.toNat - 0x10000) / 0x400))
        (0xdc00 + (character.toNat - 0x10000) % 0x400) = .ok (.text (character :: read)) := by
      have isSecond : isLow (0xdc00 + (character.toNat - 0x10000) % 0x400) = true :=
        decide_eq_true (by omega)
      have code : 0x10000 + (0xd800 + (character.toNat - 0x10000) / 0x400 - 0xd800) * 0x400 +
          (0xdc00 + (character.toNat - 0x10000) % 0x400 - 0xdc00) = character.toNat := by omega
      simp only [closeUnit, isSecond, if_true, code, same]
    rw [feed_append_ok (feed_unicodeEscape (by omega) first)]
    exact feed_pair (by omega) second

def Spelling.ascii (reader : Reader) : Spelling reader where
  spell := asciiSpell
  plain _ low := if_pos low
  reads := feed_asciiSpell

/-! ## Written texts -/

section Texts

variable (spelling : Spelling reader)

/-- What a writer with this spelling writes in place of the text. -/
def Spelling.respell (text : List Char) : List Char := text.flatMap spelling.spell

theorem respell_append (first second : List Char) :
    spelling.respell (first ++ second) = spelling.respell first ++ spelling.respell second :=
  List.flatMap_append

theorem respell_plain {text : List Char} (low : ∀ character ∈ text, character.toNat < 127) :
    spelling.respell text = text := by
  induction text with
  | nil => rfl
  | cons character rest ih =>
      have tail := ih fun later member => low later (List.mem_cons_of_mem _ member)
      rw [Spelling.respell, List.flatMap_cons, spelling.plain character (low _ List.mem_cons_self)]
      exact congrArg (character :: ·) tail

theorem respell_cons {character : Char} (low : character.toNat < 127) (rest : List Char) :
    spelling.respell (character :: rest) = character :: spelling.respell rest := by
  rw [Spelling.respell, List.flatMap_cons, spelling.plain character low]
  rfl

theorem shortEscapes_read : ∀ pair ∈ shortEscapes, pair.2.toNat < 127 ∧ pair.2 ≠ 'u' ∧
    escapeValue pair.2 = some pair.1 := by
  decide

theorem hexDigit_low (nibble : Nat) : (hexDigit nibble).toNat < 127 := by
  have all : ∀ digit ∈ hexDigits, digit.toNat < 127 := by simp [hexDigits]
  exact all _ (hexDigit_mem nibble)

theorem feed_escape (character : Char) (read : List Char) (stack : List Frame) :
    feed reader ⟨.text read, stack⟩ (spelling.respell (escape character)) =
      .ok ⟨.text (character :: read), stack⟩ := by
  unfold escape
  cases found : shortEscapes.lookup character with
  | some letter =>
      obtain ⟨before, after, split, _⟩ := List.lookup_eq_some_iff.mp found
      obtain ⟨low, notUnit, value⟩ := shortEscapes_read (character, letter) (by rw [split]; simp)
      have slash : step reader ⟨.text read, stack⟩ '\\' = .ok ⟨.escaped read, stack⟩ := rfl
      have plain : step reader ⟨.escaped read, stack⟩ letter =
          .ok ⟨.text (character :: read), stack⟩ := by
        simp only [step, escapedStep]
        rw [if_neg notUnit, value]
      rw [respell_plain spelling (by simp [low]), feed_cons_ok slash, feed_cons_ok plain, feed_nil]
  | none =>
      dsimp only
      split
      · rename_i control
        have digits : '\\' :: 'u' :: '0' :: '0' :: hexByte (UInt8.ofNat character.toNat) =
            unicodeEscape character.toNat := by
          have byte : (UInt8.ofNat character.toNat).toNat = character.toNat := by
            rw [UInt8.toNat_ofNat']
            omega
          have high : character.toNat / 4096 = 0 ∧ character.toNat / 256 % 16 = 0 ∧
              character.toNat / 16 % 16 = character.toNat / 16 := by omega
          rw [unicodeEscape, hexByte, byte, high.1, high.2.1, high.2.2]
          rfl
        have low : ∀ digit ∈ unicodeEscape character.toNat, digit.toNat < 127 := by
          simp only [unicodeEscape, List.forall_mem_cons, List.not_mem_nil, hexDigit_low,
            false_implies, implies_true, and_true]
          decide
        have closes : closeUnit read none character.toNat = .ok (.text (character :: read)) := by
          have notHigh : isHigh character.toNat = false := decide_eq_false (by omega)
          have notLow : isLow character.toNat = false := decide_eq_false (by omega)
          simp only [closeUnit, notHigh, notLow, Bool.false_eq_true, if_false, Char.ofNat_toNat]
        rw [digits, respell_plain spelling low]
        exact feed_unicodeEscape (by omega) closes
      · rename_i printable
        have notQuote : character ≠ '"' := by
          rintro rfl
          exact absurd found (by decide)
        have notSlash : character ≠ '\\' := by
          rintro rfl
          exact absurd found (by decide)
        by_cases low : character.toNat < 127
        · rw [respell_cons spelling low,
            feed_cons_ok (textStep_plain read stack notQuote notSlash (by omega))]
          rfl
        · have reads := spelling.reads character read stack (by omega)
          rwa [Spelling.respell, List.flatMap_singleton]

theorem feed_quoteBody (text read : List Char) (stack : List Frame) :
    feed reader ⟨.text read, stack⟩ (spelling.respell (quoteBody text)) =
      .ok (closeText (String.ofList (read.reverse ++ text)) stack) := by
  induction text generalizing read with
  | nil =>
      rw [quoteBody, respell_cons spelling (by decide), List.append_nil]
      rfl
  | cons character rest ih =>
      rw [quoteBody, respell_append, feed_append_ok (feed_escape spelling character read stack), ih,
        List.reverse_cons, List.append_assoc]
      rfl

/-- A quoted text is read where its opening quote is accepted. -/
theorem feed_quote {mode : Mode} {stack : List Frame} (text : String)
    (opens : step reader ⟨mode, stack⟩ '"' = .ok ⟨.text [], stack⟩) :
    feed reader ⟨mode, stack⟩ (spelling.respell (quote text)) = .ok (closeText text stack) := by
  rw [quote, respell_cons spelling (by decide), feed_cons_ok opens, feed_quoteBody,
    List.reverse_nil, List.nil_append, String.ofList_toList]

end Texts

/-! ## Written numbers -/

theorem toDigits_head {value : Nat} (positive : 0 < value) :
    (Nat.toDigits 10 value).head? ≠ some '0' := by
  induction value using Nat.strongRecOn with
  | ind value ih =>
      by_cases small : value < 10
      · have digit : ∀ digit < 10, 0 < digit → Nat.digitChar digit ≠ '0' := by decide
        rw [Nat.toDigits_of_lt_base small, List.head?_cons, ne_eq, Option.some.injEq]
        exact digit value small positive
      · rw [Nat.toDigits_of_base_le (by decide) (by omega),
          List.head?_append_of_ne_nil _ Nat.toDigits_ne_nil]
        exact ih (value / 10) (by omega) (by omega)

theorem scanWhole_digits {character : Char} {rest : List Char}
    (digits : ∀ digit ∈ character :: rest, digit.isDigit = true)
    (lead : character = '0' → rest = []) :
    scanWhole (character :: rest) = some (character :: rest, []) := by
  by_cases zero : character = '0'
  · rw [zero, lead zero]
    rfl
  · have tail : ∀ digit ∈ rest, digit.isDigit = true :=
      fun digit member => digits digit (List.mem_cons_of_mem _ member)
    unfold scanWhole
    split
    · contradiction
    · rename_i same
      exact absurd (List.cons.inj same).1 zero
    · rename_i same
      obtain ⟨rfl, rfl⟩ := List.cons.inj same
      rw [if_pos (digits _ List.mem_cons_self), List.takeWhile_eq_self_iff.mpr tail,
        List.dropWhile_eq_nil_iff.mpr tail]

theorem scanWhole_toDigits (value : Nat) :
    scanWhole (Nat.toDigits 10 value) = some (Nat.toDigits 10 value, []) := by
  cases digits : Nat.toDigits 10 value with
  | nil => exact absurd digits Nat.toDigits_ne_nil
  | cons character rest =>
      refine scanWhole_digits (fun digit member => toDigits_digit (digits ▸ member)) ?_
      rintro rfl
      rcases Nat.eq_zero_or_pos value with rfl | positive
      · rw [Nat.toDigits_zero] at digits
        exact (List.cons.inj digits).2.symm
      · exact absurd (by rw [digits]; rfl) (toDigits_head positive)

theorem scanNumber_intText (value : Int) :
    scanNumber (intText value) = some ⟨intText value, [], []⟩ := by
  have signed : scanSigned (intText value) = some (intText value, []) := by
    cases value with
    | ofNat value =>
        have plain : scanSigned (Nat.toDigits 10 value) = scanWhole (Nat.toDigits 10 value) := by
          unfold scanSigned
          split
          · rename_i rest minus
            exact absurd (minus ▸ List.mem_cons_self) (minus_not_toDigits value)
          · rfl
        rw [intText, plain, scanWhole_toDigits]
    | negSucc value => rw [intText, scanSigned, scanWhole_toDigits, Option.map_some]
  rw [scanNumber, signed]
  rfl

theorem wholeValue_intText (value : Int) : wholeValue (intText value) = value := by
  cases value with
  | ofNat value =>
      rw [intText]
      unfold wholeValue
      split
      · rename_i digits minus
        exact absurd (minus ▸ List.mem_cons_self) (minus_not_toDigits value)
      · rw [Nat.ofDigitChars_ten_toDigits]
        rfl
  | negSucc value =>
      rw [intText, wholeValue, Nat.ofDigitChars_ten_toDigits]
      rfl

theorem digitCount_intText (value : Int) :
    digitCount (intText value) = (Nat.toDigits 10 value.natAbs).length := by
  have all (number : Nat) : (Nat.toDigits 10 number).filter Char.isDigit = Nat.toDigits 10 number :=
    List.filter_eq_self.mpr fun digit member => toDigits_digit member
  cases value with
  | ofNat value => rw [digitCount, intText, all, Int.ofNat_eq_natCast, Int.natAbs_natCast]
  | negSucc value =>
      rw [digitCount, intText, List.filter_cons_of_neg (by decide), all, Int.natAbs_negSucc]

theorem numberValue_intText {value : Int}
    (short : (Nat.toDigits 10 value.natAbs).length ≤ reader.maxDigits) :
    numberValue reader (intText value) = .ok (.int value) := by
  simp only [numberValue, scanNumber_intText, ne_eq, not_true_eq_false, if_false, if_true,
    digitCount_intText, if_pos short, wholeValue_intText]

theorem numberValue_floatText (value : FloatText) :
    numberValue reader value.text = .ok (.float value) := by
  obtain ⟨whole, scale, scanned, _, scaled⟩ := isFloatText_scan value.printed
  simp only [numberValue, scanned, ne_eq, not_true_eq_false, if_false, if_neg scaled,
    reader.float_text]

/-- Once a number has begun, its other characters are taken as they come. -/
theorem feed_marks (read : List Char) (stack : List Frame) {marks : List Char}
    (scale : ∀ character ∈ marks, isScaleMark character = true) :
    feed reader ⟨.number read, stack⟩ marks = .ok ⟨.number (marks.reverse ++ read), stack⟩ := by
  induction marks generalizing read with
  | nil => rfl
  | cons character rest ih =>
      have taken : step reader ⟨.number read, stack⟩ character =
          .ok ⟨.number (character :: read), stack⟩ := by
        simp only [step, numberStep]
        rw [if_pos (scale character List.mem_cons_self)]
      rw [feed_cons_ok taken, ih _ fun later member => scale later (List.mem_cons_of_mem _ member),
        List.reverse_cons, List.append_assoc]
      rfl

theorem intText_marks (value : Int) : ∀ character ∈ intText value, isScaleMark character = true := by
  intro character member
  have digit (number : Nat) (inside : character ∈ Nat.toDigits 10 number) :
      isScaleMark character = true := by
    simp [isScaleMark, toDigits_digit inside]
  cases value with
  | ofNat value => exact digit value member
  | negSucc value =>
      rcases List.mem_cons.mp member with rfl | inside
      · rfl
      · exact digit _ inside

theorem scaleMark_low {character : Char} (mark : isScaleMark character = true) :
    character.toNat < 127 := by
  simp only [isScaleMark, Bool.or_eq_true, beq_iff_eq, Char.isDigit, Bool.and_eq_true,
    decide_eq_true_eq] at mark
  rcases mark with (((((⟨_, digit⟩ | rfl) | rfl) | rfl) | rfl) | rfl)
  · have bound : character.val.toNat ≤ 57 := digit
    exact Nat.lt_of_le_of_lt bound (by decide)
  all_goals decide

/-! ## Written values -/

mutual

/-- The reader accepts the integers and the objects of the value, whose containers are nested
at most `room` deep. -/
def Readable (reader : Reader) (room : Nat) : Json → Prop
  | .int value => (Nat.toDigits 10 value.natAbs).length ≤ reader.maxDigits
  | .arr items => 0 < room ∧ ReadableItems reader (room - 1) items
  | .obj members =>
      0 < room ∧ reader.hook members = some members ∧ ReadableMembers reader (room - 1) members
  | _ => True

def ReadableItems (reader : Reader) (room : Nat) : List Json → Prop
  | [] => True
  | item :: rest => Readable reader room item ∧ ReadableItems reader room rest

def ReadableMembers (reader : Reader) (room : Nat) : List (String × Json) → Prop
  | [] => True
  | (_, value) :: rest => Readable reader room value ∧ ReadableMembers reader room rest

end

/-- The value has been read, up to the end of a number. -/
inductive Settled (reader : Reader) (value : Json) (stack : List Frame) : State → Prop where
  | placed : Settled reader value stack (place value stack)
  | number (read : List Char) (complete : numberValue reader read.reverse = .ok value) :
      Settled reader value stack ⟨.number read, stack⟩

theorem place_step (value : Json) (stack : List Frame) (character : Char) :
    step reader (place value stack) character = settle reader (place value stack) character := by
  cases stack with
  | nil => rfl
  | cons frame rest => cases frame <;> rfl

theorem Settled.step {value : Json} {stack : List Frame} {state : State}
    (settled : Settled reader value stack state) {character : Char}
    (delimits : isDelimiter character = true) :
    step reader state character = settle reader (place value stack) character := by
  cases settled with
  | placed => exact place_step value stack character
  | number read complete =>
      have notMark : isScaleMark character = false := by
        by_contra mark
        rw [scaleMark_not_delimiter (Bool.of_not_eq_false mark)] at delimits
        cases delimits
      have notInfinity : ¬ (read = ['-'] ∧ character = 'I') := by
        rintro ⟨_, rfl⟩
        exact absurd delimits (by decide)
      simp only [JsonReader.step, numberStep, notMark, Bool.false_eq_true, if_false,
        if_neg notInfinity, complete]

theorem Settled.finish {value : Json} {state : State} (settled : Settled reader value [] state) :
    finish reader state = .ok value := by
  cases settled with
  | placed => rfl
  | number read complete => exact complete

variable (spelling : Spelling reader)

theorem feed_number {value : Json} {stack : List Frame} {text : List Char}
    (head : ∃ character rest, text = character :: rest ∧
      (character = '-' ∨ character.isDigit = true))
    (marks : ∀ character ∈ text, isScaleMark character = true)
    (complete : numberValue reader text = .ok value) :
    ∃ state, feed reader ⟨.value, stack⟩ (spelling.respell text) = .ok state ∧
      Settled reader value stack state := by
  rw [respell_plain spelling fun character member => scaleMark_low (marks character member)]
  obtain ⟨character, rest, rfl, number⟩ := head
  have differs (other : Char) (letter : ¬ (other = '-' ∨ other.isDigit = true)) :
      character ≠ other := by
    rintro rfl
    exact letter number
  have begins : step reader ⟨.value, stack⟩ character = .ok ⟨.number [character], stack⟩ := by
    simp [step, isBlank, start, differs, number]
  refine ⟨_, ?_, .number (rest.reverse ++ [character]) ?_⟩
  · rw [feed_cons_ok begins]
    exact feed_marks _ _ fun later member => marks later (List.mem_cons_of_mem _ member)
  · rwa [List.reverse_append, List.reverse_reverse]

/-- A written value begins with a character that neither closes an array nor is blank. -/
theorem write_lead (value : Json) : ∃ character rest, write value = character :: rest ∧
    character ≠ ']' ∧ isBlank character = false ∧ character.toNat < 127 := by
  have number {text : List Char} (head : ∃ character rest, text = character :: rest ∧
      (character = '-' ∨ character.isDigit = true)) : ∃ character rest,
        text = character :: rest ∧ character ≠ ']' ∧ isBlank character = false ∧
          character.toNat < 127 := by
    obtain ⟨character, rest, same, lead⟩ := head
    have differs (other : Char) (letter : ¬ (other = '-' ∨ other.isDigit = true)) :
        character ≠ other := by
      rintro rfl
      exact letter lead
    refine ⟨character, rest, same, differs ']' (by decide), by simp [isBlank, differs],
      scaleMark_low ?_⟩
    rcases lead with rfl | digit
    · rfl
    · simp [isScaleMark, digit]
  cases value with
  | null => exact ⟨_, _, rfl, by decide, rfl, by decide⟩
  | bool value => cases value <;> exact ⟨_, _, by rw [write], by decide, rfl, by decide⟩
  | int value =>
      rw [write]
      exact number (intText_head value)
  | float value =>
      rw [write]
      exact number value.head
  | str text => exact ⟨_, _, by rw [write, quote], by decide, rfl, by decide⟩
  | arr items => cases items <;> exact ⟨_, _, by rw [write]; try rfl, by decide, rfl, by decide⟩
  | obj members =>
      cases members <;> exact ⟨_, _, by rw [write]; try rfl, by decide, rfl, by decide⟩

/-- The first item of an array is read like any value. -/
theorem feed_first (item : Json) (stack : List Frame) (tail : List Char) :
    feed reader ⟨.item, stack⟩ (spelling.respell (write item ++ tail)) =
      feed reader ⟨.value, stack⟩ (spelling.respell (write item ++ tail)) := by
  obtain ⟨character, rest, same, notClose, notBlank, low⟩ := write_lead item
  have steps : step reader ⟨.item, stack⟩ character = step reader ⟨.value, stack⟩ character := by
    simp [step, notBlank, notClose]
  rw [same, List.cons_append, respell_cons spelling low, feed_cons, feed_cons, steps]

/-- A text that is complete here is a value and not the name of a member. -/
def Awaits : List Frame → Prop
  | .object _ :: _ => False
  | _ => True

theorem closeText_awaits {text : String} {stack : List Frame} (awaits : Awaits stack) :
    closeText text stack = place (.str text) stack := by
  unfold closeText
  split
  · cases awaits
  · rfl

mutual

/-- A written value is read where a value is expected. -/
theorem feed_write : (value : Json) → (room : Nat) → Readable reader room value →
    (stack : List Frame) → Awaits stack → stack.length + room ≤ reader.maxDepth →
    ∃ state, feed reader ⟨.value, stack⟩ (spelling.respell (write value)) = .ok state ∧
      Settled reader value stack state
  | .null, _, _, stack, _, _ => by
      rw [write, respell_plain spelling (by simp)]
      exact ⟨_, rfl, .placed⟩
  | .bool true, _, _, stack, _, _ => by
      rw [write, respell_plain spelling (by simp)]
      exact ⟨_, rfl, .placed⟩
  | .bool false, _, _, stack, _, _ => by
      rw [write, respell_plain spelling (by simp)]
      exact ⟨_, rfl, .placed⟩
  | .int value, _, readable, stack, _, _ => by
      rw [Readable] at readable
      rw [write]
      exact feed_number spelling (intText_head value) (intText_marks value)
        (numberValue_intText readable)
  | .float value, _, _, stack, _, _ => by
      rw [write]
      exact feed_number spelling value.head value.marks (numberValue_floatText value)
  | .str text, _, _, stack, awaits, _ => by
      have opens : step reader ⟨.value, stack⟩ '"' = .ok ⟨.text [], stack⟩ := rfl
      rw [write, feed_quote spelling text opens, closeText_awaits awaits]
      exact ⟨_, rfl, .placed⟩
  | .arr [], _, readable, stack, _, deep => by
      rw [Readable] at readable
      have shallow : stack.length < reader.maxDepth := by omega
      have pushed : step reader ⟨.value, stack⟩ '[' = .ok ⟨.item, .array [] :: stack⟩ :=
        if_pos shallow
      rw [write, respell_plain spelling (by simp), feed_cons_ok pushed]
      exact ⟨_, rfl, .placed⟩
  | .arr (item :: rest), room, readable, stack, _, deep => by
      rw [Readable, ReadableItems] at readable
      obtain ⟨positive, first, others⟩ := readable
      have shallow : stack.length < reader.maxDepth := by omega
      have pushed : step reader ⟨.value, stack⟩ '[' = .ok ⟨.item, .array [] :: stack⟩ :=
        if_pos shallow
      have deeper (done : List Json) : (Frame.array done :: stack).length + (room - 1) ≤
          reader.maxDepth := by
        rw [List.length_cons]
        omega
      obtain ⟨state, reads, settled⟩ :=
        feed_write item (room - 1) first (.array [] :: stack) trivial (deeper [])
      refine ⟨_, ?_, .placed⟩
      rw [write, List.cons_append, respell_cons spelling (by decide), feed_cons_ok pushed,
        feed_first, respell_append, feed_append_ok reads]
      exact feed_writeItems rest (room - 1) others [] stack deeper settled
  | .obj [], _, readable, stack, _, deep => by
      rw [Readable] at readable
      have shallow : stack.length < reader.maxDepth := by omega
      have pushed : step reader ⟨.value, stack⟩ '{' = .ok ⟨.name, .object [] :: stack⟩ :=
        if_pos shallow
      have closed : step reader ⟨.name, .object [] :: stack⟩ '}' = .ok (place (.obj []) stack) := by
        simp [step, closeObject, readable.2.1]
      rw [write, respell_plain spelling (by simp), feed_cons_ok pushed, feed_cons_ok closed]
      exact ⟨_, rfl, .placed⟩
  | .obj ((name, value) :: rest), room, readable, stack, _, deep => by
      rw [Readable, ReadableMembers] at readable
      obtain ⟨positive, hooked, first, others⟩ := readable
      have shallow : stack.length < reader.maxDepth := by omega
      have pushed : step reader ⟨.value, stack⟩ '{' = .ok ⟨.name, .object [] :: stack⟩ :=
        if_pos shallow
      have deeper (done : List (String × Json)) (key : String) :
          (Frame.member done key :: stack).length + (room - 1) ≤ reader.maxDepth := by
        rw [List.length_cons]
        omega
      obtain ⟨state, reads, settled⟩ :=
        feed_write value (room - 1) first (.member [] name :: stack) trivial (deeper [] name)
      have colon : step reader ⟨.colon, .member [] name :: stack⟩ ':' =
          .ok ⟨.value, .member [] name :: stack⟩ := rfl
      refine ⟨_, ?_, .placed⟩
      rw [write, List.cons_append, List.cons_append, List.append_assoc,
        respell_cons spelling (by decide), feed_cons_ok pushed, respell_append,
        feed_append_ok (feed_quote spelling name rfl), List.cons_append,
        respell_cons spelling (by decide), closeText, feed_cons_ok colon,
        respell_append, feed_append_ok reads]
      exact feed_writeMembers rest (room - 1) others [] name stack deeper hooked settled

theorem feed_writeItems : (items : List Json) → (room : Nat) → ReadableItems reader room items →
    (before : List Json) → (stack : List Frame) →
    (∀ done, (Frame.array done :: stack).length + room ≤ reader.maxDepth) →
    {last : Json} → {state : State} → Settled reader last (.array before :: stack) state →
    feed reader state (spelling.respell (writeItems items)) =
      .ok (place (.arr (before ++ last :: items)) stack)
  | [], _, _, before, stack, _, last, state, settled => by
      have closed : step reader state ']' = .ok (place (.arr (before ++ [last])) stack) := by
        rw [settled.step rfl]
        rfl
      rw [writeItems, respell_plain spelling (by simp), feed_cons_ok closed, feed_nil]
  | item :: rest, room, readable, before, stack, deep, last, state, settled => by
      rw [ReadableItems] at readable
      have comma : step reader state ',' =
          .ok ⟨.value, .array (before ++ [last]) :: stack⟩ := by
        rw [settled.step rfl]
        rfl
      obtain ⟨next, reads, settles⟩ :=
        feed_write item room readable.1 (.array (before ++ [last]) :: stack) trivial (deep _)
      rw [writeItems, List.cons_append, respell_cons spelling (by decide), feed_cons_ok comma,
        respell_append, feed_append_ok reads]
      have others := feed_writeItems rest room readable.2 (before ++ [last]) stack deep settles
      rwa [List.append_assoc] at others

theorem feed_writeMembers : (members : List (String × Json)) → (room : Nat) →
    ReadableMembers reader room members → (before : List (String × Json)) → (name : String) →
    (stack : List Frame) →
    (∀ done key, (Frame.member done key :: stack).length + room ≤ reader.maxDepth) →
    {last : Json} → {state : State} →
    reader.hook (before ++ (name, last) :: members) = some (before ++ (name, last) :: members) →
    Settled reader last (.member before name :: stack) state →
    feed reader state (spelling.respell (writeMembers members)) =
      .ok (place (.obj (before ++ (name, last) :: members)) stack)
  | [], _, _, before, name, stack, _, last, state, hooked, settled => by
      have closed : step reader state '}' =
          .ok (place (.obj (before ++ [(name, last)])) stack) := by
        rw [settled.step rfl]
        simp [place, settle, isBlank, closeObject, hooked]
      rw [writeMembers, respell_plain spelling (by simp), feed_cons_ok closed, feed_nil]
  | (key, value) :: rest, room, readable, before, name, stack, deep, last, state, hooked,
      settled => by
      rw [ReadableMembers] at readable
      have comma : step reader state ',' =
          .ok ⟨.nextName, .object (before ++ [(name, last)]) :: stack⟩ := by
        rw [settled.step rfl]
        rfl
      obtain ⟨next, reads, settles⟩ := feed_write value room readable.1
        (.member (before ++ [(name, last)]) key :: stack) trivial (deep _ _)
      have colon : step reader ⟨.colon, .member (before ++ [(name, last)]) key :: stack⟩ ':' =
          .ok ⟨.value, .member (before ++ [(name, last)]) key :: stack⟩ := rfl
      rw [writeMembers, List.cons_append, List.cons_append, List.append_assoc,
        respell_cons spelling (by decide), feed_cons_ok comma, respell_append,
        feed_append_ok (feed_quote spelling key rfl),
        List.cons_append, respell_cons spelling (by decide), closeText, feed_cons_ok colon,
        respell_append, feed_append_ok reads]
      have others := feed_writeMembers rest room readable.2 (before ++ [(name, last)]) key stack deep
        (by rwa [List.append_assoc]) settles
      rwa [List.append_assoc] at others

end

/-- A written value is read back. -/
theorem read_write {value : Json} (readable : Readable reader reader.maxDepth value) :
    read reader (spelling.respell (write value)) = .ok value := by
  obtain ⟨state, reads, settled⟩ := feed_write spelling value reader.maxDepth readable [] trivial (by simp)
  rw [read, reads]
  exact settled.finish

/-! ## Bytes -/

/-- The bytes are taken for UTF-16 or UTF-32. -/
def isWide : Bytes → Bool
  | 0xff :: 0xfe :: _ => true
  | 0xfe :: 0xff :: _ => true
  | [first, second] => first == 0 || second == 0
  | first :: second :: _ :: _ :: _ => first == 0 || second == 0
  | _ => false

def withoutMark : Bytes → Bytes
  | 0xef :: 0xbb :: 0xbf :: rest => rest
  | bytes => bytes

/-- `wide` decodes UTF-16 and UTF-32. -/
def decodeText (wide : Bytes → Option String) (bytes : Bytes) : Option String :=
  if isWide bytes then wide bytes else decodeUtf8 (withoutMark bytes)

/-- What an interpreter brings to the reading of bytes, short of the hook. -/
structure Decoder where
  float : List Char → Option FloatText
  maxDigits : Nat
  maxDepth : Nat
  wide : Bytes → Option String
  float_text : ∀ value : FloatText, float value.text = some value
  roomy : 640 ≤ maxDigits ∧ 16 ≤ maxDepth

def Decoder.hooked (decoder : Decoder)
    (hook : List (String × Json) → Option (List (String × Json))) : Reader where
  float := decoder.float
  maxDigits := decoder.maxDigits
  maxDepth := decoder.maxDepth
  hook := hook
  float_text := decoder.float_text

@[simp]
theorem Decoder.hooked_hook (decoder : Decoder)
    (hook : List (String × Json) → Option (List (String × Json))) :
    (decoder.hooked hook).hook = hook := rfl

/-- The hook that refuses an object with two members of one name. -/
def rejectDuplicates (members : List (String × Json)) : Option (List (String × Json)) :=
  if (members.map Prod.fst).Nodup then some members else none

theorem rejectDuplicates_nodup {members : List (String × Json)}
    (nodup : (members.map Prod.fst).Nodup) : rejectDuplicates members = some members := if_pos nodup

def Decoder.loads (decoder : Decoder)
    (hook : List (String × Json) → Option (List (String × Json))) (bytes : Bytes) :
    Except Flaw Json :=
  match decodeText decoder.wide bytes with
  | some text => read (decoder.hooked hook) text.toList
  | none => .error .encoding

/-- A decoder that takes floats as they are printed, and no wide encoding. -/
def Decoder.plain : Decoder where
  float text := if printed : isFloatText text = true then some ⟨text, printed⟩ else none
  maxDigits := 4300
  maxDepth := 900
  wide _ := none
  float_text value := dif_pos value.printed
  roomy := by decide

/-- The compact writer that escapes everything outside printable ASCII. -/
def encodeAscii (value : Json) : Bytes :=
  utf8 (String.ofList ((write value).flatMap asciiSpell))

theorem utf8_cons (character : Char) (rest : List Char) :
    utf8 (String.ofList (character :: rest)) =
      String.utf8EncodeChar character ++ utf8 (String.ofList rest) := by
  simp [utf8, List.utf8Encode]

theorem utf8EncodeChar_low {character : Char} (low : character.toNat < 128) :
    String.utf8EncodeChar character = [UInt8.ofNat character.toNat] :=
  if_pos (Nat.le_of_lt_succ low)

theorem isWide_object (rest : Bytes) : isWide (123 :: 34 :: rest) = false :=
  match rest with
  | [] => rfl
  | [_] => rfl
  | _ :: _ :: _ => rfl

/-- Written objects are taken for UTF-8. -/
theorem decodeText_object (wide : Bytes → Option String) (rest : List Char) :
    decodeText wide (utf8 (String.ofList ('{' :: '"' :: rest))) =
      some (String.ofList ('{' :: '"' :: rest)) := by
  have lead : utf8 (String.ofList ('{' :: '"' :: rest)) = 123 :: 34 :: utf8 (String.ofList rest) := by
    rw [utf8_cons, utf8_cons]
    rfl
  rw [decodeText, lead, isWide_object, if_neg (by simp)]
  change decodeUtf8 (123 :: 34 :: _) = _
  rw [← lead, decodeUtf8_utf8]

theorem loads_encodeAscii (decoder : Decoder)
    (hook : List (String × Json) → Option (List (String × Json)))
    {members : List (String × Json)} (some : members ≠ [])
    (readable : Readable (decoder.hooked hook) decoder.maxDepth (.obj members)) :
    decoder.loads hook (encodeAscii (.obj members)) = .ok (.obj members) := by
  obtain ⟨⟨name, value⟩, rest, rfl⟩ := List.exists_cons_of_ne_nil some
  have text : ∃ tail, (write (.obj ((name, value) :: rest))).flatMap asciiSpell =
      '{' :: '"' :: tail := by
    rw [write, quote]
    exact ⟨_, rfl⟩
  obtain ⟨tail, same⟩ := text
  rw [Decoder.loads, encodeAscii, same, decodeText_object, ← same]
  dsimp only
  rw [String.toList_ofList]
  exact read_write (.ascii (decoder.hooked hook)) readable

end CrossPatch.Library.JsonReader
