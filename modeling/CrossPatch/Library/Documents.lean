import CrossPatch.Library.JsonReader

/-!
# JSON documents

A lenient reader keeps what a text says: every member of an object under its key, also
when the key is repeated, numbers that are not finite, and halves of surrogate pairs
that stand alone.  What the strict reader accepts is read as the same value.
-/

namespace CrossPatch.Library.Documents

open CrossPatch.Library.JsonReader (Decoder Flaw digitCount escapeValue hexValue isBlank isHigh isLow
  wholeValue)
open CrossPatch.Library.JsonText CrossPatch.Library.Numerals

/-! ## Documents -/

/-- A code point: a character, or half of a surrogate pair. -/
inductive Point where
  | char (character : Char)
  | lone (unit : Nat)
  deriving DecidableEq

abbrev Text := List Point

def ofString (text : String) : Text := text.toList.map .char

inductive NonFinite where
  | nan
  | infinity
  | negativeInfinity
  deriving DecidableEq

inductive Document where
  | null
  | bool (value : Bool)
  | int (value : Int)
  | float (value : FloatText)
  | nonFinite (value : NonFinite)
  | str (text : Text)
  | arr (items : List Document)
  | obj (members : List (Text × Document))

mutual

/-- The document of a value. -/
def ofJson : Json → Document
  | .null => .null
  | .bool value => .bool value
  | .int value => .int value
  | .float value => .float value
  | .str text => .str (ofString text)
  | .arr items => .arr (ofItems items)
  | .obj members => .obj (ofMembers members)

def ofItems : List Json → List Document
  | [] => []
  | item :: rest => ofJson item :: ofItems rest

def ofMembers : List (String × Json) → List (Text × Document)
  | [] => []
  | (key, value) :: rest => (ofString key, ofJson value) :: ofMembers rest

end

/-! ## Reading -/

/-- An open container. -/
inductive Frame where
  | array (items : List Document)
  | object (members : List (Text × Document))
  | member (members : List (Text × Document)) (name : Text)

/-- What is expected next; texts and literals that are being read stand in reverse. -/
inductive Mode where
  | value
  | item
  | name
  | nextName
  | colon
  | next
  | done (value : Document)
  | text (read : Text)
  | escaped (read : Text)
  | unit (read : Text) (high : Option Nat) (left unit : Nat)
  | pair (read : Text) (high : Nat)
  | pairUnit (read : Text) (high : Nat)
  | literal (rest : List Char) (value : Document)
  | number (read : List Char)

structure State where
  mode : Mode
  stack : List Frame

/-- A value is complete. -/
def place (value : Document) : List Frame → State
  | [] => ⟨.done value, []⟩
  | .array items :: rest => ⟨.next, .array (items ++ [value]) :: rest⟩
  | .member members name :: rest => ⟨.next, .object (members ++ [(name, value)]) :: rest⟩
  | .object members :: rest => ⟨.next, .object members :: rest⟩

variable (decoder : Decoder)

def push (frame : Frame) (mode : Mode) (stack : List Frame) : Except Flaw State :=
  if stack.length < decoder.maxDepth then .ok ⟨mode, frame :: stack⟩ else .error .nesting

def infinityLetters : List Char := ['n', 'f', 'i', 'n', 'i', 't', 'y']

/-- The first character of a value. -/
def start (stack : List Frame) (character : Char) : Except Flaw State :=
  if character = '"' then .ok ⟨.text [], stack⟩
  else if character = '[' then push decoder (.array []) .item stack
  else if character = '{' then push decoder (.object []) .name stack
  else if character = 'n' then .ok ⟨.literal ['u', 'l', 'l'] .null, stack⟩
  else if character = 't' then .ok ⟨.literal ['r', 'u', 'e'] (.bool true), stack⟩
  else if character = 'f' then .ok ⟨.literal ['a', 'l', 's', 'e'] (.bool false), stack⟩
  else if character = 'N' then .ok ⟨.literal ['a', 'N'] (.nonFinite .nan), stack⟩
  else if character = 'I' then .ok ⟨.literal infinityLetters (.nonFinite .infinity), stack⟩
  else if character = '-' ∨ character.isDigit = true then .ok ⟨.number [character], stack⟩
  else .error .malformed

def closeArray : List Frame → Except Flaw State
  | .array items :: rest => .ok (place (.arr items) rest)
  | _ => .error .malformed

def closeObject : List Frame → Except Flaw State
  | .object members :: rest => .ok (place (.obj members) rest)
  | _ => .error .malformed

def separate : List Frame → Except Flaw State
  | .array items :: rest => .ok ⟨.value, .array items :: rest⟩
  | .object members :: rest => .ok ⟨.nextName, .object members :: rest⟩
  | _ => .error .malformed

/-- A character after a complete value. -/
def settle (state : State) (character : Char) : Except Flaw State :=
  if isBlank character then .ok state
  else match state.mode with
    | .next =>
        if character = ',' then separate state.stack
        else if character = ']' then closeArray state.stack
        else if character = '}' then closeObject state.stack
        else .error .malformed
    | _ => .error .malformed

/-- A text is complete; it is the name of a member where one is expected. -/
def closeText (text : Text) : List Frame → State
  | .object members :: rest => ⟨.colon, .member members text :: rest⟩
  | stack => place (.str text) stack

/-- A code unit that follows no first half. -/
def closeFirst (read : Text) (unit : Nat) : Mode :=
  if isHigh unit then .pair read unit
  else if isLow unit then .text (.lone unit :: read)
  else .text (.char (Char.ofNat unit) :: read)

/-- A first half stands alone unless the second follows it. -/
def closeUnit (read : Text) (high : Option Nat) (unit : Nat) : Mode :=
  match high with
  | none => closeFirst read unit
  | some high =>
      if isLow unit then
        .text (.char (Char.ofNat (0x10000 + (high - 0xd800) * 0x400 + (unit - 0xdc00))) :: read)
      else closeFirst (.lone high :: read) unit

/-- A literal that is too large for a float is infinite. -/
def numberValue (text : List Char) : Except Flaw Document :=
  match scanNumber text with
  | none => .error .malformed
  | some literal =>
      if literal.rest ≠ [] then .error .malformed
      else if literal.scale = [] then
        if digitCount literal.whole ≤ decoder.maxDigits then .ok (.int (wholeValue literal.whole))
        else .error .number
      else match decoder.float text with
        | some value => .ok (.float value)
        | none => .ok (.nonFinite (if text.head? = some '-' then .negativeInfinity else .infinity))

def textStep (read : Text) (stack : List Frame) (character : Char) : Except Flaw State :=
  if character = '"' then .ok (closeText read.reverse stack)
  else if character = '\\' then .ok ⟨.escaped read, stack⟩
  else if character.toNat < 32 then .error .malformed
  else .ok ⟨.text (.char character :: read), stack⟩

def escapedStep (read : Text) (stack : List Frame) (character : Char) : Except Flaw State :=
  if character = 'u' then .ok ⟨.unit read none 4 0, stack⟩
  else match escapeValue character with
    | some plain => .ok ⟨.text (.char plain :: read), stack⟩
    | none => .error .malformed

def unitStep (read : Text) (high : Option Nat) (left unit : Nat) (stack : List Frame)
    (character : Char) : Except Flaw State :=
  match hexValue character with
  | none => .error .malformed
  | some digit =>
      if left = 1 then .ok ⟨closeUnit read high (unit * 16 + digit), stack⟩
      else .ok ⟨.unit read high (left - 1) (unit * 16 + digit), stack⟩

def numberStep (read : List Char) (stack : List Frame) (character : Char) : Except Flaw State :=
  if isScaleMark character then .ok ⟨.number (character :: read), stack⟩
  else if read = ['-'] ∧ character = 'I' then
    .ok ⟨.literal infinityLetters (.nonFinite .negativeInfinity), stack⟩
  else match numberValue decoder read.reverse with
    | .ok value => settle (place value stack) character
    | .error flaw => .error flaw

def expect (wanted character : Char) (state next : State) : Except Flaw State :=
  if isBlank character then .ok state
  else if character = wanted then .ok next
  else .error .malformed

def step (state : State) (character : Char) : Except Flaw State :=
  match state.mode with
  | .value => if isBlank character then .ok state else start decoder state.stack character
  | .item =>
      if isBlank character then .ok state
      else if character = ']' then closeArray state.stack
      else start decoder state.stack character
  | .name =>
      if character = '}' then closeObject state.stack
      else expect '"' character state ⟨.text [], state.stack⟩
  | .nextName => expect '"' character state ⟨.text [], state.stack⟩
  | .colon => expect ':' character state ⟨.value, state.stack⟩
  | .next | .done _ => settle state character
  | .text read => textStep read state.stack character
  | .escaped read => escapedStep read state.stack character
  | .unit read high left unit => unitStep read high left unit state.stack character
  | .pair read high =>
      if character = '\\' then .ok ⟨.pairUnit read high, state.stack⟩
      else textStep (.lone high :: read) state.stack character
  | .pairUnit read high =>
      if character = 'u' then .ok ⟨.unit read (some high) 4 0, state.stack⟩
      else escapedStep (.lone high :: read) state.stack character
  | .literal [] value => .ok (place value state.stack)
  | .literal [last] value =>
      if character = last then .ok (place value state.stack) else .error .malformed
  | .literal (letter :: rest) value =>
      if character = letter then .ok ⟨.literal rest value, state.stack⟩ else .error .malformed
  | .number read => numberStep decoder read state.stack character

def finish (state : State) : Except Flaw Document :=
  match state.mode, state.stack with
  | .done value, _ => .ok value
  | .number read, [] => numberValue decoder read.reverse
  | _, _ => .error .malformed

/-- `json.loads`, of a text and with every member. -/
def read (text : List Char) : Except Flaw Document :=
  text.foldlM (step decoder) ⟨.value, []⟩ >>= finish decoder

/-! ## What has been read -/

mutual

/-- The integers of a document are as short as the reader wants them, and its containers are
nested at most `room` deep. -/
def Within (decoder : Decoder) (room : Nat) : Document → Prop
  | .int value => (Nat.toDigits 10 value.natAbs).length ≤ decoder.maxDigits
  | .arr items => 0 < room ∧ WithinItems decoder (room - 1) items
  | .obj members => 0 < room ∧ WithinMembers decoder (room - 1) members
  | _ => True

def WithinItems (decoder : Decoder) (room : Nat) : List Document → Prop
  | [] => True
  | item :: rest => Within decoder room item ∧ WithinItems decoder room rest

def WithinMembers (decoder : Decoder) (room : Nat) : List (Text × Document) → Prop
  | [] => True
  | (_, value) :: rest => Within decoder room value ∧ WithinMembers decoder room rest

end

theorem withinItems_iff {decoder : Decoder} {room : Nat} {items : List Document} :
    WithinItems decoder room items ↔ ∀ item ∈ items, Within decoder room item := by
  induction items with
  | nil => simp [WithinItems]
  | cons item rest ih => simp [WithinItems, ih]

theorem withinMembers_iff {decoder : Decoder} {room : Nat} {members : List (Text × Document)} :
    WithinMembers decoder room members ↔ ∀ member ∈ members, Within decoder room member.2 := by
  induction members with
  | nil => simp [WithinMembers]
  | cons member rest ih => simp [WithinMembers, ih]

section Invariant

variable {decoder : Decoder}

def Frame.values : Frame → List Document
  | .array items => items
  | .object members => members.map Prod.snd
  | .member members _ => members.map Prod.snd

/-- What stands in an open container fits into the room that is left at its depth. -/
def Fits (decoder : Decoder) : List Frame → Prop
  | [] => True
  | frame :: rest =>
      rest.length < decoder.maxDepth ∧
        (∀ value ∈ frame.values, Within decoder (decoder.maxDepth - rest.length - 1) value) ∧
        Fits decoder rest

def FitsMode (decoder : Decoder) : Mode → Prop
  | .done value => Within decoder decoder.maxDepth value
  | .literal _ value => ∀ room, Within decoder room value
  | _ => True

structure Sane (decoder : Decoder) (state : State) : Prop where
  stack : Fits decoder state.stack
  mode : FitsMode decoder state.mode

/-- A computation that returns sane states only. -/
def Keeps (decoder : Decoder) (result : Except Flaw State) : Prop :=
  ∀ next, result = .ok next → Sane decoder next

theorem Keeps.ok {state : State} (sane : Sane decoder state) : Keeps decoder (.ok state) := by
  rintro _ ⟨⟩
  exact sane

theorem Keeps.refused {flaw : Flaw} : Keeps decoder (.error flaw) := by
  rintro _ ⟨⟩

theorem Keeps.ite {condition : Prop} [Decidable condition] {one two : Except Flaw State}
    (first : condition → Keeps decoder one) (second : ¬ condition → Keeps decoder two) :
    Keeps decoder (if condition then one else two) := by
  split
  · exact first ‹_›
  · exact second ‹_›

theorem sane_place {stack : List Frame} (fits : Fits decoder stack) {value : Document}
    (within : Within decoder (decoder.maxDepth - stack.length) value) :
    Sane decoder (place value stack) := by
  cases stack with
  | nil => exact ⟨trivial, within⟩
  | cons frame rest =>
      obtain ⟨shallow, inside, below⟩ := fits
      have room : decoder.maxDepth - (frame :: rest).length =
          decoder.maxDepth - rest.length - 1 := by
        rw [List.length_cons]
        omega
      rw [room] at within
      cases frame with
      | array items =>
          refine ⟨⟨shallow, ?_, below⟩, trivial⟩
          intro other member
          rcases List.mem_append.mp member with earlier | last
          · exact inside other earlier
          · rw [List.mem_singleton.mp last]
            exact within
      | object members => exact ⟨⟨shallow, inside, below⟩, trivial⟩
      | member members name =>
          refine ⟨⟨shallow, ?_, below⟩, trivial⟩
          intro other member
          rw [Frame.values, List.map_append, List.mem_append] at member
          rcases member with earlier | last
          · exact inside other earlier
          · rw [List.map_singleton, List.mem_singleton] at last
            rw [last]
            exact within

variable {stack : List Frame} {character : Char}

theorem keeps_push (fits : Fits decoder stack) {frame : Frame} (empty : frame.values = [])
    {mode : Mode} (opened : FitsMode decoder mode) :
    Keeps decoder (push decoder frame mode stack) := by
  unfold push
  refine .ite (fun shallow => .ok ⟨⟨shallow, ?_, fits⟩, opened⟩) fun _ => .refused
  intro value member
  rw [empty] at member
  cases member

theorem keeps_start (fits : Fits decoder stack) :
    Keeps decoder (start decoder stack character) := by
  unfold start
  refine .ite (fun _ => .ok ⟨fits, trivial⟩) fun _ => ?_
  refine .ite (fun _ => keeps_push fits rfl trivial) fun _ => ?_
  refine .ite (fun _ => keeps_push fits rfl trivial) fun _ => ?_
  refine .ite (fun _ => .ok ⟨fits, fun _ => trivial⟩) fun _ => ?_
  refine .ite (fun _ => .ok ⟨fits, fun _ => trivial⟩) fun _ => ?_
  refine .ite (fun _ => .ok ⟨fits, fun _ => trivial⟩) fun _ => ?_
  refine .ite (fun _ => .ok ⟨fits, fun _ => trivial⟩) fun _ => ?_
  refine .ite (fun _ => .ok ⟨fits, fun _ => trivial⟩) fun _ => ?_
  exact .ite (fun _ => .ok ⟨fits, trivial⟩) fun _ => .refused

theorem keeps_closeArray (fits : Fits decoder stack) : Keeps decoder (closeArray stack) := by
  unfold closeArray
  split
  · obtain ⟨shallow, inside, below⟩ := fits
    refine .ok (sane_place below ?_)
    rw [Within, withinItems_iff]
    exact ⟨by omega, inside⟩
  · exact .refused

theorem keeps_closeObject (fits : Fits decoder stack) : Keeps decoder (closeObject stack) := by
  unfold closeObject
  split
  · obtain ⟨shallow, inside, below⟩ := fits
    refine .ok (sane_place below ?_)
    rw [Within, withinMembers_iff]
    exact ⟨by omega, fun member inner => inside member.2 (List.mem_map_of_mem inner)⟩
  · exact .refused

theorem keeps_separate (fits : Fits decoder stack) : Keeps decoder (separate stack) := by
  unfold separate
  split
  · exact .ok ⟨fits, trivial⟩
  · exact .ok ⟨fits, trivial⟩
  · exact .refused

theorem keeps_settle {state : State} (sane : Sane decoder state) :
    Keeps decoder (settle state character) := by
  unfold settle
  refine .ite (fun _ => .ok sane) fun _ => ?_
  split
  · exact .ite (fun _ => keeps_separate sane.stack) fun _ =>
      .ite (fun _ => keeps_closeArray sane.stack) fun _ =>
        .ite (fun _ => keeps_closeObject sane.stack) fun _ => .refused
  · exact .refused

theorem sane_closeText (fits : Fits decoder stack) (text : Text) :
    Sane decoder (closeText text stack) := by
  unfold closeText
  split
  · exact ⟨fits, trivial⟩
  · exact sane_place fits trivial

theorem fitsMode_closeFirst (read : Text) (unit : Nat) :
    FitsMode decoder (closeFirst read unit) := by
  unfold closeFirst
  split
  · trivial
  · split
    · trivial
    · trivial

theorem fitsMode_closeUnit (read : Text) (high : Option Nat) (unit : Nat) :
    FitsMode decoder (closeUnit read high unit) := by
  unfold closeUnit
  split
  · exact fitsMode_closeFirst read unit
  · split
    · trivial
    · exact fitsMode_closeFirst _ unit

theorem ofDigitChars_lt {digits : List Char}
    (digit : ∀ character ∈ digits, character.isDigit = true) (start : Nat) :
    Nat.ofDigitChars 10 digits start < 10 ^ digits.length * (start + 1) := by
  induction digits generalizing start with
  | nil => simp
  | cons character rest ih =>
      have small : character.toNat - '0'.toNat < 10 := by
        have bounds := digit character List.mem_cons_self
        simp only [Char.isDigit, Bool.and_eq_true, decide_eq_true_eq] at bounds
        have low : character.toNat ≤ 57 := bounds.2
        have zero : '0'.toNat = 48 := rfl
        omega
      rw [Nat.ofDigitChars_cons, List.length_cons, pow_succ, Nat.mul_assoc]
      refine (ih (fun other member => digit other (List.mem_cons_of_mem _ member)) _).trans_le ?_
      exact Nat.mul_le_mul_left _ (by omega)

theorem toDigits_ofDigitChars {digits : List Char} (some : digits ≠ [])
    (digit : ∀ character ∈ digits, character.isDigit = true) :
    (Nat.toDigits 10 (Nat.ofDigitChars 10 digits 0)).length ≤ (digits.filter Char.isDigit).length := by
  rw [List.filter_eq_self.mpr digit, Nat.length_toDigits_le_iff (by decide)
    (List.length_pos_of_ne_nil some)]
  simpa using ofDigitChars_lt digit 0

/-- An integer has no more digits than its literal. -/
theorem toDigits_wholeValue {text : List Char} {literal : Literal}
    (scanned : scanNumber text = some literal) :
    (Nat.toDigits 10 (wholeValue literal.whole).natAbs).length ≤ digitCount literal.whole := by
  obtain ⟨⟨whole, rest⟩, signed, rfl⟩ := Option.map_eq_some_iff.mp scanned
  dsimp only
  unfold scanSigned at signed
  split at signed
  · obtain ⟨⟨digits, tail⟩, inner, same⟩ := Option.map_eq_some_iff.mp signed
    cases same
    obtain ⟨_, some, digit⟩ := scanWhole_spec inner
    rw [wholeValue, Int.natAbs_neg, Int.natAbs_natCast, digitCount,
      List.filter_cons_of_neg (by decide)]
    exact toDigits_ofDigitChars some digit
  · obtain ⟨_, some, digit⟩ := scanWhole_spec signed
    have plain : wholeValue whole = Nat.ofDigitChars 10 whole 0 := by
      unfold wholeValue
      split
      · exact absurd (digit '-' List.mem_cons_self) (by decide)
      · rfl
    rw [plain, Int.natAbs_natCast, digitCount]
    exact toDigits_ofDigitChars some digit

theorem within_numberValue {text : List Char} {value : Document} {room : Nat}
    (known : numberValue decoder text = .ok value) : Within decoder room value := by
  unfold numberValue at known
  split at known
  · cases known
  · split at known
    · cases known
    · split at known
      · split at known
        · rename_i short
          cases known
          exact (toDigits_wholeValue ‹_›).trans short
        · cases known
      · split at known
        · cases known
          trivial
        · cases known
          trivial

theorem keeps_textStep (fits : Fits decoder stack) (read : Text) :
    Keeps decoder (textStep read stack character) := by
  unfold textStep
  refine .ite (fun _ => .ok (sane_closeText fits _)) fun _ => ?_
  refine .ite (fun _ => .ok ⟨fits, trivial⟩) fun _ => ?_
  exact .ite (fun _ => .refused) fun _ => .ok ⟨fits, trivial⟩

theorem keeps_escapedStep (fits : Fits decoder stack) (read : Text) :
    Keeps decoder (escapedStep read stack character) := by
  unfold escapedStep
  refine .ite (fun _ => .ok ⟨fits, trivial⟩) fun _ => ?_
  split
  · exact .ok ⟨fits, trivial⟩
  · exact .refused

theorem keeps_unitStep (fits : Fits decoder stack) (read : Text) (high : Option Nat)
    (left unit : Nat) : Keeps decoder (unitStep read high left unit stack character) := by
  unfold unitStep
  split
  · exact .refused
  · exact .ite (fun _ => .ok ⟨fits, fitsMode_closeUnit ..⟩) fun _ => .ok ⟨fits, trivial⟩

theorem keeps_numberStep (fits : Fits decoder stack) (read : List Char) :
    Keeps decoder (numberStep decoder read stack character) := by
  unfold numberStep
  refine .ite (fun _ => .ok ⟨fits, trivial⟩) fun _ => ?_
  refine .ite (fun _ => .ok ⟨fits, fun _ => trivial⟩) fun _ => ?_
  split
  · exact keeps_settle (sane_place fits (within_numberValue ‹_›))
  · exact .refused

theorem keeps_expect {wanted : Char} {state next : State} (sane : Sane decoder state)
    (sane' : Sane decoder next) : Keeps decoder (expect wanted character state next) := by
  unfold expect
  exact .ite (fun _ => .ok sane) fun _ => .ite (fun _ => .ok sane') fun _ => .refused

theorem keeps_step {state : State} (sane : Sane decoder state) :
    Keeps decoder (step decoder state character) := by
  obtain ⟨mode, stack⟩ := state
  have fits : Fits decoder stack := sane.stack
  cases mode with
  | value => exact .ite (fun _ => .ok sane) fun _ => keeps_start fits
  | item =>
      exact .ite (fun _ => .ok sane) fun _ =>
        .ite (fun _ => keeps_closeArray fits) fun _ => keeps_start fits
  | name =>
      exact .ite (fun _ => keeps_closeObject fits) fun _ => keeps_expect sane ⟨fits, trivial⟩
  | nextName => exact keeps_expect sane ⟨fits, trivial⟩
  | colon => exact keeps_expect sane ⟨fits, trivial⟩
  | next => exact keeps_settle sane
  | done value => exact keeps_settle sane
  | text read => exact keeps_textStep fits read
  | escaped read => exact keeps_escapedStep fits read
  | unit read high left unit => exact keeps_unitStep fits read high left unit
  | pair read high =>
      exact .ite (fun _ => .ok ⟨fits, trivial⟩) fun _ => keeps_textStep fits _
  | pairUnit read high =>
      exact .ite (fun _ => .ok ⟨fits, trivial⟩) fun _ => keeps_escapedStep fits _
  | literal rest value =>
      have within : ∀ room, Within decoder room value := sane.mode
      match rest with
      | [] => exact .ok (sane_place fits (within _))
      | [_] => exact .ite (fun _ => .ok (sane_place fits (within _))) fun _ => .refused
      | _ :: _ :: _ => exact .ite (fun _ => .ok ⟨fits, within⟩) fun _ => .refused
  | number read => exact keeps_numberStep fits read

theorem sane_feed {state last : State} (sane : Sane decoder state) (text : List Char)
    (fed : text.foldlM (step decoder) state = .ok last) : Sane decoder last := by
  induction text generalizing state with
  | nil =>
      cases fed
      exact sane
  | cons character rest ih =>
      rw [List.foldlM_cons] at fed
      cases steps : step decoder state character with
      | error flaw =>
          rw [steps] at fed
          cases fed
      | ok next =>
          rw [steps] at fed
          exact ih (keeps_step sane next steps) fed

/-- What has been read keeps to the bounds of the reader. -/
theorem within_read {text : List Char} {document : Document}
    (done : read decoder text = .ok document) : Within decoder decoder.maxDepth document := by
  unfold read at done
  cases fed : text.foldlM (step decoder) ⟨.value, []⟩ with
  | error flaw =>
      rw [fed] at done
      cases done
  | ok last =>
      rw [fed] at done
      have sane : Sane decoder last := @sane_feed decoder ⟨.value, []⟩ last ⟨trivial, trivial⟩ text fed
      obtain ⟨mode, stack⟩ := last
      have finished : finish decoder ⟨mode, stack⟩ = .ok document := done
      unfold finish at finished
      split at finished
      · rename_i same
        cases finished
        have kept := sane.mode
        rw [same] at kept
        exact kept
      · exact within_numberValue finished
      · cases finished

end Invariant

/-! ## What the strict reader accepts -/

/-- The state of the lenient reader when the strict one has read only what it accepts. -/
def liftFrame : JsonReader.Frame → Frame
  | .array items => .array (ofItems items)
  | .object members => .object (ofMembers members)
  | .member members name => .member (ofMembers members) (ofString name)

def liftText (read : List Char) : Text := read.map .char

def liftMode : JsonReader.Mode → Mode
  | .value => .value
  | .item => .item
  | .name => .name
  | .nextName => .nextName
  | .colon => .colon
  | .next => .next
  | .done value => .done (ofJson value)
  | .text read => .text (liftText read)
  | .escaped read => .escaped (liftText read)
  | .unit read high left unit => .unit (liftText read) high left unit
  | .pair read high => .pair (liftText read) high
  | .pairUnit read high => .pairUnit (liftText read) high
  | .literal rest value => .literal rest ((value.map ofJson).getD .null)
  | .number read => .number read

def liftState (state : JsonReader.State) : State :=
  ⟨liftMode state.mode, state.stack.map liftFrame⟩

/-- The lenient reader stands where the strict one does, which reads the literals of numbers
that are not finite to their end before it refuses them. -/
inductive Follows : JsonReader.State → State → Prop where
  | lifted (state : JsonReader.State) : Follows state (liftState state)
  | literal (rest : List Char) (value : Document) (stack : List JsonReader.Frame) :
      Follows ⟨.literal rest none, stack⟩ ⟨.literal rest value, stack.map liftFrame⟩

theorem ofItems_eq (items : List Json) : ofItems items = items.map ofJson := by
  induction items with
  | nil => rfl
  | cons item rest ih => rw [ofItems, ih, List.map_cons]

theorem ofMembers_eq (members : List (String × Json)) :
    ofMembers members = members.map fun member => (ofString member.1, ofJson member.2) := by
  induction members with
  | nil => rfl
  | cons member rest ih => rw [ofMembers, ih, List.map_cons]

theorem place_lift (value : Json) (stack : List JsonReader.Frame) :
    place (ofJson value) (stack.map liftFrame) = liftState (JsonReader.place value stack) := by
  cases stack with
  | nil => rfl
  | cons frame rest =>
      cases frame with
      | array items => simp [liftFrame, place, JsonReader.place, liftState, liftMode, ofItems_eq]
      | object members => rfl
      | member members name =>
          simp [liftFrame, place, JsonReader.place, liftState, liftMode, ofMembers_eq]

theorem closeText_lift (text : List Char) (stack : List JsonReader.Frame) :
    closeText (liftText text) (stack.map liftFrame) =
      liftState (JsonReader.closeText (String.ofList text) stack) := by
  have same : liftText text = ofString (String.ofList text) := by
    rw [ofString, String.toList_ofList, liftText]
  rw [same]
  cases stack with
  | nil => rfl
  | cons frame rest =>
      cases frame with
      | object members => rfl
      | array items => exact place_lift (.str (String.ofList text)) (.array items :: rest)
      | member members name =>
          exact place_lift (.str (String.ofList text)) (.member members name :: rest)

/-- Two computations of a state, of which the second accepts what the first does. -/
def Accepts (strict : Except Flaw JsonReader.State) (lenient : Except Flaw State) : Prop :=
  ∀ next, strict = .ok next → ∃ state, lenient = .ok state ∧ Follows next state

theorem Accepts.lifted (state : JsonReader.State) :
    Accepts (.ok state) (.ok (liftState state)) := by
  rintro _ ⟨⟩
  exact ⟨_, rfl, .lifted state⟩

theorem Accepts.refused {flaw : Flaw} {lenient : Except Flaw State} :
    Accepts (.error flaw) lenient := by
  rintro _ ⟨⟩

theorem Accepts.ite {condition : Prop} [Decidable condition]
    {one two : Except Flaw JsonReader.State} {one' two' : Except Flaw State}
    (first : condition → Accepts one one') (second : ¬ condition → Accepts two two') :
    Accepts (if condition then one else two) (if condition then one' else two') := by
  split
  · exact first ‹_›
  · exact second ‹_›

section Steps

variable {decoder : Decoder} {stack : List JsonReader.Frame} {character : Char}

theorem push_accepts (frame : JsonReader.Frame) (mode : JsonReader.Mode) :
    Accepts (JsonReader.push (decoder.hooked some) frame mode stack)
      (push decoder (liftFrame frame) (liftMode mode) (stack.map liftFrame)) := by
  unfold JsonReader.push push
  rw [List.length_map]
  exact .ite (fun _ => .lifted ⟨mode, frame :: stack⟩) fun _ => .refused

theorem start_accepts : Accepts (JsonReader.start (decoder.hooked some) stack character)
    (start decoder (stack.map liftFrame) character) := by
  unfold JsonReader.start start
  refine .ite (fun _ => .lifted ⟨.text [], stack⟩) fun _ => ?_
  refine .ite (fun _ => push_accepts (.array []) .item) fun _ => ?_
  refine .ite (fun _ => push_accepts (.object []) .name) fun _ => ?_
  refine .ite (fun _ => .lifted ⟨.literal _ (some .null), stack⟩) fun _ => ?_
  refine .ite (fun _ => .lifted ⟨.literal _ (some (.bool true)), stack⟩) fun _ => ?_
  refine .ite (fun _ => .lifted ⟨.literal _ (some (.bool false)), stack⟩) fun _ => ?_
  refine .ite (fun _ => ?_) fun _ => ?_
  · rintro _ ⟨⟩
    exact ⟨_, rfl, .literal ..⟩
  · refine .ite (fun _ => ?_) fun _ => ?_
    · rintro _ ⟨⟩
      exact ⟨_, rfl, .literal ..⟩
    · exact .ite (fun _ => .lifted ⟨.number [character], stack⟩) fun _ => .refused

theorem closeArray_accepts :
    Accepts (JsonReader.closeArray stack) (closeArray (stack.map liftFrame)) := by
  cases stack with
  | nil => exact .refused
  | cons frame rest =>
      cases frame with
      | array items =>
          rw [List.map_cons, liftFrame, closeArray, JsonReader.closeArray]
          have placed := place_lift (.arr items) rest
          rw [ofJson] at placed
          rw [placed]
          exact .lifted _
      | object members => exact .refused
      | member members name => exact .refused

theorem closeObject_accepts :
    Accepts (JsonReader.closeObject (decoder.hooked some) stack)
      (closeObject (stack.map liftFrame)) := by
  cases stack with
  | nil => exact .refused
  | cons frame rest =>
      cases frame with
      | object members =>
          rw [List.map_cons, liftFrame, closeObject, JsonReader.closeObject]
          have placed := place_lift (.obj members) rest
          rw [ofJson] at placed
          rw [placed]
          exact .lifted _
      | array items => exact .refused
      | member members name => exact .refused

theorem separate_accepts :
    Accepts (JsonReader.separate stack) (separate (stack.map liftFrame)) := by
  cases stack with
  | nil => exact .refused
  | cons frame rest =>
      cases frame with
      | array items => exact .lifted ⟨.value, .array items :: rest⟩
      | object members => exact .lifted ⟨.nextName, .object members :: rest⟩
      | member members name => exact .refused

theorem settle_accepts (state : JsonReader.State) :
    Accepts (JsonReader.settle (decoder.hooked some) state character)
      (settle (liftState state) character) := by
  obtain ⟨mode, stack⟩ := state
  unfold JsonReader.settle settle
  refine .ite (fun _ => .lifted ⟨mode, stack⟩) fun _ => ?_
  cases mode with
  | next =>
      exact .ite (fun _ => separate_accepts) fun _ =>
        .ite (fun _ => closeArray_accepts) fun _ =>
          .ite (fun _ => closeObject_accepts) fun _ => .refused
  | _ => exact .refused

theorem textStep_accepts (read : List Char) :
    Accepts (JsonReader.textStep read stack character)
      (textStep (liftText read) (stack.map liftFrame) character) := by
  unfold JsonReader.textStep textStep
  refine .ite (fun _ => ?_) fun _ => ?_
  · rw [liftText, ← List.map_reverse]
    have closed := closeText_lift read.reverse stack
    rw [liftText] at closed
    rw [closed]
    exact .lifted _
  · refine .ite (fun _ => .lifted ⟨.escaped read, stack⟩) fun _ => ?_
    exact .ite (fun _ => .refused) fun _ => .lifted ⟨.text (character :: read), stack⟩

theorem escapedStep_accepts (read : List Char) :
    Accepts (JsonReader.escapedStep read stack character)
      (escapedStep (liftText read) (stack.map liftFrame) character) := by
  unfold JsonReader.escapedStep escapedStep
  refine .ite (fun _ => .lifted ⟨.unit read none 4 0, stack⟩) fun _ => ?_
  cases escapeValue character with
  | none => exact .refused
  | some plain => exact .lifted ⟨.text (plain :: read), stack⟩

theorem closeUnit_lift {read : List Char} {high : Option Nat} {unit : Nat}
    {mode : JsonReader.Mode} (closed : JsonReader.closeUnit read high unit = .ok mode) :
    closeUnit (liftText read) high unit = liftMode mode := by
  unfold JsonReader.closeUnit at closed
  cases high with
  | none =>
      dsimp only at closed
      rw [closeUnit, closeFirst]
      split at closed
      · rename_i first
        cases closed
        rw [if_pos first]
        rfl
      · rename_i first
        rw [if_neg first]
        split at closed
        · cases closed
        · rename_i second
          cases closed
          rw [if_neg second]
          rfl
  | some high =>
      dsimp only at closed
      rw [closeUnit]
      split at closed
      · rename_i second
        cases closed
        rw [if_pos second]
        rfl
      · cases closed

theorem unitStep_accepts (read : List Char) (high : Option Nat) (left unit : Nat) :
    Accepts (JsonReader.unitStep read high left unit stack character)
      (unitStep (liftText read) high left unit (stack.map liftFrame) character) := by
  unfold JsonReader.unitStep unitStep
  cases hexValue character with
  | none => exact .refused
  | some digit =>
      refine .ite (fun _ => ?_) fun _ => .lifted ⟨.unit read high (left - 1) _, stack⟩
      cases closed : JsonReader.closeUnit read high (unit * 16 + digit) with
      | error flaw => exact .refused
      | ok mode =>
          rw [closeUnit_lift closed]
          exact .lifted ⟨mode, stack⟩

theorem numberValue_lift {text : List Char} {value : Json}
    (known : JsonReader.numberValue (decoder.hooked some) text = .ok value) :
    numberValue decoder text = .ok (ofJson value) := by
  unfold JsonReader.numberValue at known
  unfold numberValue
  cases scanned : scanNumber text with
  | none =>
      rw [scanned] at known
      cases known
  | some literal =>
      rw [scanned] at known
      dsimp only at known ⊢
      split at known
      · cases known
      · rename_i whole
        rw [if_neg whole]
        split at known
        · rename_i unscaled
          rw [if_pos unscaled]
          split at known
          · rename_i short
            cases known
            have within : digitCount literal.whole ≤ decoder.maxDigits := short
            rw [if_pos within]
            rfl
          · cases known
        · rename_i scaled
          rw [if_neg scaled]
          split at known
          · rename_i value float
            cases known
            have printed : decoder.float text = some value := float
            rw [printed]
            rfl
          · cases known

theorem numberStep_accepts (read : List Char) :
    Accepts (JsonReader.numberStep (decoder.hooked some) read stack character)
      (numberStep decoder read (stack.map liftFrame) character) := by
  unfold JsonReader.numberStep numberStep
  refine .ite (fun _ => .lifted ⟨.number (character :: read), stack⟩) fun _ => ?_
  refine .ite (fun _ => ?_) fun _ => ?_
  · rintro _ ⟨⟩
    exact ⟨_, rfl, .literal ..⟩
  · cases known : JsonReader.numberValue (decoder.hooked some) read.reverse with
    | error flaw => exact .refused
    | ok value =>
        rw [numberValue_lift known]
        dsimp only
        rw [place_lift]
        exact settle_accepts _

theorem expect_accepts (wanted : Char) (state next : JsonReader.State) :
    Accepts (JsonReader.expect wanted character state next)
      (expect wanted character (liftState state) (liftState next)) := by
  unfold JsonReader.expect expect
  exact .ite (fun _ => .lifted state) fun _ => .ite (fun _ => .lifted next) fun _ => .refused

/-- A literal is read letter by letter, whatever it stands for. -/
theorem literal_accepts (rest : List Char) {value : Option Json} {document : Document}
    (same : ∀ known, value = some known → document = ofJson known) :
    Accepts (JsonReader.step (decoder.hooked some) ⟨.literal rest value, stack⟩ character)
      (step decoder ⟨.literal rest document, stack.map liftFrame⟩ character) := by
  have closes : Accepts (JsonReader.closeLiteral value stack)
      (.ok (place document (stack.map liftFrame))) := by
    cases value with
    | none => exact .refused
    | some known =>
        rw [same known rfl, place_lift]
        exact .lifted _
  match rest with
  | [] => exact closes
  | [last] => exact .ite (fun _ => closes) fun _ => .refused
  | letter :: second :: others =>
      refine .ite (fun _ => ?_) fun _ => .refused
      rintro _ ⟨⟩
      cases value with
      | none => exact ⟨_, rfl, .literal ..⟩
      | some known =>
          rw [same known rfl]
          exact ⟨_, rfl, .lifted ⟨.literal (second :: others) (some known), stack⟩⟩

theorem step_accepts {strict : JsonReader.State} {state : State} (follows : Follows strict state) :
    Accepts (JsonReader.step (decoder.hooked some) strict character)
      (step decoder state character) := by
  cases follows with
  | literal rest value stack => exact literal_accepts rest fun _ impossible => by cases impossible
  | lifted =>
      obtain ⟨mode, stack⟩ := strict
      cases mode with
      | value => exact .ite (fun _ => .lifted ⟨.value, stack⟩) fun _ => start_accepts
      | item =>
          exact .ite (fun _ => .lifted ⟨.item, stack⟩) fun _ =>
            .ite (fun _ => closeArray_accepts) fun _ => start_accepts
      | name =>
          exact .ite (fun _ => closeObject_accepts) fun _ =>
            expect_accepts '"' ⟨.name, stack⟩ ⟨.text [], stack⟩
      | nextName => exact expect_accepts '"' ⟨.nextName, stack⟩ ⟨.text [], stack⟩
      | colon => exact expect_accepts ':' ⟨.colon, stack⟩ ⟨.value, stack⟩
      | next => exact settle_accepts ⟨.next, stack⟩
      | done value => exact @settle_accepts decoder character ⟨.done value, stack⟩
      | text read => exact textStep_accepts read
      | escaped read => exact escapedStep_accepts read
      | unit read high left unit => exact unitStep_accepts read high left unit
      | pair read high =>
          have pairs : Accepts (if character = '\\' then .ok ⟨.pairUnit read high, stack⟩
              else .error .malformed) (step decoder (liftState ⟨.pair read high, stack⟩)
                character) := by
            split
            · rename_i slash
              rintro _ ⟨⟩
              exact ⟨_, if_pos slash, .lifted ⟨.pairUnit read high, stack⟩⟩
            · exact .refused
          exact pairs
      | pairUnit read high =>
          have pairs : Accepts (if character = 'u' then .ok ⟨.unit read (some high) 4 0, stack⟩
              else .error .malformed) (step decoder (liftState ⟨.pairUnit read high, stack⟩)
                character) := by
            split
            · rename_i letter
              rintro _ ⟨⟩
              exact ⟨_, if_pos letter, .lifted ⟨.unit read (some high) 4 0, stack⟩⟩
            · exact .refused
          exact pairs
      | literal rest value =>
          refine literal_accepts rest ?_
          rintro known rfl
          rfl
      | number read => exact numberStep_accepts read

end Steps

theorem feed_accepts {decoder : Decoder} {strict : JsonReader.State} {state : State}
    (follows : Follows strict state) (text : List Char) :
    Accepts (JsonReader.feed (decoder.hooked some) strict text)
      (text.foldlM (step decoder) state) := by
  induction text generalizing strict state with
  | nil =>
      rintro _ ⟨⟩
      exact ⟨state, rfl, follows⟩
  | cons character rest ih =>
      intro last fed
      rw [JsonReader.feed_cons] at fed
      cases steps : JsonReader.step (decoder.hooked some) strict character with
      | error flaw =>
          rw [steps] at fed
          cases fed
      | ok next =>
          rw [steps] at fed
          obtain ⟨after, taken, follows'⟩ := step_accepts follows next steps
          rw [List.foldlM_cons, taken]
          exact ih follows' last fed

theorem finish_ofJson {decoder : Decoder} {strict : JsonReader.State} {state : State}
    (follows : Follows strict state) {value : Json}
    (finishes : JsonReader.finish (decoder.hooked some) strict = .ok value) :
    finish decoder state = .ok (ofJson value) := by
  cases follows with
  | literal rest value stack => cases finishes
  | lifted =>
      obtain ⟨mode, stack⟩ := strict
      cases mode with
      | done value' =>
          cases finishes
          rfl
      | number read =>
          cases stack with
          | nil => exact numberValue_lift finishes
          | cons frame rest => cases finishes
      | _ => cases finishes

/-- Whatever the strict reader accepts is read as the same value. -/
theorem read_ofJson {decoder : Decoder} {text : List Char} {value : Json}
    (strict : JsonReader.read (decoder.hooked some) text = .ok value) :
    read decoder text = .ok (ofJson value) := by
  unfold JsonReader.read at strict
  cases fed : JsonReader.feed (decoder.hooked some) ⟨.value, []⟩ text with
  | error flaw =>
      rw [fed] at strict
      cases strict
  | ok last =>
      rw [fed] at strict
      obtain ⟨state, taken, follows⟩ := feed_accepts (.lifted ⟨.value, []⟩) text last fed
      have taken' : text.foldlM (step decoder) ⟨.value, []⟩ = .ok state := taken
      rw [read, taken']
      exact finish_ofJson follows strict

/-- A written value is read back. -/
theorem read_write {decoder : Decoder} {value : Json}
    (readable : JsonReader.Readable (decoder.hooked some) decoder.maxDepth value) :
    read decoder (write value) = .ok (ofJson value) := by
  have strict := JsonReader.read_write (JsonReader.Spelling.literal (decoder.hooked some)) readable
  have literal : (JsonReader.Spelling.literal (decoder.hooked some)).respell (write value) =
      write value := List.flatMap_singleton' _
  rw [literal] at strict
  exact read_ofJson strict

end CrossPatch.Library.Documents
