import Mathlib

/-!
# Number literals

The literals of JSON numbers and how they are scanned: an optional sign, an integer
part without leading zeros, and then a fraction, an exponent, both or neither.  A
finite float stands for the literal that it is printed as, which always has a
fraction or an exponent, so it is never the literal of an integer.
-/

namespace CrossPatch.Library.Numerals

/-! ## Scanning -/

/-- The integer part without its sign. -/
def scanWhole : List Char → Option (List Char × List Char)
  | [] => none
  | '0' :: rest => some (['0'], rest)
  | character :: rest =>
      if character.isDigit then
        some (character :: rest.takeWhile Char.isDigit, rest.dropWhile Char.isDigit)
      else none

def scanSigned : List Char → Option (List Char × List Char)
  | '-' :: rest => (scanWhole rest).map fun scanned => ('-' :: scanned.1, scanned.2)
  | text => scanWhole text

/-- A run of digits after `lead`; without a digit nothing is consumed. -/
def scanRun (lead text rest : List Char) : List Char × List Char :=
  match rest.takeWhile Char.isDigit with
  | [] => ([], text)
  | digits => (lead ++ digits, rest.dropWhile Char.isDigit)

def scanFraction : List Char → List Char × List Char
  | '.' :: rest => scanRun ['.'] ('.' :: rest) rest
  | text => ([], text)

def scanExponent : List Char → List Char × List Char
  | [] => ([], [])
  | mark :: rest =>
      if mark = 'e' ∨ mark = 'E' then
        match rest with
        | '+' :: digits => scanRun [mark, '+'] (mark :: rest) digits
        | '-' :: digits => scanRun [mark, '-'] (mark :: rest) digits
        | digits => scanRun [mark] (mark :: rest) digits
      else ([], mark :: rest)

/-- A scanned literal: the integer part, the fraction with the exponent, and the text
after it. -/
structure Literal where
  whole : List Char
  scale : List Char
  rest : List Char
  deriving DecidableEq

def scanNumber (text : List Char) : Option Literal :=
  (scanSigned text).map fun scanned =>
    let fraction := scanFraction scanned.2
    let exponent := scanExponent fraction.2
    ⟨scanned.1, fraction.1 ++ exponent.1, exponent.2⟩

/-! ## Floats -/

/-- The literals that finite floats are printed as. -/
def isFloatText (text : List Char) : Bool :=
  match scanNumber text with
  | some literal => decide (literal.scale ≠ [] ∧ literal.rest = [])
  | none => false

/-- A finite float, given by the shortest literal that reads back as it. -/
structure FloatText where
  text : List Char
  printed : isFloatText text = true
  deriving DecidableEq

/-! ## What a scan has consumed -/

/-- Characters of the scale of a literal. -/
def isScaleMark (character : Char) : Bool :=
  character.isDigit || character == '.' || character == 'e' || character == 'E' ||
    character == '+' || character == '-'

theorem takeWhile_append_dropWhile (text : List Char) :
    text.takeWhile Char.isDigit ++ text.dropWhile Char.isDigit = text :=
  List.takeWhile_append_dropWhile

/-- The integer part is a nonempty run of digits. -/
theorem scanWhole_spec {text whole rest : List Char} (scanned : scanWhole text = some (whole, rest)) :
    text = whole ++ rest ∧ whole ≠ [] ∧ ∀ character ∈ whole, character.isDigit = true := by
  unfold scanWhole at scanned
  split at scanned
  · cases scanned
  · cases scanned
    refine ⟨rfl, by simp, ?_⟩
    intro character member
    rw [List.mem_singleton.mp member]
    rfl
  · rename_i character tail _
    split at scanned
    · rename_i digit
      cases scanned
      refine ⟨by rw [List.cons_append, takeWhile_append_dropWhile], by simp, ?_⟩
      intro inner member
      rcases List.mem_cons.mp member with rfl | inside
      · exact digit
      · exact List.mem_takeWhile_imp inside
    · cases scanned

theorem scanSigned_spec {text whole rest : List Char}
    (scanned : scanSigned text = some (whole, rest)) :
    text = whole ++ rest ∧
      (∃ character tail, whole = character :: tail ∧
        (character = '-' ∨ character.isDigit = true)) ∧
      ∀ character ∈ whole, character = '-' ∨ character.isDigit = true := by
  unfold scanSigned at scanned
  split at scanned
  · obtain ⟨⟨digits, tail⟩, inner, same⟩ := Option.map_eq_some_iff.mp scanned
    cases same
    obtain ⟨rfl, _, digit⟩ := scanWhole_spec inner
    refine ⟨rfl, ⟨'-', digits, rfl, Or.inl rfl⟩, ?_⟩
    intro character member
    exact (List.mem_cons.mp member).imp id (digit character)
  · obtain ⟨rfl, nonempty, digit⟩ := scanWhole_spec scanned
    obtain ⟨character, tail, rfl⟩ := List.exists_cons_of_ne_nil nonempty
    exact ⟨rfl, ⟨character, tail, rfl, Or.inr (digit _ List.mem_cons_self)⟩,
      fun inner member => Or.inr (digit inner member)⟩

theorem scanRun_spec {lead text rest : List Char} (whole : text = lead ++ rest)
    (marks : ∀ character ∈ lead, isScaleMark character = true) :
    text = (scanRun lead text rest).1 ++ (scanRun lead text rest).2 ∧
      ∀ character ∈ (scanRun lead text rest).1, isScaleMark character = true := by
  unfold scanRun
  split
  · exact ⟨rfl, fun _ member => absurd member List.not_mem_nil⟩
  · refine ⟨by rw [List.append_assoc, takeWhile_append_dropWhile, whole], ?_⟩
    intro character member
    rcases List.mem_append.mp member with inside | digits
    · exact marks character inside
    · have digit := List.mem_takeWhile_imp digits
      simp [isScaleMark, digit]

theorem scanFraction_spec (text : List Char) :
    text = (scanFraction text).1 ++ (scanFraction text).2 ∧
      ∀ character ∈ (scanFraction text).1, isScaleMark character = true := by
  unfold scanFraction
  split
  · exact scanRun_spec rfl (by simp [isScaleMark])
  · exact ⟨rfl, fun _ member => absurd member List.not_mem_nil⟩

theorem scanExponent_spec (text : List Char) :
    text = (scanExponent text).1 ++ (scanExponent text).2 ∧
      ∀ character ∈ (scanExponent text).1, isScaleMark character = true := by
  cases text with
  | nil => exact ⟨rfl, fun _ member => absurd member List.not_mem_nil⟩
  | cons mark rest =>
      by_cases marked : mark = 'e' ∨ mark = 'E'
      · have scale : isScaleMark mark = true := by rcases marked with rfl | rfl <;> rfl
        simp only [scanExponent, if_pos marked]
        split
        · exact scanRun_spec rfl (by simp [scale, show isScaleMark '+' = true from rfl])
        · exact scanRun_spec rfl (by simp [scale, show isScaleMark '-' = true from rfl])
        · exact scanRun_spec rfl (by simp [scale])
      · simp only [scanExponent, if_neg marked]
        exact ⟨rfl, fun _ member => absurd member List.not_mem_nil⟩

theorem scanNumber_spec {text : List Char} {literal : Literal}
    (scanned : scanNumber text = some literal) :
    text = literal.whole ++ literal.scale ++ literal.rest ∧
      (∃ character tail, literal.whole = character :: tail ∧
        (character = '-' ∨ character.isDigit = true)) ∧
      (∀ character ∈ literal.whole, character = '-' ∨ character.isDigit = true) ∧
      ∀ character ∈ literal.scale, isScaleMark character = true := by
  obtain ⟨⟨whole, rest⟩, signed, rfl⟩ := Option.map_eq_some_iff.mp scanned
  obtain ⟨rfl, head, digits⟩ := scanSigned_spec signed
  have fraction := scanFraction_spec rest
  have exponent := scanExponent_spec (scanFraction rest).2
  refine ⟨?_, head, digits, ?_⟩
  · dsimp only
    rw [List.append_assoc, List.append_assoc, ← exponent.1, ← fraction.1]
  · intro character member
    exact (List.mem_append.mp member).elim (fraction.2 character) (exponent.2 character)

theorem scanRun_lead {lead : List Char} {mark : Char} (leads : mark ∈ lead)
    (text rest : List Char) :
    (scanRun lead text rest).1 = [] ∨ mark ∈ (scanRun lead text rest).1 := by
  unfold scanRun
  split
  · exact Or.inl rfl
  · exact Or.inr (List.mem_append_left _ leads)

theorem scanExponent_marked {text : List Char} (scaled : (scanExponent text).1 ≠ []) :
    ∃ character ∈ (scanExponent text).1, character = 'e' ∨ character = 'E' := by
  cases text with
  | nil => exact absurd rfl scaled
  | cons mark rest =>
      by_cases marked : mark = 'e' ∨ mark = 'E'
      · refine ⟨mark, ?_, marked⟩
        simp only [scanExponent, if_pos marked] at scaled ⊢
        split at scaled <;>
          exact (scanRun_lead List.mem_cons_self _ _).resolve_left scaled
      · simp [scanExponent, if_neg marked] at scaled

theorem scanFraction_marked {text : List Char} (scaled : (scanFraction text).1 ≠ []) :
    '.' ∈ (scanFraction text).1 := by
  unfold scanFraction at scaled ⊢
  split at scaled
  · exact (scanRun_lead List.mem_cons_self _ _).resolve_left scaled
  · exact absurd rfl scaled

/-- A scale that is not empty has a point or an exponent mark. -/
theorem scanNumber_scale_mark {text : List Char} {literal : Literal}
    (scanned : scanNumber text = some literal) (scaled : literal.scale ≠ []) :
    ∃ character ∈ literal.scale, character = '.' ∨ character = 'e' ∨ character = 'E' := by
  obtain ⟨⟨whole, rest⟩, signed, rfl⟩ := Option.map_eq_some_iff.mp scanned
  dsimp only at scaled ⊢
  by_cases fraction : (scanFraction rest).1 = []
  · rw [fraction, List.nil_append] at scaled ⊢
    obtain ⟨character, member, mark⟩ := scanExponent_marked scaled
    exact ⟨character, member, Or.inr mark⟩
  · exact ⟨'.', List.mem_append_left _ (scanFraction_marked fraction), Or.inl rfl⟩

theorem isFloatText_scan {text : List Char} (printed : isFloatText text = true) :
    ∃ whole scale, scanNumber text = some ⟨whole, scale, []⟩ ∧ text = whole ++ scale ∧
      scale ≠ [] := by
  unfold isFloatText at printed
  split at printed
  · rename_i literal scanned
    obtain ⟨scaled, ended⟩ := of_decide_eq_true printed
    obtain ⟨whole, scale, rest⟩ := literal
    dsimp only at ended scaled
    subst ended
    have split := (scanNumber_spec scanned).1
    rw [List.append_nil] at split
    exact ⟨whole, scale, scanned, split, scaled⟩
  · cases printed

/-- The literal of a float starts like a number. -/
theorem FloatText.head (value : FloatText) :
    ∃ character rest, value.text = character :: rest ∧
      (character = '-' ∨ character.isDigit = true) := by
  obtain ⟨whole, scale, scanned, split, _⟩ := isFloatText_scan value.printed
  obtain ⟨_, ⟨character, tail, lead, number⟩, _⟩ := scanNumber_spec scanned
  dsimp only at lead
  exact ⟨character, tail ++ scale, by rw [split, lead]; rfl, number⟩

theorem FloatText.marks (value : FloatText) :
    ∀ character ∈ value.text, isScaleMark character = true := by
  obtain ⟨whole, scale, scanned, split, _⟩ := isFloatText_scan value.printed
  obtain ⟨_, _, digits, marks⟩ := scanNumber_spec scanned
  intro character member
  rw [split] at member
  rcases List.mem_append.mp member with inside | inside
  · rcases digits character inside with rfl | digit
    · rfl
    · simp [isScaleMark, digit]
  · exact marks character inside

/-- The literal of a float has a point or an exponent. -/
theorem FloatText.fractional (value : FloatText) :
    ∃ character ∈ value.text, character ≠ '-' ∧ character.isDigit = false := by
  obtain ⟨whole, scale, scanned, split, scaled⟩ := isFloatText_scan value.printed
  obtain ⟨character, member, mark⟩ := scanNumber_scale_mark scanned scaled
  refine ⟨character, by rw [split]; exact List.mem_append_right _ member, ?_⟩
  rcases mark with rfl | rfl | rfl <;> decide

end CrossPatch.Library.Numerals
