import CrossPatch.Domain.Text
import CrossPatch.Library.Decimals
import CrossPatch.Library.JsonText

/-!
# Decimal amounts

What `Decimal(str(value))` makes of a text or of a JSON value.
-/

namespace CrossPatch.Domain.Amounts

open CrossPatch.Domain.Text CrossPatch.Library CrossPatch.Library.Decimals
open CrossPatch.Library.JsonText

inductive Numeral where
  | finite (amount : Decimal)
  | infinite
  | notANumber
  deriving DecidableEq

/-- The code points of the digit zero; nine digits follow each of them. -/
def decimalZeros : List Nat :=
  [0x30, 0x660, 0x6f0, 0x7c0, 0x966, 0x9e6, 0xa66, 0xae6, 0xb66, 0xbe6, 0xc66, 0xce6, 0xd66,
   0xde6, 0xe50, 0xed0, 0xf20, 0x1040, 0x1090, 0x17e0, 0x1810, 0x1946, 0x19d0, 0x1a80, 0x1a90,
   0x1b50, 0x1bb0, 0x1c40, 0x1c50, 0xa620, 0xa8d0, 0xa900, 0xa9d0, 0xa9f0, 0xaa50, 0xabf0,
   0xff10, 0x104a0, 0x10d30, 0x11066, 0x110f0, 0x11136, 0x111d0, 0x112f0, 0x11450, 0x114d0,
   0x11650, 0x116c0, 0x11730, 0x118e0, 0x11950, 0x11c50, 0x11d50, 0x11da0, 0x11f50, 0x16a60,
   0x16ac0, 0x16b50, 0x1d7ce, 0x1d7d8, 0x1d7e2, 0x1d7ec, 0x1d7f6, 0x1e140, 0x1e2f0, 0x1e4f0,
   0x1e950, 0x1fbf0]

def decimalDigit (character : Char) : Option Nat :=
  (decimalZeros.find? fun first => first ≤ character.toNat && character.toNat < first + 10).map
    fun first => character.toNat - first

/-- Underscores are ignored, digits and blanks are spelled in ASCII, letters in lower case;
any other character makes the text unreadable. -/
def spelled : List Char → Option (List Char)
  | [] => some []
  | character :: rest =>
      if character = '_' then spelled rest
      else match decimalDigit character with
        | some digit => (spelled rest).map (Nat.digitChar digit :: ·)
        | none =>
            if isSpace character then (spelled rest).map (' ' :: ·)
            else if character.toNat < 128 then (spelled rest).map (character.toLower :: ·)
            else none

def takeSign : List Char → Bool × List Char
  | '-' :: rest => (true, rest)
  | '+' :: rest => (false, rest)
  | text => (false, text)

def natOf (digits : List Char) : Nat :=
  digits.foldl (fun total digit => 10 * total + (digit.toNat - 48)) 0

/-- The exponent after the digits; without one it is zero. -/
def scanExponent : List Char → Option Int
  | [] => some 0
  | 'e' :: rest =>
      let (negative, digits) := takeSign rest
      if digits ≠ [] ∧ digits.all Char.isDigit then
        some (if negative then -(natOf digits : Int) else natOf digits)
      else none
  | _ => none

/-- Exponents beyond these cannot be stored. -/
def storable (amount : Decimal) : Bool :=
  -1999999999999999997 ≤ amount.exponent &&
    amount.exponent + Context.digits amount.coefficient - 1 ≤ 999999999999999999

def scanFinite (negative : Bool) (text : List Char) : Option Decimal :=
  let whole := text.takeWhile Char.isDigit
  let rest := text.dropWhile Char.isDigit
  let fraction := if rest.head? = some '.' then rest.tail.takeWhile Char.isDigit else []
  let after := if rest.head? = some '.' then rest.tail.dropWhile Char.isDigit else rest
  if whole ++ fraction = [] then none
  else (scanExponent after).bind fun exponent =>
    let size := natOf (whole ++ fraction)
    let amount : Decimal := ⟨if negative then -size else size, exponent - fraction.length⟩
    if storable amount then some amount else none

def scanNumeral (text : List Char) : Option Numeral :=
  let (negative, body) := takeSign text
  if body = "inf".toList ∨ body = "infinity".toList then some .infinite
  else if body.take 3 = "nan".toList ∧ (body.drop 3).all Char.isDigit then some .notANumber
  else if body.take 4 = "snan".toList ∧ (body.drop 4).all Char.isDigit then some .notANumber
  else (scanFinite negative body).map .finite

/-- `Decimal(text)`, unless it raises `InvalidOperation`. -/
def decimalOfText (text : String) : Option Numeral :=
  (spelled (Lines.trim isSpace text.toList)).bind scanNumeral

/-- `Decimal(str(value))` of a value read from JSON. -/
def decimalOf : Json → Option Numeral
  | .int value => some (.finite ⟨value, 0⟩)
  | .float value => decimalOfText (String.ofList value.text)
  | .str value => decimalOfText value
  | .null | .bool _ | .arr _ | .obj _ => none

example : decimalOfText " -1_2.50E+٣\n" = some (.finite ⟨-1250, 1⟩) := by decide

end CrossPatch.Domain.Amounts
