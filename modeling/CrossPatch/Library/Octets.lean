import Mathlib

/-!
# Byte strings

Byte strings are lists of octets.  Text becomes bytes through UTF-8, and digests
are shown as lowercase hexadecimal text.
-/

namespace CrossPatch.Library.Octets

abbrev Bytes := List UInt8

/-! ## UTF-8 -/

def utf8 (text : String) : Bytes := text.toByteArray.data.toList

def decodeUtf8 (bytes : Bytes) : Option String :=
  String.fromUTF8? ⟨bytes.toArray⟩

theorem utf8_injective {left right : String} (same : utf8 left = utf8 right) :
    left = right := by
  apply String.toByteArray_inj.mp
  have arrays : left.toByteArray.data = right.toByteArray.data :=
    Array.toList_inj.mp same
  exact ByteArray.ext arrays

@[simp]
theorem utf8_inj {left right : String} : utf8 left = utf8 right ↔ left = right :=
  ⟨utf8_injective, congrArg utf8⟩

@[simp]
theorem utf8_append (left right : String) :
    utf8 (left ++ right) = utf8 left ++ utf8 right := by
  simp [utf8, String.toByteArray_append]

theorem decodeUtf8_utf8 (text : String) : decodeUtf8 (utf8 text) = some text := by
  have restored : (ByteArray.mk (utf8 text).toArray) = text.toByteArray := by
    rw [utf8, Array.toArray_toList]
  rw [decodeUtf8, restored]
  simp only [String.fromUTF8?, dif_pos text.isValidUTF8]
  rfl

/-! ## Hexadecimal digests -/

def hexDigits : List Char :=
  ['0', '1', '2', '3', '4', '5', '6', '7', '8', '9', 'a', 'b', 'c', 'd', 'e', 'f']

def hexDigit (nibble : Nat) : Char := hexDigits.getD nibble '0'

def hexByte (byte : UInt8) : List Char :=
  [hexDigit (byte.toNat / 16), hexDigit (byte.toNat % 16)]

def hex (bytes : Bytes) : String := String.ofList (bytes.flatMap hexByte)

theorem hexDigit_mem (nibble : Nat) : hexDigit nibble ∈ hexDigits := by
  unfold hexDigit
  rw [List.getD_eq_getElem?_getD]
  cases inside : hexDigits[nibble]? with
  | none => decide
  | some digit => exact List.mem_of_getElem? inside

theorem hexDigit_injective :
    ∀ left < 16, ∀ right < 16, hexDigit left = hexDigit right → left = right := by
  decide

theorem hexByte_injective {left right : UInt8} (same : hexByte left = hexByte right) :
    left = right := by
  have leftBound : left.toNat < 256 := left.toNat_lt
  have rightBound : right.toNat < 256 := right.toNat_lt
  simp only [hexByte, List.cons.injEq, and_true] at same
  have high := hexDigit_injective _ (by omega) _ (by omega) same.1
  have low := hexDigit_injective _ (by omega) _ (by omega) same.2
  apply UInt8.toNat_inj.mp
  omega

theorem flatMap_hexByte_injective {left right : Bytes}
    (same : left.flatMap hexByte = right.flatMap hexByte) : left = right := by
  induction left generalizing right with
  | nil =>
      cases right with
      | nil => rfl
      | cons byte rest => simp [hexByte] at same
  | cons byte rest ih =>
      cases right with
      | nil => simp [hexByte] at same
      | cons other tail =>
          rw [List.flatMap_cons, List.flatMap_cons] at same
          obtain ⟨first, remainder⟩ := List.append_inj same rfl
          rw [hexByte_injective first, ih remainder]

theorem hex_injective {left right : Bytes} (same : hex left = hex right) :
    left = right :=
  flatMap_hexByte_injective (String.ofList_injective same)

theorem length_hex (bytes : Bytes) :
    (hex bytes).toList.length = 2 * bytes.length := by
  rw [hex, String.toList_ofList]
  induction bytes with
  | nil => rfl
  | cons byte rest ih =>
      rw [List.flatMap_cons, List.length_append, ih, List.length_cons]
      simp [hexByte]
      omega

theorem mem_hex {bytes : Bytes} {character : Char}
    (member : character ∈ (hex bytes).toList) : character ∈ hexDigits := by
  rw [hex, String.toList_ofList, List.mem_flatMap] at member
  obtain ⟨byte, _, inside⟩ := member
  simp only [hexByte, List.mem_cons, List.not_mem_nil, or_false] at inside
  rcases inside with rfl | rfl <;> exact hexDigit_mem _

end CrossPatch.Library.Octets
