import CrossPatch.Library.Octets

/-!
# Base64

The standard alphabet with padding.  The decoder is strict: every character
belongs to the alphabet, padding follows the last quantum only, and nothing
follows it.  A last quantum that needs no padding may have any amount of it.
-/

namespace CrossPatch.Library.Base64

open CrossPatch.Library.Octets

def alphabet : List Char :=
  ['A', 'B', 'C', 'D', 'E', 'F', 'G', 'H', 'I', 'J', 'K', 'L', 'M', 'N', 'O', 'P',
   'Q', 'R', 'S', 'T', 'U', 'V', 'W', 'X', 'Y', 'Z', 'a', 'b', 'c', 'd', 'e', 'f',
   'g', 'h', 'i', 'j', 'k', 'l', 'm', 'n', 'o', 'p', 'q', 'r', 's', 't', 'u', 'v',
   'w', 'x', 'y', 'z', '0', '1', '2', '3', '4', '5', '6', '7', '8', '9', '+', '/']

def symbol (sextet : Nat) : Char := alphabet.getD sextet 'A'

def sextet? (character : Char) : Option Nat := alphabet.findIdx? (· == character)

def encode : Bytes → List Char
  | [] => []
  | [first] =>
      let value := first.toNat * 16
      [symbol (value / 64), symbol (value % 64), '=', '=']
  | [first, second] =>
      let value := first.toNat * 1024 + second.toNat * 4
      [symbol (value / 4096), symbol (value / 64 % 64), symbol (value % 64), '=']
  | first :: second :: third :: rest =>
      let value := first.toNat * 65536 + second.toNat * 256 + third.toNat
      symbol (value / 262144) :: symbol (value / 4096 % 64) :: symbol (value / 64 % 64) ::
        symbol (value % 64) :: encode rest

def decode : List Char → Option Bytes
  | [] => some []
  | [first, second, '=', '='] => do
      let value := (← sextet? first) * 64 + (← sextet? second)
      some [UInt8.ofNat (value / 16)]
  | [first, second, third, '='] => do
      let value := (← sextet? first) * 4096 + (← sextet? second) * 64 + (← sextet? third)
      some [UInt8.ofNat (value / 1024), UInt8.ofNat (value / 4 % 256)]
  | first :: second :: third :: fourth :: rest => do
      let value := (← sextet? first) * 262144 + (← sextet? second) * 4096 +
        (← sextet? third) * 64 + (← sextet? fourth)
      let tail ← if rest.all (· == '=') then some [] else decode rest
      some (UInt8.ofNat (value / 65536) :: UInt8.ofNat (value / 256 % 256) ::
        UInt8.ofNat (value % 256) :: tail)
  | _ => none

theorem sextet?_symbol : ∀ sextet < 64, sextet? (symbol sextet) = some sextet := by
  decide

theorem symbol_ne_padding : ∀ sextet < 64, symbol sextet ≠ '=' := by
  decide

theorem ofNat_eq_of_toNat {byte : UInt8} {value : Nat} (same : value = byte.toNat) :
    UInt8.ofNat value = byte := by
  rw [same, UInt8.ofNat_toNat]

theorem eq_nil_of_encode_padding {bytes : Bytes}
    (padding : (encode bytes).all (· == '=') = true) : bytes = [] := by
  fun_cases encode bytes with
  | case1 => rfl
  | case2 first value =>
      have bound := first.toNat_lt
      simp [encode, symbol_ne_padding (first.toNat * 16 / 64) (by omega)] at padding
  | case3 first second value =>
      have firstBound := first.toNat_lt
      have secondBound := second.toNat_lt
      simp [encode, symbol_ne_padding ((first.toNat * 1024 + second.toNat * 4) / 4096) (by omega)]
        at padding
  | case4 first second third rest value =>
      have firstBound := first.toNat_lt
      have secondBound := second.toNat_lt
      have thirdBound := third.toNat_lt
      have unpadded := symbol_ne_padding
        ((first.toNat * 65536 + second.toNat * 256 + third.toNat) / 262144) (by omega)
      simp [encode, unpadded] at padding

theorem decode_encode (bytes : Bytes) : decode (encode bytes) = some bytes := by
  fun_induction encode bytes with
  | case1 => rfl
  | case2 first value =>
      have bound := first.toNat_lt
      have high := sextet?_symbol (value / 64) (by omega)
      have low := sextet?_symbol (value % 64) (by omega)
      have firstByte : UInt8.ofNat ((value / 64 * 64 + value % 64) / 16) = first :=
        ofNat_eq_of_toNat (by omega)
      simp [decode, high, low, firstByte]
  | case3 first second value =>
      have firstBound := first.toNat_lt
      have secondBound := second.toNat_lt
      have high := sextet?_symbol (value / 4096) (by omega)
      have middle := sextet?_symbol (value / 64 % 64) (by omega)
      have low := sextet?_symbol (value % 64) (by omega)
      have firstByte : UInt8.ofNat
          ((value / 4096 * 4096 + value / 64 % 64 * 64 + value % 64) / 1024) = first :=
        ofNat_eq_of_toNat (by omega)
      have secondByte : UInt8.ofNat
          ((value / 4096 * 4096 + value / 64 % 64 * 64 + value % 64) / 4 % 256) = second :=
        ofNat_eq_of_toNat (by omega)
      rw [decode]
      · simp [high, middle, low, firstByte, secondByte]
      · exact symbol_ne_padding (value % 64) (by omega)
  | case4 first second third rest value ih =>
      have firstBound := first.toNat_lt
      have secondBound := second.toNat_lt
      have thirdBound := third.toNat_lt
      have first' := sextet?_symbol (value / 262144) (by omega)
      have second' := sextet?_symbol (value / 4096 % 64) (by omega)
      have third' := sextet?_symbol (value / 64 % 64) (by omega)
      have fourth' := sextet?_symbol (value % 64) (by omega)
      have unpadded := symbol_ne_padding (value % 64) (by omega)
      have joined : value / 262144 * 262144 + value / 4096 % 64 * 4096 +
          value / 64 % 64 * 64 + value % 64 = value := by omega
      have firstByte : UInt8.ofNat (value / 65536) = first := ofNat_eq_of_toNat (by omega)
      have secondByte : UInt8.ofNat (value / 256 % 256) = second :=
        ofNat_eq_of_toNat (by omega)
      have thirdByte : UInt8.ofNat (value % 256) = third := ofNat_eq_of_toNat (by omega)
      rw [decode]
      · simp only [first', second', third', fourth', joined, firstByte, secondByte, thirdByte,
          Option.bind_eq_bind, Option.bind_some]
        split
        case isTrue padding => rw [eq_nil_of_encode_padding padding]
        case isFalse => rw [ih, Option.bind_some]
      · intro _ padding
        exact absurd padding unpadded
      · intro padding
        exact absurd padding unpadded

/-- Padding after a last quantum that is already complete is accepted. -/
example : decode ['Y', 'W', 'J', 'j', '='] = some [97, 98, 99] := by decide

theorem length_encode (bytes : Bytes) :
    (encode bytes).length = 4 * ((bytes.length + 2) / 3) := by
  fun_induction encode bytes with
  | case1 => rfl
  | case2 first value => simp
  | case3 first second value => simp
  | case4 first second third rest value ih =>
      simp only [List.length_cons, ih]
      omega

theorem symbol_ascii (sextet : Nat) : (symbol sextet).toNat < 128 := by
  unfold symbol
  rw [List.getD_eq_getElem?_getD]
  cases inside : alphabet[sextet]? with
  | none => decide
  | some character =>
      have all : alphabet.all (fun listed => listed.toNat < 128) = true := by decide
      exact of_decide_eq_true (List.all_eq_true.mp all character (List.mem_of_getElem? inside))

theorem encode_ascii (bytes : Bytes) : ∀ character ∈ encode bytes, character.toNat < 128 := by
  intro character member
  fun_induction encode bytes with
  | case1 => cases member
  | case2 first value =>
      simp only [List.mem_cons, List.not_mem_nil, or_false] at member
      rcases member with rfl | rfl | rfl | rfl
      · exact symbol_ascii _
      · exact symbol_ascii _
      · decide
      · decide
  | case3 first second value =>
      simp only [List.mem_cons, List.not_mem_nil, or_false] at member
      rcases member with rfl | rfl | rfl | rfl
      · exact symbol_ascii _
      · exact symbol_ascii _
      · exact symbol_ascii _
      · decide
  | case4 first second third rest value ih =>
      simp only [List.mem_cons] at member
      rcases member with rfl | rfl | rfl | rfl | later
      · exact symbol_ascii _
      · exact symbol_ascii _
      · exact symbol_ascii _
      · exact symbol_ascii _
      · exact ih later

theorem symbol_mem (sextet : Nat) : symbol sextet ∈ alphabet := by
  unfold symbol
  rw [List.getD_eq_getElem?_getD]
  cases inside : alphabet[sextet]? with
  | none => decide
  | some character => exact List.mem_of_getElem? inside

/-- An encoding is symbols with the padding that completes the last quantum. -/
theorem encode_split (bytes : Bytes) : ∃ body, (∀ character ∈ body, character ∈ alphabet) ∧
    encode bytes = body ++ List.replicate ((4 - body.length % 4) % 4) '=' := by
  fun_induction encode bytes with
  | case1 => exact ⟨[], (by intro character member; cases member), rfl⟩
  | case2 first value =>
      refine ⟨[symbol (value / 64), symbol (value % 64)], ?_, rfl⟩
      simp only [List.forall_mem_cons, List.not_mem_nil, false_implies, implies_true, and_true]
      exact ⟨symbol_mem _, symbol_mem _⟩
  | case3 first second value =>
      refine ⟨[symbol (value / 4096), symbol (value / 64 % 64), symbol (value % 64)], ?_, rfl⟩
      simp only [List.forall_mem_cons, List.not_mem_nil, false_implies, implies_true, and_true]
      exact ⟨symbol_mem _, symbol_mem _, symbol_mem _⟩
  | case4 first second third rest value ih =>
      obtain ⟨body, symbols, split⟩ := ih
      refine ⟨symbol (value / 262144) :: symbol (value / 4096 % 64) :: symbol (value / 64 % 64) ::
        symbol (value % 64) :: body, ?_, ?_⟩
      · simp only [List.forall_mem_cons]
        exact ⟨symbol_mem _, symbol_mem _, symbol_mem _, symbol_mem _, symbols⟩
      · have same : (body.length + 1 + 1 + 1 + 1) % 4 = body.length % 4 := by omega
        simp only [List.length_cons, same, List.cons_append, split]

end CrossPatch.Library.Base64
