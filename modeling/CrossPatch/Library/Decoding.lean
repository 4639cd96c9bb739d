import CrossPatch.Library.JsonReader

/-!
# Decoding faulty UTF-8

A byte string is cut into pieces: the encodings of characters, and between them the
longest beginnings of encodings that are not continued.  Decoders with error handling
replace or drop the latter.
-/

namespace CrossPatch.Library.Decoding

open CrossPatch.Library.JsonReader CrossPatch.Library.Octets

/-- The character whose encoding starts the bytes. -/
def readChar (bytes : Bytes) : Option Char := ByteArray.utf8DecodeChar? ⟨(bytes.take 4).toArray⟩ 0

def isContinuation (byte : UInt8) : Bool := 0x80 ≤ byte && byte ≤ 0xbf

/-- The lead byte of an encoding of three or four bytes, and a second byte that can follow. -/
def leads (lead second : UInt8) : Bool :=
  if lead = 0xe0 then 0xa0 ≤ second && second ≤ 0xbf
  else if lead = 0xed then 0x80 ≤ second && second ≤ 0x9f
  else if lead = 0xf0 then 0x90 ≤ second && second ≤ 0xbf
  else if lead = 0xf4 then 0x80 ≤ second && second ≤ 0x8f
  else 0xe1 ≤ lead && lead ≤ 0xf3 && isContinuation second

/-- The number of bytes that one replacement stands for where no encoding starts. -/
def faultLength : Bytes → Nat
  | lead :: second :: rest =>
      if leads lead second then
        match rest with
        | third :: _ => if 0xf0 ≤ lead && isContinuation third then 3 else 2
        | [] => 2
      else 1
  | _ => 1

def pieceOf (bytes : Bytes) : Nat × Option Char :=
  match readChar bytes with
  | some character => (character.utf8Size, some character)
  | none => (faultLength bytes, none)

def pieces (skip : Nat) : Bytes → List (Bytes × Option Char)
  | [] => []
  | byte :: rest =>
      match skip with
      | skip + 1 => pieces skip rest
      | 0 =>
          ((byte :: rest).take (pieceOf (byte :: rest)).1, (pieceOf (byte :: rest)).2) ::
            pieces ((pieceOf (byte :: rest)).1 - 1) rest

def replacement : Char := '\uFFFD'

/-- `bytes.decode("utf-8", errors="replace")`. -/
def decodeReplacing (bytes : Bytes) : List Char :=
  (pieces 0 bytes).map fun piece => piece.2.getD replacement

/-- `bytes.decode("utf-8", errors="ignore")`. -/
def decodeIgnoring (bytes : Bytes) : List Char := (pieces 0 bytes).filterMap Prod.snd

/-! ## Pieces -/

theorem readChar_spec {bytes : Bytes} {character : Char} (read : readChar bytes = some character) :
    bytes.take character.utf8Size = String.utf8EncodeChar character := by
  obtain ⟨later, whole⟩ := ByteArray.exists_of_utf8DecodeChar?_eq_some read
  have start : bytes.take 4 = String.utf8EncodeChar character ++ later.data.toList := by
    simpa using congrArg (fun array => array.data.toList) whole
  have size : (String.utf8EncodeChar character).length = character.utf8Size :=
    String.length_utf8EncodeChar character
  have first := congrArg (List.take character.utf8Size) start
  rw [List.take_take, min_eq_left character.utf8Size_le_four, ← size, List.take_left] at first
  rw [← size]
  exact first

theorem faultLength_pos (bytes : Bytes) : 0 < faultLength bytes := by
  unfold faultLength
  split
  · split
    · split
      · split <;> decide
      · decide
    · decide
  · decide

theorem pieceOf_pos (bytes : Bytes) : 0 < (pieceOf bytes).1 := by
  unfold pieceOf
  split
  · exact Char.utf8Size_pos _
  · exact faultLength_pos bytes

/-- The pieces make up the bytes. -/
theorem flatMap_pieces (bytes : Bytes) (skip : Nat) :
    (pieces skip bytes).flatMap Prod.fst = bytes.drop skip := by
  induction bytes generalizing skip with
  | nil =>
      rw [pieces, List.drop_nil]
      rfl
  | cons byte rest ih =>
      cases skip with
      | succ skip => exact ih skip
      | zero =>
          rw [pieces, List.flatMap_cons, ih]
          obtain ⟨taken, positive⟩ := Nat.exists_eq_succ_of_ne_zero (pieceOf_pos (byte :: rest)).ne'
          rw [positive, Nat.succ_sub_one, List.take_succ_cons, List.cons_append,
            List.take_append_drop, List.drop_zero]

theorem pieceOf_some {bytes : Bytes} {character : Char}
    (read : (pieceOf bytes).2 = some character) :
    bytes.take (pieceOf bytes).1 = String.utf8EncodeChar character := by
  unfold pieceOf at read ⊢
  split at read
  · rename_i found reads
    cases read
    exact readChar_spec reads
  · cases read

theorem leads_high {lead second : UInt8} (follows : leads lead second = true) :
    128 ≤ lead.toNat ∧ 128 ≤ second.toNat := by
  simp only [leads, isContinuation] at follows
  split at follows
  · simp_all [UInt8.le_iff_toNat_le]
    omega
  · split at follows
    · simp_all [UInt8.le_iff_toNat_le]
    · split at follows
      · simp_all [UInt8.le_iff_toNat_le]
        omega
      · split at follows
        · simp_all [UInt8.le_iff_toNat_le]
        · simp_all [UInt8.le_iff_toNat_le]
          omega

theorem readChar_low {byte : UInt8} {rest : Bytes} (low : byte.toNat < 128) :
    readChar (byte :: rest) = some (Char.ofNat byte.toNat) := by
  have size : (Char.ofNat byte.toNat).toNat = byte.toNat := by
    rw [Char.toNat_ofNat, if_pos (Or.inl (by omega))]
  have encoded : String.utf8EncodeChar (Char.ofNat byte.toNat) = [byte] := by
    rw [utf8EncodeChar_low (by rw [size]; exact low), size, UInt8.ofNat_toNat]
  have whole : (⟨((byte :: rest).take 4).toArray⟩ : ByteArray) =
      (String.utf8EncodeChar (Char.ofNat byte.toNat)).toByteArray ++ ⟨(rest.take 3).toArray⟩ := by
    rw [encoded]
    apply ByteArray.ext
    simp
  rw [readChar, whole]
  exact ByteArray.utf8DecodeChar?_utf8EncodeChar_append

/-- A fault has no byte below 128. -/
theorem pieceOf_none {byte : UInt8} {rest : Bytes} (fault : (pieceOf (byte :: rest)).2 = none) :
    ∀ other ∈ (byte :: rest).take (pieceOf (byte :: rest)).1, 128 ≤ other.toNat := by
  have high : 128 ≤ byte.toNat := by
    by_contra low
    rw [pieceOf, readChar_low (Nat.lt_of_not_le low)] at fault
    cases fault
  have unread : readChar (byte :: rest) = none := by
    unfold pieceOf at fault
    split at fault
    · cases fault
    · assumption
  have only : ∀ other ∈ (byte :: rest).take 1, 128 ≤ other.toNat := by
    intro other member
    rw [List.take_succ_cons, List.take_zero, List.mem_singleton] at member
    rw [member]
    exact high
  rw [pieceOf, unread]
  dsimp only
  unfold faultLength
  split
  · rename_i lead second others same
    cases same
    split
    · rename_i follows
      obtain ⟨_, highSecond⟩ := leads_high follows
      split
      · rename_i third later same
        split
        · rename_i continued
          rw [Bool.and_eq_true, isContinuation, Bool.and_eq_true] at continued
          intro other member
          simp only [List.take_succ_cons, List.take_zero, List.mem_cons, List.not_mem_nil,
            or_false] at member
          obtain rfl | rfl | rfl := member
          · exact high
          · exact highSecond
          · exact UInt8.le_iff_toNat_le.mp (of_decide_eq_true continued.2.1)
        · intro other member
          simp only [List.take_succ_cons, List.take_zero, List.mem_cons, List.not_mem_nil,
            or_false] at member
          obtain rfl | rfl := member
          · exact high
          · exact highSecond
      · intro other member
        simp only [List.take_succ_cons, List.take_zero, List.mem_cons, List.not_mem_nil,
          or_false] at member
        obtain rfl | rfl := member
        · exact high
        · exact highSecond
    · exact only
  · exact only

/-- Every piece is the encoding of its character, or a fault without low bytes. -/
theorem mem_pieces {bytes : Bytes} {skip : Nat} {piece : Bytes × Option Char}
    (member : piece ∈ pieces skip bytes) : piece.1 ≠ [] ∧
      match piece.2 with
      | some character => piece.1 = String.utf8EncodeChar character
      | none => ∀ byte ∈ piece.1, 128 ≤ byte.toNat := by
  induction bytes generalizing skip with
  | nil => cases member
  | cons byte rest ih =>
      cases skip with
      | succ skip => exact ih member
      | zero =>
          rw [pieces, List.mem_cons] at member
          obtain rfl | later := member
          · refine ⟨?_, ?_⟩
            · obtain ⟨taken, positive⟩ :=
                Nat.exists_eq_succ_of_ne_zero (pieceOf_pos (byte :: rest)).ne'
              rw [positive, List.take_succ_cons]
              exact List.cons_ne_nil _ _
            · dsimp only
              split
              · rename_i character read
                exact pieceOf_some read
              · rename_i fault
                exact pieceOf_none fault
          · exact ih later

/-! ## Decoded texts -/

theorem utf8_ofList (text : List Char) :
    utf8 (String.ofList text) = text.flatMap String.utf8EncodeChar := by
  induction text with
  | nil => rfl
  | cons character rest ih => rw [utf8_cons, ih, List.flatMap_cons]

/-- Without a replacement the decoded text stands for all of its bytes. -/
theorem utf8_decodeReplacing {bytes : Bytes} (clean : replacement ∉ decodeReplacing bytes) :
    utf8 (String.ofList (decodeReplacing bytes)) = bytes := by
  have whole := flatMap_pieces bytes 0
  rw [List.drop_zero] at whole
  rw [utf8_ofList, decodeReplacing, List.flatMap_map]
  refine Eq.trans ?_ whole
  apply List.flatMap_congr
  rintro ⟨piece, read⟩ member
  have spec := (mem_pieces member).2
  cases read with
  | some character => exact spec.symm
  | none => exact absurd (List.mem_map.mpr ⟨_, member, rfl⟩) clean

theorem pieces_skip (skip : Nat) (bytes : Bytes) : pieces skip bytes = pieces 0 (bytes.drop skip) := by
  induction bytes generalizing skip with
  | nil => rw [List.drop_nil, pieces, pieces]
  | cons byte rest ih =>
      cases skip with
      | zero => rw [List.drop_zero]
      | succ skip =>
          rw [pieces, ih, List.drop_succ_cons]

theorem readChar_utf8 (character : Char) (rest : Bytes) :
    readChar (String.utf8EncodeChar character ++ rest) = some character := by
  have size : (String.utf8EncodeChar character).length ≤ 4 := by
    rw [String.length_utf8EncodeChar]
    exact character.utf8Size_le_four
  have whole : (⟨((String.utf8EncodeChar character ++ rest).take 4).toArray⟩ : ByteArray) =
      (String.utf8EncodeChar character).toByteArray ++
        ⟨(rest.take (4 - (String.utf8EncodeChar character).length)).toArray⟩ := by
    apply ByteArray.ext
    rw [List.take_append, List.take_of_length_le size]
    simp
  rw [readChar, whole]
  exact ByteArray.utf8DecodeChar?_utf8EncodeChar_append

theorem pieces_utf8 (character : Char) (rest : Bytes) :
    pieces 0 (String.utf8EncodeChar character ++ rest) =
      (String.utf8EncodeChar character, some character) :: pieces 0 rest := by
  have read := readChar_utf8 character rest
  have size := String.length_utf8EncodeChar character
  obtain ⟨byte, others, split⟩ := List.exists_cons_of_ne_nil
    (List.length_pos_iff.mp (size ▸ character.utf8Size_pos))
  rw [split, List.cons_append] at read ⊢
  rw [pieces, pieceOf, read, pieces_skip]
  dsimp only
  rw [split] at size
  obtain ⟨taken, same⟩ := Nat.exists_eq_succ_of_ne_zero character.utf8Size_pos.ne'
  rw [same, List.length_cons, Nat.succ_inj] at size
  rw [same, List.take_succ_cons, Nat.succ_sub_one, ← size, List.take_left, List.drop_left]

/-- What was encoded is decoded. -/
theorem decodeReplacing_utf8 (text : List Char) :
    decodeReplacing (utf8 (String.ofList text)) = text := by
  rw [utf8_ofList]
  induction text with
  | nil => rfl
  | cons character rest ih =>
      rw [List.flatMap_cons, decodeReplacing, pieces_utf8, List.map_cons]
      exact congrArg (character :: ·) ih

theorem getLast_utf8EncodeChar {character : Char} {byte : UInt8}
    (last : (String.utf8EncodeChar character).getLast? = some byte) (low : byte.toNat < 128) :
    character.toNat = byte.toNat := by
  unfold String.utf8EncodeChar at last
  dsimp only at last
  have value : character.val.toNat = character.toNat := rfl
  split at last
  · rw [List.getLast?_singleton, Option.some.injEq] at last
    rw [← last, UInt8.toNat_ofNat', value]
    omega
  · exfalso
    have trailing : ∃ number, byte = UInt8.ofNat (number % 64 + 128) := by
      split at last
      · cases last
        exact ⟨_, rfl⟩
      · split at last
        · cases last
          exact ⟨_, rfl⟩
        · cases last
          exact ⟨_, rfl⟩
    obtain ⟨number, rfl⟩ := trailing
    rw [UInt8.toNat_ofNat'] at low
    omega

/-- The last byte of the bytes and the last character of the text, when one of them is
below 128. -/
theorem getLast_decodeReplacing {bytes : Bytes} {number : Nat} (low : number < 128) :
    (decodeReplacing bytes).getLast? = some (Char.ofNat number) ↔
      bytes.getLast? = some (UInt8.ofNat number) := by
  have whole := flatMap_pieces bytes 0
  rw [List.drop_zero] at whole
  have byteValue : (UInt8.ofNat number).toNat = number := by
    rw [UInt8.toNat_ofNat']
    omega
  have charValue : (Char.ofNat number).toNat = number := by
    rw [Char.toNat_ofNat, if_pos (Or.inl (by omega))]
  rw [decodeReplacing, List.getLast?_map]
  obtain empty | ⟨others, ⟨piece, read⟩, split⟩ := List.eq_nil_or_concat (pieces 0 bytes)
  · rw [empty] at whole ⊢
    rw [← whole]
    simp
  · rw [List.concat_eq_append] at split
    have member : (piece, read) ∈ pieces 0 bytes := by
      rw [split]
      exact List.mem_append_right _ List.mem_cons_self
    obtain ⟨nonempty, spec⟩ := mem_pieces member
    have last : bytes.getLast? = piece.getLast? := by
      rw [← whole, split, List.flatMap_append, List.flatMap_singleton,
        List.getLast?_append_of_ne_nil _ nonempty]
    rw [last, split, List.getLast?_concat, Option.map_some, Option.some.injEq]
    cases read with
    | some character =>
        dsimp only at spec
        rw [Option.getD_some, spec]
        constructor
        · rintro rfl
          rw [utf8EncodeChar_low (by rw [charValue]; exact low), charValue]
          rfl
        · intro ends
          have same := getLast_utf8EncodeChar ends (by rw [byteValue]; exact low)
          rw [byteValue] at same
          rw [← same, Char.ofNat_toNat]
    | none =>
        rw [Option.getD_none]
        constructor
        · intro same
          have value := congrArg Char.toNat same
          rw [charValue] at value
          rw [← value] at low
          exact absurd low (by decide)
        · intro ends
          have high := spec _ (List.mem_of_getLast? ends)
          rw [byteValue] at high
          exact absurd low (Nat.not_lt.mpr high)

end CrossPatch.Library.Decoding
