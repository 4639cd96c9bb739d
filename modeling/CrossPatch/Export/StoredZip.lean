import CrossPatch.Export.Layout
import CrossPatch.Library.Decoding
import CrossPatch.Library.Pairing

/-!
# Archives of stored members

A layout that every reader of zip files understands: each member stands uncompressed behind its
local header, and the directory and the end record follow.  A reader of that layout gives the
members back.
-/

namespace CrossPatch.Export.StoredZip

open CrossPatch.Domain.Failure CrossPatch.Export.Layout CrossPatch.Export.Verifier
open CrossPatch.Library.Attempt CrossPatch.Library.Decoding CrossPatch.Library.Octets
open CrossPatch.Library.Pairing

/-! ## Writing -/

def crcStep (register : Nat) : Nat :=
  if register % 2 = 1 then (register / 2) ^^^ 0xedb88320 else register / 2

def crc32 (data : Bytes) : Nat :=
  data.foldl (fun register byte => crcStep^[8] (register ^^^ byte.toNat)) 0xffffffff ^^^ 0xffffffff

/-- The check value of the checksum. -/
example : crc32 (utf8 "123456789") = 0xcbf43926 := by decide +kernel

/-- Bit 11 marks a name in UTF-8 that is not plain. -/
def nameFlags (name : String) : Nat :=
  if (utf8 name).all (· < 128) then 0 else 0x800

/-- The flags, the method, the first time that the format has, and the checksum. -/
def stamp (name : String) (data : Bytes) : Bytes :=
  little 20 2 ++ (little (nameFlags name) 2 ++ (little 0 2 ++ (little 0 2 ++ (little 33 2 ++
    little (crc32 data) 4))))

/-- What both headers say of a member. -/
def fields (name : String) (data : Bytes) : Bytes :=
  stamp name data ++ (little data.length 4 ++ (little data.length 4 ++
    (little (utf8 name).length 2 ++ little 0 2)))

def localSignature : Bytes := [0x50, 0x4b, 0x03, 0x04]

def localHeader (member : String × Bytes) : Bytes :=
  localSignature ++ (fields member.1 member.2 ++ utf8 member.1)

def localMember (member : String × Bytes) : Bytes := localHeader member ++ member.2

def centralSignature : Bytes := [0x50, 0x4b, 0x01, 0x02]

def fileMode : Nat := 0o100600 * 65536

def centralEntry (offset : Nat) (member : String × Bytes) : Bytes :=
  centralSignature ++ (little 788 2 ++ (fields member.1 member.2 ++ (little 0 2 ++ (little 0 2 ++
    (little 0 2 ++ (little fileMode 4 ++ (little offset 4 ++ utf8 member.1)))))))

def directory : Nat → List (String × Bytes) → Bytes
  | _, [] => []
  | offset, member :: rest =>
      centralEntry offset member ++ directory (offset + (localMember member).length) rest

/-- The archive of these members. -/
def packed (members : List (String × Bytes)) : Bytes :=
  members.flatMap localMember ++ (directory 0 members ++
    endRecord members.length (directory 0 members).length (members.flatMap localMember).length)

/-! ## Reading -/

def infoAt (entry : Bytes) (name : String) : ZipInfo where
  filename := name
  flagBits := number entry 8 2
  externalAttr := number entry 38 4
  fileSize := number entry 24 4
  compressSize := number entry 20 4
  headerOffset := number entry 42 4

def readEntries : Nat → Bytes → Attempt (List ZipInfo)
  | 0, _ => .ok []
  | count + 1, entry => do
      require (entry.take 4 = centralSignature)
        ⟨.badZipFile, "Bad magic number for central directory"⟩
      let size := number entry 28 2
      match decodeUtf8 ((entry.drop 46).take size) with
      | none => .error ⟨.unicodeDecodeError, "invalid start byte"⟩
      | some name =>
          let rest ← readEntries count
            (entry.drop (46 + size + number entry 30 2 + number entry 32 2))
          .ok (infoAt entry name :: rest)

def listMembers (archive : Bytes) : Attempt (List ZipInfo) :=
  let record := archive.drop (archive.length - endSize)
  if record.take 4 = endSignature then
    readEntries (number record 10 2) (archive.drop (number record 16 4))
  else .error ⟨.badZipFile, "File is not a zip file"⟩

def openStored (archive : Bytes) (info : ZipInfo) : Attempt Bytes :=
  let header := archive.drop info.headerOffset.toNat
  if header.take 4 = localSignature then
    .ok ((header.drop (30 + number header 26 2 + number header 28 2)).take info.compressSize)
  else .error ⟨.badZipFile, "Bad magic number for file header"⟩

/-- Reads stored members; the checksums are left to other readers. -/
def storedReader : ZipReader where
  Stream := Bytes
  infolist := listMembers
  openMember := openStored
  read stream count := .ok (stream.take count, stream.drop count)

/-! ## The directory -/

/-- The entries of a directory whose members stand from an offset on. -/
def infosFrom : Nat → List (String × Bytes) → List ZipInfo
  | _, [] => []
  | offset, member :: rest =>
      ⟨member.1, nameFlags member.1, fileMode, member.2.length, member.2.length, offset⟩ ::
        infosFrom (offset + (localMember member).length) rest

theorem nameFlags_eq (name : String) : nameFlags name = 0 ∨ nameFlags name = 0x800 := by
  unfold nameFlags
  split
  · exact .inl rfl
  · exact .inr rfl

theorem length_localMember (member : String × Bytes) :
    (localMember member).length = 30 + (utf8 member.1).length + member.2.length := by
  simp only [localMember, localHeader, fields, stamp, localSignature, List.length_append,
    length_little, List.length_cons, List.length_nil]
  omega

theorem length_centralEntry (offset : Nat) (member : String × Bytes) :
    (centralEntry offset member).length = 46 + (utf8 member.1).length := by
  simp only [centralEntry, fields, stamp, centralSignature, List.length_append, length_little,
    List.length_cons, List.length_nil]
  omega

/-- The fields of an entry. -/
theorem infoAt_centralEntry {offset : Nat} {member : String × Bytes} (after : Bytes)
    (size : member.2.length < 256 ^ 4) (low : offset < 256 ^ 4) :
    infoAt (centralEntry offset member ++ after) member.1 =
      ⟨member.1, nameFlags member.1, fileMode, member.2.length, member.2.length, offset⟩ := by
  have flags : number (centralEntry offset member ++ after) 8 2 = nameFlags member.1 := by
    refine number_little (centralSignature ++ little 788 2 ++ little 20 2) rfl ?_
    rcases nameFlags_eq member.1 with plain | marked <;> omega
  have mode : number (centralEntry offset member ++ after) 38 4 = fileMode :=
    number_little (centralSignature ++ little 788 2 ++ fields member.1 member.2 ++ little 0 2 ++
      little 0 2 ++ little 0 2) rfl (by decide)
  have file : number (centralEntry offset member ++ after) 24 4 = member.2.length :=
    number_little (centralSignature ++ little 788 2 ++ stamp member.1 member.2 ++
      little member.2.length 4) rfl size
  have stored : number (centralEntry offset member ++ after) 20 4 = member.2.length :=
    number_little (centralSignature ++ little 788 2 ++ stamp member.1 member.2) rfl size
  have place : number (centralEntry offset member ++ after) 42 4 = offset :=
    number_little (centralSignature ++ little 788 2 ++ fields member.1 member.2 ++ little 0 2 ++
      little 0 2 ++ little 0 2 ++ little fileMode 4) rfl low
  rw [infoAt, flags, mode, file, stored, place]

theorem readEntries_cons {count offset : Nat} {member : String × Bytes} (after : Bytes)
    (named : (utf8 member.1).length < 256 ^ 2) :
    readEntries (count + 1) (centralEntry offset member ++ after) =
      readEntries count after >>= fun rest =>
        .ok (infoAt (centralEntry offset member ++ after) member.1 :: rest) := by
  have size : number (centralEntry offset member ++ after) 28 2 = (utf8 member.1).length :=
    number_little (centralSignature ++ little 788 2 ++ stamp member.1 member.2 ++
      little member.2.length 4 ++ little member.2.length 4) rfl named
  have extra : number (centralEntry offset member ++ after) 30 2 = 0 := rfl
  have comment : number (centralEntry offset member ++ after) 32 2 = 0 := rfl
  have name : (centralEntry offset member ++ after).drop 46 = utf8 member.1 ++ after := rfl
  have signed : (centralEntry offset member ++ after).take 4 = centralSignature := rfl
  have behind : (centralEntry offset member ++ after).drop (46 + (utf8 member.1).length) =
      after := by
    rw [← List.drop_drop, name, List.drop_left]
  rw [readEntries, require_true signed, ok_bind, size, extra, comment]
  simp only [Nat.add_zero, name, List.take_left, decodeUtf8_utf8, behind]

/-- The directory is read as it was written. -/
theorem readEntries_directory {members : List (String × Bytes)} {offset : Nat} (after : Bytes)
    (named : ∀ member ∈ members, (utf8 member.1).length < 256 ^ 2)
    (low : offset + (members.flatMap localMember).length < 256 ^ 4) :
    readEntries members.length (directory offset members ++ after) =
      .ok (infosFrom offset members) := by
  induction members generalizing offset with
  | nil => rfl
  | cons member rest ih =>
      obtain ⟨own, others⟩ := List.forall_mem_cons.mp named
      rw [List.flatMap_cons, List.length_append, ← Nat.add_assoc] at low
      have size := length_localMember member
      rw [List.length_cons, directory, List.append_assoc, readEntries_cons _ own, ih others low,
        ok_bind, infoAt_centralEntry _ (by omega) (by omega)]
      rfl

/-! ## Members -/

/-- A member is read behind its header. -/
theorem openStored_member {archive after : Bytes} {member : String × Bytes} {info : ZipInfo}
    (stands : archive.drop info.headerOffset.toNat = localMember member ++ after)
    (size : info.compressSize = member.2.length) (named : (utf8 member.1).length < 256 ^ 2) :
    openStored archive info = .ok member.2 := by
  have signed : (localMember member ++ after).take 4 = localSignature := rfl
  have length : number (localMember member ++ after) 26 2 = (utf8 member.1).length :=
    number_little (localSignature ++ stamp member.1 member.2 ++ little member.2.length 4 ++
      little member.2.length 4) rfl named
  have extra : number (localMember member ++ after) 28 2 = 0 := rfl
  have behind : (localMember member ++ after).drop 30 = utf8 member.1 ++ (member.2 ++ after) := by
    rw [← List.append_assoc]
    rfl
  rw [openStored, stands, if_pos signed, length, extra, Nat.add_zero, ← List.drop_drop, behind,
    List.drop_left, size, List.take_left]

theorem infosFrom_stand {archive : Bytes} {members : List (String × Bytes)} {offset : Nat}
    {after : Bytes} (stand : archive.drop offset = members.flatMap localMember ++ after) :
    List.Forall₂ (fun member info => Stored member info ∧ info.compressSize = member.2.length ∧
      ∃ after, archive.drop info.headerOffset.toNat = localMember member ++ after) members
        (infosFrom offset members) := by
  induction members generalizing offset with
  | nil => exact .nil
  | cons member rest ih =>
      rw [List.flatMap_cons, List.append_assoc] at stand
      refine .cons ⟨⟨rfl, ?_, rfl, rfl, ?_⟩, rfl, _, stand⟩ (ih ?_)
      · rcases nameFlags_eq member.1 with plain | marked <;> dsimp only <;> omega
      · exact fun some none => some (List.length_eq_zero_iff.mp none)
      · rw [← List.drop_drop, stand, List.drop_left]

theorem gives_stored : Gives storedReader fun stream data => stream = data where
  read := by
    rintro stream _ count rfl positive
    refine ⟨_, _, _, rfl, (List.take_append_drop count stream).symm, rfl, fun none => ?_⟩
    exact (List.take_eq_nil_iff.mp none).resolve_left positive.ne'

theorem length_packed (members : List (String × Bytes)) : (packed members).length =
    (members.flatMap localMember).length + (directory 0 members).length + endSize := by
  rw [packed, List.length_append, List.length_append, length_endRecord, Nat.add_assoc]

/-- A small archive is listed as it was written. -/
theorem listMembers_packed {members : List (String × Bytes)} (few : members.length < 256 ^ 2)
    (small : (packed members).length < 256 ^ 4)
    (named : ∀ member ∈ members, (utf8 member.1).length < 256 ^ 2) :
    listMembers (packed members) = .ok (infosFrom 0 members) := by
  have size := length_packed members
  obtain ⟨_, _, _, count, _, offset, _⟩ := @number_endRecord members.length
    (directory 0 members).length (members.flatMap localMember).length few (by omega) (by omega)
  have last : (packed members).drop ((packed members).length - endSize) =
      endRecord members.length (directory 0 members).length
        (members.flatMap localMember).length := by
    rw [size, Nat.add_sub_cancel, packed, ← List.append_assoc, ← List.length_append,
      List.drop_left]
  have listing : (packed members).drop (members.flatMap localMember).length =
      directory 0 members ++ endRecord members.length (directory 0 members).length
        (members.flatMap localMember).length := by
    rw [packed, List.drop_left]
  have signed : (endRecord members.length (directory 0 members).length
      (members.flatMap localMember).length).take 4 = endSignature := rfl
  rw [listMembers, last, if_pos signed, count, offset, listing]
  exact readEntries_directory _ named (by omega)

/-! ## Packing -/

theorem length_utf8_le (text : String) : (utf8 text).length ≤ 4 * text.length := by
  rw [← String.ofList_toList (s := text), utf8_ofList, String.length_ofList]
  induction text.toList with
  | nil => exact Nat.zero_le 0
  | cons character rest ih =>
      have own := character.utf8Size_le_four
      rw [← String.length_utf8EncodeChar] at own
      rw [List.flatMap_cons, List.length_append, List.length_cons]
      omega

theorem length_directory_le (members : List (String × Bytes)) (offset : Nat) :
    46 * members.length ≤ (directory offset members).length := by
  induction members generalizing offset with
  | nil => exact Nat.zero_le _
  | cons member rest ih =>
      have own := length_centralEntry offset member
      have others := ih (offset + (localMember member).length)
      rw [directory, List.length_append, List.length_cons]
      omega

theorem length_directory_bounded {members : List (String × Bytes)} {bound : Nat}
    (named : ∀ member ∈ members, (utf8 member.1).length ≤ bound) (offset : Nat) :
    (directory offset members).length ≤ members.length * (46 + bound) := by
  induction members generalizing offset with
  | nil => exact Nat.zero_le _
  | cons member rest ih =>
      obtain ⟨own, others⟩ := List.forall_mem_cons.mp named
      have later := ih others (offset + (localMember member).length)
      rw [directory, List.length_append, length_centralEntry, List.length_cons, Nat.succ_mul]
      omega

theorem length_localMembers_bounded {members : List (String × Bytes)} {bound size : Nat}
    (named : ∀ member ∈ members, (utf8 member.1).length ≤ bound)
    (short : ∀ member ∈ members, member.2.length ≤ size) :
    (members.flatMap localMember).length ≤ members.length * (30 + bound + size) := by
  rw [List.length_flatMap]
  have bounded := List.sum_le_card_nsmul (members.map fun member => (localMember member).length)
    (30 + bound + size) (by
      intro length inside
      obtain ⟨member, listed, rfl⟩ := List.mem_map.mp inside
      have bytes := named member listed
      have data := short member listed
      rw [length_localMember]
      omega)
  rwa [List.length_map, smul_eq_mul] at bounded

/-- The size that the end record gives for the directory. -/
theorem central_packed {members : List (String × Bytes)} (few : members.length < 256 ^ 2)
    (small : (packed members).length < 256 ^ 4) :
    number (packed members) ((packed members).length - endSize + 12) 4 =
      (directory 0 members).length := by
  have size := length_packed members
  obtain ⟨_, _, _, _, central, _⟩ := @number_endRecord members.length
    (directory 0 members).length (members.flatMap localMember).length few (by omega) (by omega)
  rw [size, Nat.add_sub_cancel, packed, ← List.append_assoc, ← List.length_append, number_append]
  exact central

/-- A small archive packs its members. -/
theorem packs_packed {members : List (String × Bytes)} (storable : Storable members)
    (small : (packed members).length < 46 * 256 ^ 2) :
    Packs storedReader (packed members) members := by
  have size := length_packed members
  have entries := length_directory_le members 0
  have named : ∀ member ∈ members, (utf8 member.1).length < 256 ^ 2 := by
    intro member listed
    have bytes := length_utf8_le member.1
    have characters := (storable member listed).2.2
    omega
  have stand : (packed members).drop 0 = members.flatMap localMember ++ _ := rfl
  refine ⟨⟨_, _, gives_stored, listMembers_packed (by omega) (by omega) named, ?_⟩,
    fun _ _ => ⟨_, _, rfl⟩⟩
  refine ((List.forall₂_and_left _ _).mpr ⟨named, infosFrom_stand stand⟩).imp ?_
  rintro member info ⟨own, stored, size, after, stands⟩
  exact ⟨stored, member.2, openStored_member stands size own, rfl⟩

/-- An archive of a few small members is small, and within the limits of the verifier. -/
theorem within_packed {members : List (String × Bytes)} (storable : Storable members)
    (few : members.length ≤ 4) (short : ∀ member ∈ members, member.2.length ≤ 100000) :
    (packed members).length < 46 * 256 ^ 2 ∧ Within .default storedReader (packed members) := by
  have named : ∀ member ∈ members, (utf8 member.1).length ≤ 8192 := by
    intro member listed
    have bytes := length_utf8_le member.1
    have characters := (storable member listed).2.2
    omega
  have front := length_localMembers_bounded named short
  have entries := length_directory_bounded named 0
  have size := length_packed members
  have small : (packed members).length < 46 * 256 ^ 2 := by
    rw [size, endSize]
    omega
  have listed : storedReader.infolist (packed members) = .ok (infosFrom 0 members) :=
    listMembers_packed (by omega) (by omega) fun member own =>
      (named member own).trans_lt (by decide)
  have pairs := @infosFrom_stand (packed members) members 0 _ rfl
  have sizes : ∀ info ∈ infosFrom 0 members,
      info.fileSize ≤ 100000 ∧ info.compressSize = info.fileSize := by
    intro info inside
    obtain ⟨member, own, stored, compressed, _⟩ := exists_left pairs inside
    rw [compressed, stored.size]
    exact ⟨short member own, rfl⟩
  refine ⟨small, ?_⟩
  constructor
  case size =>
    change _ ≤ 67108864
    omega
  case central =>
    rw [central_packed (by omega) (by omega)]
    change _ ≤ 2097152
    omega
  case count =>
    intro infos found
    rw [listed, Except.ok.injEq] at found
    subst found
    rw [← pairs.length_eq]
    exact few.trans (by decide)
  case members =>
    intro infos found info inside
    rw [listed, Except.ok.injEq] at found
    subst found
    obtain ⟨short, same⟩ := sizes info inside
    refine ⟨short.trans (by decide), fun _ => decide_eq_false ?_⟩
    omega
  case total =>
    intro infos found
    rw [listed, Except.ok.injEq] at found
    subst found
    have bounded := List.sum_le_card_nsmul ((infosFrom 0 members).map ZipInfo.fileSize) 100000
      (by
        intro length inside
        obtain ⟨info, own, rfl⟩ := List.mem_map.mp inside
        exact (sizes info own).1)
    rw [List.length_map, ← pairs.length_eq, smul_eq_mul] at bounded
    change _ ≤ 33554432
    omega

end CrossPatch.Export.StoredZip
