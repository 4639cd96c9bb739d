import CrossPatch.Export.Verifier

/-!
# The layout of archives

What a packed archive gives back: the directory lists the members as they were given, each is
read back piece by piece, and the record of the end of the directory stands last.
-/

namespace CrossPatch.Export.Layout

open CrossPatch.Broker.Paths CrossPatch.Domain.Failure
open CrossPatch.Export.Builder CrossPatch.Export.Verifier
open CrossPatch.Library CrossPatch.Library.Attempt CrossPatch.Library.Octets

/-! ## The end record -/

/-- So many bytes of a number, the lowest first. -/
def little (value : Nat) : Nat → Bytes
  | 0 => []
  | count + 1 => UInt8.ofNat (value % 256) :: little (value / 256) count

/-- The end record of an archive on one disk, without a comment. -/
def endRecord (entries centralSize centralOffset : Nat) : Bytes :=
  endSignature ++ (little 0 4 ++ (little entries 2 ++ (little entries 2 ++
    (little centralSize 4 ++ (little centralOffset 4 ++ little 0 2)))))

theorem length_little (value count : Nat) : (little value count).length = count := by
  induction count generalizing value with
  | zero => rfl
  | succ count ih => rw [little, List.length_cons, ih]

theorem length_endRecord (entries centralSize centralOffset : Nat) :
    (endRecord entries centralSize centralOffset).length = endSize := rfl

theorem fold_little {value count : Nat} (fits : value < 256 ^ count) :
    (little value count).foldr (fun byte rest => byte.toNat + 256 * rest) 0 = value := by
  induction count generalizing value with
  | zero =>
      rw [pow_zero, Nat.lt_one_iff] at fits
      rw [fits]
      rfl
  | succ count ih =>
      rw [pow_succ'] at fits
      have low : (UInt8.ofNat (value % 256)).toNat = value % 256 := by
        rw [UInt8.toNat_ofNat']
        omega
      rw [little, List.foldr_cons, ih (Nat.div_lt_of_lt_mul fits), low]
      omega

/-- A number that stands in the record is read where it stands. -/
theorem number_little (before : Bytes) {after : Bytes} {value count offset : Nat}
    (place : before.length = offset) (fits : value < 256 ^ count) :
    number (before ++ (little value count ++ after)) offset count = value := by
  rw [number, ← place, List.drop_left, List.take_left' (length_little value count),
    fold_little fits]

theorem number_append (before rest : Bytes) (offset count : Nat) :
    number (before ++ rest) (before.length + offset) count = number rest offset count := by
  rw [number, number, ← List.drop_drop, List.drop_left]

/-- The fields of the record. -/
theorem number_endRecord {entries centralSize centralOffset : Nat} (few : entries < 256 ^ 2)
    (short : centralSize < 256 ^ 4) (low : centralOffset < 256 ^ 4) :
    let record := endRecord entries centralSize centralOffset
    number record 4 2 = 0 ∧ number record 6 2 = 0 ∧ number record 8 2 = entries ∧
      number record 10 2 = entries ∧ number record 12 4 = centralSize ∧
      number record 16 4 = centralOffset ∧ number record 20 2 = 0 := by
  refine ⟨rfl, rfl, ?_, ?_, ?_, ?_, rfl⟩
  · exact number_little (endSignature ++ little 0 4) rfl few
  · exact number_little (endSignature ++ little 0 4 ++ little entries 2) rfl few
  · exact number_little (endSignature ++ little 0 4 ++ little entries 2 ++
      little entries 2) rfl short
  · exact number_little (endSignature ++ little 0 4 ++ little entries 2 ++
      little entries 2 ++ little centralSize 4) rfl low

theorem rfind_eq {part bytes : Bytes} {start place : Nat} (first : start ≤ place)
    (inside : place ≤ bytes.length) (stands : part <+: bytes.drop place)
    (last : ∀ later, place < later → later ≤ bytes.length → ¬ part <+: bytes.drop later) :
    rfind part bytes start = some place := by
  have split : List.range (bytes.length + 1) =
      List.range place ++ ([place] ++ List.range' (place + 1) (bytes.length - place)) := by
    have whole := @List.range'_append_1 0 place (bytes.length - place + 1)
    rw [Nat.zero_add, List.range'_succ] at whole
    rw [List.range_eq_range', List.range_eq_range', List.singleton_append, whole]
    congr 1
    omega
  have none : (List.range' (place + 1) (bytes.length - place)).filter (fun later =>
      decide (start ≤ later) && part.isPrefixOf (bytes.drop later)) = [] := by
    rw [List.filter_eq_nil_iff]
    intro later member
    rw [List.mem_range'_1] at member
    rw [Bool.and_eq_true, List.isPrefixOf_iff_prefix]
    rintro ⟨_, found⟩
    exact last later (by omega) (by omega) found
  have here : [place].filter (fun place =>
      decide (start ≤ place) && part.isPrefixOf (bytes.drop place)) = [place] := by
    rw [List.filter_eq_self]
    intro other member
    rw [List.mem_singleton.mp member, Bool.and_eq_true, List.isPrefixOf_iff_prefix]
    exact ⟨decide_eq_true first, stands⟩
  rw [rfind, split, List.filter_append, List.filter_append, here, none, List.append_nil,
    List.getLast?_concat]

/-- Within the record of a small archive, the signature does not stand a second time. -/
theorem signature_once {entries centralSize centralOffset later : Nat} (few : entries < 512)
    (short : centralSize < 2 ^ 24) (low : centralOffset < 5 * 2 ^ 24) (within : 0 < later) :
    ¬ endSignature <+: (endRecord entries centralSize centralOffset).drop later := by
  have second : entries / 256 % 256 ≤ 1 := by omega
  have top : centralSize / 256 / 256 / 256 % 256 = 0 := by omega
  have above : centralOffset / 256 / 256 / 256 % 256 ≤ 4 := by omega
  intro found
  obtain short | long := Nat.lt_or_ge later 19
  · interval_cases later <;>
      simp [endRecord, endSignature, little, List.cons_prefix_cons, ← UInt8.toNat_inj] at found <;>
      omega
  · have length := found.length_le
    rw [List.length_drop, length_endRecord] at length
    change 4 ≤ 22 - later at length
    omega

/-! ## Packing -/

/-- The entry of a member. -/
structure Stored (member : String × Bytes) (info : ZipInfo) : Prop where
  filename : info.filename = member.1
  unencrypted : info.flagBits % 2 = 0
  mode : info.externalAttr = 0o100600 * 65536
  size : info.fileSize = member.2.length
  compressed : member.2 ≠ [] → info.compressSize ≠ 0

/-- The format keeps these names. -/
def Storable (members : List (String × Bytes)) : Prop :=
  ∀ member ∈ members, member.1 ≠ "" ∧ '\x00' ∉ member.1.toList ∧ member.1.length ≤ 2048

/-- What is left of a member is given piece by piece, until nothing is left. -/
structure Gives (zip : ZipReader) (holds : zip.Stream → Bytes → Prop) : Prop where
  read : ∀ stream data count, holds stream data → 0 < count → ∃ piece rest next,
    zip.read stream count = .ok (piece, next) ∧ data = piece ++ rest ∧ holds next rest ∧
      (piece = [] → data = [])

/-- The members are listed and read back from the archive, which ends with the old record
as long as it is below the limits of the old format. -/
structure Packs (zip : ZipReader) (archive : Bytes) (members : List (String × Bytes)) : Prop where
  listed : ∃ holds infos, Gives zip holds ∧ zip.infolist archive = .ok infos ∧
    List.Forall₂ (fun member info => Stored member info ∧ ∃ stream,
      zip.openMember archive info = .ok stream ∧ holds stream member.2) members infos
  ended : members.length < 65535 → archive.length < 2 ^ 31 - 1 → ∃ front central, archive =
    front ++ (central ++ endRecord members.length central.length front.length)

variable {zip : ZipReader} {holds : zip.Stream → Bytes → Prop}

theorem readChunk_positive (left : Nat) : 0 < min readChunk (left + 1) :=
  lt_min (by decide) (Nat.succ_pos left)

theorem readLoop_of_holds (gives : Gives zip holds) {info : ZipInfo} {maximum : Nat}
    (read data : Bytes) (stream : zip.Stream) (full : holds stream data)
    (size : info.fileSize = read.length + data.length)
    (fits : read.length + data.length ≤ maximum) :
    readLoop zip info maximum read stream = .ok (read ++ data) := by
  fun_induction readLoop zip info maximum read stream generalizing data with
  | case1 read stream error raised =>
      obtain ⟨piece, rest, next, given, _⟩ := gives.read _ _ _ full (readChunk_positive _)
      rw [raised] at given
      cases given
  | case2 read stream next ended =>
      obtain ⟨piece, rest, after, given, _, _, last⟩ :=
        gives.read _ _ _ full (readChunk_positive _)
      rw [ended] at given
      cases given
      rw [last rfl, List.append_nil]
  | case3 read stream byte others next given tooLarge =>
      obtain ⟨piece, rest, after, again, split, _⟩ :=
        gives.read _ _ _ full (readChunk_positive _)
      rw [given] at again
      cases again
      rw [split, List.length_append, List.length_cons] at size fits
      omega
  | case4 read stream byte others next given fitting ih =>
      obtain ⟨piece, rest, after, again, split, later, _⟩ :=
        gives.read _ _ _ full (readChunk_positive _)
      rw [given] at again
      cases again
      rw [split, List.length_append] at size fits
      rw [ih rest later (by rw [List.length_append]; omega) (by rw [List.length_append]; omega),
        split, List.append_assoc]

/-- A member that was packed is read back as a whole. -/
theorem readBounded_of_holds (gives : Gives zip holds) {archive data : Bytes} {info : ZipInfo}
    {stream : zip.Stream} {maximum : Nat} (opened : zip.openMember archive info = .ok stream)
    (full : holds stream data) (size : info.fileSize = data.length)
    (fits : data.length ≤ maximum) : readBounded zip archive info maximum = .ok data := by
  have whole : readLoop zip info maximum [] stream = .ok ([] ++ data) := by
    apply readLoop_of_holds gives [] data stream full
    · rw [List.length_nil, Nat.zero_add, size]
    · rw [List.length_nil, Nat.zero_add]
      exact fits
  rw [readBounded, opened, ok_bind, whole]
  exact if_pos size.symm

/-! ## Limits -/

/-- The archive stays within the limits. -/
structure Within (limits : VerificationLimits) (zip : ZipReader) (archive : Bytes) : Prop where
  size : archive.length ≤ limits.maxArchiveBytes
  central : number archive (archive.length - endSize + 12) 4 ≤ limits.maxCentralDirectoryBytes
  count : ∀ infos, zip.infolist archive = .ok infos → infos.length ≤ limits.maxMembers
  members : ∀ infos, zip.infolist archive = .ok infos → ∀ info ∈ infos,
    info.fileSize ≤ limits.maxMemberBytes ∧
      (info.fileSize ≠ 0 → limits.exceeds info.fileSize info.compressSize = false)
  total : ∀ infos, zip.infolist archive = .ok infos →
    (infos.map ZipInfo.fileSize).sum ≤ limits.maxTotalBytes

/-- The record of an archive within the limits is found where it was written. -/
theorem validateCentralDirectoryBounds_of_packs {archive : Bytes}
    {members : List (String × Bytes)} (packs : Packs zip archive members)
    (two : 2 ≤ members.length) (within : Within .default zip archive) :
    validateCentralDirectoryBounds .default archive = .ok () := by
  obtain ⟨_, infos, _, listed, pairs⟩ := packs.listed
  have count : members.length ≤ 256 := pairs.length_eq ▸ within.count _ listed
  have size : archive.length ≤ 64 * 1024 * 1024 := within.size
  have central := within.central
  obtain ⟨front, directory, written⟩ := packs.ended (by omega) (by omega)
  obtain ⟨low, short⟩ : front.length < 5 * 2 ^ 24 ∧ directory.length < 5 * 2 ^ 24 := by
    rw [written, List.length_append, List.length_append] at size
    omega
  have same : archive = (front ++ directory) ++
      endRecord members.length directory.length front.length := by
    rw [written, List.append_assoc]
  rw [same] at central ⊢
  have fields := number_endRecord (show members.length < 256 ^ 2 by omega)
    (show directory.length < 256 ^ 4 by omega) (show front.length < 256 ^ 4 by omega)
  obtain ⟨disk, directoryDisk, own, entries, directorySize, offset, comment⟩ := fields
  have whole : ((front ++ directory) ++ endRecord members.length directory.length
      front.length).length = (front ++ directory).length + endSize := by
    rw [List.length_append, length_endRecord]
  rw [whole, Nat.add_sub_cancel, number_append, directorySize] at central
  have found : rfind endSignature ((front ++ directory) ++ endRecord members.length
      directory.length front.length) ((front ++ directory).length + endSize - (endSize + 65535)) =
      some (front ++ directory).length := by
    apply rfind_eq
    · exact Nat.sub_le_of_le_add (Nat.add_le_add_left (Nat.le_add_right _ _) _)
    · rw [whole]
      exact Nat.le_add_right _ _
    · rw [List.drop_left]
      exact List.prefix_append _ _
    · intro later after inside
      obtain ⟨past, rfl⟩ := Nat.exists_eq_add_of_lt after
      rw [Nat.add_assoc, ← List.drop_drop, List.drop_left]
      exact signature_once (by omega) (by change _ ≤ 2 * 1024 * 1024 at central; omega) low
        (Nat.succ_pos past)
  unfold validateCentralDirectoryBounds
  rw [whole, found]
  dsimp only
  rw [number_append, number_append, number_append, number_append, number_append, number_append,
    number_append, disk, directoryDisk, own, entries, directorySize, offset, comment]
  rw [require_true (by omega), ok_bind, require_true (by omega), ok_bind, require_true ⟨rfl, rfl, rfl⟩,
    ok_bind, require_true (by omega), ok_bind, require_true ⟨two, by exact count⟩, ok_bind,
    require_true central, ok_bind, require_true (by rw [List.length_append])]

end CrossPatch.Export.Layout
