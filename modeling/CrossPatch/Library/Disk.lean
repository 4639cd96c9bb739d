import CrossPatch.Library.Table

/-!
# Files with several names

A disk holds files, numbered in the order of their creation, and directory entries that
name them.  A file may have several names; it has one link for each.
-/

namespace CrossPatch.Library

universe u v

structure File (Item : Type u) where
  content : List Item
  mode : Nat

structure Entry (Name : Type v) where
  name : Name
  inode : Nat

structure Disk (Name : Type v) (Item : Type u) where
  files : List (File Item)
  entries : Table (@Entry.name Name)

namespace Disk

variable {Name : Type v} {Item : Type u}

def empty : Disk Name Item := ⟨[], .empty⟩

def content (disk : Disk Name Item) (inode : Nat) : List Item :=
  match disk.files[inode]? with
  | some file => file.content
  | none => []

def mode (disk : Disk Name Item) (inode : Nat) : Nat :=
  match disk.files[inode]? with
  | some file => file.mode
  | none => 0

def links (disk : Disk Name Item) (inode : Nat) : Nat :=
  disk.entries.rows.countP fun entry => entry.inode == inode

def append (disk : Disk Name Item) (inode : Nat) (items : List Item) : Disk Name Item :=
  { disk with
    files := disk.files.modify inode fun file => { file with content := file.content ++ items } }

variable [DecidableEq Name]

def find (disk : Disk Name Item) (name : Name) : Option Nat :=
  (disk.entries.find name).map Entry.inode

/-- An empty file under a new name. -/
def create (disk : Disk Name Item) (name : Name) (mode : Nat) : Disk Name Item where
  files := disk.files ++ [⟨[], mode⟩]
  entries := disk.entries.put ⟨name, disk.files.length⟩

def link (disk : Disk Name Item) (inode : Nat) (name : Name) : Disk Name Item :=
  { disk with entries := disk.entries.put ⟨name, inode⟩ }

def unlink (disk : Disk Name Item) (name : Name) : Disk Name Item :=
  { disk with entries := disk.entries.remove name }

/-! ## Names after an operation -/

variable {disk : Disk Name Item}

theorem find_create (name : Name) (mode : Nat) (wanted : Name) :
    (disk.create name mode).find wanted =
      if wanted = name then some disk.files.length else disk.find wanted := by
  unfold find create
  rw [Table.find_put]
  split <;> rfl

theorem find_link (inode : Nat) (name wanted : Name) :
    (disk.link inode name).find wanted = if wanted = name then some inode else disk.find wanted := by
  unfold find link
  rw [Table.find_put]
  split <;> rfl

theorem find_unlink (name wanted : Name) :
    (disk.unlink name).find wanted = if wanted = name then none else disk.find wanted := by
  unfold find unlink
  rw [Table.find_remove]
  split <;> rfl

/-! ## Contents after an operation -/

section Contents

omit [DecidableEq Name]

theorem content_append_self {inode : Nat} (present : inode < disk.files.length)
    (items : List Item) : (disk.append inode items).content inode = disk.content inode ++ items := by
  unfold content append
  rw [List.getElem?_modify_eq]
  simp [present]

theorem content_append_ne {inode other : Nat} (differs : other ≠ inode) (items : List Item) :
    (disk.append inode items).content other = disk.content other := by
  unfold content append
  simp only [List.getElem?_modify, if_neg differs.symm, id_map']

@[simp]
theorem mode_append (inode other : Nat) (items : List Item) :
    (disk.append inode items).mode other = disk.mode other := by
  unfold mode append
  by_cases same : inode = other
  · subst same
    rw [List.getElem?_modify_eq]
    cases disk.files[inode]? <;> rfl
  · simp only [List.getElem?_modify, if_neg same, id_map']

@[simp]
theorem length_append (inode : Nat) (items : List Item) :
    (disk.append inode items).files.length = disk.files.length := List.length_modify _ _ _

end Contents

theorem content_create_ne {inode : Nat} (present : inode < disk.files.length) (name : Name)
    (mode : Nat) : (disk.create name mode).content inode = disk.content inode := by
  unfold content create
  rw [List.getElem?_append_left present]

theorem content_create_self (name : Name) (mode : Nat) :
    (disk.create name mode).content disk.files.length = [] := by
  unfold content create
  rw [List.getElem?_concat_length]

theorem mode_create_ne {inode : Nat} (present : inode < disk.files.length) (name : Name)
    (mode : Nat) : (disk.create name mode).mode inode = disk.mode inode := by
  unfold Disk.mode create
  rw [List.getElem?_append_left present]

theorem mode_create_self (name : Name) (mode : Nat) :
    (disk.create name mode).mode disk.files.length = mode := by
  unfold Disk.mode create
  rw [List.getElem?_concat_length]

theorem length_create (name : Name) (mode : Nat) :
    (disk.create name mode).files.length = disk.files.length + 1 := List.length_append

@[simp]
theorem content_link (inode other : Nat) (name : Name) :
    (disk.link inode name).content other = disk.content other := rfl

/-! ## Links -/

theorem mem_entries_iff {entry : Entry Name} :
    entry ∈ disk.entries.rows ↔ disk.find entry.name = some entry.inode := by
  constructor
  · intro member
    rw [find, Table.find_of_mem member, Option.map_some]
  · intro found
    obtain ⟨row, present, inode⟩ := Option.map_eq_some_iff.mp found
    have name : row.name = entry.name := Table.key_of_find present
    have same : row = entry := by
      cases row
      cases entry
      simp_all
    exact same ▸ Table.mem_of_find present

/-- A file has one link exactly when no other name stands for it. -/
theorem links_eq_one_iff {name : Name} {inode : Nat} (found : disk.find name = some inode) :
    disk.links inode = 1 ↔ ∀ other, disk.find other = some inode → other = name := by
  have member : (⟨name, inode⟩ : Entry Name) ∈
      disk.entries.rows.filter fun entry => entry.inode == inode := by
    rw [List.mem_filter]
    exact ⟨mem_entries_iff.mpr found, by simp⟩
  rw [links, List.countP_eq_length_filter]
  constructor
  · intro single other named
    have listed : (⟨other, inode⟩ : Entry Name) ∈
        disk.entries.rows.filter fun entry => entry.inode == inode := by
      rw [List.mem_filter]
      exact ⟨mem_entries_iff.mpr named, by simp⟩
    obtain ⟨only, whole⟩ := List.length_eq_one_iff.mp single
    rw [whole, List.mem_singleton] at member listed
    exact congrArg Entry.name (listed.trans member.symm)
  · intro alone
    have distinct : (disk.entries.rows.filter fun entry => entry.inode == inode).Nodup :=
      (List.Nodup.of_map _ disk.entries.unique).filter _
    have equal : ∀ entry ∈ disk.entries.rows.filter fun entry => entry.inode == inode,
        entry = ⟨name, inode⟩ := by
      intro entry listed
      rw [List.mem_filter, beq_iff_eq] at listed
      obtain ⟨present, same⟩ := listed
      rw [mem_entries_iff, same] at present
      cases entry
      simp_all
    rw [List.eq_replicate_of_mem equal, List.nodup_replicate] at distinct
    have positive := List.length_pos_of_mem member
    omega

end Disk

end CrossPatch.Library
