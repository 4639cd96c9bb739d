import Mathlib

/-!
# Reading on from a cursor

A list sorted by distinct keys is read in pages.  The cursor is the key of the last
item that was taken, or where the reader started.  What lies behind the cursor is
then what has not been taken, also after the list has grown at its end.
-/

namespace CrossPatch.Library.Cursors

universe u v

section Positions

variable {Item : Type u} {Key : Type v} (key : Item → Key)

/-- Where a reader stands that started at a key and took some items. -/
def position (start : Key) (taken : List Item) : Key :=
  (taken.getLast?.map key).getD start

variable {key} {taken : List Item} {start : Key}

@[simp]
theorem position_concat (item : Item) : position key start (taken ++ [item]) = key item := by
  simp [position]

end Positions

variable {Item : Type u} {Key : Type v} [LinearOrder Key] (key : Item → Key)

/-- The items behind a key. -/
def behind (items : List Item) (cursor : Key) : List Item :=
  items.filter fun item => decide (cursor < key item)

def Sorted (items : List Item) : Prop :=
  items.Pairwise fun left right => key left < key right

variable {key} {items taken rest fresh : List Item} {start cursor : Key}

theorem mem_behind {item : Item} :
    item ∈ behind key items cursor ↔ item ∈ items ∧ cursor < key item := by
  simp [behind]

theorem Sorted.behind (sorted : Sorted key items) (cursor : Key) :
    Sorted key (behind key items cursor) :=
  List.Pairwise.filter _ sorted

/-- Growth at the end shows at the end. -/
theorem behind_append : behind key (items ++ fresh) cursor =
    behind key items cursor ++ behind key fresh cursor :=
  List.filter_append ..

theorem start_le_position (split : behind key items start = taken ++ rest) :
    start ≤ position key start taken := by
  cases taken using List.reverseRecOn with
  | nil => exact le_rfl
  | append_singleton earlier last =>
      rw [position_concat]
      have member : last ∈ behind key items start := by simp [split]
      exact (mem_behind.mp member).2.le

/-- Behind the position of a reader lies what it has not taken. -/
theorem behind_position (sorted : Sorted key items)
    (split : behind key items start = taken ++ rest) :
    behind key items (position key start taken) = rest := by
  have order := sorted.behind start
  rw [split] at order
  obtain ⟨inTaken, inRest, across⟩ := List.pairwise_append.mp order
  have passed : ∀ item ∈ taken, ¬ position key start taken < key item := by
    cases taken using List.reverseRecOn with
    | nil => exact fun _ member => absurd member List.not_mem_nil
    | append_singleton earlier last =>
        intro item member
        rw [position_concat, not_lt]
        rcases List.mem_append.mp member with before | isLast
        · exact ((List.pairwise_append.mp inTaken).2.2 item before last
            (List.mem_singleton_self last)).le
        · rw [List.mem_singleton.mp isLast]
  have ahead : ∀ item ∈ rest, position key start taken < key item := by
    intro item member
    cases taken using List.reverseRecOn with
    | nil =>
        have listed : item ∈ behind key items start := by simp [split, member]
        exact (mem_behind.mp listed).2
    | append_singleton earlier last =>
        rw [position_concat]
        exact across last (by simp) item member
  have narrowed : behind key items (position key start taken) =
      behind key (behind key items start) (position key start taken) := by
    unfold behind
    rw [List.filter_filter]
    refine List.filter_congr fun item _ => ?_
    have bound := start_le_position split
    rw [Bool.eq_iff_iff]
    simp only [Bool.and_eq_true, decide_eq_true_eq]
    exact ⟨fun less => ⟨less, bound.trans_lt less⟩, fun both => both.1⟩
  rw [narrowed, split, behind_append]
  have none : behind key taken (position key start taken) = [] := by
    refine List.filter_eq_nil_iff.mpr fun item member => ?_
    rw [decide_eq_true_eq]
    exact passed item member
  have all : behind key rest (position key start taken) = rest := by
    refine List.filter_eq_self.mpr fun item member => ?_
    rw [decide_eq_true_eq]
    exact ahead item member
  rw [none, all, List.nil_append]

end CrossPatch.Library.Cursors
