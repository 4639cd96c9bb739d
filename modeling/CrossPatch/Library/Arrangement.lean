import Mathlib

/-!
# Lists arranged by a key

A list is sorted by a key and its elements are then read through a coarser form.  Two
lists read the same when their elements pair off without crossing.
-/

namespace CrossPatch.Library.Arrangement

universe u v w

variable {α : Type u} {κ : Type v} {φ : Type w} [LE κ]

section Sorting

variable [DecidableLE κ]

def arrange (key : α → κ) (values : List α) : List α :=
  values.insertionSort fun left right => key left ≤ key right

theorem arrange_perm (key : α → κ) (values : List α) : (arrange key values).Perm values :=
  List.perm_insertionSort _ values

/-- Values that are computed from the elements are sorted along with them. -/
theorem arrange_map {β : Type*} (key : β → κ) (shown : α → β) (values : List α) :
    arrange key (values.map shown) = (arrange (fun value => key (shown value)) values).map shown :=
  (List.map_insertionSort _ _ shown values fun _ _ _ _ => Iff.rfl).symm

end Sorting

/-- The elements pair off: paired elements have one form, and no two pairs cross. -/
structure PairsOff (key : α → κ) (form : α → φ) (left right : List α) (pairs : List (α × α)) :
    Prop where
  firsts : (pairs.map Prod.fst).Perm left
  seconds : (pairs.map Prod.snd).Perm right
  same : ∀ pair ∈ pairs, form pair.1 = form pair.2
  uncrossed : ∀ one ∈ pairs, ∀ two ∈ pairs, key two.1 ≤ key one.1 ∨ key one.2 ≤ key two.2

variable {key : α → κ} {form : α → φ} {left right : List α} {pairs : List (α × α)}

/-- Elements that pair off have the same forms, each as often. -/
theorem PairsOff.forms_perm (pairsOff : PairsOff key form left right pairs) :
    (left.map form).Perm (right.map form) := by
  have forms : (pairs.map Prod.fst).map form = (pairs.map Prod.snd).map form := by
    rw [List.map_map, List.map_map]
    exact List.map_congr_left pairsOff.same
  have firsts := pairsOff.firsts.map form
  rw [forms] at firsts
  exact firsts.symm.trans (pairsOff.seconds.map form)

omit [LE κ] in
theorem forms_of_keys (determined : ∀ one two, key one = key two → form one = form two)
    {one two : List α} (keys : one.map key = two.map key) : one.map form = two.map form := by
  have pairs : List.Forall₂ (fun first second => key first = key second) one two := by
    rw [← List.forall₂_eq_eq_eq, List.forall₂_map_left_iff, List.forall₂_map_right_iff] at keys
    exact keys
  rw [← List.forall₂_eq_eq_eq, List.forall₂_map_left_iff, List.forall₂_map_right_iff]
  exact pairs.imp determined

/-- Pairs are sorted by the first key, and by the second where the first decides nothing. -/
def Before (key : α → κ) (one two : α × α) : Prop :=
  key one.1 ≤ key two.1 ∧ (key two.1 ≤ key one.1 → key one.2 ≤ key two.2)

variable [Std.IsLinearOrder κ]

/-- Two sorted lists of the same elements have the same keys, place by place. -/
theorem keys_of_perm {one two : List α} (perm : one.Perm two)
    (sorted : one.Pairwise fun left right => key left ≤ key right)
    (sorted' : two.Pairwise fun left right => key left ≤ key right) :
    one.map key = two.map key := by
  refine List.Perm.eq_of_pairwise (fun _ _ _ _ => Std.le_antisymm) ?_ ?_ (perm.map key)
  · exact List.pairwise_map.mpr sorted
  · exact List.pairwise_map.mpr sorted'

theorem before_total (one two : α × α) : Before key one two ∨ Before key two one := by
  by_cases first : key one.1 ≤ key two.1
  · by_cases second : key two.1 ≤ key one.1
    · rcases Std.le_total (a := key one.2) (b := key two.2) with below | above
      · exact .inl ⟨first, fun _ => below⟩
      · exact .inr ⟨second, fun _ => above⟩
    · exact .inl ⟨first, fun back => absurd back second⟩
  · have second : key two.1 ≤ key one.1 :=
      (Std.le_total (a := key one.1) (b := key two.1)).resolve_left first
    exact .inr ⟨second, fun back => absurd back first⟩

theorem before_trans {one two three : α × α} (first : Before key one two)
    (second : Before key two three) : Before key one three := by
  refine ⟨Std.le_trans first.1 second.1, fun back => ?_⟩
  exact Std.le_trans (first.2 (Std.le_trans second.1 back)) (second.2 (Std.le_trans back first.1))

variable [DecidableLE κ]

instance (key : α → κ) : DecidableRel (Before key) := fun one two =>
  inferInstanceAs (Decidable (key one.1 ≤ key two.1 ∧
    (key two.1 ≤ key one.1 → key one.2 ≤ key two.2)))

theorem arrange_sorted (key : α → κ) (values : List α) :
    (arrange key values).Pairwise fun left right => key left ≤ key right := by
  have total : Std.Total fun left right : α => key left ≤ key right :=
    ⟨fun left right => Std.le_total⟩
  have trans : IsTrans α fun left right => key left ≤ key right :=
    ⟨fun _ _ _ => Std.le_trans⟩
  exact List.pairwise_insertionSort _ values

/-- Pairs can be put in an order that sorts both sides. -/
theorem PairsOff.arranged (pairsOff : PairsOff key form left right pairs) :
    ∃ rows : List (α × α), rows.Perm pairs ∧
      (rows.map Prod.fst).Pairwise (fun one two => key one ≤ key two) ∧
      (rows.map Prod.snd).Pairwise fun one two => key one ≤ key two := by
  have total : Std.Total (Before key) := ⟨before_total⟩
  have trans : IsTrans (α × α) (Before key) := ⟨fun _ _ _ => before_trans⟩
  have perm := List.perm_insertionSort (Before key) pairs
  have sorted := List.pairwise_insertionSort (Before key) pairs
  refine ⟨pairs.insertionSort (Before key), perm, ?_, ?_⟩
  · exact List.pairwise_map.mpr (sorted.imp fun before => before.1)
  · refine List.pairwise_map.mpr (sorted.imp_of_mem fun {one two} memOne memTwo before => ?_)
    rcases pairsOff.uncrossed one (perm.mem_iff.mp memOne) two (perm.mem_iff.mp memTwo) with
      level | below
    · exact before.2 level
    · exact below

/-- Lists that are arranged by their keys read the same if and only if they pair off. -/
theorem arrange_forms_eq_iff (determined : ∀ one two, key one = key two → form one = form two) :
    (arrange key left).map form = (arrange key right).map form ↔
      ∃ pairs, PairsOff key form left right pairs := by
  constructor
  · intro forms
    have lengths : (arrange key left).length = (arrange key right).length := by
      simpa using congrArg List.length forms
    have same : List.Forall₂ (fun one two => form one = form two) (arrange key left)
        (arrange key right) := by
      rw [← List.forall₂_eq_eq_eq, List.forall₂_map_left_iff, List.forall₂_map_right_iff] at forms
      exact forms
    refine ⟨(arrange key left).zip (arrange key right), ?_, ?_, ?_, ?_⟩
    · rw [List.map_fst_zip lengths.le]
      exact arrange_perm key left
    · rw [List.map_snd_zip lengths.ge]
      exact arrange_perm key right
    · rintro ⟨first, second⟩ member
      exact (List.forall₂_iff_zip.mp same).2 member
    · intro one memOne two memTwo
      obtain ⟨place, bound, rfl⟩ := List.mem_iff_getElem.mp memOne
      obtain ⟨other, bound', rfl⟩ := List.mem_iff_getElem.mp memTwo
      rw [List.length_zip] at bound bound'
      simp only [List.getElem_zip]
      -- The pair that comes first does so on both sides.
      rcases Nat.lt_trichotomy place other with earlier | rfl | later
      · exact .inr (List.pairwise_iff_getElem.mp (arrange_sorted key right) place other _ _ earlier)
      · exact .inr (Std.le_refl _)
      · exact .inl (List.pairwise_iff_getElem.mp (arrange_sorted key left) other place _ _ later)
  · rintro ⟨pairs, pairsOff⟩
    obtain ⟨rows, perm, sortedFirst, sortedSecond⟩ := pairsOff.arranged
    have firsts := keys_of_perm (((perm.map Prod.fst).trans pairsOff.firsts).trans
      (arrange_perm key left).symm) sortedFirst (arrange_sorted key left)
    have seconds := keys_of_perm (((perm.map Prod.snd).trans pairsOff.seconds).trans
      (arrange_perm key right).symm) sortedSecond (arrange_sorted key right)
    have rowForms : (rows.map Prod.fst).map form = (rows.map Prod.snd).map form := by
      rw [List.map_map, List.map_map]
      exact List.map_congr_left fun row member => pairsOff.same row (perm.mem_iff.mp member)
    calc (arrange key left).map form = (rows.map Prod.fst).map form :=
          (forms_of_keys determined firsts).symm
      _ = (rows.map Prod.snd).map form := rowForms
      _ = (arrange key right).map form := forms_of_keys determined seconds

end CrossPatch.Library.Arrangement
