import Mathlib

/-!
# Partial pairings

Two partial functions pair values of two types when each is the inverse of the other.
Pairing free values and separating paired ones keeps the functions inverse.  Lists that are
paired element by element have partners for all their elements.
-/

namespace CrossPatch.Library.Pairing

universe u v

variable {α : Type u} {β : Type v} {forth : α → Option β} {back : β → Option α}

def Paired (forth : α → Option β) (back : β → Option α) : Prop :=
  ∀ left right, forth left = some right ↔ back right = some left

theorem Paired.empty : Paired (fun _ : α => none) (fun _ : β => none) := by
  intro left right
  simp

section Updates

variable [DecidableEq α] [DecidableEq β]

theorem Paired.link (paired : Paired forth back) {left : α} {right : β}
    (free : forth left = none) (free' : back right = none) :
    Paired (Function.update forth left (some right)) (Function.update back right (some left)) := by
  intro other other'
  rw [Function.update_apply, Function.update_apply]
  have there := paired other other'
  by_cases same : other = left
  · subst same
    by_cases same' : other' = right
    · simp [same']
    · rw [if_pos rfl, if_neg same', ← there, free]
      simp [Ne.symm same']
  · by_cases same' : other' = right
    · subst same'
      rw [if_neg same, if_pos rfl, there, free']
      simp [Ne.symm same]
    · rw [if_neg same, if_neg same']
      exact there

/-- Pairing values that are paired with each other changes nothing. -/
theorem Paired.relink (paired : Paired forth back) {left : α} {right : β}
    (linked : forth left = some right) :
    Paired (Function.update forth left (some right)) (Function.update back right (some left)) := by
  rw [Function.update_eq_self_iff.mpr linked.symm,
    Function.update_eq_self_iff.mpr ((paired left right).mp linked).symm]
  exact paired

theorem Paired.unlink (paired : Paired forth back) {left : α} {right : β}
    (linked : forth left = some right) :
    Paired (Function.update forth left none) (Function.update back right none) := by
  have linked' := (paired left right).mp linked
  intro other other'
  rw [Function.update_apply, Function.update_apply]
  have there := paired other other'
  by_cases same : other = left
  · subst same
    rw [if_pos rfl]
    by_cases same' : other' = right
    · simp [same']
    · rw [if_neg same', ← there, linked]
      simp [Ne.symm same']
  · rw [if_neg same]
    by_cases same' : other' = right
    · subst same'
      rw [if_pos rfl, there, linked']
      simp [Ne.symm same]
    · rw [if_neg same']
      exact there

end Updates

/-! ## Lists in pairs -/

theorem exists_right {related : α → β → Prop} {left : List α} {right : List β}
    (pairs : List.Forall₂ related left right) {one : α} (member : one ∈ left) :
    ∃ other ∈ right, related one other := by
  induction pairs with
  | nil => cases member
  | cons first _ ih =>
      rcases List.mem_cons.mp member with rfl | later
      · exact ⟨_, List.mem_cons_self, first⟩
      · obtain ⟨other, inside, holds⟩ := ih later
        exact ⟨other, List.mem_cons_of_mem _ inside, holds⟩

theorem exists_left {related : α → β → Prop} {left : List α} {right : List β}
    (pairs : List.Forall₂ related left right) {other : β} (member : other ∈ right) :
    ∃ one ∈ left, related one other :=
  exists_right pairs.flip member

theorem exists_at {related : α → β → Prop} {left : List α} {right : List β}
    (pairs : List.Forall₂ related left right) {index : Nat} {one : α}
    (place : left[index]? = some one) : ∃ other, right[index]? = some other ∧ related one other := by
  induction pairs generalizing index with
  | nil => cases place
  | cons first _ ih =>
      cases index with
      | zero =>
          cases place
          exact ⟨_, rfl, first⟩
      | succ index => exact ih place

end CrossPatch.Library.Pairing
