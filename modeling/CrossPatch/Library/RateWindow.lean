import Mathlib

/-!
# Rate windows that restart on use

A window counts what it admits from its start on.  Once its width has passed, the next
admission starts a new window; until then it admits no more than its limit.  So every
window admits at most the limit, and every interval of one width at most twice that.
-/

namespace CrossPatch.Library.RateWindow

structure Limit where
  width : Int
  most : Nat
  wide : 0 < width
  some : 1 ≤ most

structure Window where
  start : Int
  count : Nat

/-- An admission, with the start of the window that counts it. -/
structure Grant where
  window : Int
  time : Int

inductive Admits (limit : Limit) : Window → Grant → Window → Prop where
  | restart {window : Window} {time : Int} (passed : window.start + limit.width ≤ time) :
      Admits limit window ⟨time, time⟩ ⟨time, 1⟩
  | within {window : Window} {time : Int} (runs : time < window.start + limit.width)
      (room : window.count < limit.most) :
      Admits limit window ⟨window.start, time⟩ ⟨window.start, window.count + 1⟩

/-- The grants of a window that was opened empty. -/
inductive Granted (limit : Limit) (opened : Int) : Window → List Grant → Prop where
  | opened : Granted limit opened ⟨opened, 0⟩ []
  | granted {window window' : Window} {grants : List Grant} {grant : Grant}
      (earlier : Granted limit opened window grants) (admits : Admits limit window grant window') :
      Granted limit opened window' (grants ++ [grant])

def inWindow (start : Int) (grant : Grant) : Bool := grant.window == start

/-- The grants from `time` on for the length of one window, both ends included. -/
def inInterval (limit : Limit) (time : Int) (grant : Grant) : Bool :=
  decide (time ≤ grant.time) && decide (grant.time ≤ time + limit.width)

def Ordered (grants : List Grant) : Prop := grants.Pairwise fun first second => first.time ≤ second.time

variable {limit : Limit} {opened : Int} {window : Window} {grants : List Grant}

/-- Windows follow each other at a distance of at least one width, and the current one is
the last. -/
structure Spaced (limit : Limit) (opened : Int) (window : Window) (grants : List Grant) : Prop where
  late : opened ≤ window.start
  earlier : ∀ grant ∈ grants, opened ≤ grant.window ∧
    (grant.window = window.start ∨ grant.window + limit.width ≤ window.start)
  ended : ∀ grant ∈ grants, grant.time < grant.window + limit.width
  apart : ∀ first ∈ grants, ∀ second ∈ grants, first.window = second.window ∨
    first.window + limit.width ≤ second.window ∨ second.window + limit.width ≤ first.window
  current : grants.countP (inWindow window.start) = window.count
  counted : window.count ≤ limit.most
  bounded : ∀ start, grants.countP (inWindow start) ≤ limit.most

theorem Spaced.fresh {start : Int} (spaced : Spaced limit opened window grants)
    (passed : window.start + limit.width ≤ start) : grants.countP (inWindow start) = 0 := by
  rw [List.countP_eq_zero]
  intro grant member counted
  rw [inWindow, beq_iff_eq] at counted
  have wide := limit.wide
  rcases (spaced.earlier grant member).2 with same | before
  · omega
  · omega

theorem Spaced.granted {window' : Window} {grant : Grant}
    (spaced : Spaced limit opened window grants) (admits : Admits limit window grant window') :
    Spaced limit opened window' (grants ++ [grant]) := by
  have wide := limit.wide
  cases admits with
  | @restart time passed =>
      have none := spaced.fresh passed
      have late := spaced.late
      constructor
      · change opened ≤ time
        omega
      · intro other member
        rcases List.mem_append.mp member with old | new
        · obtain ⟨after, place⟩ := spaced.earlier other old
          refine ⟨after, Or.inr ?_⟩
          change other.window + limit.width ≤ time
          omega
        · rw [List.mem_singleton.mp new]
          exact ⟨by dsimp only; omega, Or.inl rfl⟩
      · intro other member
        rcases List.mem_append.mp member with old | new
        · exact spaced.ended other old
        · rw [List.mem_singleton.mp new]
          dsimp only
          omega
      · have beside : ∀ other ∈ grants, other.window + limit.width ≤ time := by
          intro other member
          rcases (spaced.earlier other member).2 with same | before
          · omega
          · omega
        intro first inFirst second inSecond
        rcases List.mem_append.mp inFirst with old | new
        · rcases List.mem_append.mp inSecond with old' | new'
          · exact spaced.apart first old second old'
          · rw [List.mem_singleton.mp new']
            exact Or.inr (Or.inl (beside first old))
        · rw [List.mem_singleton.mp new]
          rcases List.mem_append.mp inSecond with old' | new'
          · exact Or.inr (Or.inr (beside second old'))
          · rw [List.mem_singleton.mp new']
            exact Or.inl rfl
      · rw [List.countP_append, none]
        simp [inWindow]
      · exact limit.some
      · intro start
        rw [List.countP_append]
        by_cases same : time = start
        · subst same
          rw [none]
          simpa [inWindow] using limit.some
        · have missed : [Grant.mk time time].countP (inWindow start) = 0 := by
            simp [inWindow, same]
          rw [missed]
          exact spaced.bounded start
  | @within time runs room =>
      constructor
      · exact spaced.late
      · intro other member
        rcases List.mem_append.mp member with old | new
        · exact spaced.earlier other old
        · rw [List.mem_singleton.mp new]
          exact ⟨spaced.late, Or.inl rfl⟩
      · intro other member
        rcases List.mem_append.mp member with old | new
        · exact spaced.ended other old
        · rw [List.mem_singleton.mp new]
          exact runs
      · have beside : ∀ other ∈ grants, other.window = window.start ∨
            other.window + limit.width ≤ window.start :=
          fun other member => (spaced.earlier other member).2
        intro first inFirst second inSecond
        rcases List.mem_append.mp inFirst with old | new
        · rcases List.mem_append.mp inSecond with old' | new'
          · exact spaced.apart first old second old'
          · rw [List.mem_singleton.mp new']
            rcases beside first old with same | before
            · exact Or.inl same
            · exact Or.inr (Or.inl before)
        · rw [List.mem_singleton.mp new]
          rcases List.mem_append.mp inSecond with old' | new'
          · rcases beside second old' with same | before
            · exact Or.inl same.symm
            · exact Or.inr (Or.inr before)
          · rw [List.mem_singleton.mp new']
            exact Or.inl rfl
      · rw [List.countP_append, spaced.current]
        simp [inWindow]
      · exact room
      · intro start
        rw [List.countP_append]
        by_cases same : window.start = start
        · subst same
          rw [spaced.current]
          simpa [inWindow] using room
        · have missed : [Grant.mk window.start time].countP (inWindow start) = 0 := by
            simp [inWindow, same]
          rw [missed]
          exact spaced.bounded start

theorem Granted.spaced (granted : Granted limit opened window grants) :
    Spaced limit opened window grants := by
  induction granted with
  | opened =>
      constructor
      · exact le_rfl
      · intro grant member
        cases member
      · intro grant member
        cases member
      · intro first member
        cases member
      · rfl
      · exact Nat.zero_le _
      · intro start
        exact Nat.zero_le _
  | granted earlier admits ih => exact ih.granted admits

/-- A window admits at most its limit. -/
theorem Granted.window_le (granted : Granted limit opened window grants) (start : Int) :
    grants.countP (inWindow start) ≤ limit.most := granted.spaced.bounded start

/-! ## Intervals -/

/-- Times that are in order reach a window only after it was started. -/
theorem Granted.reached (granted : Granted limit opened window grants) (ordered : Ordered grants) :
    (window.start = opened ∨ ∃ grant ∈ grants, grant.time = window.start) ∧
      ∀ grant ∈ grants, grant.window = opened ∨ grant.window ≤ grant.time := by
  induction granted with
  | opened =>
      refine ⟨Or.inl rfl, ?_⟩
      intro grant member
      cases member
  | @granted window window' grants grant earlier admits ih =>
      unfold Ordered at ordered
      rw [List.pairwise_append] at ordered
      obtain ⟨past, _, below⟩ := ordered
      obtain ⟨started, places⟩ := ih past
      cases admits with
      | @restart time passed =>
          refine ⟨Or.inr ⟨⟨time, time⟩, List.mem_append_right _ List.mem_cons_self, rfl⟩, ?_⟩
          intro other member
          rcases List.mem_append.mp member with old | new
          · exact places other old
          · rw [List.mem_singleton.mp new]
            exact Or.inr le_rfl
      | @within time runs room =>
          constructor
          · rcases started with first | ⟨starter, member, at_⟩
            · exact Or.inl first
            · exact Or.inr ⟨starter, List.mem_append_left _ member, at_⟩
          · intro other member
            rcases List.mem_append.mp member with old | new
            · exact places other old
            · rw [List.mem_singleton.mp new]
              rcases started with first | ⟨starter, inside, at_⟩
              · exact Or.inl first
              · right
                have order := below starter inside ⟨window.start, time⟩ List.mem_cons_self
                dsimp only at order ⊢
                omega

/-- Grants of three windows do not fit into one width. -/
theorem Granted.two_windows (granted : Granted limit opened window grants)
    (ordered : Ordered grants) {time : Int} {first second third : Grant}
    (inFirst : first ∈ grants) (inSecond : second ∈ grants) (inThird : third ∈ grants)
    (fits : inInterval limit time first = true) (fits' : inInterval limit time second = true)
    (fits'' : inInterval limit time third = true) (differs : second.window ≠ first.window) :
    third.window = first.window ∨ third.window = second.window := by
  have spaced := granted.spaced
  have places := (granted.reached ordered).2
  have wide := limit.wide
  simp only [inInterval, Bool.and_eq_true, decide_eq_true_eq] at fits fits' fits''
  have ended := spaced.ended first inFirst
  have ended' := spaced.ended second inSecond
  have ended'' := spaced.ended third inThird
  have after := (spaced.earlier first inFirst).1
  have after' := (spaced.earlier second inSecond).1
  have after'' := (spaced.earlier third inThird).1
  have place := places first inFirst
  have place' := places second inSecond
  have place'' := places third inThird
  have apart := spaced.apart first inFirst second inSecond
  have apart' := spaced.apart first inFirst third inThird
  have apart'' := spaced.apart second inSecond third inThird
  omega

theorem countP_le_two {limit : Limit} {grants : List Grant} {keep : Grant → Bool}
    (bounded : ∀ start, grants.countP (inWindow start) ≤ limit.most)
    (pair : ∃ start start', ∀ grant ∈ grants, keep grant = true →
      grant.window = start ∨ grant.window = start') :
    grants.countP keep ≤ 2 * limit.most := by
  obtain ⟨start, start', two⟩ := pair
  have covered : grants.countP keep ≤
      grants.countP (inWindow start) + grants.countP (inWindow start') := by
    clear bounded
    induction grants with
    | nil => exact Nat.zero_le _
    | cons grant rest ih =>
        have others := ih fun other member => two other (List.mem_cons_of_mem _ member)
        have here := two grant List.mem_cons_self
        simp only [List.countP_cons]
        by_cases kept : keep grant = true
        · rcases here kept with same | same
          · have hit : inWindow start grant = true := beq_iff_eq.mpr same
            simp only [kept, hit, if_true]
            omega
          · have hit : inWindow start' grant = true := beq_iff_eq.mpr same
            simp only [kept, hit, if_true]
            omega
        · rw [if_neg kept]
          omega
  have most := bounded start
  have most' := bounded start'
  omega

/-- An interval of one width admits at most twice the limit. -/
theorem Granted.interval_le (granted : Granted limit opened window grants)
    (ordered : Ordered grants) (time : Int) :
    grants.countP (inInterval limit time) ≤ 2 * limit.most := by
  apply countP_le_two granted.window_le
  by_cases one : ∃ start, ∀ grant ∈ grants, inInterval limit time grant = true →
      grant.window = start
  · obtain ⟨start, all⟩ := one
    exact ⟨start, start, fun grant member fits => Or.inl (all grant member fits)⟩
  · by_cases any : ∃ first ∈ grants, inInterval limit time first = true
    · obtain ⟨first, inFirst, fits⟩ := any
      simp only [not_exists, not_forall] at one
      obtain ⟨second, inSecond, fits', differs⟩ := one first.window
      exact ⟨first.window, second.window, fun third inThird fits'' =>
        granted.two_windows ordered inFirst inSecond inThird fits fits' fits'' differs⟩
    · refine ⟨0, 0, fun grant member fits => ?_⟩
      exact absurd ⟨grant, member, fits⟩ any

end CrossPatch.Library.RateWindow
