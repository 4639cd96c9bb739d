import Mathlib

/-!
# Fallible computations

Inversion rules for `Except`: what is known once a chain of checks has
returned, and when it does return.
-/

namespace CrossPatch.Library.Attempt

variable {ε α β : Type}

/-- Raise `error` unless the condition holds. -/
def require (condition : Prop) [Decidable condition] (error : ε) : Except ε Unit :=
  if condition then .ok () else .error error

@[simp]
theorem require_eq_ok {condition : Prop} [Decidable condition] {error : ε} {result : Unit} :
    require condition error = .ok result ↔ condition := by
  unfold require
  split <;> simp_all

theorem require_true {condition : Prop} [Decidable condition] (holds : condition) (error : ε) :
    require condition error = .ok () := if_pos holds

theorem require_false {condition : Prop} [Decidable condition] (fails : ¬ condition) (error : ε) :
    require condition error = .error error := if_neg fails

@[simp]
theorem bind_eq_ok {first : Except ε α} {next : α → Except ε β} {result : β} :
    first >>= next = .ok result ↔ ∃ value, first = .ok value ∧ next value = .ok result := by
  cases first with
  | error error => simp [bind, Except.bind]
  | ok value => simp [bind, Except.bind]

@[simp]
theorem ok_bind (value : α) (next : α → Except ε β) :
    (Except.ok value >>= next) = next value := rfl

@[simp]
theorem error_bind (error : ε) (next : α → Except ε β) :
    ((Except.error error : Except ε α) >>= next) = .error error := rfl

@[simp]
theorem map_eq_ok {function : α → β} {first : Except ε α} {result : β} :
    function <$> first = .ok result ↔ ∃ value, first = .ok value ∧ function value = result := by
  cases first with
  | error error => simp [Functor.map, Except.map]
  | ok value => simp [Functor.map, Except.map]

/-- Errors raised while computing are translated, results pass through. -/
def mapFailure {ε' : Type} (translate : ε → ε') : Except ε α → Except ε' α
  | .ok value => .ok value
  | .error error => .error (translate error)

@[simp]
theorem mapFailure_eq_ok {ε' : Type} {translate : ε → ε'} {first : Except ε α} {result : α} :
    mapFailure translate first = .ok result ↔ first = .ok result := by
  cases first <;> simp [mapFailure]

/-! ## Exceptions that are not handled -/

/-- The computation raises an exception that the handler lets through. -/
def Escapes (caught : ε → Bool) (attempt : Except ε α) : Prop :=
  ∃ error, attempt = .error error ∧ caught error = false

section Escapes

variable {caught : ε → Bool}

@[simp]
theorem escapes_ok (value : α) : ¬ Escapes caught (.ok value : Except ε α) := by
  rintro ⟨error, raised, _⟩
  cases raised

@[simp]
theorem escapes_error {error : ε} :
    Escapes caught (.error error : Except ε α) ↔ caught error = false := by
  constructor
  · rintro ⟨_, raised, lost⟩
    cases raised
    exact lost
  · exact fun lost => ⟨error, rfl, lost⟩

@[simp]
theorem escapes_bind {first : Except ε α} {next : α → Except ε β} :
    Escapes caught (first >>= next) ↔
      Escapes caught first ∨ ∃ value, first = .ok value ∧ Escapes caught (next value) := by
  cases first with
  | error error => simp
  | ok value => simp

theorem not_escapes_bind {first : Except ε α} {next : α → Except ε β}
    (firstHandled : ¬ Escapes caught first)
    (nextHandled : ∀ value, first = .ok value → ¬ Escapes caught (next value)) :
    ¬ Escapes caught (first >>= next) := by
  rw [escapes_bind]
  rintro (escapes | ⟨value, returned, escapes⟩)
  · exact firstHandled escapes
  · exact nextHandled value returned escapes

@[simp]
theorem escapes_require {condition : Prop} [Decidable condition] {error : ε} :
    Escapes caught (require condition error) ↔ ¬ condition ∧ caught error = false := by
  unfold require
  split
  · simp [*]
  · simp [*]

end Escapes

/-! ## Loops over a list -/

/-- Run a check on every element, stopping at the first failure. -/
def forEach (check : α → Except ε Unit) : List α → Except ε Unit
  | [] => .ok ()
  | value :: rest => do
      check value
      forEach check rest

@[simp]
theorem forEach_eq_ok {check : α → Except ε Unit} {values : List α} {result : Unit} :
    forEach check values = .ok result ↔ ∀ value ∈ values, check value = .ok () := by
  induction values with
  | nil => simp [forEach]
  | cons value rest ih =>
      rw [forEach, bind_eq_ok, ih, List.forall_mem_cons]
      constructor
      · rintro ⟨_, passed, others⟩
        exact ⟨passed, others⟩
      · rintro ⟨passed, others⟩
        exact ⟨(), passed, others⟩

/-- An exception gets out of the first check that is not passed. -/
theorem escapes_forEach {caught : ε → Bool} {check : α → Except ε Unit} {values : List α} :
    Escapes caught (forEach check values) ↔ ∃ before value after,
      values = before ++ value :: after ∧ (∀ earlier ∈ before, check earlier = .ok ()) ∧
        Escapes caught (check value) := by
  induction values with
  | nil => simp [forEach]
  | cons value rest ih =>
      rw [forEach, escapes_bind, ih]
      constructor
      · rintro (first | ⟨_, passed, before, later, after, rfl, earlier, escapes⟩)
        · exact ⟨[], value, rest, rfl, fun _ member => absurd member List.not_mem_nil, first⟩
        · exact ⟨value :: before, later, after, rfl, List.forall_mem_cons.mpr ⟨passed, earlier⟩,
            escapes⟩
      · rintro ⟨before, later, after, split, earlier, escapes⟩
        cases before with
        | nil =>
            cases split
            exact .inl escapes
        | cons first others =>
            cases split
            rw [List.forall_mem_cons] at earlier
            exact .inr ⟨(), earlier.1, others, later, after, rfl, earlier.2, escapes⟩

/-- Collect the results of a fallible function, stopping at the first failure. -/
def collect (function : α → Except ε β) : List α → Except ε (List β)
  | [] => .ok []
  | value :: rest => do
      let first ← function value
      let others ← collect function rest
      .ok (first :: others)

theorem collect_eq_ok {function : α → Except ε β} {values : List α} {results : List β} :
    collect function values = .ok results ↔ values.map function = results.map .ok := by
  induction values generalizing results with
  | nil =>
      cases results with
      | nil => simp [collect]
      | cons result others => simp [collect]
  | cons value rest ih =>
      cases results with
      | nil => simp [collect]
      | cons result others => simp [collect, ih]

/-! ## Folds -/

/-- What a successful fold has established about its final value and the elements
that it consumed. -/
theorem foldlM_invariant {σ : Type} {step : σ → α → Except ε σ} (Inv : σ → List α → Prop)
    (preserved : ∀ state past value next, Inv state past → step state value = .ok next →
      Inv next (past ++ [value]))
    {values past : List α} {first last : σ} (initial : Inv first past)
    (folded : values.foldlM step first = .ok last) : Inv last (past ++ values) := by
  induction values generalizing first past with
  | nil =>
      cases folded
      rwa [List.append_nil]
  | cons value rest ih =>
      rw [List.foldlM_cons, bind_eq_ok] at folded
      obtain ⟨next, stepped, remaining⟩ := folded
      have advanced := ih (preserved first past value next initial stepped) remaining
      rwa [List.append_assoc, List.singleton_append] at advanced

theorem foldlM_append_eq_ok {σ : Type} {step : σ → α → Except ε σ} {before after : List α}
    {first last : σ} :
    (before ++ after).foldlM step first = .ok last ↔
      ∃ middle, before.foldlM step first = .ok middle ∧ after.foldlM step middle = .ok last := by
  rw [List.foldlM_append, bind_eq_ok]

end CrossPatch.Library.Attempt
