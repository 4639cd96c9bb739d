import Mathlib

/-!
# Procedures that keep their effects when they raise

A procedure reads and changes a state and then returns or raises.  Unlike a
transaction it does not undo what it did before raising.  `Meets` gives a
postcondition for either way out, and the rules below compute it along the
structure of a program.
-/

namespace CrossPatch.Library

structure Procedure (ε State α : Type) where
  run : State → Except ε α × State

namespace Procedure

variable {ε State Part α β : Type}

instance : Monad (Procedure ε State) where
  pure value := ⟨fun state => (.ok value, state)⟩
  bind first next := ⟨fun state =>
    match first.run state with
    | (.ok value, middle) => (next value).run middle
    | (.error error, middle) => (.error error, middle)⟩

theorem bind_assoc {γ : Type} (first : Procedure ε State α) (second : α → Procedure ε State β)
    (third : β → Procedure ε State γ) :
    first >>= second >>= third = first >>= fun value => second value >>= third := by
  change Procedure.mk _ = Procedure.mk _
  congr 1
  funext state
  change (match (match first.run state with
    | (.ok value, middle) => (second value).run middle
    | (.error error, middle) => (.error error, middle)) with
    | (.ok value, last) => (third value).run last
    | (.error error, last) => (.error error, last)) = _
  rcases first.run state with ⟨error | value, middle⟩
  · rfl
  · rfl

def raise (error : ε) : Procedure ε State α := ⟨fun state => (.error error, state)⟩

def ofExcept (attempt : Except ε α) : Procedure ε State α := ⟨fun state => (attempt, state)⟩

def get : Procedure ε State State := ⟨fun state => (.ok state, state)⟩

def modify (update : State → State) : Procedure ε State Unit :=
  ⟨fun state => (.ok (), update state)⟩

/-- Hand errors to a handler, which may raise them again. -/
def rescue (body : Procedure ε State α) (handler : ε → Procedure ε State α) :
    Procedure ε State α :=
  ⟨fun state =>
    match body.run state with
    | (.ok value, middle) => (.ok value, middle)
    | (.error error, middle) => (handler error).run middle⟩

/-- Run on a part of the state. -/
def within (read : State → Part) (write : Part → State → State) (part : Procedure ε Part α) :
    Procedure ε State α :=
  ⟨fun state => ((part.run (read state)).1, write (part.run (read state)).2 state)⟩

/-- The outcome as a value: nothing is raised. -/
def attempt (body : Procedure ε State α) : Procedure ε State (Except ε α) :=
  ⟨fun state => (.ok (body.run state).1, (body.run state).2)⟩

/-! ## Outcomes -/

/-- A composed procedure returns if and only if both of its parts do. -/
theorem run_bind_ok {first : Procedure ε State α} {next : α → Procedure ε State β}
    {state last : State} {value : β} :
    (first >>= next).run state = (.ok value, last) ↔
      ∃ result middle, first.run state = (.ok result, middle) ∧
        (next result).run middle = (.ok value, last) := by
  change (match first.run state with
    | (.ok result, middle) => (next result).run middle
    | (.error error, middle) => (.error error, middle)) = _ ↔ _
  rcases first.run state with ⟨error | result, middle⟩
  · simp
  · simp

theorem run_ofExcept_ok {attempt : Except ε α} {state last : State} {value : α} :
    (ofExcept attempt : Procedure ε State α).run state = (.ok value, last) ↔
      attempt = .ok value ∧ state = last := by
  rw [ofExcept, Prod.mk.injEq]

theorem run_modify_ok {update : State → State} {state last : State} {value : Unit} :
    (modify update : Procedure ε State Unit).run state = (.ok value, last) ↔
      update state = last := by
  simp [modify]

theorem run_get_ok {state last value : State} :
    (get : Procedure ε State State).run state = (.ok value, last) ↔
      state = value ∧ state = last := by
  simp [get]

/-! ## Postconditions -/

/-- What holds when the procedure returns, and what holds when it raises. -/
def Meets (body : Procedure ε State α) (state : State) (Returns : α → State → Prop)
    (Raises : ε → State → Prop) : Prop :=
  match body.run state with
  | (.ok value, next) => Returns value next
  | (.error error, next) => Raises error next

section Rules

variable {state : State} {Returns : α → State → Prop} {Raises : ε → State → Prop}

theorem Meets.mono {body : Procedure ε State α} {Weaker : α → State → Prop}
    {Looser : ε → State → Prop} (meets : body.Meets state Returns Raises)
    (returns : ∀ value next, Returns value next → Weaker value next)
    (raises : ∀ error next, Raises error next → Looser error next) :
    body.Meets state Weaker Looser := by
  unfold Meets at meets ⊢
  split
  · rename_i outcome
    rw [outcome] at meets
    exact returns _ _ meets
  · rename_i outcome
    rw [outcome] at meets
    exact raises _ _ meets

theorem Meets.both {body : Procedure ε State α} {Also : α → State → Prop}
    {AlsoRaises : ε → State → Prop} (first : body.Meets state Returns Raises)
    (second : body.Meets state Also AlsoRaises) :
    body.Meets state (fun value next => Returns value next ∧ Also value next)
      fun error next => Raises error next ∧ AlsoRaises error next := by
  unfold Meets at first second ⊢
  split
  · rename_i outcome
    rw [outcome] at first second
    exact ⟨first, second⟩
  · rename_i outcome
    rw [outcome] at first second
    exact ⟨first, second⟩

theorem Meets.returned {body : Procedure ε State α} (meets : body.Meets state Returns Raises)
    {value : α} {next : State} (outcome : body.run state = (.ok value, next)) :
    Returns value next := by
  rw [Meets, outcome] at meets
  exact meets

theorem Meets.raised {body : Procedure ε State α} (meets : body.Meets state Returns Raises)
    {error : ε} {next : State} (outcome : body.run state = (.error error, next)) :
    Raises error next := by
  rw [Meets, outcome] at meets
  exact meets

theorem meets_of_returned {body : Procedure ε State α} {value : α} {next : State}
    (outcome : body.run state = (.ok value, next)) (holds : Returns value next) :
    body.Meets state Returns Raises := by
  rw [Meets, outcome]
  exact holds

theorem meets_of_raised {body : Procedure ε State α} {error : ε} {next : State}
    (outcome : body.run state = (.error error, next)) (holds : Raises error next) :
    body.Meets state Returns Raises := by
  rw [Meets, outcome]
  exact holds

@[simp]
theorem meets_pure {value : α} :
    (pure value : Procedure ε State α).Meets state Returns Raises ↔ Returns value state := Iff.rfl

@[simp]
theorem meets_raise {error : ε} :
    (raise error : Procedure ε State α).Meets state Returns Raises ↔ Raises error state := Iff.rfl

@[simp]
theorem meets_get {Returns : State → State → Prop} :
    (get : Procedure ε State State).Meets state Returns Raises ↔ Returns state state := Iff.rfl

@[simp]
theorem meets_modify {update : State → State} {Returns : Unit → State → Prop} :
    (modify update : Procedure ε State Unit).Meets state Returns Raises ↔
      Returns () (update state) := Iff.rfl

@[simp]
theorem meets_ofExcept {attempt : Except ε α} :
    (ofExcept attempt : Procedure ε State α).Meets state Returns Raises ↔
      match attempt with
      | .ok value => Returns value state
      | .error error => Raises error state := by
  cases attempt <;> exact Iff.rfl

@[simp]
theorem meets_bind {first : Procedure ε State α} {next : α → Procedure ε State β}
    {Returns : β → State → Prop} :
    (first >>= next).Meets state Returns Raises ↔
      first.Meets state (fun value middle => (next value).Meets middle Returns Raises) Raises := by
  change (match (match first.run state with
    | (.ok value, middle) => (next value).run middle
    | (.error error, middle) => (.error error, middle)) with
    | (.ok value, last) => Returns value last
    | (.error error, last) => Raises error last) ↔ _
  unfold Meets
  rcases first.run state with ⟨error | value, middle⟩
  · exact Iff.rfl
  · exact Iff.rfl

@[simp]
theorem meets_rescue {body : Procedure ε State α} {handler : ε → Procedure ε State α} :
    (body.rescue handler).Meets state Returns Raises ↔
      body.Meets state Returns fun error middle => (handler error).Meets middle Returns Raises := by
  unfold Meets rescue
  dsimp only
  rcases body.run state with ⟨error | value, middle⟩
  · exact Iff.rfl
  · exact Iff.rfl

@[simp]
theorem meets_within {read : State → Part} {write : Part → State → State}
    {part : Procedure ε Part α} :
    (part.within read write).Meets state Returns Raises ↔
      part.Meets (read state) (fun value changed => Returns value (write changed state))
        fun error changed => Raises error (write changed state) := by
  rcases outcome : part.run (read state) with ⟨error | value, changed⟩
  · simp only [Meets, within, outcome]
  · simp only [Meets, within, outcome]

@[simp]
theorem meets_attempt {body : Procedure ε State α} {Returns : Except ε α → State → Prop} :
    body.attempt.Meets state Returns Raises ↔
      body.Meets state (fun value next => Returns (.ok value) next)
        fun error next => Returns (.error error) next := by
  rcases outcome : body.run state with ⟨error | value, changed⟩
  · simp only [Meets, attempt, outcome]
  · simp only [Meets, attempt, outcome]

theorem meets_ite {condition : Prop} [Decidable condition] {first second : Procedure ε State α}
    (yes : condition → first.Meets state Returns Raises)
    (no : ¬ condition → second.Meets state Returns Raises) :
    (if condition then first else second).Meets state Returns Raises := by
  split
  · exact yes ‹_›
  · exact no ‹_›

/-- A procedure that may do anything satisfies what always holds. -/
theorem meets_of_forall {body : Procedure ε State α} (returns : ∀ value next, Returns value next)
    (raises : ∀ error next, Raises error next) : body.Meets state Returns Raises := by
  unfold Meets
  split
  · exact returns _ _
  · exact raises _ _

end Rules

end Procedure

end CrossPatch.Library
