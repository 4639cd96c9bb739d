import CrossPatch.Library.Attempt

/-!
# Transactions

A transaction reads and changes a state and may fail.  Committing a failed
transaction leaves the state as it was, so whatever successful transactions
preserve is preserved by all of them.
-/

namespace CrossPatch.Library

structure Transaction (ε State α : Type) where
  run : State → Except ε (α × State)

namespace Transaction

open CrossPatch.Library.Attempt

variable {ε State α β : Type}

instance : Monad (Transaction ε State) where
  pure value := ⟨fun state => .ok (value, state)⟩
  bind first next := ⟨fun state => first.run state >>= fun reached => (next reached.1).run reached.2⟩

def lift (attempt : Except ε α) : Transaction ε State α :=
  ⟨fun state => attempt >>= fun value => .ok (value, state)⟩

def read : Transaction ε State State := ⟨fun state => .ok (state, state)⟩

def change (update : State → State) : Transaction ε State Unit :=
  ⟨fun state => .ok ((), update state)⟩

def check (condition : Prop) [Decidable condition] (error : ε) : Transaction ε State Unit :=
  lift (require condition error)

/-- The outcome of a committed or rolled back transaction. -/
def commit (transaction : Transaction ε State α) (state : State) : Except ε α × State :=
  match transaction.run state with
  | .ok (value, next) => (.ok value, next)
  | .error error => (.error error, state)

/-- A commit that raises leaves the state alone. -/
theorem rolled_back {transaction : Transaction ε State α} {state next : State} {error : ε}
    (failed : transaction.commit state = (.error error, next)) : next = state := by
  unfold commit at failed
  cases outcome : transaction.run state with
  | ok reached =>
      rw [outcome] at failed
      cases failed
  | error raised =>
      rw [outcome] at failed
      cases failed
      rfl

/-! ## Successful runs -/

section Runs

variable {state : State} {answer : α × State}

@[simp]
theorem pure_eq_ok {value : α} :
    (pure value : Transaction ε State α).run state = .ok answer ↔ answer = (value, state) := by
  change Except.ok (value, state) = .ok answer ↔ _
  rw [Except.ok.injEq]
  exact eq_comm

@[simp]
theorem bind_eq_ok {first : Transaction ε State α} {next : α → Transaction ε State β}
    {final : β × State} :
    (first >>= next).run state = .ok final ↔
      ∃ value middle, first.run state = .ok (value, middle) ∧
        (next value).run middle = .ok final := by
  change (first.run state >>= fun reached => (next reached.1).run reached.2) = .ok final ↔ _
  rw [Attempt.bind_eq_ok]
  constructor
  · rintro ⟨⟨value, middle⟩, reached, rest⟩
    exact ⟨value, middle, reached, rest⟩
  · rintro ⟨value, middle, reached, rest⟩
    exact ⟨(value, middle), reached, rest⟩

@[simp]
theorem lift_eq_ok {attempt : Except ε α} :
    (lift attempt : Transaction ε State α).run state = .ok answer ↔
      attempt = .ok answer.1 ∧ answer.2 = state := by
  rw [lift, Attempt.bind_eq_ok]
  constructor
  · rintro ⟨value, reached, same⟩
    cases same
    exact ⟨reached, rfl⟩
  · rintro ⟨reached, same⟩
    exact ⟨answer.1, reached, by rw [← same]⟩

@[simp]
theorem read_eq_ok {seen : State × State} :
    (read : Transaction ε State State).run state = .ok seen ↔ seen = (state, state) := by
  rw [read, Except.ok.injEq]
  exact eq_comm

@[simp]
theorem change_eq_ok {update : State → State} {done : Unit × State} :
    (change update : Transaction ε State Unit).run state = .ok done ↔
      done = ((), update state) := by
  rw [change, Except.ok.injEq]
  exact eq_comm

@[simp]
theorem check_eq_ok {condition : Prop} [Decidable condition] {error : ε} {done : Unit × State} :
    (check condition error : Transaction ε State Unit).run state = .ok done ↔
      condition ∧ done.2 = state := by
  rw [check, lift_eq_ok, require_eq_ok]

end Runs

/-! ## Failed runs -/

section Failures

variable {state : State} {error : ε}

@[simp]
theorem pure_eq_error {value : α} :
    (pure value : Transaction ε State α).run state = .error error ↔ False :=
  ⟨(by intro failed; cases failed), False.elim⟩

@[simp]
theorem bind_eq_error {first : Transaction ε State α} {next : α → Transaction ε State β} :
    (first >>= next).run state = .error error ↔
      first.run state = .error error ∨
        ∃ value middle, first.run state = .ok (value, middle) ∧
          (next value).run middle = .error error := by
  change (first.run state >>= fun reached => (next reached.1).run reached.2) = .error error ↔ _
  cases first.run state with
  | error raised => simp
  | ok reached =>
      obtain ⟨value, middle⟩ := reached
      simp

@[simp]
theorem lift_eq_error {attempt : Except ε α} :
    (lift attempt : Transaction ε State α).run state = .error error ↔ attempt = .error error := by
  rw [lift]
  cases attempt with
  | error raised => simp
  | ok value => simp

@[simp]
theorem read_eq_error :
    (read : Transaction ε State State).run state = .error error ↔ False :=
  ⟨(by intro failed; cases failed), False.elim⟩

@[simp]
theorem change_eq_error {update : State → State} :
    (change update : Transaction ε State Unit).run state = .error error ↔ False :=
  ⟨(by intro failed; cases failed), False.elim⟩

@[simp]
theorem check_eq_error {condition : Prop} [Decidable condition] {raised : ε} :
    (check condition raised : Transaction ε State Unit).run state = .error error ↔
      ¬ condition ∧ raised = error := by
  rw [check, lift_eq_error, require]
  split <;> simp [*]

end Failures

/-! ## Postconditions -/

/-- Every successful run from the state ends as described. -/
def Ensures (transaction : Transaction ε State α) (state : State) (Post : α → State → Prop) :
    Prop :=
  ∀ value next, transaction.run state = .ok (value, next) → Post value next

section Postconditions

variable {state : State}

theorem Ensures.mono {transaction : Transaction ε State α} {Post Weaker : α → State → Prop}
    (ensures : transaction.Ensures state Post)
    (weaken : ∀ value next, Post value next → Weaker value next) :
    transaction.Ensures state Weaker :=
  fun value next reached => weaken value next (ensures value next reached)

@[simp]
theorem ensures_pure {value : α} {Post : α → State → Prop} :
    (pure value : Transaction ε State α).Ensures state Post ↔ Post value state := by
  simp [Ensures]

@[simp]
theorem ensures_bind {first : Transaction ε State α} {next : α → Transaction ε State β}
    {Post : β → State → Prop} :
    (first >>= next).Ensures state Post ↔
      first.Ensures state fun value middle => (next value).Ensures middle Post := by
  constructor
  · intro ensures value middle reached final last rest
    exact ensures final last (bind_eq_ok.mpr ⟨value, middle, reached, rest⟩)
  · intro ensures final last reached
    obtain ⟨value, middle, started, rest⟩ := bind_eq_ok.mp reached
    exact ensures value middle started final last rest

@[simp]
theorem ensures_lift {attempt : Except ε α} {Post : α → State → Prop} :
    (lift attempt).Ensures state Post ↔ ∀ value, attempt = .ok value → Post value state := by
  constructor
  · intro ensures value succeeds
    exact ensures value state (lift_eq_ok.mpr ⟨succeeds, rfl⟩)
  · rintro ensures value next reached
    obtain ⟨succeeds, rfl⟩ := lift_eq_ok.mp reached
    exact ensures value succeeds

@[simp]
theorem ensures_read {Post : State → State → Prop} :
    (read : Transaction ε State State).Ensures state Post ↔ Post state state := by
  simp [Ensures]

@[simp]
theorem ensures_change {update : State → State} {Post : Unit → State → Prop} :
    (change update : Transaction ε State Unit).Ensures state Post ↔ Post () (update state) := by
  constructor
  · intro ensures
    exact ensures () (update state) (change_eq_ok.mpr rfl)
  · rintro ensures value next reached
    cases change_eq_ok.mp reached
    exact ensures

@[simp]
theorem ensures_check {condition : Prop} [Decidable condition] {error : ε}
    {Post : Unit → State → Prop} :
    (check condition error : Transaction ε State Unit).Ensures state Post ↔
      (condition → Post () state) := by
  constructor
  · intro ensures holds
    exact ensures () state (check_eq_ok.mpr ⟨holds, rfl⟩)
  · rintro ensures value next reached
    obtain ⟨holds, rfl⟩ := check_eq_ok.mp reached
    exact ensures holds

theorem ensures_ite {condition : Prop} [Decidable condition] {first second : Transaction ε State α}
    {Post : α → State → Prop} (yes : condition → first.Ensures state Post)
    (no : ¬ condition → second.Ensures state Post) :
    (if condition then first else second).Ensures state Post := by
  split
  · exact yes ‹_›
  · exact no ‹_›

/-- A commit reaches what successful runs ensure, or leaves the state alone. -/
theorem commit_of_ensures {transaction : Transaction ε State α} {Post : State → Prop}
    (ensures : transaction.Ensures state fun _ next => Post next) (unchanged : Post state) :
    Post (transaction.commit state).2 := by
  unfold commit
  cases outcome : transaction.run state with
  | ok reached => exact ensures reached.1 reached.2 outcome
  | error error => exact unchanged

/-- What a commit that answers has ensured. -/
theorem Ensures.of_commit {transaction : Transaction ε State α} {Post : α → State → Prop}
    (ensures : transaction.Ensures state Post) {value : α}
    (answered : (transaction.commit state).1 = .ok value) :
    Post value (transaction.commit state).2 := by
  unfold commit at answered ⊢
  cases outcome : transaction.run state with
  | ok reached =>
      rw [outcome] at answered
      cases answered
      exact ensures reached.1 reached.2 outcome
  | error error =>
      rw [outcome] at answered
      cases answered

/-! ## Runs that succeed -/

/-- The run from the state succeeds and ends as described. -/
def Reaches (transaction : Transaction ε State α) (state : State) (Post : α → State → Prop) :
    Prop :=
  ∃ value next, transaction.run state = .ok (value, next) ∧ Post value next

theorem Reaches.mono {transaction : Transaction ε State α} {Post Weaker : α → State → Prop}
    (reaches : transaction.Reaches state Post)
    (weaken : ∀ value next, Post value next → Weaker value next) :
    transaction.Reaches state Weaker := by
  obtain ⟨value, next, reached, post⟩ := reaches
  exact ⟨value, next, reached, weaken value next post⟩

@[simp]
theorem reaches_pure {value : α} {Post : α → State → Prop} :
    (pure value : Transaction ε State α).Reaches state Post ↔ Post value state := by
  simp [Reaches]

@[simp]
theorem reaches_bind {first : Transaction ε State α} {next : α → Transaction ε State β}
    {Post : β → State → Prop} :
    (first >>= next).Reaches state Post ↔
      first.Reaches state fun value middle => (next value).Reaches middle Post := by
  constructor
  · rintro ⟨final, last, reached, post⟩
    obtain ⟨value, middle, started, rest⟩ := bind_eq_ok.mp reached
    exact ⟨value, middle, started, final, last, rest, post⟩
  · rintro ⟨value, middle, started, final, last, rest, post⟩
    exact ⟨final, last, bind_eq_ok.mpr ⟨value, middle, started, rest⟩, post⟩

@[simp]
theorem reaches_lift {attempt : Except ε α} {Post : α → State → Prop} :
    (lift attempt).Reaches state Post ↔ ∃ value, attempt = .ok value ∧ Post value state := by
  constructor
  · rintro ⟨value, next, reached, post⟩
    obtain ⟨succeeds, rfl⟩ := lift_eq_ok.mp reached
    exact ⟨value, succeeds, post⟩
  · rintro ⟨value, succeeds, post⟩
    exact ⟨value, state, lift_eq_ok.mpr ⟨succeeds, rfl⟩, post⟩

@[simp]
theorem reaches_read {Post : State → State → Prop} :
    (read : Transaction ε State State).Reaches state Post ↔ Post state state := by
  simp [Reaches]

@[simp]
theorem reaches_change {update : State → State} {Post : Unit → State → Prop} :
    (change update : Transaction ε State Unit).Reaches state Post ↔ Post () (update state) := by
  constructor
  · rintro ⟨value, next, reached, post⟩
    cases change_eq_ok.mp reached
    exact post
  · intro post
    exact ⟨(), update state, change_eq_ok.mpr rfl, post⟩

@[simp]
theorem reaches_check {condition : Prop} [Decidable condition] {error : ε}
    {Post : Unit → State → Prop} :
    (check condition error : Transaction ε State Unit).Reaches state Post ↔
      condition ∧ Post () state := by
  constructor
  · rintro ⟨value, next, reached, post⟩
    obtain ⟨holds, rfl⟩ := check_eq_ok.mp reached
    exact ⟨holds, post⟩
  · rintro ⟨holds, post⟩
    exact ⟨(), state, check_eq_ok.mpr ⟨holds, rfl⟩, post⟩

/-- A run that succeeds also ends as every successful run does. -/
theorem Reaches.ensured {transaction : Transaction ε State α} {Post Always : α → State → Prop}
    (reaches : transaction.Reaches state Post) (ensures : transaction.Ensures state Always) :
    transaction.Reaches state fun value next => Post value next ∧ Always value next := by
  obtain ⟨value, next, reached, post⟩ := reaches
  exact ⟨value, next, reached, post, ensures value next reached⟩

/-- A run that succeeds commits. -/
theorem Reaches.commit {transaction : Transaction ε State α} {Post : α → State → Prop}
    (reaches : transaction.Reaches state Post) :
    ∃ value, (transaction.commit state).1 = .ok value ∧
      Post value (transaction.commit state).2 := by
  obtain ⟨value, next, reached, post⟩ := reaches
  refine ⟨value, ?_, ?_⟩
  · rw [Transaction.commit, reached]
  · rw [Transaction.commit, reached]
    exact post

end Postconditions

end Transaction

end CrossPatch.Library
