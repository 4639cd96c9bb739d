import Mathlib

/-!
# Runs of a machine with an event log

A machine reads a state and an action and answers with the next state and the
events that the action caused.  A run feeds it a list of actions and collects
the events in order.  The rules below turn what one step preserves into what
every run preserves: invariants of the state, invariants of the state together
with the log, step relations, and the at-most-once rule for guarded events.
-/

namespace CrossPatch.Library.Runs

universe u v w

structure Machine (State : Type u) (Action : Type v) (Event : Type w) where
  step : State → Action → State × List Event

namespace Machine

variable {State : Type u} {Action : Type v} {Event : Type w}
variable (machine : Machine State Action Event)

def next (state : State) (action : Action) : State :=
  (machine.step state action).1

def events (state : State) (action : Action) : List Event :=
  (machine.step state action).2

def run (state : State) : List Action → State
  | [] => state
  | action :: rest => run (machine.next state action) rest

def log (state : State) : List Action → List Event
  | [] => []
  | action :: rest =>
      machine.events state action ++ log (machine.next state action) rest

@[simp]
theorem run_nil (state : State) : machine.run state [] = state := rfl

@[simp]
theorem run_cons (state : State) (action : Action) (rest : List Action) :
    machine.run state (action :: rest) =
      machine.run (machine.next state action) rest := rfl

@[simp]
theorem log_nil (state : State) : machine.log state [] = [] := rfl

@[simp]
theorem log_cons (state : State) (action : Action) (rest : List Action) :
    machine.log state (action :: rest) =
      machine.events state action ++
        machine.log (machine.next state action) rest := rfl

theorem run_append (state : State) (first second : List Action) :
    machine.run state (first ++ second) =
      machine.run (machine.run state first) second := by
  induction first generalizing state with
  | nil => rfl
  | cons action rest ih => exact ih (machine.next state action)

theorem log_append (state : State) (first second : List Action) :
    machine.log state (first ++ second) =
      machine.log state first ++
        machine.log (machine.run state first) second := by
  induction first generalizing state with
  | nil => rfl
  | cons action rest ih =>
      rw [List.cons_append, log_cons, log_cons, run_cons, ih, List.append_assoc]

/-! ## Invariant rules -/

theorem run_invariant (Inv : State → Prop)
    (preserved : ∀ state action, Inv state → Inv (machine.next state action))
    {state : State} (initial : Inv state) (actions : List Action) :
    Inv (machine.run state actions) := by
  induction actions generalizing state with
  | nil => exact initial
  | cons action rest ih => exact ih (preserved state action initial)

/-- Invariants that speak of the state and of everything logged so far, along the
runs whose actions are all allowed. -/
theorem run_log_invariant_of (Allowed : Action → Prop) (Inv : State → List Event → Prop)
    (preserved : ∀ state action past, Allowed action → Inv state past →
      Inv (machine.next state action) (past ++ machine.events state action))
    {state : State} {past : List Event} (initial : Inv state past)
    {actions : List Action} (allowed : ∀ action ∈ actions, Allowed action) :
    Inv (machine.run state actions) (past ++ machine.log state actions) := by
  induction actions generalizing state past with
  | nil => simpa using initial
  | cons action rest ih =>
      have advanced := ih
        (preserved state action past (allowed action List.mem_cons_self) initial)
        (fun later member => allowed later (List.mem_cons_of_mem _ member))
      simpa [List.append_assoc] using advanced

theorem run_log_invariant (Inv : State → List Event → Prop)
    (preserved : ∀ state action past, Inv state past →
      Inv (machine.next state action) (past ++ machine.events state action))
    {state : State} {past : List Event} (initial : Inv state past)
    (actions : List Action) :
    Inv (machine.run state actions) (past ++ machine.log state actions) :=
  machine.run_log_invariant_of (fun _ => True) Inv
    (fun state action past _ current => preserved state action past current) initial
    (fun _ _ => trivial)

/-- A relation that every step respects holds between the ends of every run. -/
theorem run_relation {Rel : State → State → Prop} {Inv : State → Prop}
    (refl : ∀ state, Rel state state)
    (trans : ∀ {first second third}, Rel first second → Rel second third →
      Rel first third)
    (preserved : ∀ state action, Inv state → Inv (machine.next state action))
    (advance : ∀ state action, Inv state → Rel state (machine.next state action))
    {state : State} (initial : Inv state) (actions : List Action) :
    Rel state (machine.run state actions) := by
  induction actions generalizing state with
  | nil => exact refl state
  | cons action rest ih =>
      exact trans (advance state action initial)
        (ih (preserved state action initial))

/-! ## Runs under a condition on each action -/

/-- Every action is allowed in the state where it is taken. -/
def Follows (Allowed : State → Action → Prop) : State → List Action → Prop
  | _, [] => True
  | state, action :: rest =>
      Allowed state action ∧ Follows Allowed (machine.next state action) rest

instance decidableFollows (Allowed : State → Action → Prop)
    [∀ state action, Decidable (Allowed state action)] :
    ∀ state actions, Decidable (machine.Follows Allowed state actions)
  | _, [] => .isTrue trivial
  | state, action :: rest =>
      have := decidableFollows Allowed (machine.next state action) rest
      inferInstanceAs (Decidable (_ ∧ _))

theorem follows_of_forall {Allowed : State → Action → Prop} {actions : List Action}
    (allowed : ∀ state, ∀ action ∈ actions, Allowed state action) (state : State) :
    machine.Follows Allowed state actions := by
  induction actions generalizing state with
  | nil => trivial
  | cons action rest ih =>
      refine ⟨allowed state action List.mem_cons_self, ih ?_ (machine.next state action)⟩
      exact fun current later member => allowed current later (List.mem_cons_of_mem _ member)

theorem run_invariant_of_follows {Allowed : State → Action → Prop} (Inv : State → Prop)
    (preserved : ∀ state action, Allowed state action → Inv state →
      Inv (machine.next state action))
    {state : State} (initial : Inv state) {actions : List Action}
    (follows : machine.Follows Allowed state actions) : Inv (machine.run state actions) := by
  induction actions generalizing state with
  | nil => exact initial
  | cons action rest ih =>
      exact ih (preserved state action follows.1 initial) follows.2

/-- What holds initially and is preserved may be assumed of each action of a run. -/
theorem Follows.strengthen {machine : Machine State Action Event}
    {Allowed : State → Action → Prop} {Inv : State → Prop}
    (preserved : ∀ state action, Allowed state action → Inv state →
      Inv (machine.next state action))
    {state : State} (initial : Inv state) {actions : List Action}
    (follows : machine.Follows Allowed state actions) :
    machine.Follows (fun current action => Allowed current action ∧ Inv current) state
      actions := by
  induction actions generalizing state with
  | nil => trivial
  | cons action rest ih =>
      exact ⟨⟨follows.1, initial⟩, ih (preserved state action follows.1 initial) follows.2⟩

theorem Follows.mono {machine : Machine State Action Event}
    {Allowed Weaker : State → Action → Prop}
    {state : State} {actions : List Action} (follows : machine.Follows Allowed state actions)
    (weaker : ∀ current, ∀ action ∈ actions, Allowed current action → Weaker current action) :
    machine.Follows Weaker state actions := by
  induction actions generalizing state with
  | nil => trivial
  | cons action rest ih =>
      refine ⟨weaker state action List.mem_cons_self follows.1, ih follows.2 ?_⟩
      exact fun current later member => weaker current later (List.mem_cons_of_mem _ member)

theorem follows_append {Allowed : State → Action → Prop} {state : State}
    {first second : List Action} :
    machine.Follows Allowed state (first ++ second) ↔
      machine.Follows Allowed state first ∧
        machine.Follows Allowed (machine.run state first) second := by
  induction first generalizing state with
  | nil => simp [Follows]
  | cons action rest ih => simp only [List.cons_append, Follows, ih, run_cons, and_assoc]

/-- A run follows a condition when each of its actions meets it where it is taken. -/
theorem follows_iff_split {Allowed : State → Action → Prop} {state : State}
    {actions : List Action} :
    machine.Follows Allowed state actions ↔
      ∀ earlier action later, actions = earlier ++ action :: later →
        Allowed (machine.run state earlier) action := by
  induction actions generalizing state with
  | nil => simp [Follows]
  | cons first rest ih =>
      rw [Follows, ih]
      constructor
      · rintro ⟨now, onwards⟩ earlier action later split
        cases earlier with
        | nil =>
            rw [List.nil_append, List.cons.injEq] at split
            exact split.1 ▸ now
        | cons head tail =>
            rw [List.cons_append, List.cons.injEq] at split
            rw [run_cons, ← split.1]
            exact onwards tail action later split.2
      · intro holds
        refine ⟨holds [] first rest rfl, ?_⟩
        intro earlier action later split
        exact holds (first :: earlier) action later (by rw [split, List.cons_append])

/-! ## Guarded events

A gate guards a class of events: as long as the actions are allowed, an event of
the class needs an open gate and leaves it closed, and a closed gate never opens
again. -/

structure Gate (Allowed : State → Action → Prop) (fires : Event → Bool) (Closed : State → Prop) :
    Prop where
  stays : ∀ state action, Allowed state action → Closed state →
    Closed (machine.next state action)
  silent : ∀ state action, Allowed state action → Closed state →
    (machine.events state action).countP fires = 0
  once : ∀ state action, (machine.events state action).countP fires ≤ 1
  closes : ∀ state action, Allowed state action →
    0 < (machine.events state action).countP fires → Closed (machine.next state action)

variable {machine} {Allowed : State → Action → Prop} {fires : Event → Bool}
  {Closed : State → Prop}

theorem Gate.log_closed (gate : machine.Gate Allowed fires Closed) {state : State}
    (closed : Closed state) {actions : List Action}
    (follows : machine.Follows Allowed state actions) :
    (machine.log state actions).countP fires = 0 := by
  induction actions generalizing state with
  | nil => rfl
  | cons action rest ih =>
      rw [log_cons, List.countP_append, gate.silent state action follows.1 closed,
        ih (gate.stays state action follows.1 closed) follows.2]

/-- Events behind a gate occur at most once in a run. -/
theorem Gate.log_le_one (gate : machine.Gate Allowed fires Closed) {state : State}
    {actions : List Action} (follows : machine.Follows Allowed state actions) :
    (machine.log state actions).countP fires ≤ 1 := by
  induction actions generalizing state with
  | nil => exact Nat.zero_le 1
  | cons action rest ih =>
      rw [log_cons, List.countP_append]
      cases count : (machine.events state action).countP fires with
      | zero => simpa using ih follows.2
      | succ previous =>
          have fired : 0 < (machine.events state action).countP fires := by
            rw [count]
            exact Nat.succ_pos previous
          have closed := gate.closes state action follows.1 fired
          have bound := gate.once state action
          rw [gate.log_closed closed follows.2]
          omega

end Machine

/-- Events of a class that occurs at most once are all the same event. -/
theorem eq_of_countP_le_one {Event : Type w} {fires : Event → Bool} {log : List Event}
    (once : log.countP fires ≤ 1) {first second : Event} (inFirst : first ∈ log)
    (inSecond : second ∈ log) (firesFirst : fires first = true)
    (firesSecond : fires second = true) : first = second := by
  have bounded : (log.filter fires).length ≤ 1 := by rwa [← List.countP_eq_length_filter]
  have memFirst : first ∈ log.filter fires := List.mem_filter.mpr ⟨inFirst, firesFirst⟩
  have memSecond : second ∈ log.filter fires := List.mem_filter.mpr ⟨inSecond, firesSecond⟩
  match filtered : log.filter fires with
  | [] =>
      rw [filtered] at memFirst
      cases memFirst
  | [only] =>
      rw [filtered, List.mem_singleton] at memFirst memSecond
      rw [memFirst, memSecond]
  | _ :: _ :: _ =>
      rw [filtered] at bounded
      simp only [List.length_cons] at bounded
      omega

/-! ## Causes

An event is preceded by its cause when the cause stands before every occurrence
of it in the log. -/

def Preceded {Event : Type w} (cause effect : Event) (log : List Event) : Prop :=
  ∀ before after, log = before ++ effect :: after → cause ∈ before

theorem Preceded.nil {Event : Type w} (cause effect : Event) : Preceded cause effect [] := by
  intro before after split
  cases before <;> cases split

/-- New events keep the order when the cause of each of them is already logged. -/
theorem Preceded.append {Event : Type w} {cause effect : Event} {log recent : List Event}
    (ordered : Preceded cause effect log) (caused : effect ∈ recent → cause ∈ log) :
    Preceded cause effect (log ++ recent) := by
  intro before after split
  rcases List.append_eq_append_iff.mp split with ⟨middle, earlier, later⟩ | ⟨middle, earlier, later⟩
  · rw [earlier]
    refine List.mem_append_left _ (caused ?_)
    rw [later]
    exact List.mem_append_right _ List.mem_cons_self
  · cases middle with
    | nil =>
        rw [List.append_nil] at earlier
        rw [← earlier]
        refine caused ?_
        rw [List.nil_append] at later
        rw [← later]
        exact List.mem_cons_self
    | cons head tail =>
        rw [List.cons_append, List.cons.injEq] at later
        exact ordered before tail (by rw [earlier, later.1])

end CrossPatch.Library.Runs
