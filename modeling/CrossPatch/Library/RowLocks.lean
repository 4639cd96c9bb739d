import Mathlib

/-!
# Two transactions under row locks

A transaction reads the state, asks for rows one after the other, and keeps its
locks until it ends.  Two transactions can end up
waiting for each other exactly if the orders in which they lock rows cross.
-/

namespace CrossPatch.Library.RowLocks

variable {Row State : Type}

inductive Script (Row State : Type) where
  | read (next : State → Script Row State)
  | lock (row : Row) (next : Script Row State)
  | finish (effect : State → State)

/-- The rows that a script locks from a state that nobody else changes. -/
def Script.order (state : State) : Script Row State → List Row
  | .read next => (next state).order state
  | .lock row next => row :: next.order state
  | .finish _ => []

/-- A transaction with the rows that it holds; it has ended if it has no script. -/
structure Party (Row State : Type) where
  script : Option (Script Row State)
  held : List Row

structure Config (Row State : Type) where
  state : State
  first : Party Row State
  second : Party Row State

def Config.start (first second : Script Row State) (state : State) : Config Row State :=
  ⟨state, ⟨some first, []⟩, ⟨some second, []⟩⟩

/-- One move of a transaction while the other one holds some rows. -/
inductive Advances (others : List Row) :
    State → Party Row State → State → Party Row State → Prop where
  | read {state : State} {next : State → Script Row State} {held : List Row} :
      Advances others state ⟨some (.read next), held⟩ state ⟨some (next state), held⟩
  | lock {state : State} {row : Row} {next : Script Row State} {held : List Row}
      (free : row ∉ others) :
      Advances others state ⟨some (.lock row next), held⟩ state ⟨some next, held ++ [row]⟩
  | finish {state : State} {effect : State → State} {held : List Row} :
      Advances others state ⟨some (.finish effect), held⟩ (effect state) ⟨none, []⟩

inductive Step : Config Row State → Config Row State → Prop where
  | first {state state' : State} {party party' second : Party Row State}
      (advances : Advances second.held state party state' party') :
      Step ⟨state, party, second⟩ ⟨state', party', second⟩
  | second {state state' : State} {first party party' : Party Row State}
      (advances : Advances first.held state party state' party') :
      Step ⟨state, first, party⟩ ⟨state', first, party'⟩

abbrev Reaches : Config Row State → Config Row State → Prop := Relation.ReflTransGen Step

/-- The transaction asks for a row that the other one holds. -/
def Party.Waits (party : Party Row State) (others : List Row) : Prop :=
  ∃ row next, party.script = some (.lock row next) ∧ row ∈ others

def Deadlocked (config : Config Row State) : Prop :=
  config.first.Waits config.second.held ∧ config.second.Waits config.first.held

/-- Two orders cross: having locked disjoint rows, each continues with one of the other's. -/
def Crossing (left right : List Row) : Prop :=
  ∃ before row after before' row' after', left = before ++ row :: after ∧
    right = before' ++ row' :: after' ∧ row ∈ before' ∧ row' ∈ before ∧ before.Disjoint before'

theorem Crossing.symm {left right : List Row} (crossing : Crossing left right) :
    Crossing right left := by
  obtain ⟨before, row, after, before', row', after', first, second, inside, inside', apart⟩ :=
    crossing
  exact ⟨before', row', after', before, row, after, second, first, inside', inside, apart.symm⟩

/-! ## Both run -/

/-- The transaction has locked a part of its order. -/
def Progress (order : List Row) (state : State) (party : Party Row State) : Prop :=
  ∃ script, party.script = some script ∧ order = party.held ++ script.order state

/-- While both transactions run, the state is the first one and their rows are apart. -/
def Running (left right : List Row) (state : State) (config : Config Row State) : Prop :=
  config.state = state ∧ Progress left state config.first ∧ Progress right state config.second ∧
    config.first.held.Disjoint config.second.held

def Ended (config : Config Row State) : Prop :=
  config.first.script = none ∨ config.second.script = none

variable {left right : List Row} {state : State}

/-- One move keeps a running transaction running, or ends it. -/
theorem Progress.advances {order others : List Row} {state' : State}
    {party party' : Party Row State} (progress : Progress order state party)
    (apart : party.held.Disjoint others) (advances : Advances others state party state' party') :
    party'.script = none ∨
      (state' = state ∧ Progress order state party' ∧ party'.held.Disjoint others) := by
  cases advances with
  | finish => exact Or.inl rfl
  | read =>
      right
      obtain ⟨script, running, split⟩ := progress
      cases running
      exact ⟨rfl, ⟨_, rfl, split⟩, apart⟩
  | lock free =>
      right
      obtain ⟨script, running, split⟩ := progress
      cases running
      refine ⟨rfl, ⟨_, rfl, ?_⟩, ?_⟩
      · rw [split, Script.order, List.append_assoc]
        rfl
      · rw [List.disjoint_append_left]
        exact ⟨apart, List.singleton_disjoint.mpr free⟩

theorem running_step {config config' : Config Row State}
    (running : Running left right state config) (step : Step config config') :
    Running left right state config' ∨ Ended config' := by
  obtain ⟨same, progress, progress', apart⟩ := running
  cases step with
  | first advances =>
      subst same
      rcases progress.advances apart advances with ended | ⟨kept, further, still⟩
      · exact Or.inr (Or.inl ended)
      · exact Or.inl ⟨kept, further, progress', still⟩
  | second advances =>
      subst same
      rcases progress'.advances apart.symm advances with ended | ⟨kept, further, still⟩
      · exact Or.inr (Or.inr ended)
      · exact Or.inl ⟨kept, progress, further, still.symm⟩

theorem ended_step {config config' : Config Row State} (ended : Ended config)
    (step : Step config config') : Ended config' := by
  cases step with
  | first advances =>
      rcases ended with first | second
      · cases advances <;> cases first
      · exact Or.inr second
  | second advances =>
      rcases ended with first | second
      · exact Or.inl first
      · cases advances <;> cases second

theorem reaches_running_or_ended {first second : Script Row State} {config : Config Row State}
    (reaches : Reaches (.start first second state) config) :
    Running (first.order state) (second.order state) state config ∨ Ended config := by
  induction reaches with
  | refl => exact Or.inl ⟨rfl, ⟨first, rfl, rfl⟩, ⟨second, rfl, rfl⟩, List.disjoint_nil_left _⟩
  | tail _ step ih =>
      rcases ih with running | ended
      · exact running_step running step
      · exact Or.inr (ended_step ended step)

/-! ## Crossing orders -/

theorem crossing_of_deadlock {first second : Script Row State} {config : Config Row State}
    (reaches : Reaches (.start first second state) config) (deadlocked : Deadlocked config) :
    Crossing (first.order state) (second.order state) := by
  obtain ⟨⟨row, next, asks, taken⟩, row', next', asks', taken'⟩ := deadlocked
  rcases reaches_running_or_ended reaches with running | ended
  · obtain ⟨_, ⟨script, active, split⟩, ⟨script', active', split'⟩, apart⟩ := running
    rw [asks] at active
    rw [asks'] at active'
    cases active
    cases active'
    exact ⟨_, row, _, _, row', _, split, split', taken, taken', apart⟩
  · rcases ended with none | none
    · rw [none] at asks
      cases asks
    · rw [none] at asks'
      cases asks'

/-- The first transaction can read up to its next lock or its end. -/
theorem reaches_asking {second : Party Row State} {held : List Row} :
    ∀ script : Script Row State, ∃ script', script'.order state = script.order state ∧
      (∀ next, script' ≠ .read next) ∧
      Reaches ⟨state, ⟨some script, held⟩, second⟩ ⟨state, ⟨some script', held⟩, second⟩
  | .read next => by
      obtain ⟨script', order, asking, reached⟩ := reaches_asking (next state)
      exact ⟨script', order, asking, .head (.first .read) reached⟩
  | .lock row next => ⟨.lock row next, rfl, (by simp), Relation.ReflTransGen.refl⟩
  | .finish effect => ⟨.finish effect, rfl, (by simp), Relation.ReflTransGen.refl⟩

/-- A script that has stopped reading asks for the next row of its order. -/
theorem asks_of_order {script : Script Row State} {row : Row} {rest : List Row}
    (asking : ∀ next, script ≠ .read next) (order : script.order state = row :: rest) :
    ∃ next, script = .lock row next ∧ next.order state = rest := by
  cases script with
  | read next => exact absurd rfl (asking next)
  | finish effect => cases order
  | lock asked next =>
      rw [Script.order, List.cons.injEq] at order
      exact ⟨next, by rw [order.1], order.2⟩

/-- The first transaction can lock a part of its order that is free. -/
theorem reaches_first {before rest : List Row} {second : Party Row State}
    (free : ∀ row ∈ before, row ∉ second.held) :
    ∀ {script : Script Row State} {held : List Row}, script.order state = before ++ rest →
      ∃ script', script'.order state = rest ∧ (∀ next, script' ≠ .read next) ∧
        Reaches ⟨state, ⟨some script, held⟩, second⟩
          ⟨state, ⟨some script', held ++ before⟩, second⟩ := by
  induction before with
  | nil =>
      intro script held split
      obtain ⟨script', order, asking, reached⟩ := @reaches_asking Row State state second held script
      rw [List.append_nil]
      exact ⟨script', order.trans split, asking, reached⟩
  | cons row others ih =>
      intro script held split
      rw [List.forall_mem_cons] at free
      obtain ⟨asked, order, asking, read⟩ := @reaches_asking Row State state second held script
      obtain ⟨next, rfl, remaining⟩ := asks_of_order asking (order.trans split)
      obtain ⟨script', final, still, reached⟩ := @ih free.2 next (held ++ [row]) remaining
      rw [List.append_assoc, List.singleton_append] at reached
      exact ⟨script', final, still, read.trans (.head (.first (.lock free.1)) reached)⟩

def Config.swap (config : Config Row State) : Config Row State :=
  ⟨config.state, config.second, config.first⟩

theorem Step.swap {config config' : Config Row State} (step : Step config config') :
    Step config.swap config'.swap := by
  cases step with
  | first advances => exact .second advances
  | second advances => exact .first advances

theorem reaches_second {before rest : List Row} {first : Party Row State}
    (free : ∀ row ∈ before, row ∉ first.held) {script : Script Row State} {held : List Row}
    (split : script.order state = before ++ rest) :
    ∃ script', script'.order state = rest ∧ (∀ next, script' ≠ .read next) ∧
      Reaches ⟨state, first, ⟨some script, held⟩⟩
        ⟨state, first, ⟨some script', held ++ before⟩⟩ := by
  obtain ⟨script', order, asking, reached⟩ := @reaches_first Row State state before rest first free
    script held split
  exact ⟨script', order, asking, reached.lift Config.swap fun _ _ step => step.swap⟩

/-- A deadlock is reachable exactly if the orders cross. -/
theorem deadlock_iff_crossing {first second : Script Row State} :
    (∃ config, Reaches (.start first second state) config ∧ Deadlocked config) ↔
      Crossing (first.order state) (second.order state) := by
  constructor
  · rintro ⟨config, reaches, deadlocked⟩
    exact crossing_of_deadlock reaches deadlocked
  · rintro ⟨before, row, after, before', row', after', order, order', inside, inside', apart⟩
    obtain ⟨script, rest, asking, firstLocks⟩ := @reaches_first Row State state before
      (row :: after) ⟨some second, []⟩ (fun _ _ => List.not_mem_nil) first [] order
    obtain ⟨script', rest', asking', secondLocks⟩ := @reaches_second Row State state before'
      (row' :: after') ⟨some script, [] ++ before⟩ (fun taken member => apart.symm member) second []
      order'
    obtain ⟨next, rfl, _⟩ := asks_of_order asking rest
    obtain ⟨next', rfl, _⟩ := asks_of_order asking' rest'
    exact ⟨_, firstLocks.trans secondLocks, ⟨row, next, rfl, inside⟩, row', next', rfl, inside'⟩

/-! ## Orders that do not cross -/

theorem not_crossing_self (order : List Row) : ¬ Crossing order order := by
  rintro ⟨before, row, after, before', row', after', split, split', inside, inside', apart⟩
  cases order with
  | nil => simp at split
  | cons head rest =>
      -- both transactions start with the same row
      have first : head ∈ before := by
        cases before with
        | nil => cases inside'
        | cons taken others => exact (List.cons.inj split).1 ▸ List.mem_cons_self
      have second : head ∈ before' := by
        cases before' with
        | nil => cases inside
        | cons taken others => exact (List.cons.inj split').1 ▸ List.mem_cons_self
      exact apart first second

/-- If each order respects a ranking, crossing orders share two rows that the rankings
arrange in opposite ways. -/
theorem Crossing.opposed {rank rank' : Row → Nat} (crossing : Crossing left right)
    (sorted : left.Pairwise fun row row' => rank row ≤ rank row')
    (sorted' : right.Pairwise fun row row' => rank' row ≤ rank' row') :
    ∃ row row', row ≠ row' ∧ (row ∈ left ∧ row ∈ right) ∧ (row' ∈ left ∧ row' ∈ right) ∧
      rank row' ≤ rank row ∧ rank' row ≤ rank' row' := by
  obtain ⟨before, row, after, before', row', after', rfl, rfl, inside, inside', apart⟩ := crossing
  have lower : rank row' ≤ rank row :=
    (List.pairwise_append.mp sorted).2.2 row' inside' row List.mem_cons_self
  have upper : rank' row ≤ rank' row' :=
    (List.pairwise_append.mp sorted').2.2 row inside row' List.mem_cons_self
  have differs : row ≠ row' := by
    rintro rfl
    exact apart inside' inside
  refine ⟨row, row', differs, ⟨?_, ?_⟩, ⟨?_, ?_⟩, lower, upper⟩
  · exact List.mem_append_right _ List.mem_cons_self
  · exact List.mem_append_left _ inside
  · exact List.mem_append_left _ inside'
  · exact List.mem_append_right _ List.mem_cons_self

/-- Orders that respect one ranking do not cross if one of them has each rank once. -/
theorem not_crossing_of_ranked {rank : Row → Nat}
    (sorted : left.Pairwise fun row row' => rank row ≤ rank row')
    (sorted' : right.Pairwise fun row row' => rank row ≤ rank row')
    (single : ∀ row ∈ left, ∀ row' ∈ left, rank row = rank row' → row = row') :
    ¬ Crossing left right := by
  intro crossing
  obtain ⟨row, row', differs, shared, shared', lower, upper⟩ := crossing.opposed sorted sorted'
  exact differs (single row shared.1 row' shared'.1 (Nat.le_antisymm upper lower))

/-- A row that comes after every copy of another one in one order, and before it in an order
that starts with it, makes the orders cross. -/
theorem crossing_of_opposed [DecidableEq Row] {early late : List Row} {row row' : Row}
    {after : List Row} (order : left = early ++ late) (order' : right = row :: row' :: after)
    (absent : row ∉ early) (inside : row ∈ late) (inside' : row' ∈ early) :
    Crossing left right := by
  obtain ⟨between, rest, split, fresh⟩ := List.eq_append_cons_of_mem inside
  refine ⟨early ++ between, row, rest, [row], row', after, ?_, order', List.mem_cons_self,
    List.mem_append_left _ inside', ?_⟩
  · rw [order, split, List.append_assoc]
  · rw [List.disjoint_singleton, List.mem_append, not_or]
    exact ⟨absent, fresh⟩

end CrossPatch.Library.RowLocks
