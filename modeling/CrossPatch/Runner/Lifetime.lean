import CrossPatch.Library.Runs

/-!
# The lifetime of a worktree

`EphemeralWorktree` makes two directories in a worker thread and takes them away in
another one.  Cancelling the wait for the first thread does not stop it, so the two
threads are stepped against each other here.  The operating system may refuse the
preparation anything; the clean-up is refused only what the other thread has spoilt.
-/

namespace CrossPatch.Runner.Lifetime

open CrossPatch.Library.Runs

/-! ## Directories and fields -/

inductive Place where
  | job
  | workspace
deriving DecidableEq

/-- What a directory holds, and whether its owner may take entries out of it. -/
structure Folder where
  entries : List String
  writable : Bool

def Folder.add (folder : Folder) (name : String) : Folder :=
  if name ∈ folder.entries then folder else { folder with entries := folder.entries ++ [name] }

def Folder.drop (folder : Folder) (name : String) : Folder :=
  { folder with entries := folder.entries.erase name }

/-- The fields `_job_root` and `_workspace_root`, and the directories made for them. -/
structure Holdings where
  held : Place → Bool
  disk : Place → Option Folder

namespace Holdings

def empty : Holdings := ⟨fun _ => false, fun _ => none⟩

def put (holdings : Holdings) (place : Place) (folder : Option Folder) : Holdings :=
  { holdings with disk := Function.update holdings.disk place folder }

def mark (holdings : Holdings) (place : Place) (value : Bool) : Holdings :=
  { holdings with held := Function.update holdings.held place value }

variable (holdings : Holdings) (place : Place) (folder : Option Folder)

@[simp]
theorem disk_put_self : (holdings.put place folder).disk place = folder :=
  Function.update_self ..

theorem disk_put_other {other : Place} (differs : other ≠ place) :
    (holdings.put place folder).disk other = holdings.disk other :=
  Function.update_of_ne differs ..

end Holdings

/-! ## The preparation -/

/-- What a file of the patched tree is after `git apply`. -/
inductive Change where
  | written (name : String)
  | removed (name : String)

inductive Instruction where
  /-- A check, a read or a Git command that leaves both directories alone. -/
  | outside
  | create (place : Place)
  | assign (place : Place)
  /-- `self._job_root / name` and `self._job_root.chmod` need the field. -/
  | locate
  | chmod (place : Place)
  | write (name : String)
  /-- A member of the archive: its parents are made when they are missing. -/
  | unpack (name : String)
  | unlink (name : String)
  | patch (change : Change)
  | sealTree

def creation : List Instruction :=
  [.outside, .create .job, .assign .job, .locate, .chmod .job,
    .create .workspace, .assign .workspace, .chmod .workspace]

def materialization (members : List String) : List Instruction :=
  .outside :: .outside :: .outside :: .locate :: .write "base.tar" :: .outside ::
    members.map Instruction.unpack

def application (changes : List Change) : List Instruction :=
  .unlink "base.tar" :: .outside :: .locate :: .write "approved.patch" ::
    changes.map Instruction.patch

def sealing : List Instruction :=
  [.outside, .outside, .locate, .write "candidate-context.json", .sealTree]

/-- `_prepare`, for an archive with the given members and a patch with the given changes. -/
def prepare (members : List String) (changes : List Change) : List Instruction :=
  creation ++ (materialization members ++ (application changes ++ sealing))

/-- The effect of an instruction, unless it raises in this state. -/
def perform (holdings : Holdings) : Instruction → Option Holdings
  | .outside => some holdings
  | .create place => some (holdings.put place (some ⟨[], true⟩))
  | .assign place => some (holdings.mark place true)
  | .locate => if holdings.held .job then some holdings else none
  | .chmod place => if (holdings.disk place).isSome then some holdings else none
  | .write name => do
      let folder ← holdings.disk .job
      some (holdings.put .job (some (folder.add name)))
  | .unpack name =>
      let folder := (holdings.disk .workspace).getD ⟨[], true⟩
      some (holdings.put .workspace (some (folder.add name)))
  | .unlink name => do
      let folder ← holdings.disk .job
      if name ∈ folder.entries then some (holdings.put .job (some (folder.drop name))) else none
  | .patch (.written name) => do
      let folder ← holdings.disk .workspace
      some (holdings.put .workspace (some (folder.add name)))
  | .patch (.removed name) => do
      let folder ← holdings.disk .workspace
      some (holdings.put .workspace (some (folder.drop name)))
  | .sealTree => do
      let folder ← holdings.disk .workspace
      some (holdings.put .workspace (some { folder with writable := false }))

/-- Whether an instruction succeeds, fails at once, or fails after its effect. -/
inductive Outcome where
  | done
  | failed
  | torn

/-- The holdings after an instruction, and whether the thread goes on.  Assigning a field
does not fail, and a directory that could not be made is not there. -/
def attempt (holdings : Holdings) (instruction : Instruction) (outcome : Outcome) :
    Holdings × Bool :=
  match instruction, outcome with
  | .assign place, _ => (holdings.mark place true, true)
  | .create _, .failed | .create _, .torn => (holdings, false)
  | instruction, .done =>
      match perform holdings instruction with
      | some next => (next, true)
      | none => (holdings, false)
  | _, .failed => (holdings, false)
  | instruction, .torn => ((perform holdings instruction).getD holdings, false)

/-! ## The clean-up -/

inductive Cleaner where
  | checking
  | readingWorkspace
  | readingJob (roots : List Place)
  | droppingWorkspace (roots : List Place)
  | droppingJob (roots : List Place)
  | visiting (roots : List Place)
  | opening (place : Place) (rest : List Place)
  | sweeping (place : Place) (names : List String) (rest : List Place)
  | finished
deriving DecidableEq

/-- One step of `_cleanup`.  `rmtree` unlinks the names it has read and then removes the
directory, which has to be empty by then. -/
def clean (holdings : Holdings) : Cleaner → Cleaner × Holdings
  | .checking => (if holdings.held .job then .readingWorkspace else .finished, holdings)
  | .readingWorkspace =>
      (.readingJob (if holdings.held .workspace then [.workspace] else []), holdings)
  | .readingJob roots =>
      (.droppingWorkspace (roots ++ if holdings.held .job then [.job] else []), holdings)
  | .droppingWorkspace roots => (.droppingJob roots, holdings.mark .workspace false)
  | .droppingJob roots => (.visiting roots, holdings.mark .job false)
  | .visiting [] => (.finished, holdings)
  | .visiting (place :: rest) =>
      (if (holdings.disk place).isSome then .opening place rest else .visiting rest, holdings)
  | .opening place rest =>
      match holdings.disk place with
      | some folder =>
          (.sweeping place folder.entries rest,
            holdings.put place (some { folder with writable := true }))
      | none => (.finished, holdings)
  | .sweeping place [] rest =>
      match holdings.disk place with
      | some folder =>
          if folder.entries = [] then (.visiting rest, holdings.put place none)
          else (.finished, holdings)
      | none => (.finished, holdings)
  | .sweeping place (name :: names) rest =>
      match holdings.disk place with
      | some folder =>
          if folder.writable ∧ name ∈ folder.entries then
            (.sweeping place names rest, holdings.put place (some (folder.drop name)))
          else (.finished, holdings)
      | none => (.finished, holdings)
  | .finished => (.finished, holdings)

/-! ## The block -/

/-- The thread that runs `_prepare`: a queued call can still be withdrawn. -/
inductive Worker where
  | queued
  | running (todo : List Instruction)
  | ended (returned : Bool)

inductive Phase where
  | entering
  | inside
  | leaving (cleaner : Cleaner)
deriving DecidableEq

structure State where
  holdings : Holdings
  worker : Worker
  phase : Phase

def State.start : State := ⟨.empty, .queued, .entering⟩

inductive Action where
  | begin
  /-- The cancelled call had not begun and is taken out of the queue. -/
  | withdraw
  | work (outcome : Outcome)
  /-- The block sees that the thread has returned or raised. -/
  | resume
  /-- Cancellation while the block waits for the thread. -/
  | cancel
  /-- The body returns, raises or is cancelled. -/
  | leave
  | clean

section Block

variable (members : List String) (changes : List Change)

def step (state : State) : Action → State
  | .begin =>
      match state.worker with
      | .queued => { state with worker := .running (prepare members changes) }
      | _ => state
  | .withdraw =>
      match state.worker, state.phase with
      | .queued, .leaving _ => { state with worker := .ended false }
      | _, _ => state
  | .work outcome =>
      match state.worker with
      | .running (instruction :: todo) =>
          let (holdings, goesOn) := attempt state.holdings instruction outcome
          { state with
            holdings := holdings
            worker := if goesOn then .running todo else .ended false }
      | .running [] => { state with worker := .ended true }
      | _ => state
  | .resume =>
      match state.worker, state.phase with
      | .ended true, .entering => { state with phase := .inside }
      | .ended false, .entering => { state with phase := .leaving .checking }
      | _, _ => state
  | .cancel =>
      match state.phase with
      | .entering => { state with phase := .leaving .checking }
      | _ => state
  | .leave =>
      match state.phase with
      | .inside => { state with phase := .leaving .checking }
      | _ => state
  | .clean =>
      match state.phase with
      | .leaving cleaner =>
          let (cleaner, holdings) := clean state.holdings cleaner
          { state with holdings := holdings, phase := .leaving cleaner }
      | _ => state

/-- One use of the worktree in an `async with` block. -/
def block : Machine State Action Empty := ⟨fun state action => (step members changes state action, [])⟩

end Block

/-- The block has been left and its thread has ended. -/
def Finished (state : State) : Prop :=
  state.phase = .leaving .finished ∧ ∃ returned, state.worker = .ended returned

/-- Neither directory is left. -/
def Removed (state : State) : Prop := ∀ place, state.holdings.disk place = none

def Worker.isRunning : Worker → Bool
  | .running _ => true
  | _ => false

/-- The preparation is not at work when the clean-up starts, and does not begin after the
block has given up waiting for it. -/
def Sequential (state : State) : Action → Prop
  | .clean => state.phase = .leaving .checking → state.worker.isRunning = false
  | .begin => state.phase = .entering
  | _ => True

instance (state : State) : ∀ action, Decidable (Sequential state action)
  | .clean => inferInstanceAs (Decidable (_ → _))
  | .begin => inferInstanceAs (Decidable (_ = _))
  | .withdraw | .work _ | .resume | .cancel | .leave => inferInstanceAs (Decidable True)

/-! ## What the preparation leaves to the clean-up -/

/-- The fields name every directory there is, and the clean-up will look at them. -/
def Owned (holdings : Holdings) : Prop :=
  (∀ place, holdings.disk place ≠ none → holdings.held place = true) ∧
    (holdings.held .workspace = true → holdings.held .job = true)

/-- However the thread goes on, it ends with holdings that the fields name. -/
def Safe : List Instruction → Holdings → Prop
  | [], holdings => Owned holdings
  | instruction :: todo, holdings =>
      ∀ outcome, if (attempt holdings instruction outcome).2 = true then
        Safe todo (attempt holdings instruction outcome).1
      else Owned (attempt holdings instruction outcome).1

section Preparation

variable {holdings : Holdings} {todo : List Instruction}

theorem safe_create {place : Place} (owned : Owned holdings)
    (made : Safe todo (holdings.put place (some ⟨[], true⟩))) :
    Safe (.create place :: todo) holdings := by
  intro outcome
  cases outcome with
  | done => exact made
  | failed => exact owned
  | torn => exact owned

theorem safe_assign {place : Place} (assigned : Safe todo (holdings.mark place true)) :
    Safe (.assign place :: todo) holdings := by
  intro outcome
  cases outcome <;> exact assigned

/-- An instruction that only looks leaves the holdings as they are. -/
inductive Looks : Instruction → Prop where
  | outside : Looks .outside
  | locate : Looks .locate
  | chmod (place : Place) : Looks (.chmod place)

theorem safe_look {instruction : Instruction} (looks : Looks instruction)
    (owned : Owned holdings) (safe : Safe todo holdings) :
    Safe (instruction :: todo) holdings := by
  have unchanged : ∀ outcome, (attempt holdings instruction outcome).1 = holdings := by
    intro outcome
    cases looks with
    | outside => cases outcome <;> rfl
    | locate =>
        cases outcome <;> simp only [attempt, perform] <;> split <;> simp_all
    | chmod place =>
        cases outcome <;> simp only [attempt, perform] <;> split <;> simp_all
  intro outcome
  rw [unchanged]
  split
  · exact safe
  · exact owned

/-- Instructions after both fields have been assigned. -/
def Later : Instruction → Prop
  | .create _ | .assign _ => False
  | _ => True

/-- Both fields are set. -/
def Holds (holdings : Holdings) : Prop := ∀ place, holdings.held place = true

theorem Holds.owned (holds : Holds holdings) : Owned holdings :=
  ⟨fun place _ => holds place, fun _ => holds .job⟩

theorem perform_held {instruction : Instruction} {next : Holdings} (later : Later instruction)
    (performed : perform holdings instruction = some next) : next.held = holdings.held := by
  cases instruction with
  | create place => cases later
  | assign place => cases later
  | outside =>
      cases performed
      rfl
  | locate =>
      rw [perform] at performed
      split at performed
      · cases performed
        rfl
      · cases performed
  | chmod place =>
      rw [perform] at performed
      split at performed
      · cases performed
        rfl
      · cases performed
  | write name =>
      obtain ⟨folder, _, put⟩ := Option.bind_eq_some_iff.mp performed
      cases put
      rfl
  | unpack name =>
      cases performed
      rfl
  | unlink name =>
      obtain ⟨folder, _, put⟩ := Option.bind_eq_some_iff.mp performed
      split at put
      · cases put
        rfl
      · cases put
  | patch change =>
      cases change with
      | written name =>
          obtain ⟨folder, _, put⟩ := Option.bind_eq_some_iff.mp performed
          cases put
          rfl
      | removed name =>
          obtain ⟨folder, _, put⟩ := Option.bind_eq_some_iff.mp performed
          cases put
          rfl
  | sealTree =>
      obtain ⟨folder, _, put⟩ := Option.bind_eq_some_iff.mp performed
      cases put
      rfl

theorem attempt_held {instruction : Instruction} (later : Later instruction) (outcome : Outcome) :
    (attempt holdings instruction outcome).1.held = holdings.held := by
  have performed := @perform_held holdings instruction
  cases outcome with
  | done =>
      cases answer : perform holdings instruction with
      | none => cases instruction <;> simp_all [attempt, Later]
      | some next => cases instruction <;> simp_all [attempt, Later]
  | failed => cases instruction <;> simp_all [attempt, Later]
  | torn =>
      cases answer : perform holdings instruction with
      | none => cases instruction <;> simp_all [attempt, Later]
      | some next => cases instruction <;> simp_all [attempt, Later]

theorem safe_later (later : ∀ instruction ∈ todo, Later instruction) (holds : Holds holdings) :
    Safe todo holdings := by
  induction todo generalizing holdings with
  | nil => exact holds.owned
  | cons instruction todo ih =>
      obtain ⟨first, others⟩ := List.forall_mem_cons.mp later
      intro outcome
      have still : Holds (attempt holdings instruction outcome).1 := by
        intro place
        rw [attempt_held first]
        exact holds place
      split
      · exact ih others still
      · exact still.owned

theorem owned_empty : Owned .empty := ⟨fun _ made => absurd rfl made, fun held => nomatch held⟩

theorem safe_prepare (members : List String) (changes : List Change) :
    Safe (prepare members changes) .empty := by
  apply safe_look .outside owned_empty
  apply safe_create owned_empty
  apply safe_assign
  have first : Owned ((Holdings.empty.put .job (some ⟨[], true⟩)).mark .job true) := by
    constructor
    · intro place
      cases place with
      | job => exact fun _ => rfl
      | workspace => exact fun made => absurd rfl made
    · exact fun _ => rfl
  apply safe_look .locate first
  apply safe_look (.chmod .job) first
  apply safe_create first
  apply safe_assign
  apply safe_later
  · simp [materialization, application, sealing, or_imp, forall_and, Later]
  · intro place
    cases place <;> rfl

end Preparation

/-! ## The clean-up on its own -/

/-- Every directory that is left is one of those still to be taken away. -/
def Covered (roots : List Place) (holdings : Holdings) : Prop :=
  ∀ place, holdings.disk place ≠ none → place ∈ roots

/-- What holds between the steps of a clean-up that no other thread disturbs. -/
def Clearing (holdings : Holdings) : Cleaner → Prop
  | .checking => Owned holdings
  | .readingWorkspace => Owned holdings ∧ holdings.held .job = true
  | .readingJob roots =>
      holdings.held .job = true ∧ (holdings.disk .workspace ≠ none → .workspace ∈ roots)
  | .droppingWorkspace roots | .droppingJob roots | .visiting roots => Covered roots holdings
  | .opening place rest => Covered (place :: rest) holdings ∧ holdings.disk place ≠ none
  | .sweeping place names rest =>
      Covered (place :: rest) holdings ∧ holdings.disk place = some ⟨names, true⟩
  | .finished => ∀ place, holdings.disk place = none

section CleanUp

variable {holdings : Holdings}

theorem covered_put {place : Place} {rest : List Place} {folder : Option Folder}
    (covered : Covered (place :: rest) holdings) :
    Covered (place :: rest) (holdings.put place folder) := by
  intro other made
  by_cases same : other = place
  · rw [same]
    exact List.mem_cons_self
  · rw [Holdings.disk_put_other _ _ _ same] at made
    exact covered other made

theorem covered_remove {place : Place} {rest : List Place}
    (covered : Covered (place :: rest) holdings) : Covered rest (holdings.put place none) := by
  intro other made
  by_cases same : other = place
  · rw [same, Holdings.disk_put_self] at made
    exact absurd rfl made
  · rw [Holdings.disk_put_other _ _ _ same] at made
    obtain same' | member := List.mem_cons.mp (covered other made)
    · exact absurd same' same
    · exact member

/-- One step of an undisturbed clean-up. -/
theorem clean_clearing {cleaner : Cleaner} (clearing : Clearing holdings cleaner) :
    Clearing (clean holdings cleaner).2 (clean holdings cleaner).1 := by
  cases cleaner with
  | checking =>
      obtain ⟨named, nested⟩ := clearing
      rw [clean]
      split
      · rename_i held
        exact ⟨⟨named, nested⟩, held⟩
      · rename_i unheld
        intro place
        by_contra made
        have held := named place made
        cases place with
        | job => exact unheld held
        | workspace => exact unheld (nested held)
  | readingWorkspace =>
      obtain ⟨⟨named, _⟩, held⟩ := clearing
      refine ⟨held, ?_⟩
      intro made
      rw [if_pos (named .workspace made)]
      exact List.mem_singleton_self _
  | readingJob roots =>
      obtain ⟨held, covered⟩ := clearing
      intro place made
      rw [if_pos held]
      cases place with
      | job => exact List.mem_append_right _ (List.mem_singleton_self _)
      | workspace => exact List.mem_append_left _ (covered made)
  | droppingWorkspace roots => exact clearing
  | droppingJob roots => exact clearing
  | visiting roots =>
      cases roots with
      | nil =>
          intro place
          by_contra made
          exact List.not_mem_nil (clearing place made)
      | cons place rest =>
          rw [clean]
          split
          · rename_i made
            exact ⟨clearing, Option.isSome_iff_ne_none.mp made⟩
          · rename_i unmade
            intro other made
            obtain rfl | member := List.mem_cons.mp (clearing other made)
            · exact absurd (Option.isSome_iff_ne_none.mpr made) unmade
            · exact member
  | opening place rest =>
      obtain ⟨covered, made⟩ := clearing
      obtain ⟨folder, present⟩ := Option.ne_none_iff_exists'.mp made
      rw [clean, present]
      exact ⟨covered_put covered, Function.update_self ..⟩
  | sweeping place names rest =>
      obtain ⟨covered, present⟩ := clearing
      cases names with
      | nil =>
          rw [clean, present]
          exact covered_remove covered
      | cons name names =>
          rw [clean, present]
          dsimp only
          rw [if_pos ⟨rfl, List.mem_cons_self⟩]
          refine ⟨covered_put covered, ?_⟩
          rw [Holdings.disk_put_self, Folder.drop, List.erase_cons_head]
  | finished => exact clearing

end CleanUp

/-! ## Runs -/

/-- What the clean-up finds, or has left, when no preparation is at work. -/
def Settled (holdings : Holdings) : Phase → Prop
  | .entering | .inside => Owned holdings
  | .leaving cleaner => Clearing holdings cleaner

/-- What holds in every state of a sequential run. -/
structure Orderly (state : State) : Prop where
  queued : state.worker = .queued → state.holdings = .empty ∧
    (state.phase = .entering ∨ state.phase = .leaving .checking ∨ state.phase = .leaving .finished)
  running : ∀ todo, state.worker = .running todo → Safe todo state.holdings ∧
    (state.phase = .entering ∨ state.phase = .leaving .checking)
  ended : ∀ returned, state.worker = .ended returned → Settled state.holdings state.phase

theorem orderly_start : Orderly .start where
  queued _ := ⟨rfl, .inl rfl⟩
  running _ running := by cases running
  ended _ ended := by cases ended

variable {members : List String} {changes : List Change} {state : State}

theorem orderly_begin (orderly : Orderly state) (entering : state.phase = .entering) :
    Orderly (step members changes state .begin) := by
  rw [step]
  split
  · rename_i queued
    obtain ⟨fresh, _⟩ := orderly.queued queued
    constructor
    case queued => exact fun still => by cases still
    case running =>
      intro todo running
      cases running
      rw [fresh]
      exact ⟨safe_prepare members changes, .inl entering⟩
    case ended => exact fun _ ended => by cases ended
  · exact orderly

theorem orderly_withdraw (orderly : Orderly state) :
    Orderly (step members changes state .withdraw) := by
  rw [step]
  split
  · rename_i cleaner queued left
    obtain ⟨fresh, phase⟩ := orderly.queued queued
    constructor
    case queued => exact fun still => by cases still
    case running => exact fun _ running => by cases running
    case ended =>
      intro returned _
      dsimp only
      rw [fresh]
      obtain entering | checking | finished := phase
      · rw [left] at entering
        cases entering
      · rw [checking]
        exact owned_empty
      · rw [finished]
        exact fun _ => rfl
  · exact orderly

/-- Before the clean-up, owned holdings are all that is asked of an ended thread. -/
theorem settled_of_owned {holdings : Holdings} {phase : Phase} (owned : Owned holdings)
    (early : phase = .entering ∨ phase = .leaving .checking) : Settled holdings phase := by
  obtain rfl | rfl := early
  · exact owned
  · exact owned

theorem orderly_work (orderly : Orderly state) (outcome : Outcome) :
    Orderly (step members changes state (.work outcome)) := by
  rw [step]
  split
  · rename_i instruction todo running
    obtain ⟨safe, early⟩ := orderly.running _ running
    have after := safe outcome
    cases goesOn : (attempt state.holdings instruction outcome).2 with
    | true =>
        rw [if_pos goesOn] at after
        constructor
        case queued => exact fun still => by simp [goesOn] at still
        case running =>
          intro later still
          simp only [goesOn, if_true, Worker.running.injEq] at still
          rw [← still]
          exact ⟨after, early⟩
        case ended => exact fun _ ended => by simp [goesOn] at ended
    | false =>
        rw [if_neg (by rw [goesOn]; exact Bool.false_ne_true)] at after
        constructor
        case queued => exact fun still => by simp [goesOn] at still
        case running => exact fun _ still => by simp [goesOn] at still
        case ended => exact fun _ _ => settled_of_owned after early
  · rename_i running
    obtain ⟨safe, early⟩ := orderly.running _ running
    constructor
    case queued => exact fun still => by cases still
    case running => exact fun _ still => by cases still
    case ended => exact fun _ _ => settled_of_owned safe early
  · exact orderly

theorem orderly_resume (orderly : Orderly state) :
    Orderly (step members changes state .resume) := by
  rw [step]
  split
  · rename_i ended entering
    have settled := orderly.ended _ ended
    rw [entering] at settled
    constructor
    case queued => exact fun queued => by rw [ended] at queued; cases queued
    case running => exact fun _ running => by rw [ended] at running; cases running
    case ended => exact fun _ _ => settled
  · rename_i ended entering
    have settled := orderly.ended _ ended
    rw [entering] at settled
    constructor
    case queued => exact fun queued => by rw [ended] at queued; cases queued
    case running => exact fun _ running => by rw [ended] at running; cases running
    case ended => exact fun _ _ => settled
  · exact orderly

theorem orderly_cancel (orderly : Orderly state) :
    Orderly (step members changes state .cancel) := by
  rw [step]
  split
  · rename_i entering
    constructor
    case queued => exact fun queued => ⟨(orderly.queued queued).1, .inr (.inl rfl)⟩
    case running => exact fun todo running => ⟨(orderly.running todo running).1, .inr rfl⟩
    case ended =>
      intro returned ended
      have settled := orderly.ended returned ended
      rw [entering] at settled
      exact settled
  · exact orderly

theorem orderly_leave (orderly : Orderly state) :
    Orderly (step members changes state .leave) := by
  rw [step]
  split
  · rename_i inside
    constructor
    case queued =>
      intro queued
      obtain ⟨_, phase⟩ := orderly.queued queued
      rw [inside] at phase
      rcases phase with phase | phase | phase <;> cases phase
    case running =>
      intro todo running
      obtain ⟨_, phase⟩ := orderly.running todo running
      rw [inside] at phase
      rcases phase with phase | phase <;> cases phase
    case ended =>
      intro returned ended
      have settled := orderly.ended returned ended
      rw [inside] at settled
      exact settled
  · exact orderly

theorem orderly_clean (orderly : Orderly state)
    (alone : state.phase = .leaving .checking → state.worker.isRunning = false) :
    Orderly (step members changes state .clean) := by
  rw [step]
  split
  · rename_i cleaner left
    constructor
    case queued =>
      intro queued
      obtain ⟨fresh, phase⟩ := orderly.queued queued
      dsimp only
      rw [fresh]
      rw [left] at phase
      obtain entering | checking | finished := phase
      · cases entering
      · cases checking
        exact ⟨rfl, .inr (.inr rfl)⟩
      · cases finished
        exact ⟨rfl, .inr (.inr rfl)⟩
    case running =>
      intro todo running
      obtain ⟨_, phase⟩ := orderly.running todo running
      obtain entering | checking := phase
      · rw [left] at entering
        cases entering
      · have stopped := alone checking
        rw [running] at stopped
        cases stopped
    case ended =>
      intro returned ended
      have settled := orderly.ended returned ended
      rw [left] at settled
      exact clean_clearing settled
  · exact orderly

theorem orderly_step {action : Action} (orderly : Orderly state)
    (sequential : Sequential state action) : Orderly (step members changes state action) := by
  cases action with
  | begin => exact orderly_begin orderly sequential
  | withdraw => exact orderly_withdraw orderly
  | work outcome => exact orderly_work orderly outcome
  | resume => exact orderly_resume orderly
  | cancel => exact orderly_cancel orderly
  | leave => exact orderly_leave orderly
  | clean => exact orderly_clean orderly sequential

/-- A sequential run that has finished leaves neither directory. -/
theorem removed_of_sequential (members : List String) (changes : List Change)
    (actions : List Action)
    (sequential : (block members changes).Follows Sequential .start actions)
    (finished : Finished ((block members changes).run .start actions)) :
    Removed ((block members changes).run .start actions) := by
  have orderly : Orderly ((block members changes).run .start actions) :=
    (block members changes).run_invariant_of_follows Orderly
      (fun _ _ allowed before => orderly_step before allowed) orderly_start sequential
  obtain ⟨left, returned, ended⟩ := finished
  have settled := orderly.ended returned ended
  rw [left] at settled
  exact settled

/-- A use without failures: every instruction succeeds and the body returns. -/
def usual (members : List String) (changes : List Change) : List Action :=
  let work := List.replicate ((prepare members changes).length + 1) (Action.work .done)
  .begin :: work ++ .resume :: .leave :: List.replicate 20 Action.clean

theorem removed_usual :
    Removed ((block ["app.py"] [.written "app.py"]).run .start
      (usual ["app.py"] [.written "app.py"])) :=
  removed_of_sequential _ _ _ (by decide) ⟨rfl, true, rfl⟩

/-- Cancelled after the job directory has been made and before the field names it: the
clean-up finds nothing to do, and both directories stay. -/
def early : List Action :=
  .begin :: .work .done :: .work .done :: .cancel :: .clean ::
    List.replicate 40 (Action.work .done)

theorem early_stays :
    Finished ((block ["app.py"] [.written "app.py"]).run .start early) ∧
      ∀ place, ((block ["app.py"] [.written "app.py"]).run .start early).holdings.disk place ≠
        none := by
  refine ⟨⟨rfl, true, rfl⟩, ?_⟩
  intro place
  cases place with
  | job => exact nofun
  | workspace => exact nofun

end CrossPatch.Runner.Lifetime
