import CrossPatch.Runner.Sidecar

/-!
# The lifecycle of a handed-over workspace

A returned attempt comes from the boot that the call has seen before, and that boot is no
longer the one that answers.  While a call waits for its answer, its workspace is the only
one in the root.  The sidecar itself may still serve the request of an earlier call then,
namely when that call has given up before its boot was gone.
-/

namespace CrossPatch.Runner.Handoff

open CrossPatch.Domain.Failure CrossPatch.Domain.Hashing CrossPatch.Domain.Text
open CrossPatch.Library.Attempt CrossPatch.Library.Octets CrossPatch.Library.Runs
open CrossPatch.Library.Sha256
open CrossPatch.Runner.Catalog CrossPatch.Runner.Sidecar

variable {config : Config} {number : Nat} {shared : Shared} {call : Call}

/-! ## One step of a call -/

/-- The phases in which the call holds the file lock. -/
def critical : Phase → Bool
  | .preflight | .clearing _ | .copying | .posting | .replacing | .cleaning _ | .unlocking _ => true
  | _ => false

def Call.at (call : Call) (phase : Phase) : Call := { call with phase := phase }

/-- Everything that a call can do in one step. -/
inductive Advance (config : Config) (number : Nat) (shared : Shared) (call : Call) (move : Move) :
    Call → Shared → List Event → Prop where
  | enter (phase : call.phase = .waiting) :
      Advance config number shared call move (Call.at call .locking)
        { shared with inside := Function.update shared.inside call.executor (some number) } []
  | lock (phase : call.phase = .locking) (free : shared.flock = none) :
      Advance config number shared call move (Call.at call .preflight)
        { shared with flock := some number } []
  | preflight (phase : call.phase = .preflight) (sent : Sent) (delivered : move = .receive sent)
      (health : Health) (received : receiveHealth config sent.message = .ok health) :
      Advance config number shared call move
        { call with before := some health, phase := .clearing shared.root } shared
        [.preflight number sent]
  | raised (phase : critical call.phase = true) (error : Raised) :
      Advance config number shared call move (Call.at call (.cleaning (.error error))) shared []
  | remove (entry : Entry) (rest : List Entry) (phase : call.phase = .clearing (entry :: rest)) :
      Advance config number shared call move (Call.at call (.clearing rest))
        { shared with root := shared.root.erase entry } []
  | copy (phase : call.phase = .clearing []) :
      Advance config number shared call move (Call.at call .copying)
        { shared with root := shared.root ++ [⟨call.runtimeId, true, false⟩] } []
  | post (phase : call.phase = .copying) :
      Advance config number shared call move { call with staged := true, phase := .posting }
        { shared with
          root := shared.root.map fun entry =>
            if entry.name = call.runtimeId then { entry with isSealed := true } else entry
          requests := shared.requests ++ [call.request] } [.posted number call.request]
  | answer (phase : call.phase = .posting) (sent : Sent) (delivered : move = .receive sent)
      (response : Response) (received : parseResponse sent.message = .ok response) :
      Advance config number shared call move
        { call with parsed := some response, phase := .replacing } shared [.answered number sent]
  | lose (phase : call.phase = .posting) :
      Advance config number shared call move (Call.at call .replacing) shared []
  | observe (phase : call.phase = .replacing) (sent : Sent) (delivered : move = .receive sent)
      (health before : Health) (received : receiveHealth config sent.message = .ok health)
      (seen : call.before = some before) (replaced : health.bootId ≠ before.bootId) :
      Advance config number shared call move
        { call with
          replacement := some health
          phase := .cleaning (attemptOf config call health) } shared [.observed number sent]
  | clean (outcome : Outcome) (phase : call.phase = .cleaning outcome) :
      Advance config number shared call move (Call.at call (.unlocking outcome))
        { shared with
          root := if call.staged then
            shared.root.filter fun entry => entry.name != call.runtimeId else shared.root } []
  | spoil (outcome : Outcome) (phase : call.phase = .cleaning outcome) (error : Raised) :
      Advance config number shared call move (Call.at call (.unlocking (.error error))) shared []
  | unlock (outcome : Outcome) (phase : call.phase = .unlocking outcome) :
      Advance config number shared call move (Call.at call (.leaving outcome))
        { shared with flock := none } []
  | leave (outcome : Outcome) (phase : call.phase = .leaving outcome) :
      Advance config number shared call move (Call.at call (.returned outcome))
        { shared with inside := Function.update shared.inside call.executor none }
        (returning number outcome)

theorem callStep_advance {move : Move} {next : Call} {shared' : Shared} {events : List Event}
    (step : callStep config number shared call move = some (next, shared', events)) :
    Advance config number shared call move next shared' events := by
  unfold callStep at step
  split at step
  · rename_i phase
    split at step
    · cases step
      exact .enter phase
    · cases step
  · rename_i phase
    split at step
    · rename_i free
      cases step
      exact .lock phase free
    · cases step
  · rename_i sent phase
    split at step
    · rename_i health received
      cases step
      exact .preflight phase sent rfl health received
    · rename_i error _
      cases step
      exact .raised (by rw [phase]; rfl) error
  · rename_i error phase
    cases step
    exact .raised (by rw [phase]; rfl) error
  · rename_i entry rest phase
    split at step
    · cases step
      exact .remove entry rest phase
    · cases step
      exact .raised (by rw [phase]; rfl) _
  · rename_i phase
    cases step
    exact .copy phase
  · rename_i error phase
    cases step
    exact .raised (by rw [phase]; rfl) error
  · rename_i phase
    cases step
    exact .post phase
  · rename_i error phase
    cases step
    exact .raised (by rw [phase]; rfl) error
  · rename_i sent phase
    split at step
    · rename_i response received
      cases step
      exact .answer phase sent rfl response received
    · cases step
      exact .lose phase
  · rename_i phase
    cases step
    exact .lose phase
  · rename_i sent phase
    split at step
    · rename_i before seen
      unfold Sidecar.observe at step
      split at step
      · rename_i health received
        split at step
        · cases step
        · rename_i replaced
          cases step
          exact .observe phase sent rfl health before received seen replaced
      · cases step
    · cases step
  · rename_i phase
    cases step
    exact .raised (by rw [phase]; rfl) _
  · rename_i outcome phase
    cases step
    exact .clean outcome phase
  · rename_i outcome error phase
    cases step
    exact .spoil outcome phase error
  · rename_i outcome phase
    cases step
    exact .unlock outcome phase
  · rename_i outcome phase
    cases step
    exact .leave outcome phase
  · cases step

/-- What identifies a call stays. -/
theorem Advance.keeps {move : Move} {next : Call} {shared' : Shared} {events : List Event}
    (advance : Advance config number shared call move next shared' events) :
    next.runtimeId = call.runtimeId ∧ next.plan = call.plan ∧ next.request = call.request := by
  cases advance <;> exact ⟨rfl, rfl, rfl⟩

theorem Advance.requests {move : Move} {next : Call} {shared' : Shared} {events : List Event}
    (advance : Advance config number shared call move next shared' events) :
    ∀ request ∈ shared.requests, request ∈ shared'.requests := by
  intro request member
  cases advance with
  | post phase => exact List.mem_append_left _ member
  | _ => exact member

theorem Advance.requests_new {move : Move} {next : Call} {shared' : Shared} {events : List Event}
    (advance : Advance config number shared call move next shared' events) :
    ∀ request ∈ shared'.requests, request ∈ shared.requests ∨ request = next.request := by
  intro request member
  cases advance with
  | post phase =>
      rcases List.mem_append.mp member with old | new
      · exact Or.inl old
      · exact Or.inr (List.mem_singleton.mp new)
  | _ => exact Or.inl member

theorem Advance.own {move : Move} {next : Call} {shared' : Shared} {events : List Event}
    (advance : Advance config number shared call move next shared' events) :
    ∀ event ∈ events, event.number = number := by
  intro event member
  cases advance with
  | leave outcome phase =>
      cases outcome with
      | ok attempt => rw [List.mem_singleton.mp member, Event.number]
      | error error => cases member
  | preflight phase sent delivered health received => rw [List.mem_singleton.mp member, Event.number]
  | post phase => rw [List.mem_singleton.mp member, Event.number]
  | answer phase sent delivered response received => rw [List.mem_singleton.mp member, Event.number]
  | observe phase sent delivered health before received seen replaced =>
      rw [List.mem_singleton.mp member, Event.number]
  | _ => cases member

/-! ## The locks and the root -/

/-- What the holder of the file lock knows of the root. -/
def RootFor (root : List Entry) (call : Call) : Prop :=
  match call.phase with
  | .clearing entries => root = entries
  | .copying => root = [⟨call.runtimeId, true, false⟩]
  | .posting => root = [⟨call.runtimeId, true, true⟩]
  | _ => True

structure Exclusive (world : World) : Prop where
  holder : ∀ (number : Nat) (call : Call), world.calls[number]? = some call →
    critical call.phase = true → world.shared.flock = some number
  root : ∀ (number : Nat) (call : Call), world.calls[number]? = some call →
    RootFor world.shared.root call

theorem rootFor_of_not_critical {root : List Entry} (outside : critical call.phase = false) :
    RootFor root call := by
  unfold RootFor
  cases phase : call.phase with
  | clearing entries => rw [phase] at outside; cases outside
  | copying => rw [phase] at outside; cases outside
  | posting => rw [phase] at outside; cases outside
  | _ => trivial

/-- The holder of the lock knows the root after its step as well. -/
theorem Advance.rootFor {move : Move} {next : Call} {shared' : Shared} {events : List Event}
    (advance : Advance config number shared call move next shared' events)
    (known : RootFor shared.root call) : RootFor shared'.root next := by
  unfold RootFor at known
  cases advance with
  | remove entry rest phase =>
      rw [phase] at known
      have root : shared.root = entry :: rest := known
      change shared.root.erase entry = rest
      rw [root, List.erase_cons_head]
  | copy phase =>
      rw [phase] at known
      have root : shared.root = [] := known
      change shared.root ++ [_] = [_]
      rw [root, List.nil_append]
      rfl
  | post phase =>
      rw [phase] at known
      have root : shared.root = [⟨call.runtimeId, true, false⟩] := known
      change shared.root.map _ = [_]
      rw [root, List.map_singleton, if_pos rfl]
  | preflight phase sent delivered health received => exact rfl
  | enter phase => trivial
  | lock phase free => trivial
  | raised phase error => trivial
  | answer phase sent delivered response received => trivial
  | lose phase => trivial
  | observe phase sent delivered health before received seen replaced => trivial
  | clean outcome phase => trivial
  | spoil outcome phase error => trivial
  | unlock outcome phase => trivial
  | leave outcome phase => trivial

/-- Only the holder of the lock changes the root. -/
theorem Advance.root_eq {move : Move} {next : Call} {shared' : Shared} {events : List Event}
    (advance : Advance config number shared call move next shared' events)
    (outside : critical call.phase = false) : shared'.root = shared.root := by
  cases advance with
  | remove entry rest phase => rw [phase] at outside; cases outside
  | copy phase => rw [phase] at outside; cases outside
  | post phase => rw [phase] at outside; cases outside
  | clean outcome phase => rw [phase] at outside; cases outside
  | _ => rfl

/-- A step keeps the lock unless it takes the free lock or gives its own back. -/
theorem Advance.flock {move : Move} {next : Call} {shared' : Shared} {events : List Event}
    (advance : Advance config number shared call move next shared' events) :
    (shared'.flock = shared.flock ∧ critical next.phase = critical call.phase) ∨
    (shared.flock = none ∧ shared'.flock = some number) ∨
    (critical call.phase = true ∧ critical next.phase = false ∧ shared'.flock = none) := by
  cases advance with
  | enter phase => exact Or.inl ⟨rfl, by rw [phase]; rfl⟩
  | lock phase free => exact Or.inr (Or.inl ⟨free, rfl⟩)
  | preflight phase sent delivered health received => exact Or.inl ⟨rfl, by rw [phase]; rfl⟩
  | raised phase error => exact Or.inl ⟨rfl, by rw [phase]; rfl⟩
  | remove entry rest phase => exact Or.inl ⟨rfl, by rw [phase]; rfl⟩
  | copy phase => exact Or.inl ⟨rfl, by rw [phase]; rfl⟩
  | post phase => exact Or.inl ⟨rfl, by rw [phase]; rfl⟩
  | answer phase sent delivered response received => exact Or.inl ⟨rfl, by rw [phase]; rfl⟩
  | lose phase => exact Or.inl ⟨rfl, by rw [phase]; rfl⟩
  | observe phase sent delivered health before received seen replaced =>
      exact Or.inl ⟨rfl, by rw [phase]; rfl⟩
  | clean outcome phase => exact Or.inl ⟨rfl, by rw [phase]; rfl⟩
  | spoil outcome phase error => exact Or.inl ⟨rfl, by rw [phase]; rfl⟩
  | unlock outcome phase => exact Or.inr (Or.inr ⟨by rw [phase]; rfl, rfl, rfl⟩)
  | leave outcome phase => exact Or.inl ⟨rfl, by rw [phase]; rfl⟩

variable {world : World}

theorem calls_set {calls : List Call} {next current : Call} {other : Nat}
    (listed : (calls.set number next)[other]? = some current) :
    (other = number ∧ current = next) ∨ (other ≠ number ∧ calls[other]? = some current) := by
  rw [List.getElem?_set] at listed
  split at listed
  · rename_i same
    split at listed
    · cases listed
      exact Or.inl ⟨same.symm, rfl⟩
    · cases listed
  · rename_i differs
    exact Or.inr ⟨Ne.symm differs, listed⟩

theorem calls_append {calls : List Call} {new current : Call} {number : Nat}
    (listed : (calls ++ [new])[number]? = some current) :
    (number = calls.length ∧ current = new) ∨ calls[number]? = some current := by
  rw [List.getElem?_append] at listed
  split at listed
  · exact Or.inr listed
  · rename_i later
    cases position : number - calls.length with
    | zero =>
        rw [position, List.getElem?_cons_zero, Option.some.injEq] at listed
        exact Or.inl ⟨by omega, listed.symm⟩
    | succ rest =>
        rw [position, List.getElem?_cons_succ] at listed
        cases listed

/-- A new call, with its runtime identifier not drawn before. -/
def Fresh (world : World) (call : Call) : Prop :=
  (∀ other ∈ world.calls, other.runtimeId ≠ call.runtimeId) ∧
  call.parsed = none ∧ critical call.phase = false ∧
    (call.phase = .waiting ∨ ∃ error, call.phase = .returned (.error error))

/-- Everything that an action can do. -/
theorem step_cases (world : World) (config : Config) (action : Action) :
    world.step config action = (world, []) ∨
    (∃ duty, world.step config action =
      ({ world with service := serviceStep config world.shared world.service duty }, [])) ∨
    (∃ call, Fresh world call ∧
      world.step config action = ({ world with calls := world.calls ++ [call] }, [])) ∨
    (∃ number move call next shared events, world.calls[number]? = some call ∧
      (∀ sent, move = .receive sent → sent ∈ world.service.sent) ∧
      Advance config number world.shared call move next shared events ∧
      world.step config action =
        ({ world with calls := world.calls.set number next, shared := shared }, events)) := by
  cases action with
  | execute executor plan environment source runtimeId =>
      simp only [World.step]
      split
      · exact Or.inl rfl
      · rename_i fresh
        refine Or.inr (Or.inr (Or.inl
          ⟨newCall executor plan environment source runtimeId, ⟨?_, rfl, ?_⟩, rfl⟩))
        · change ∀ other ∈ world.calls, other.runtimeId ≠ runtimeId
          simpa using fresh
        · unfold newCall
          dsimp only
          split
          · exact ⟨rfl, Or.inl rfl⟩
          · exact ⟨rfl, Or.inr ⟨_, rfl⟩⟩
  | move number move =>
      simp only [World.step]
      cases found : world.calls[number]? with
      | none => exact Or.inl rfl
      | some call =>
          dsimp only
          split
          · rename_i delivered
            cases step : callStep config number world.shared call move with
            | none => exact Or.inl rfl
            | some reached =>
                obtain ⟨next, shared, events⟩ := reached
                refine Or.inr (Or.inr (Or.inr ⟨number, move, call, next, shared, events, found, ?_,
                  callStep_advance step, rfl⟩))
                rintro sent rfl
                simpa [Move.delivers] using delivered
          · exact Or.inl rfl
  | duty duty => exact Or.inr (Or.inl ⟨duty, rfl⟩)

theorem Exclusive.advance (exclusive : Exclusive world) {move : Move} {next : Call}
    {shared' : Shared} {events : List Event} (found : world.calls[number]? = some call)
    (advance : Advance config number world.shared call move next shared' events) :
    Exclusive { world with calls := world.calls.set number next, shared := shared' } := by
  -- another critical call would hold the lock that this step needs
  have others {other : Nat} {current : Call} (differs : number ≠ other)
      (listed : world.calls[other]? = some current) (inside : critical current.phase = true) :
      shared'.flock = some other ∧ critical call.phase = false := by
    have held := exclusive.holder other current listed inside
    have outside : critical call.phase = false := by
      cases flag : critical call.phase with
      | false => rfl
      | true =>
          rw [exclusive.holder number call found flag] at held
          exact absurd (Option.some.inj held) differs
    refine ⟨?_, outside⟩
    rcases advance.flock with ⟨same, _⟩ | ⟨free, _⟩ | ⟨flag, _⟩
    · rw [same, held]
    · rw [free] at held
      cases held
    · rw [outside] at flag
      cases flag
  constructor
  · intro other current listed inside
    rcases calls_set listed with ⟨rfl, rfl⟩ | ⟨differs, listed⟩
    · rcases advance.flock with ⟨same, flag⟩ | ⟨_, taken⟩ | ⟨_, flag, _⟩
      · change shared'.flock = _
        rw [same]
        exact exclusive.holder other call found (flag ▸ inside)
      · exact taken
      · rw [flag] at inside
        cases inside
    · exact (others (Ne.symm differs) listed inside).1
  · intro other current listed
    rcases calls_set listed with ⟨rfl, rfl⟩ | ⟨differs, listed⟩
    · exact advance.rootFor (exclusive.root other call found)
    · cases inside : critical current.phase with
      | false => exact rootFor_of_not_critical inside
      | true =>
          change RootFor shared'.root current
          rw [advance.root_eq (others (Ne.symm differs) listed inside).2]
          exact exclusive.root other current listed

theorem Exclusive.step (exclusive : Exclusive world) (action : Action) :
    Exclusive (world.step config action).1 := by
  rcases step_cases world config action with same | ⟨duty, same⟩ | ⟨call, outside, same⟩ |
    ⟨number, move, call, next, shared, events, found, _, advance, same⟩
  · rw [same]
    exact exclusive
  · rw [same]
    exact ⟨exclusive.holder, exclusive.root⟩
  · rw [same]
    constructor
    · intro number current listed inside
      rcases calls_append listed with ⟨_, rfl⟩ | listed
      · rw [outside.2.2.1] at inside
        cases inside
      · exact exclusive.holder number current listed inside
    · intro number current listed
      rcases calls_append listed with ⟨_, rfl⟩ | listed
      · exact rootFor_of_not_critical outside.2.2.1
      · exact exclusive.root number current listed
  · rw [same]
    exact exclusive.advance found advance

/-! ## What the log tells of a call -/

/-- What an honest sidecar sends. -/
def Honest (config : Config) (requests : List Request) (sent : Sent) : Prop :=
  match sent.message with
  | .health health => health = healthOf config sent.boot
  | .response response => ∃ request ∈ requests, ∃ execution,
      response = responseOf config sent.boot request execution

/-- The call knows the boot that has sent the message. -/
structure Met (config : Config) (call : Call) (first : Sent) : Prop where
  message : first.message = .health (healthOf config first.boot)
  before : call.before = some (healthOf config first.boot)

/-- The call has the answer to a posted request. -/
structure Answered (config : Config) (requests : List Request) (call : Call) (answer : Sent)
    (request : Request) (execution : Execution) : Prop where
  message : answer.message = .response (responseOf config answer.boot request execution)
  parsed : call.parsed = some (responseOf config answer.boot request execution)
  posted : request ∈ requests

/-- How an attempt came about. -/
structure Proven (config : Config) (requests : List Request) (number : Nat) (call : Call)
    (attempt : CandidateAttempt) (events : List Event) (first answer last : Sent)
    (request : Request) (execution : Execution) : Prop where
  met : first.message = .health (healthOf config first.boot)
  message : answer.message = .response (responseOf config answer.boot request execution)
  posted : request ∈ requests
  gone : last.message = .health (healthOf config last.boot)
  same : answer.boot = first.boot
  replaced : last.boot ≠ first.boot
  bound : request.planId = call.plan.planId ∧ request.runtimeId = call.runtimeId
  result : attempt.planId = call.plan.planId ∧ attempt.runtimeId = call.runtimeId ∧
    attempt.execution = execution ∧ attempt.executorBootSha256 = hexdigest (utf8 first.boot) ∧
    attempt.replacementBootSha256 = hexdigest (utf8 last.boot)
  log : events = [.preflight number first, .posted number call.request, .answered number answer,
    .observed number last]

def Succeeded (config : Config) (requests : List Request) (number : Nat) (call : Call)
    (events : List Event) (attempt : CandidateAttempt) : Prop :=
  ∃ first answer last request execution,
    Proven config requests number call attempt events first answer last request execution

/-- The events of a call up to its phase. -/
def Story (config : Config) (requests : List Request) (number : Nat) (call : Call)
    (events : List Event) : Prop :=
  match call.phase with
  | .waiting | .locking | .preflight => call.parsed = none ∧ events = []
  | .clearing _ | .copying =>
      call.parsed = none ∧ ∃ first, Met config call first ∧ events = [.preflight number first]
  | .posting => call.parsed = none ∧ ∃ first, Met config call first ∧
      events = [.preflight number first, .posted number call.request]
  | .replacing => ∃ first, Met config call first ∧ (call.parsed = none ∨
      ∃ answer request execution, Answered config requests call answer request execution ∧
        events = [.preflight number first, .posted number call.request, .answered number answer])
  | .cleaning outcome | .unlocking outcome | .leaving outcome =>
      ∀ attempt, outcome = .ok attempt → Succeeded config requests number call events attempt
  | .returned outcome => ∀ attempt, outcome = .ok attempt → ∃ before,
      Succeeded config requests number call before attempt ∧
        events = before ++ [.returned number attempt]

section Stories

variable {requests : List Request} {events : List Event}

theorem Story.mono {more : List Request} (included : ∀ request ∈ requests, request ∈ more)
    (story : Story config requests number call events) :
    Story config more number call events := by
  have succeeded {before : List Event} {attempt : CandidateAttempt}
      (was : Succeeded config requests number call before attempt) :
      Succeeded config more number call before attempt := by
    obtain ⟨first, answer, last, request, execution, proven⟩ := was
    exact ⟨first, answer, last, request, execution,
      { proven with posted := included request proven.posted }⟩
  unfold Story at story ⊢
  cases phase : call.phase with
  | replacing =>
      rw [phase] at story
      obtain ⟨first, met, lost | ⟨answer, request, execution, answered, log⟩⟩ := story
      · exact ⟨first, met, Or.inl lost⟩
      · exact ⟨first, met, Or.inr ⟨answer, request, execution,
          { answered with posted := included request answered.posted }, log⟩⟩
  | cleaning outcome =>
      rw [phase] at story
      exact fun attempt ok => succeeded (story attempt ok)
  | unlocking outcome =>
      rw [phase] at story
      exact fun attempt ok => succeeded (story attempt ok)
  | leaving outcome =>
      rw [phase] at story
      exact fun attempt ok => succeeded (story attempt ok)
  | returned outcome =>
      rw [phase] at story
      intro attempt ok
      obtain ⟨before, was, log⟩ := story attempt ok
      exact ⟨before, succeeded was, log⟩
  | _ =>
      rw [phase] at story
      exact story

theorem receiveHealth_honest {sent : Sent} {health : Health}
    (honest : Honest config requests sent)
    (received : receiveHealth config sent.message = .ok health) :
    sent.message = .health (healthOf config sent.boot) ∧ health = healthOf config sent.boot := by
  unfold receiveHealth at received
  obtain ⟨parsed, parses, validated⟩ := bind_eq_ok.mp received
  have same : parsed = health := by
    unfold validateBoot at validated
    obtain ⟨_, _, final⟩ := bind_eq_ok.mp validated
    exact Except.ok.inj final
  unfold Honest at honest
  cases message : sent.message with
  | response response =>
      rw [message] at parses
      cases parses
  | health current =>
      rw [message] at parses honest
      simp only [parseHealth] at parses
      split at parses
      · rw [Except.ok.injEq] at parses
        exact ⟨by rw [honest], by rw [← same, ← parses, honest]⟩
      · cases parses

theorem parseResponse_honest {sent : Sent} {response : Response}
    (honest : Honest config requests sent)
    (received : parseResponse sent.message = .ok response) :
    sent.message = .response response ∧ ∃ request ∈ requests, ∃ execution,
      response = responseOf config sent.boot request execution := by
  unfold Honest at honest
  cases message : sent.message with
  | health health =>
      rw [message] at received
      cases received
  | response current =>
      rw [message] at received honest
      simp only [parseResponse] at received
      split at received
      · rw [Except.ok.injEq] at received
        subst received
        exact ⟨rfl, honest⟩
      · cases received

/-- An attempt is assembled from an answer of the boot seen before to the own request. -/
theorem attemptOf_eq_ok {first last answer : Sent} {request : Request} {execution : Execution}
    {attempt : CandidateAttempt} {health : Health} (met : Met config call first)
    (answered : Answered config requests call answer request execution)
    (last_message : last.message = .health (healthOf config last.boot))
    (observed : health = healthOf config last.boot) (replaced : last.boot ≠ first.boot)
    (returned : attemptOf config call health = .ok attempt) :
    Proven config requests number call attempt
      [.preflight number first, .posted number call.request, .answered number answer,
        .observed number last] first answer last request execution := by
  unfold attemptOf at returned
  rw [met.before, answered.parsed] at returned
  obtain ⟨_, boots, rest⟩ := bind_eq_ok.mp returned
  obtain ⟨_, binds, final⟩ := bind_eq_ok.mp rest
  rw [require_eq_ok] at boots binds
  rw [Except.ok.injEq] at final
  subst final
  refine ⟨met.message, answered.message, answered.posted, last_message, boots.1, replaced, binds,
    ⟨binds.1, binds.2, rfl, rfl, ?_⟩, rfl⟩
  rw [observed]
  rfl

theorem Story.advance {move : Move} {next : Call} {shared' : Shared} {new : List Event}
    (story : Story config shared.requests number call events)
    (honest : ∀ sent, move = .receive sent → Honest config shared.requests sent)
    (advance : Advance config number shared call move next shared' new) :
    Story config shared'.requests number next (events ++ new) := by
  unfold Story at story
  cases advance with
  | enter phase =>
      rw [phase] at story
      exact ⟨story.1, by rw [story.2]; rfl⟩
  | lock phase free =>
      rw [phase] at story
      exact ⟨story.1, by rw [story.2]; rfl⟩
  | preflight phase sent delivered health received =>
      rw [phase] at story
      obtain ⟨message, same⟩ := receiveHealth_honest (honest sent delivered) received
      exact ⟨story.1, sent, ⟨message, by rw [same]⟩, by rw [story.2]; rfl⟩
  | raised phase error =>
      intro attempt ok
      cases ok
  | remove entry rest phase =>
      rw [phase] at story
      rw [List.append_nil]
      obtain ⟨none, first, met, log⟩ := story
      exact ⟨none, first, ⟨met.message, met.before⟩, log⟩
  | copy phase =>
      rw [phase] at story
      rw [List.append_nil]
      obtain ⟨none, first, met, log⟩ := story
      exact ⟨none, first, ⟨met.message, met.before⟩, log⟩
  | post phase =>
      rw [phase] at story
      obtain ⟨none, first, met, log⟩ := story
      exact ⟨none, first, ⟨met.message, met.before⟩, by rw [log]; rfl⟩
  | answer phase sent delivered response received =>
      rw [phase] at story
      obtain ⟨_, first, met, log⟩ := story
      obtain ⟨message, request, posted, execution, same⟩ :=
        parseResponse_honest (honest sent delivered) received
      refine ⟨first, ⟨met.message, met.before⟩, Or.inr ⟨sent, request, execution, ⟨?_, ?_, posted⟩,
        ?_⟩⟩
      · rw [message, same]
      · rw [same]
      · rw [log]
        rfl
  | lose phase =>
      rw [phase] at story
      obtain ⟨none, first, met, _⟩ := story
      exact ⟨first, ⟨met.message, met.before⟩, Or.inl none⟩
  | observe phase sent delivered health before received seen replaced =>
      rw [phase] at story
      obtain ⟨first, met, lost | ⟨answer, request, execution, answered, log⟩⟩ := story
      · intro attempt ok
        rw [attemptOf, seen, lost] at ok
        cases ok
      · intro attempt ok
        obtain ⟨message, same⟩ := receiveHealth_honest (honest sent delivered) received
        have differs : sent.boot ≠ first.boot := by
          rw [met.before, Option.some.injEq] at seen
          rw [same, ← seen] at replaced
          exact replaced
        have proven := @attemptOf_eq_ok config number call shared.requests first sent answer request
          execution attempt health met answered message same differs ok
        rw [log]
        exact ⟨first, answer, sent, request, execution, proven.met, proven.message, proven.posted,
          proven.gone, proven.same, proven.replaced, proven.bound, proven.result, rfl⟩
  | clean outcome phase =>
      rw [phase] at story
      intro attempt ok
      obtain ⟨first, answer, last, request, execution, proven⟩ := story attempt ok
      rw [List.append_nil]
      exact ⟨first, answer, last, request, execution, proven.met, proven.message, proven.posted,
        proven.gone, proven.same, proven.replaced, proven.bound, proven.result, proven.log⟩
  | spoil outcome phase error =>
      intro attempt ok
      cases ok
  | unlock outcome phase =>
      rw [phase] at story
      intro attempt ok
      obtain ⟨first, answer, last, request, execution, proven⟩ := story attempt ok
      rw [List.append_nil]
      exact ⟨first, answer, last, request, execution, proven.met, proven.message, proven.posted,
        proven.gone, proven.same, proven.replaced, proven.bound, proven.result, proven.log⟩
  | leave outcome phase =>
      rw [phase] at story
      intro attempt ok
      obtain ⟨first, answer, last, request, execution, proven⟩ := story attempt ok
      refine ⟨events, ⟨first, answer, last, request, execution, proven.met, proven.message,
        proven.posted, proven.gone, proven.same, proven.replaced, proven.bound, proven.result,
        proven.log⟩, ?_⟩
      rw [ok]
      rfl

end Stories

/-- The events of one call. -/
def about (number : Nat) (events : List Event) : List Event :=
  events.filter fun event => event.number == number

theorem about_own {events : List Event} (own : ∀ event ∈ events, event.number = number) :
    about number events = events :=
  List.filter_eq_self.mpr fun event member => by rw [own event member]; exact beq_self_eq_true _

theorem about_other {events : List Event} {other : Nat} (differs : other ≠ number)
    (own : ∀ event ∈ events, event.number = number) : about other events = [] :=
  List.filter_eq_nil_iff.mpr fun event member => by
    rw [own event member]
    simp [Ne.symm differs]

theorem about_append (first second : List Event) (number : Nat) :
    about number (first ++ second) = about number first ++ about number second :=
  List.filter_append _ _

/-- The world and its log agree. -/
structure Told (config : Config) (world : World) (past : List Event) : Prop where
  honest : ∀ sent ∈ world.service.sent, Honest config world.shared.requests sent
  serving : ∀ request ∈ world.service.serving, request ∈ world.shared.requests
  owned : ∀ request ∈ world.shared.requests, ∃ (number : Nat) (call : Call),
    world.calls[number]? = some call ∧ request = call.request
  distinct : ∀ (first second : Nat) (call call' : Call), world.calls[first]? = some call →
    world.calls[second]? = some call' → call.runtimeId = call'.runtimeId → first = second
  story : ∀ (number : Nat) (call : Call), world.calls[number]? = some call →
    Story config world.shared.requests number call (about number past)
  known : ∀ event ∈ past, event.number < world.calls.length
  returned : ∀ number attempt, .returned number attempt ∈ past → ∃ call,
    world.calls[number]? = some call ∧ call.phase = .returned (.ok attempt)

theorem told_start (config : Config) (boot : String) (root : List Entry) :
    Told config (World.start boot root) [] where
  honest _ member := by cases member
  serving _ member := by cases member
  owned _ member := by cases member
  distinct _ _ _ _ found := by cases found
  story _ _ found := by cases found
  known _ member := by cases member
  returned _ _ member := by cases member

section Steps

variable {past : List Event}

theorem Told.duty (told : Told config world past) (duty : Duty) :
    Told config { world with service := serviceStep config world.shared world.service duty }
      past := by
  refine ⟨?_, ?_, told.owned, told.distinct, told.story, told.known, told.returned⟩
  · intro sent member
    cases duty with
    | restart boot =>
        simp only [serviceStep] at member
        split at member
        · exact told.honest sent member
        · exact told.honest sent member
    | report =>
        rcases List.mem_append.mp member with old | new
        · exact told.honest sent old
        · rw [List.mem_singleton.mp new]
          exact rfl
    | accept request =>
        simp only [serviceStep] at member
        split at member
        · exact told.honest sent member
        · exact told.honest sent member
    | finish request execution =>
        simp only [serviceStep] at member
        split at member
        · rename_i served
          rcases List.mem_append.mp member with old | new
          · exact told.honest sent old
          · rw [List.mem_singleton.mp new]
            exact ⟨request, told.serving request served, execution, rfl⟩
        · exact told.honest sent member
    | abandon request => exact told.honest sent member
  · intro request member
    cases duty with
    | restart boot =>
        simp only [serviceStep] at member
        split at member
        · exact told.serving request member
        · cases member
    | report => exact told.serving request member
    | accept accepted =>
        simp only [serviceStep] at member
        split at member
        · rename_i arrived
          rcases List.mem_append.mp member with old | new
          · exact told.serving request old
          · rw [List.mem_singleton.mp new]
            exact arrived.1
        · exact told.serving request member
    | finish finished execution =>
        simp only [serviceStep] at member
        split at member
        · exact told.serving request (List.mem_of_mem_erase member)
        · exact told.serving request member
    | abandon gone => exact told.serving request (List.mem_of_mem_erase member)

theorem Told.begun (told : Told config world past) (fresh : Fresh world call) :
    Told config { world with calls := world.calls ++ [call] } past := by
  obtain ⟨drawn, parsed, _, phase⟩ := fresh
  have kept {number : Nat} {current : Call} (found : world.calls[number]? = some current) :
      (world.calls ++ [call])[number]? = some current := by
    obtain ⟨present, _⟩ := List.getElem?_eq_some_iff.mp found
    rw [List.getElem?_append_left present, found]
  refine ⟨told.honest, told.serving, ?_, ?_, ?_, ?_, ?_⟩
  · intro request member
    obtain ⟨number, owner, found, same⟩ := told.owned request member
    exact ⟨number, owner, kept found, same⟩
  · intro first second current current' found found' same
    rcases calls_append found with ⟨position, rfl⟩ | listed
    · rcases calls_append found' with ⟨position', rfl⟩ | listed'
      · rw [position, position']
      · exact absurd same.symm (drawn current' (List.mem_of_getElem? listed'))
    · rcases calls_append found' with ⟨position', rfl⟩ | listed'
      · exact absurd same (drawn current (List.mem_of_getElem? listed))
      · exact told.distinct first second current current' listed listed' same
  · intro number current found
    rcases calls_append found with ⟨position, rfl⟩ | found
    · have silent : about number past = [] := by
        refine List.filter_eq_nil_iff.mpr fun event member => ?_
        have earlier := told.known event member
        rw [← position] at earlier
        simpa using Nat.ne_of_lt earlier
      unfold Story
      rw [silent]
      rcases phase with waiting | ⟨error, failed⟩
      · rw [waiting]
        exact ⟨parsed, rfl⟩
      · rw [failed]
        intro attempt ok
        cases ok
    · exact told.story number current found
  · intro event member
    rw [List.length_append]
    exact Nat.lt_add_right _ (told.known event member)
  · intro number attempt member
    obtain ⟨owner, found, phase⟩ := told.returned number attempt member
    exact ⟨owner, kept found, phase⟩

theorem Advance.not_returned {move : Move} {next : Call} {shared' : Shared} {events : List Event}
    (advance : Advance config number shared call move next shared' events) (outcome : Outcome) :
    call.phase ≠ .returned outcome := by
  intro phase
  cases advance with
  | raised inside error =>
      rw [phase] at inside
      cases inside
  | enter other => rw [phase] at other; cases other
  | lock other free => rw [phase] at other; cases other
  | preflight other sent delivered health received => rw [phase] at other; cases other
  | remove entry rest other => rw [phase] at other; cases other
  | copy other => rw [phase] at other; cases other
  | post other => rw [phase] at other; cases other
  | answer other sent delivered response received => rw [phase] at other; cases other
  | lose other => rw [phase] at other; cases other
  | observe other sent delivered health before received seen replaced =>
      rw [phase] at other
      cases other
  | clean result other => rw [phase] at other; cases other
  | spoil result other error => rw [phase] at other; cases other
  | unlock result other => rw [phase] at other; cases other
  | leave result other => rw [phase] at other; cases other

theorem Advance.returning {move : Move} {next : Call} {shared' : Shared} {events : List Event}
    (advance : Advance config number shared call move next shared' events) {other : Nat}
    {attempt : CandidateAttempt} (member : .returned other attempt ∈ events) :
    other = number ∧ next.phase = .returned (.ok attempt) := by
  cases advance with
  | leave outcome phase =>
      cases outcome with
      | error error => cases member
      | ok result =>
          cases List.mem_singleton.mp member
          exact ⟨rfl, rfl⟩
  | preflight phase sent delivered health received => cases List.mem_singleton.mp member
  | post phase => cases List.mem_singleton.mp member
  | answer phase sent delivered response received => cases List.mem_singleton.mp member
  | observe phase sent delivered health before received seen replaced =>
      cases List.mem_singleton.mp member
  | _ => cases member

theorem Told.advance (told : Told config world past) {move : Move} {next : Call}
    {shared' : Shared} {events : List Event} (found : world.calls[number]? = some call)
    (delivered : ∀ sent, move = .receive sent → sent ∈ world.service.sent)
    (advance : Advance config number world.shared call move next shared' events) :
    Told config { world with calls := world.calls.set number next, shared := shared' }
      (past ++ events) := by
  obtain ⟨present, _⟩ := List.getElem?_eq_some_iff.mp found
  have own := advance.own
  obtain ⟨runtime, _, request_eq⟩ := advance.keeps
  refine ⟨?_, ?_, ?_, ?_, ?_, ?_, ?_⟩
  · intro sent member
    have honest := told.honest sent member
    unfold Honest at honest ⊢
    split
    · rename_i health message
      rw [message] at honest
      exact honest
    · rename_i response message
      rw [message] at honest
      obtain ⟨request, posted, rest⟩ := honest
      exact ⟨request, advance.requests request posted, rest⟩
  · exact fun request member => advance.requests request (told.serving request member)
  · intro request member
    rcases advance.requests_new request member with old | new
    · obtain ⟨owner, current, listed, same⟩ := told.owned request old
      by_cases mine : owner = number
      · subst mine
        rw [found, Option.some.injEq] at listed
        exact ⟨owner, next, List.getElem?_set_self present, by rw [same, ← listed, request_eq]⟩
      · exact ⟨owner, current, by rw [← listed]; exact List.getElem?_set_ne (Ne.symm mine), same⟩
    · exact ⟨number, next, List.getElem?_set_self present, new⟩
  · have same {other : Nat} {current : Call}
        (listed : (world.calls.set number next)[other]? = some current) :
        ∃ before, world.calls[other]? = some before ∧ before.runtimeId = current.runtimeId := by
      rcases calls_set listed with ⟨rfl, rfl⟩ | ⟨_, listed⟩
      · exact ⟨call, found, runtime.symm⟩
      · exact ⟨current, listed, rfl⟩
    intro first second current current' listed listed' equal
    obtain ⟨before, was, id⟩ := same listed
    obtain ⟨before', was', id'⟩ := same listed'
    exact told.distinct first second before before' was was' (id.trans (equal.trans id'.symm))
  · intro other current listed
    rw [about_append]
    rcases calls_set listed with ⟨rfl, rfl⟩ | ⟨differs, listed⟩
    · rw [about_own own]
      refine (told.story other call found).advance ?_ advance
      exact fun sent received => told.honest sent (delivered sent received)
    · rw [about_other differs own, List.append_nil]
      exact (told.story other current listed).mono advance.requests
  · intro event member
    rw [List.length_set]
    rcases List.mem_append.mp member with old | new
    · exact told.known event old
    · rw [own event new]
      exact present
  · intro other attempt member
    rcases List.mem_append.mp member with old | new
    · obtain ⟨owner, listed, phase⟩ := told.returned other attempt old
      have differs : number ≠ other := by
        rintro rfl
        rw [found, Option.some.injEq] at listed
        subst listed
        exact advance.not_returned _ phase
      exact ⟨owner, by rw [← listed]; exact List.getElem?_set_ne differs, phase⟩
    · obtain ⟨rfl, phase⟩ := advance.returning new
      exact ⟨next, List.getElem?_set_self present, phase⟩

theorem Told.step (told : Told config world past) (action : Action) :
    Told config (world.step config action).1 (past ++ (world.step config action).2) := by
  rcases step_cases world config action with same | ⟨duty, same⟩ | ⟨call, fresh, same⟩ |
    ⟨number, move, call, next, shared, events, found, delivered, advance, same⟩
  · rw [same, List.append_nil]
    exact told
  · rw [same, List.append_nil]
    exact told.duty duty
  · rw [same, List.append_nil]
    exact told.begun fresh
  · rw [same]
    exact told.advance found delivered advance

end Steps

theorem run_told (config : Config) (boot : String) (root : List Entry) (actions : List Action) :
    Told config ((machine config).run (World.start boot root) actions)
      ((machine config).log (World.start boot root) actions) := by
  have run := (machine config).run_log_invariant (Told config)
    (fun _ action _ told => told.step action) (told_start config boot root) actions
  rwa [List.nil_append] at run

theorem run_exclusive (config : Config) (boot : String) (root : List Entry)
    (actions : List Action) : Exclusive ((machine config).run (World.start boot root) actions) := by
  refine (machine config).run_invariant Exclusive
    (fun _ action exclusive => exclusive.step action) ⟨?_, ?_⟩ actions
  · intro number call found
    cases found
  · intro number call found
    cases found

/-! ## Whose answer a call returns -/

/-- The attempt was answered by the boot of the preflight, to the request of this very call,
and another boot was observed afterwards. -/
structure Attested (config : Config) (log : List Event) (number : Nat) (call : Call)
    (attempt : CandidateAttempt) (first answer last : Sent) (execution : Execution) : Prop where
  met : first.message = .health (healthOf config first.boot)
  message : answer.message =
    .response (responseOf config answer.boot call.request execution)
  gone : last.message = .health (healthOf config last.boot)
  same : answer.boot = first.boot
  replaced : last.boot ≠ first.boot
  result : attempt.planId = call.plan.planId ∧ attempt.runtimeId = call.runtimeId ∧
    attempt.execution = execution ∧ attempt.executorBootSha256 = hexdigest (utf8 first.boot) ∧
    attempt.replacementBootSha256 = hexdigest (utf8 last.boot)
  log : about number log = [.preflight number first, .posted number call.request,
    .answered number answer, .observed number last, .returned number attempt]

/-- Two calls never have one runtime identifier. -/
def Unshared (world : World) (number : Nat) (call : Call) : Prop :=
  ∀ (other : Nat) (current : Call), world.calls[other]? = some current →
    current.runtimeId = call.runtimeId → other = number

def Answers (config : Config) (world : World) (log : List Event) : Prop :=
  ∀ number attempt, .returned number attempt ∈ log →
    ∃ call, world.calls[number]? = some call ∧ Unshared world number call ∧
      ∃ first answer last execution,
        Attested config log number call attempt first answer last execution

theorem Told.answers {past : List Event} (told : Told config world past) :
    Answers config world past := by
  intro number attempt member
  obtain ⟨call, found, phase⟩ := told.returned number attempt member
  refine ⟨call, found, fun other current listed same =>
    told.distinct other number current call listed found same, ?_⟩
  have story := told.story number call found
  unfold Story at story
  rw [phase] at story
  obtain ⟨before, ⟨first, answer, last, request, execution, proven⟩, log⟩ := story attempt rfl
  -- only this call can have posted a request with its runtime identifier
  have own : request = call.request := by
    obtain ⟨owner, current, listed, same⟩ := told.owned request proven.posted
    have runtime : current.runtimeId = call.runtimeId := by
      rw [← proven.bound.2, same]
      rfl
    have mine := told.distinct owner number current call listed found runtime
    rw [mine, found, Option.some.injEq] at listed
    rw [same, listed]
  subst own
  exact ⟨first, answer, last, execution, proven.met, proven.message, proven.gone, proven.same,
    proven.replaced, proven.result, by rw [log, proven.log]; rfl⟩

/-! ## Whose files the sidecar sees -/

/-- While a call waits for its answer, its sealed workspace is all that the root holds. -/
def Staged (world : World) : Prop :=
  ∀ (number : Nat) (call : Call), world.calls[number]? = some call → call.phase = .posting →
    world.shared.root = [⟨call.runtimeId, true, true⟩]

/-- While the sidecar serves a request, the root holds no other workspace. -/
def Apart (world : World) : Prop :=
  ∀ request ∈ world.service.serving, ∀ entry ∈ world.shared.root,
    entry.name = request.workspaceKey

/-- A call that is about to put its workspace into the root. -/
def Enters (world : World) (number : Nat) (call : Call) : Prop :=
  world.calls[number]? = some call ∧ call.phase = .clearing []

/-- A call puts its workspace into the root only when the sidecar serves no request of another
call. -/
def Alone (world : World) (action : Action) : Prop :=
  match action with
  | .move number .next => ∀ call, Enters world number call →
      ∀ request ∈ world.service.serving, request.workspaceKey = call.runtimeId
  | _ => True

theorem Exclusive.staged (exclusive : Exclusive world) : Staged world := by
  intro number call found phase
  have known := exclusive.root number call found
  unfold RootFor at known
  rw [phase] at known
  exact known

theorem Apart.duty (apart : Apart world) (config : Config) (duty : Duty) :
    Apart { world with service := serviceStep config world.shared world.service duty } := by
  intro request member entry listed
  cases duty with
  | restart boot =>
      simp only [serviceStep] at member
      split at member
      · exact apart request member entry listed
      · cases member
  | report => exact apart request member entry listed
  | accept accepted =>
      simp only [serviceStep] at member
      split at member
      · rename_i arrived
        rcases List.mem_append.mp member with old | new
        · exact apart request old entry listed
        · -- the endpoint has looked for siblings
          have checks := arrived.2
          simp only [accepts, Bool.and_eq_true, List.all_eq_true] at checks
          rw [List.mem_singleton.mp new]
          exact eq_of_beq (checks.1.1.2 entry listed)
      · exact apart request member entry listed
  | finish finished execution =>
      simp only [serviceStep] at member
      split at member
      · exact apart request (List.mem_of_mem_erase member) entry listed
      · exact apart request member entry listed
  | abandon gone => exact apart request (List.mem_of_mem_erase member) entry listed

/-- Apart from the copy, a step of a call brings no new name into the root. -/
theorem Advance.names {move : Move} {next : Call} {shared' : Shared} {events : List Event}
    (advance : Advance config number shared call move next shared' events)
    (stays : call.phase ≠ .clearing []) :
    ∀ entry ∈ shared'.root, ∃ before ∈ shared.root, before.name = entry.name := by
  intro entry member
  cases advance with
  | remove removed rest phase => exact ⟨entry, List.mem_of_mem_erase member, rfl⟩
  | copy phase => exact absurd phase stays
  | post phase =>
      obtain ⟨before, listed, rfl⟩ := List.mem_map.mp member
      refine ⟨before, listed, ?_⟩
      split <;> rfl
  | clean outcome phase =>
      change entry ∈ (if call.staged then _ else _) at member
      split at member
      · exact ⟨entry, List.mem_of_mem_filter member, rfl⟩
      · exact ⟨entry, member, rfl⟩
  | _ => exact ⟨entry, member, rfl⟩

theorem Apart.advance (apart : Apart world) {move : Move} {next : Call} {shared' : Shared}
    {events : List Event}
    (advance : Advance config number world.shared call move next shared' events)
    (stays : call.phase ≠ .clearing []) :
    Apart { world with calls := world.calls.set number next, shared := shared' } := by
  intro request member entry listed
  obtain ⟨before, was, name⟩ := advance.names stays entry listed
  rw [← name]
  exact apart request member before was

/-- The step that puts the workspace into the root. -/
theorem step_enters (config : Config) (enters : Enters world number call) :
    world.step config (.move number .next) =
      ({ world with
        calls := world.calls.set number (Call.at call .copying)
        shared := { world.shared with
          root := world.shared.root ++ [⟨call.runtimeId, true, false⟩] } }, []) := by
  obtain ⟨found, phase⟩ := enters
  simp only [World.step, found, Move.delivers, if_true, callStep, phase]
  rfl

theorem Apart.enters (apart : Apart world) (enters : Enters world number call) :
    Apart (world.step config (.move number .next)).1 ↔
      ∀ request ∈ world.service.serving, request.workspaceKey = call.runtimeId := by
  rw [step_enters config enters]
  constructor
  · intro after request member
    exact (after request member ⟨call.runtimeId, true, false⟩
      (List.mem_append_right _ List.mem_cons_self)).symm
  · intro alone request member entry listed
    rcases List.mem_append.mp listed with old | new
    · exact apart request member entry old
    · rw [List.mem_singleton.mp new]
      exact (alone request member).symm

/-- A call in front of the copy moves on by `next`, or leaves the root as it is. -/
theorem callStep_clearing {move : Move} {next : Call} {shared' : Shared} {events : List Event}
    (step : callStep config number shared call move = some (next, shared', events))
    (phase : call.phase = .clearing []) : move = .next ∨ shared'.root = shared.root := by
  unfold callStep at step
  rw [phase] at step
  cases move with
  | next => exact Or.inl rfl
  | receive sent => cases step
  | expire => cases step
  | fail error =>
      cases step
      exact Or.inr rfl

theorem Apart.step (apart : Apart world) {action : Action} (alone : Alone world action) :
    Apart (world.step config action).1 := by
  cases action with
  | execute executor plan environment source runtimeId =>
      simp only [World.step]
      split
      · exact apart
      · exact apart
  | duty duty => exact apart.duty config duty
  | move number move =>
      cases found : world.calls[number]? with
      | none =>
          simp only [World.step, found]
          exact apart
      | some call =>
          by_cases phase : call.phase = .clearing []
          · by_cases copies : move = .next
            · subst copies
              exact (apart.enters ⟨found, phase⟩).mpr (alone call ⟨found, phase⟩)
            · simp only [World.step, found]
              split
              · split
                · exact apart
                · rename_i next shared events step
                  have same := (callStep_clearing step phase).resolve_left copies
                  intro request member entry listed
                  change entry ∈ shared.root at listed
                  rw [same] at listed
                  exact apart request member entry listed
              · exact apart
          · simp only [World.step, found]
            split
            · split
              · exact apart
              · rename_i next shared events step
                exact apart.advance (callStep_advance step) phase
            · exact apart

/-! ## Runs -/

variable (config : Config) (boot : String) (root : List Entry)

/-- Every state of the run keeps what the handoff is for. -/
def Isolated (actions : List Action) : Prop :=
  ∀ earlier later, actions = earlier ++ later →
    let world := (machine config).run (World.start boot root) earlier
    Answers config world ((machine config).log (World.start boot root) earlier) ∧
      Staged world ∧ Apart world

/-- An attempt always comes from the boot of the preflight, which was replaced, and while a call
waits for its answer its workspace is alone in the root.  The sidecar sees the files of no
other call exactly when no call puts its workspace into the root while the sidecar still
serves the request of another one. -/
theorem isolated_iff_alone (actions : List Action) :
    Isolated config boot root actions ↔
      (machine config).Follows Alone (World.start boot root) actions := by
  constructor
  · intro isolated
    refine (machine config).follows_iff_split.mpr fun earlier action later split => ?_
    obtain ⟨_, _, apart⟩ := isolated earlier (action :: later) split
    obtain ⟨_, _, after⟩ := isolated (earlier ++ [action]) later (by rw [split]; simp)
    rw [Machine.run_append] at after
    cases action with
    | move number move =>
        cases move with
        | next => exact fun call enters => (apart.enters enters).mp after
        | _ => trivial
    | _ => trivial
  · intro follows earlier later split
    rw [split, Machine.follows_append] at follows
    refine ⟨(run_told config boot root earlier).answers,
      (run_exclusive config boot root earlier).staged, ?_⟩
    refine (machine config).run_invariant_of_follows Apart
      (fun world action alone apart => apart.step alone) ?_ follows.1
    intro request member
    cases member

/-! ## A lost answer -/

def sampleConfig : Config := ⟨"secret", 1001, id, by decide⟩

def samplePlan : ExecutionPlan :=
  candidateServicePlan "victim.duplicate-race.candidate" (1, 1, 1) none .duplicateRace

def sampleEnvironment : List (String × String) :=
  [("CROSSPATCH_VERIFICATION_SCOPE_PROVIDER", "stripe"),
    ("CROSSPATCH_VERIFICATION_SCOPE_EVENT_ID", "evt_1")]

def sampleBoot : String := "cpb-" ++ String.ofList (List.replicate 32 '0')

def sampleRuntime (digit : Char) : String := "cp-" ++ String.ofList (List.replicate 32 digit)

def sampleCall (executor : Nat) (digit : Char) : Action :=
  .execute executor samplePlan sampleEnvironment (.ok ()) (sampleRuntime digit)

def sampleHealth : Sent := ⟨sampleBoot, .health (healthOf sampleConfig sampleBoot)⟩

/-- The locks, the preflight and the copy. -/
def stage (number : Nat) : List Action :=
  [.move number .next, .move number .next, .move number (.receive sampleHealth),
    .move number .next]

/-- The first call gives up while the sidecar still serves it, and the next one comes. -/
def lostAnswer : List Action :=
  [.duty .report, sampleCall 0 'a', sampleCall 1 'b'] ++ stage 0 ++
    [.move 0 .next,
      .duty (.accept ⟨sampleEnvironment.reverse, samplePlan.planId, samplePlan.sha256,
        sampleRuntime 'a', sampleRuntime 'a'⟩),
      .move 0 (.fail ⟨.httpError, "read timed out"⟩), .move 0 .expire, .move 0 .next,
      .move 0 .next, .move 0 .next] ++ stage 1

theorem resolve_samplePlan :
    ExecutionCatalog.default.resolve samplePlan.planId = .ok samplePlan := by
  have found : ExecutionCatalog.default.plans.find? (·.planId == samplePlan.planId) =
      some samplePlan := by
    decide
  rw [ExecutionCatalog.resolve, found]

theorem admission_sample : admission samplePlan sampleEnvironment = .ok () := by
  unfold admission
  rw [resolve_samplePlan, require_true (by decide), ok_bind, ok_bind, require_true rfl, ok_bind,
    require_true (by decide), ok_bind, require_true (by decide)]

theorem receiveHealth_sample :
    receiveHealth sampleConfig sampleHealth.message = .ok (healthOf sampleConfig sampleBoot) := by
  have valid : (healthOf sampleConfig sampleBoot).valid = true := by
    have boot : isBootId sampleBoot = true := by decide
    have mac : isSha256 (candidateExecutorBootMac sampleConfig sampleBoot) = true :=
      hexdigest_isSha256 _
    rw [Health.valid, healthOf, boot, mac]
    decide
  change parseHealth (.health _) >>= validateBoot sampleConfig = _
  rw [parseHealth, if_pos valid, ok_bind, validateBoot, require_true ⟨rfl, rfl, rfl⟩, ok_bind]

/-- What the first call posts. -/
def sampleRequest : Request :=
  ⟨sampleEnvironment.reverse, samplePlan.planId, samplePlan.sha256, sampleRuntime 'a',
    sampleRuntime 'a'⟩

theorem request_sample {call : Call} (plan : call.plan = samplePlan)
    (environment : call.environment = sampleEnvironment)
    (runtime : call.runtimeId = sampleRuntime 'a') : call.request = sampleRequest := by
  have sorted : sampleEnvironment.insertionSort (fun first second => first.1 ≤ second.1) =
      sampleEnvironment.reverse := by
    decide
  rw [Call.request, plan, environment, runtime, sorted, sampleRequest]

theorem accepts_sample {root : List Entry} (alone : root = [⟨sampleRuntime 'a', true, true⟩]) :
    accepts sampleConfig root sampleRequest = true := by
  have sha : isSha256 samplePlan.sha256 = true := hexdigest_isSha256 _
  have runtime : isRuntimeId (sampleRuntime 'a') = true ∧
      isWorkspaceKey (sampleRuntime 'a') = true := by
    decide
  rw [sampleRequest, accepts, resolve_samplePlan, Request.valid, sha, alone, runtime.1, runtime.2]
  simp only [List.any_cons, beq_self_eq_true, List.all_cons]
  decide

theorem runtimes_differ : ¬ sampleRuntime 'a' = sampleRuntime 'b' := by decide

theorem next_moved {config : Config} {world : World} {move : Move} {next : Call}
    {shared : Shared} {events : List Event} (called : world.calls[number]? = some call)
    (delivered : move.delivers world.service.sent = true)
    (stepped : callStep config number world.shared call move = some (next, shared, events)) :
    (machine config).next world (.move number move) =
      { world with calls := world.calls.set number next, shared := shared } := by
  simp only [Machine.next, machine, World.step, called, delivered, stepped, if_true]

/-- The preflight of a call sees the one boot. -/
theorem next_checked {config : Config} {world : World} {sent : Sent} {health : Health}
    (received : receiveHealth config sent.message = .ok health)
    (called : world.calls[number]? = some call) (only : world.service.sent = [sent])
    (phase : call.phase = .preflight) :
    (machine config).next world (.move number (.receive sent)) =
      { world with
        calls := world.calls.set number { call with
          before := some health
          phase := .clearing world.shared.root } } := by
  have delivered : (Move.receive sent).delivers world.service.sent = true := by
    rw [only, Move.delivers, List.contains_cons, beq_self_eq_true, Bool.true_or]
  have stepped : callStep config number world.shared call (.receive sent) =
      some ({ call with
        before := some health
        phase := .clearing world.shared.root }, world.shared, [.preflight number sent]) := by
    simp only [callStep, phase, received]
  rw [next_moved called delivered stepped]

theorem next_accepted {config : Config} {world : World} {request : Request}
    (posted : request ∈ world.shared.requests)
    (sound : accepts config world.shared.root request = true) :
    (machine config).next world (.duty (.accept request)) =
      { world with
        service := { world.service with serving := world.service.serving ++ [request] } } := by
  simp only [Machine.next, machine, World.step, serviceStep, posted, sound, and_self, if_true]

theorem run_called (rest : List Action) :
    (machine sampleConfig).run (World.start sampleBoot [])
        (.duty .report :: sampleCall 0 'a' :: sampleCall 1 'b' :: rest) =
      (machine sampleConfig).run
        ⟨[⟨0, samplePlan, sampleEnvironment, sampleRuntime 'a', none, false, none, none, .waiting⟩,
          ⟨1, samplePlan, sampleEnvironment, sampleRuntime 'b', none, false, none, none, .waiting⟩],
          ⟨none, fun _ => none, [], []⟩, ⟨sampleBoot, [sampleBoot], [], [sampleHealth]⟩⟩ rest := by
  simp [machine, Machine.next, World.step, sampleCall, World.start, newCall, admission_sample,
    serviceStep, sampleHealth, runtimes_differ]

/-- In the end the sidecar serves the first call, and the root holds the workspace of the
second. -/
theorem run_lostAnswer :
    ((machine sampleConfig).run (World.start sampleBoot []) lostAnswer).service.serving =
        [sampleRequest] ∧
      ((machine sampleConfig).run (World.start sampleBoot []) lostAnswer).shared.root =
        [⟨sampleRuntime 'b', true, false⟩] := by
  simp only [lostAnswer, stage, List.cons_append, List.nil_append]
  rw [run_called]
  -- the first call stages its workspace and posts its request
  rw [Machine.run_cons, next_moved rfl rfl rfl]
  rw [Machine.run_cons, next_moved rfl rfl rfl]
  rw [Machine.run_cons, next_checked receiveHealth_sample rfl rfl rfl]
  rw [Machine.run_cons, next_moved rfl rfl rfl]
  rw [Machine.run_cons, next_moved rfl rfl rfl]
  rw [← sampleRequest, Machine.run_cons, next_accepted
    (List.mem_singleton.mpr (request_sample rfl rfl rfl).symm) (accepts_sample rfl)]
  -- it gives up and cleans
  rw [Machine.run_cons, next_moved rfl rfl rfl]
  rw [Machine.run_cons, next_moved rfl rfl rfl]
  rw [Machine.run_cons, next_moved rfl rfl rfl]
  rw [Machine.run_cons, next_moved rfl rfl rfl]
  rw [Machine.run_cons, next_moved rfl rfl rfl]
  -- the second call stages its own
  rw [Machine.run_cons, next_moved rfl rfl rfl]
  rw [Machine.run_cons, next_moved rfl rfl rfl]
  rw [Machine.run_cons, next_checked receiveHealth_sample rfl rfl rfl]
  rw [Machine.run_cons, next_moved rfl rfl rfl]
  exact ⟨rfl, rfl⟩

theorem lostAnswer_visible : ¬ Isolated sampleConfig sampleBoot [] lostAnswer := by
  intro isolated
  have apart := (isolated lostAnswer [] (List.append_nil _).symm).2.2
  obtain ⟨serving, root⟩ := run_lostAnswer
  unfold Apart at apart
  rw [serving, root] at apart
  exact runtimes_differ (apart _ List.mem_cons_self _ List.mem_cons_self).symm

end CrossPatch.Runner.Handoff
