import CrossPatch.Runtime.TrialLedger

/-!
# Consistency of the live trials

The budget, the reservations and the rate windows agree after any run of the
operations, whichever of them are rejected, and the rate windows bound what one
credential obtains in any interval.
-/

namespace CrossPatch.Runtime.TrialConsistency

open CrossPatch.Domain.Amounts CrossPatch.Domain.Failure
open CrossPatch.Library CrossPatch.Library.Calendar
open CrossPatch.Library.RateWindow CrossPatch.Library.Runs CrossPatch.Library.Transaction
open CrossPatch.Runtime.LiveTrials
open CrossPatch.Runtime.Records (needed needed_eq_ok)
open CrossPatch.Runtime.TrialLedger

variable {repository : LiveTrialRepository} {books : Books}

/-! ## Settlements -/

def settles (reservationId : String) : Event → Bool
  | .settled settledId _ => settledId == reservationId
  | _ => false

def IsSettled (reservationId : String) (books : Books) : Prop :=
  ∃ reservation, books.reservations.find reservationId = some reservation ∧
    reservation.status = .settled

theorem settled_of_posting {next : Books} {event : Event} {reservationId : String}
    (posting : Posting repository books next event) (settled : IsSettled reservationId books) :
    IsSettled reservationId next := by
  obtain ⟨done, present, status⟩ := settled
  cases posting with
  | issued fresh opened draws reservations =>
      exact ⟨done, by rw [reservations]; exact present, status⟩
  | revoked kept budget reservations =>
      exact ⟨done, by rw [reservations]; exact present, status⟩
  | @reserved _ _ _ _ _ _ reservation _ _ _ _ _ _ fresh reservations =>
      refine ⟨done, ?_, status⟩
      rw [reservations, Table.find_insert fresh, if_neg]
      · exact present
      · rintro rfl
        rw [fresh] at present
        cases present
  | @bound reservation incidentId _ _ found reservations =>
      have written : next.reservations.find reservationId =
          if reservationId = reservation.id then
            some { reservation with incidentId := some incidentId }
          else books.reservations.find reservationId := by
        rw [reservations]
        apply Table.find_write
        exact found
      by_cases same : reservationId = reservation.id
      · rw [same, found, Option.some.injEq] at present
        rw [if_pos same] at written
        exact ⟨_, written, present ▸ status⟩
      · rw [if_neg same] at written
        exact ⟨done, written.trans present, status⟩
  | @settled reservation actual now _ found pending _ _ reservations =>
      have written : next.reservations.find reservationId =
          if reservationId = reservation.id then
            some { reservation with
              actualMicrousd := some actual, status := .settled, settledAt := some now }
          else books.reservations.find reservationId := by
        rw [reservations]
        apply Table.find_write
        exact found
      by_cases same : reservationId = reservation.id
      · rw [if_pos same] at written
        exact ⟨_, written, rfl⟩
      · rw [if_neg same] at written
        exact ⟨done, written.trans present, status⟩
  | shown kept draws reservations =>
      exact ⟨done, by rw [reservations]; exact present, status⟩

/-- A settlement finds its reservation pending and leaves it settled. -/
theorem settles_of_posting {next : Books} {event : Event} {reservationId : String}
    (posting : Posting repository books next event)
    (fires : settles reservationId event = true) :
    ¬ IsSettled reservationId books ∧ IsSettled reservationId next := by
  cases posting with
  | @settled reservation actual now _ found pending _ _ reservations =>
      obtain rfl : reservation.id = reservationId := beq_iff_eq.mp fires
      have written : next.reservations.find reservation.id = some { reservation with
          actualMicrousd := some actual, status := .settled, settledAt := some now } := by
        rw [reservations]
        apply Table.find_write_self
        exact found
      refine ⟨?_, _, written, rfl⟩
      rintro ⟨done, present, status⟩
      rw [found, Option.some.injEq] at present
      rw [← present, pending] at status
      cases status
  | issued | revoked | reserved | bound | shown => cases fires

theorem settlement_gate (reservationId : String) :
    (ledger repository).Gate (fun _ _ => True) (settles reservationId)
      (IsSettled reservationId) := by
  constructor
  · intro books action _ settled
    exact next_of_posting (fun _ _ _ posting => settled_of_posting posting settled) settled
  · intro books action _ settled
    unfold Machine.events
    rcases @ledger_step repository books action with ⟨event, next, stepped, _, posting⟩ | ⟨error, stepped⟩
    · rw [stepped, List.countP_singleton, if_neg]
      intro fires
      exact (settles_of_posting posting fires).1 settled
    · rw [stepped]
      rfl
  · intro books action
    unfold Machine.events
    rcases @ledger_step repository books action with ⟨event, next, stepped, _, _⟩ | ⟨error, stepped⟩
    · rw [stepped]
      exact List.countP_le_length
    · rw [stepped]
      exact List.countP_le_length
  · intro books action _ fired
    unfold Machine.events at fired
    unfold Machine.next
    rcases @ledger_step repository books action with ⟨event, next, stepped, _, posting⟩ | ⟨error, stepped⟩
    · rw [stepped, List.countP_singleton] at fired
      rw [stepped]
      split at fired
      · exact (settles_of_posting posting ‹_›).2
      · cases fired
    · rw [stepped] at fired
      cases fired

/-! ## The inconsistent branch -/

theorem nonnegativeMicrousd_consistent (amount : Option Numeral) :
    nonnegativeMicrousd amount ≠ .error inconsistent := by
  intro failed
  unfold nonnegativeMicrousd wholeMicrousd at failed
  split at failed
  · cases failed
  · split at failed
    · split at failed
      · cases failed
      · cases failed
    · cases failed
  · cases failed

theorem budgetLocked_consistent {now : Instant} :
    (budgetLocked repository now).run books ≠ .error inconsistent := by
  intro failed
  unfold budgetLocked at failed
  simp only [bind_eq_error, read_eq_error, read_eq_ok, false_or] at failed
  obtain ⟨_, _, same, failed⟩ := failed
  cases same
  cases present : books.budget with
  | none =>
      rw [present] at failed
      simp only [stores, bind_eq_error, check_eq_error, change_eq_error, pure_eq_error,
        and_false, exists_false, or_false] at failed
      exact absurd failed.2 (by decide)
  | some budget =>
      rw [present] at failed
      simp only [bind_eq_error, check_eq_error, pure_eq_error, and_false, exists_false,
        or_false] at failed
      exact absurd failed.2 (by decide)

/-- A pending reservation is part of what the budget holds back. -/
theorem outstanding_le (balanced : Balanced books) {reservation : LiveTrialReservationRecord}
    {reservationId : String} (found : books.reservations.find reservationId = some reservation)
    (pending : reservation.status = .reserved) :
    reservation.reservedMicrousd ≤ budgetReserved books := by
  have member := @List.mem_map_of_mem _ _ _ _ outstanding (Table.mem_of_find found)
  have below := List.le_sum_of_mem member
  rw [outstanding, if_pos pending, ← balanced.reserved] at below
  exact below

theorem settle_consistent (balanced : Balanced books) {reservationId : String}
    {actualUsd : Option Numeral} {now : Instant} :
    (settle repository reservationId actualUsd now).run books ≠ .error inconsistent := by
  intro failed
  unfold settle at failed
  simp only [bind_eq_error, lift_eq_error, read_eq_error, check_eq_error, change_eq_error, stores,
    lift_eq_ok, read_eq_ok, check_eq_ok, false_or] at failed
  rcases failed with charges | ⟨actual, current, ⟨_, rfl⟩, _, _, same, failed⟩
  · exact nonnegativeMicrousd_consistent _ charges
  · cases same
    rcases failed with missing | ⟨reservation, _, ⟨found, rfl⟩, failed⟩
    · cases row : current.reservations.find reservationId with
      | none =>
          rw [row] at missing
          cases missing
      | some reservation =>
          rw [row] at missing
          cases missing
    · rw [needed_eq_ok] at found
      rcases failed with ⟨_, status⟩ | ⟨_, _, ⟨pending, rfl⟩, failed⟩
      · exact absurd status (by decide)
      · rcases failed with locked | ⟨budget, drawn, locked, failed⟩
        · exact budgetLocked_consistent locked
        · obtain ⟨_, _, taken, _⟩ := budgetLocked_ensures budget drawn locked
          rcases failed with ⟨short, _⟩ | ⟨_, _, _, failed⟩
          · rw [taken] at short
            exact short (outstanding_le balanced found pending)
          · rcases failed with ⟨_, full⟩ | ⟨_, _, _, never⟩
            · exact absurd full (by decide)
            · exact never

/-! ## Rates -/

/-- The reservations of a subject, each with the window that counts it. -/
def grantsOf (subject : String) (log : List Event) : List Grant :=
  log.filterMap fun event =>
    match event with
    | .reserved holder _ windowStartedAt now =>
        if holder = subject then some ⟨windowStartedAt.micros, now.micros⟩ else none
    | _ => none

/-- The grants are what the rate window has admitted; a subject without one has none. -/
def RatedBy (repository : LiveTrialRepository) : Option (Int × Window) → List Grant → Prop
  | none, grants => grants = []
  | some (opened, window), grants => Granted (limit repository) opened window grants

def Rated (repository : LiveTrialRepository) (books : Books) (log : List Event) : Prop :=
  ∀ subject, RatedBy repository (rates books subject) (grantsOf subject log)

theorem grantsOf_append (subject : String) (log recent : List Event) :
    grantsOf subject (log ++ recent) = grantsOf subject log ++ grantsOf subject recent :=
  List.filterMap_append

theorem Rated.of_silent {next : Books} {log : List Event} {event : Event}
    (rated : Rated repository books log) (kept : rates next = rates books)
    (silent : ∀ subject, grantsOf subject [event] = []) : Rated repository next (log ++ [event]) := by
  intro subject
  rw [kept, grantsOf_append, silent, List.append_nil]
  exact rated subject

theorem rated_of_posting {next : Books} {event : Event} {log : List Event}
    (posting : Posting repository books next event) (rated : Rated repository books log) :
    Rated repository next (log ++ [event]) := by
  cases posting with
  | @issued subject now fresh opened draws reservations =>
      intro other
      have silent : grantsOf other [.issued subject] = [] := rfl
      have before := rated other
      rw [grantsOf_append, silent, List.append_nil, opened, Function.update_apply]
      by_cases same : other = subject
      · rw [same, fresh] at before
        rw [if_pos same, same, show grantsOf subject log = [] from before]
        exact .opened
      · rw [if_neg same]
        exact before
  | revoked kept budget reservations => exact rated.of_silent kept fun _ => rfl
  | @reserved subject opened window window' windowStartedAt now reservation held admits counted =>
      intro other
      have before := rated other
      rw [grantsOf_append, counted, Function.update_apply]
      by_cases same : other = subject
      · rw [same, held] at before
        have granted : grantsOf subject [.reserved subject reservation.id windowStartedAt now] =
            [⟨windowStartedAt.micros, now.micros⟩] := by simp [grantsOf]
        rw [if_pos same, same, granted]
        exact Granted.granted before admits
      · have silent : grantsOf other [.reserved subject reservation.id windowStartedAt now] = [] := by
          simp [grantsOf, Ne.symm same]
        rw [if_neg same, silent, List.append_nil]
        exact before
  | bound kept budget found reservations => exact rated.of_silent kept fun _ => rfl
  | settled kept found pending backed draws reservations => exact rated.of_silent kept fun _ => rfl
  | shown kept draws reservations => exact rated.of_silent kept fun _ => rfl

theorem ledger_rated (actions : List Action) :
    Rated repository ((ledger repository).run Books.empty actions)
      ((ledger repository).log Books.empty actions) := by
  have initial : Rated repository Books.empty [] := fun _ => rfl
  refine (ledger repository).run_log_invariant (Rated repository) ?_ initial actions
  intro books action past rated
  unfold Machine.next Machine.events
  rcases @ledger_step repository books action with ⟨event, next, stepped, _, posting⟩ | ⟨error, stepped⟩
  · rw [stepped]
    exact rated_of_posting posting rated
  · rw [stepped]
    exact rated.of_silent rfl fun _ => rfl

/-- What the window of a subject has admitted, if it has been issued. -/
theorem Rated.granted {log : List Event} (rated : Rated repository books log) (subject : String) :
    ∃ opened window, Granted (limit repository) opened window (grantsOf subject log) := by
  have here := rated subject
  cases current : rates books subject with
  | none =>
      rw [current] at here
      rw [show grantsOf subject log = [] from here]
      exact ⟨0, _, .opened⟩
  | some standing =>
      rw [current] at here
      exact ⟨standing.1, standing.2, here⟩

/-! ## Clock readings -/

/-- The clock readings of the reservations that a subject asks for. -/
def readings (subject : String) (actions : List Action) : List Instant :=
  actions.filterMap fun action =>
    match action with
    | .reserve _ holder _ _ _ now => if holder = subject then some now else none
    | _ => none

/-- The times of the reservations are readings of the clock, in the same order. -/
theorem grants_sublist (subject : String) (books : Books) (actions : List Action) :
    List.Sublist ((grantsOf subject ((ledger repository).log books actions)).map (·.time))
      ((readings subject actions).map (·.micros)) := by
  induction actions generalizing books with
  | nil => exact List.Sublist.refl _
  | cons action rest ih =>
      have split : readings subject (action :: rest) =
          readings subject [action] ++ readings subject rest := by
        rw [← List.singleton_append]
        exact List.filterMap_append
      rw [Machine.log_cons, grantsOf_append, List.map_append, split, List.map_append]
      refine List.Sublist.append ?_ (ih _)
      unfold Machine.events
      rcases @ledger_step repository books action with
        ⟨event, next, stepped, committed, posting⟩ | ⟨error, stepped⟩
      · rw [stepped]
        cases posting with
        | @reserved holder opened window window' windowStartedAt now reservation held admits =>
            by_cases same : holder = subject
            · subst same
              cases reports_of_perform committed with
              | reserve => simp [grantsOf, readings]
            · simp [grantsOf, same]
        | issued | revoked | bound | settled | shown => exact List.nil_sublist _
      · rw [stepped]
        exact List.nil_sublist _

theorem grants_ordered {subject : String} {actions : List Action}
    (ordered : (readings subject actions).Pairwise (· ≤ ·)) :
    Ordered (grantsOf subject ((ledger repository).log Books.empty actions)) := by
  have times : ((readings subject actions).map (·.micros)).Pairwise (· ≤ ·) :=
    List.pairwise_map.mpr ordered
  exact List.pairwise_map.mp (times.sublist (grants_sublist subject Books.empty actions))

/-! ## Consistency -/

/-- After any run of the operations: the budget is balanced, every reservation has been
settled at most once, no settlement finds the reserved budget inconsistent, a rejected
operation changes nothing, and the rate limit holds for every window and, as long as the
clock readings of a credential are in order, for every interval. -/
theorem ledger_consistent (repository : LiveTrialRepository) (actions : List Action) :
    Balanced ((ledger repository).run Books.empty actions) ∧
    (∀ reservationId,
      ((ledger repository).log Books.empty actions).countP (settles reservationId) ≤ 1) ∧
    (∀ reservationId actualUsd now,
      (settle repository reservationId actualUsd now).run
        ((ledger repository).run Books.empty actions) ≠ .error inconsistent) ∧
    (∀ action error, (ledger repository).events ((ledger repository).run Books.empty actions)
        action = [.rejected error] →
      (ledger repository).next ((ledger repository).run Books.empty actions) action =
        (ledger repository).run Books.empty actions) ∧
    (∀ subject start,
      (grantsOf subject ((ledger repository).log Books.empty actions)).countP (inWindow start) ≤
        repository.requestsPerWindow) ∧
    ∀ subject, (readings subject actions).Pairwise (· ≤ ·) → ∀ time,
      (grantsOf subject ((ledger repository).log Books.empty actions)).countP
        (inInterval (limit repository) time) ≤ 2 * repository.requestsPerWindow := by
  have balanced := @ledger_balanced repository actions
  have rated := @ledger_rated repository actions
  refine ⟨balanced, ?_, ?_, ?_, ?_, ?_⟩
  · intro reservationId
    exact (settlement_gate reservationId).log_le_one
      ((ledger repository).follows_of_forall (fun _ _ _ => trivial) Books.empty)
  · intro reservationId actualUsd now
    exact settle_consistent balanced
  · intro action error rejected
    unfold Machine.events at rejected
    unfold Machine.next
    rcases @ledger_step repository ((ledger repository).run Books.empty actions) action with
      ⟨event, next, stepped, _, posting⟩ | ⟨_, stepped⟩
    · rw [stepped, List.singleton_inj] at rejected
      subst rejected
      cases posting
    · rw [stepped]
  · intro subject start
    obtain ⟨opened, window, granted⟩ := rated.granted subject
    exact granted.window_le start
  · intro subject ordered time
    obtain ⟨opened, window, granted⟩ := rated.granted subject
    exact granted.interval_le (grants_ordered ordered) time

end CrossPatch.Runtime.TrialConsistency
