import CrossPatch.Library.RateWindow
import CrossPatch.Library.Runs
import CrossPatch.Runtime.LiveTrials

/-!
# The ledger of the live trials

Every committed operation is one of six postings.  The budget agrees with the
reservations after each of them.  It also stays under its cap as long as no settlement
charges more than was reserved, which the operation does not check.
-/

namespace CrossPatch.Runtime.TrialLedger

open CrossPatch.Domain.Amounts CrossPatch.Domain.Failure
open CrossPatch.Library CrossPatch.Library.Calendar
open CrossPatch.Library.RateWindow CrossPatch.Library.Runs CrossPatch.Library.Transaction
open CrossPatch.Runtime.Authority (addDuration)
open CrossPatch.Runtime.LiveTrials
open CrossPatch.Runtime.Records (needed needed_eq_ok)

/-! ## Runs -/

inductive Action where
  | issue (actor : String) (expiresAt : Option Instant) (token uuid : String) (now : Instant)
  | revoke (principal : Option ApiPrincipalRecord) (subject actor : String) (now : Instant)
  | reserve (principal : Option ApiPrincipalRecord) (subject : String)
      (amountUsd : Option Numeral) (operation uuid : String) (now : Instant)
  | bindIncident (incident : Option IncidentOwnership) (granted : Bool)
      (reservationId subject incidentId : String)
  | settle (reservationId : String) (actualUsd : Option Numeral) (now : Instant)
  | globalBudget (now : Instant)

inductive Event where
  | issued (subject : String)
  | revoked (subject : String)
  | reserved (subject reservationId : String) (windowStartedAt now : Instant)
  | bound (reservationId : String)
  | settled (reservationId : String) (actualMicrousd : Nat)
  | shown
  | rejected (error : Raised)
  deriving DecidableEq

variable (repository : LiveTrialRepository)

/-- A reservation is logged with the window that counts it, a settlement with its charge. -/
def perform : Action → Operation Event
  | .issue actor expiresAt token uuid now => do
      let subject ← issue repository actor expiresAt token uuid now
      pure (.issued subject)
  | .revoke principal subject actor now => do
      revoke principal subject actor now
      pure (.revoked subject)
  | .reserve principal subject amountUsd operation uuid now => do
      let reservationId ← reserve repository principal subject amountUsd operation uuid now
      let credential ← credentialLocked subject unavailable
      pure (.reserved subject reservationId credential.rateWindowStartedAt now)
  | .bindIncident incident granted reservationId subject incidentId => do
      bindIncident incident granted reservationId subject incidentId
      pure (.bound reservationId)
  | .settle reservationId actualUsd now => do
      settle repository reservationId actualUsd now
      let actual ← lift (nonnegativeMicrousd actualUsd)
      pure (.settled reservationId actual)
  | .globalBudget now => do
      let _ ← globalBudget repository now
      pure .shown

/-- One transaction after the other, in the order of their commits. -/
def ledger : Machine Books Action Event where
  step books action :=
    match (perform repository action).commit books with
    | (.ok event, next) => (next, [event])
    | (.error error, next) => (next, [.rejected error])

/-! ## Postings -/

def budgetReserved (books : Books) : Nat :=
  (books.budget.map (·.reservedMicrousd)).getD 0

def budgetSpent (books : Books) : Nat :=
  (books.budget.map (·.spentMicrousd)).getD 0

/-- The budget that an operation leaves when it has drawn on it. -/
def Draws (reservedAfter spentAfter : Nat) (next : Books) : Prop :=
  ∃ budget, next.budget = some budget ∧ budget.capMicrousd = repository.cap ∧
    budget.reservedMicrousd = reservedAfter ∧ budget.spentMicrousd = spentAfter

/-- When a credential was issued, and its rate window. -/
def rate (credential : LiveTrialCredentialRecord) : Int × Window :=
  (credential.createdAt.micros, ⟨credential.rateWindowStartedAt.micros, credential.rateCount⟩)

def rates (books : Books) (subject : String) : Option (Int × Window) :=
  (books.credentials.find subject).map rate

def limit : Limit where
  width := repository.windowSeconds * 1000000
  most := repository.requestsPerWindow
  wide := by
    have positive := repository.positive.2
    omega
  some := repository.positive.1

/-- What a committed operation has done to the budget, the reservations and the rates. -/
inductive Posting (books next : Books) : Event → Prop where
  | issued {subject : String} {now : Instant} (fresh : rates books subject = none)
      (opened : rates next = Function.update (rates books) subject
        (some (now.micros, ⟨now.micros, 0⟩)))
      (draws : Draws repository (budgetReserved books) (budgetSpent books) next)
      (reservations : next.reservations = books.reservations) :
      Posting books next (.issued subject)
  | revoked {subject : String} (kept : rates next = rates books)
      (budget : next.budget = books.budget)
      (reservations : next.reservations = books.reservations) :
      Posting books next (.revoked subject)
  | reserved {subject : String} {opened : Int} {window window' : Window}
      {windowStartedAt now : Instant} {reservation : LiveTrialReservationRecord}
      (held : rates books subject = some (opened, window))
      (admits : Admits (limit repository) window ⟨windowStartedAt.micros, now.micros⟩ window')
      (counted : rates next = Function.update (rates books) subject (some (opened, window')))
      (covered : budgetSpent books + budgetReserved books + reservation.reservedMicrousd ≤ repository.cap)
      (draws : Draws repository (budgetReserved books + reservation.reservedMicrousd)
        (budgetSpent books) next)
      (pending : reservation.status = .reserved)
      (fresh : books.reservations.find reservation.id = none)
      (reservations : next.reservations = books.reservations.insert reservation fresh) :
      Posting books next (.reserved subject reservation.id windowStartedAt now)
  | bound {reservation : LiveTrialReservationRecord} {incidentId : String}
      (kept : rates next = rates books) (budget : next.budget = books.budget)
      (found : books.reservations.find reservation.id = some reservation)
      (reservations : next.reservations =
        books.reservations.write { reservation with incidentId := some incidentId }) :
      Posting books next (.bound reservation.id)
  | settled {reservation : LiveTrialReservationRecord} {actual : Nat} {now : Instant}
      (kept : rates next = rates books)
      (found : books.reservations.find reservation.id = some reservation)
      (pending : reservation.status = .reserved)
      (backed : reservation.reservedMicrousd ≤ budgetReserved books)
      (draws : Draws repository (budgetReserved books - reservation.reservedMicrousd)
        (budgetSpent books + actual) next)
      (reservations : next.reservations = books.reservations.write
        { reservation with
          actualMicrousd := some actual
          status := .settled
          settledAt := some now }) :
      Posting books next (.settled reservation.id actual)
  | shown (kept : rates next = rates books)
      (draws : Draws repository (budgetReserved books) (budgetSpent books) next)
      (reservations : next.reservations = books.reservations) : Posting books next .shown

variable {repository} {books : Books}

theorem budgetLocked_ensures {now : Instant} :
    (budgetLocked repository now).Ensures books fun budget next =>
      next = { books with budget := some budget } ∧ budget.capMicrousd = repository.cap ∧
        budget.reservedMicrousd = budgetReserved books ∧ budget.spentMicrousd = budgetSpent books := by
  unfold budgetLocked
  rw [ensures_bind, ensures_read]
  cases present : books.budget with
  | none => simp [stores, budgetReserved, budgetSpent, present]
  | some budget =>
      obtain ⟨principals, credentials, row, reservations⟩ := books
      cases present
      simp [budgetReserved, budgetSpent]

theorem addCredential_ensures {credential : LiveTrialCredentialRecord} :
    (addCredential credential).Ensures books fun _ next =>
      ∃ fresh : books.credentials.find credential.subject = none,
        next = { books with credentials := books.credentials.insert credential fresh } := by
  intro _ next committed
  unfold addCredential at committed
  dsimp only at committed
  split at committed
  · rename_i fresh
    cases committed
    exact ⟨fresh, rfl⟩
  · cases committed

theorem addReservation_ensures {reservation : LiveTrialReservationRecord} :
    (addReservation reservation).Ensures books fun _ next =>
      ∃ fresh : books.reservations.find reservation.id = none,
        next = { books with reservations := books.reservations.insert reservation fresh } := by
  intro _ next committed
  unfold addReservation at committed
  dsimp only at committed
  split at committed
  · rename_i fresh
    cases committed
    exact ⟨fresh, rfl⟩
  · cases committed

theorem addPrincipal_ensures {principal : ApiPrincipalRecord} :
    (addPrincipal principal).Ensures books fun _ next =>
      ∃ principals, next = { books with principals := principals } := by
  intro _ next committed
  unfold addPrincipal at committed
  dsimp only at committed
  split at committed
  · split at committed
    · cases committed
      exact ⟨_, rfl⟩
    · cases committed
  · cases committed

/-! ## The operations post -/

theorem rates_write {books next : Books} {before after : LiveTrialCredentialRecord}
    (written : next.credentials = books.credentials.write after)
    (found : books.credentials.find after.subject = some before) :
    rates next = Function.update (rates books) after.subject (some (rate after)) := by
  funext subject
  unfold rates
  rw [written, Table.find_write found, Function.update_apply]
  split <;> rfl

/-- A write that keeps the rate of a credential keeps all rates. -/
theorem rates_write_same {books next : Books} {before after : LiveTrialCredentialRecord}
    (written : next.credentials = books.credentials.write after)
    (found : books.credentials.find after.subject = some before) (same : rate after = rate before) :
    rates next = rates books := by
  rw [rates_write written found]
  apply Function.update_eq_self_iff.mpr
  rw [rates, found, Option.map_some, same]

theorem credentialLocked_ensures {subject : String} {error : Raised} :
    (credentialLocked subject error).Ensures books fun credential next =>
      next = books ∧ books.credentials.find subject = some credential := by
  unfold credentialLocked
  simp only [ensures_bind, ensures_read, ensures_lift, needed_eq_ok]
  intro credential found
  exact ⟨trivial, found⟩

theorem issue_posts {actor : String} {expiresAt : Option Instant} {token uuid : String}
    {now : Instant} : (issue repository actor expiresAt token uuid now).Ensures books
      fun subject next => Posting repository books next (.issued subject) := by
  unfold issue
  simp only [ensures_bind, ensures_lift, ensures_check, ensures_pure]
  intro expiry _ _
  refine budgetLocked_ensures.mono ?_
  rintro budget drawn ⟨rfl, cap, taken, paid⟩
  refine addPrincipal_ensures.mono ?_
  rintro _ listed ⟨principals, rfl⟩
  refine addCredential_ensures.mono ?_
  rintro _ next ⟨fresh, rfl⟩
  refine @Posting.issued repository _ _ _ now ?_ ?_ ⟨budget, rfl, cap, taken, paid⟩ rfl
  · rw [rates, fresh]
    rfl
  · funext subject
    unfold rates
    rw [Table.find_insert fresh, Function.update_apply]
    split <;> rfl

theorem revoke_posts {principal : Option ApiPrincipalRecord} {subject actor : String}
    {now : Instant} : (revoke principal subject actor now).Ensures books
      fun _ next => Posting repository books next (.revoked subject) := by
  unfold revoke
  simp only [ensures_bind, ensures_lift, ensures_check, ensures_change]
  refine credentialLocked_ensures.mono ?_
  rintro credential _ ⟨rfl, found⟩ seen _ _
  cases credential.revokedAt with
  | some at_ =>
      rw [ensures_pure]
      exact .revoked rfl rfl rfl
  | none =>
      rw [ensures_change]
      have named := Table.key_of_find found
      rw [← named] at found
      exact .revoked (rates_write_same rfl found rfl) rfl rfl

/-- A window with room admits a reservation. -/
theorem rateWindow_admits {held credential : LiveTrialCredentialRecord} {now : Instant}
    (windowed : rateWindow repository held now = .ok credential)
    (room : credential.rateCount < repository.requestsPerWindow) :
    Admits (limit repository) (rate held).2 ⟨credential.rateWindowStartedAt.micros, now.micros⟩
      ⟨credential.rateWindowStartedAt.micros, credential.rateCount + 1⟩ ∧
      credential.createdAt = held.createdAt ∧ credential.subject = held.subject := by
  unfold rateWindow at windowed
  rw [Attempt.bind_eq_ok] at windowed
  obtain ⟨ends, added, chosen⟩ := windowed
  rw [Except.ok.injEq] at chosen
  have later : ends.micros = held.rateWindowStartedAt.micros + (limit repository).width := by
    unfold addDuration at added
    split at added
    · split at added
      · cases added
        rfl
      · cases added
    · cases added
  split at chosen
  · rename_i passed
    subst chosen
    refine ⟨.restart ?_, rfl, rfl⟩
    rw [Instant.le_iff, later] at passed
    exact passed
  · rename_i runs
    subst chosen
    refine ⟨.within ?_ room, rfl, rfl⟩
    rw [Instant.le_iff, later] at runs
    exact not_le.mp runs

theorem reserve_posts {principal : Option ApiPrincipalRecord} {subject operation uuid : String}
    {amountUsd : Option Numeral} {now : Instant} :
    (reserve repository principal subject amountUsd operation uuid now).Ensures books
      fun reservationId next => ∃ credential, next.credentials.find subject = some credential ∧
        Posting repository books next
          (.reserved subject reservationId credential.rateWindowStartedAt now) := by
  unfold reserve
  simp only [ensures_bind, ensures_lift, ensures_check, ensures_change, ensures_pure, stores]
  intro amount _ _
  refine credentialLocked_ensures.mono ?_
  rintro held current ⟨rfl, found⟩ seen _ _ credential windowed room
  obtain ⟨admits, same, named⟩ := rateWindow_admits windowed room
  obtain rfl := Table.key_of_find found
  rw [← named] at found ⊢
  have standing : rates current credential.subject =
      some (credential.createdAt.micros, (rate held).2) := by
    rw [rates, found, same]
    rfl
  have counted (next : Books) (written : next.credentials = current.credentials.write
      { credential with rateCount := credential.rateCount + 1, updatedAt := now }) :=
    rates_write written found
  refine budgetLocked_ensures.mono ?_
  rintro budget drawn ⟨rfl, cap, taken, paid⟩ covered _
  refine addReservation_ensures.mono ?_
  rintro _ next ⟨fresh, rfl⟩
  refine ⟨{ credential with rateCount := credential.rateCount + 1, updatedAt := now },
    Table.find_write_self found,
    .reserved standing admits (counted _ rfl) ?_ ⟨{ budget with
      reservedMicrousd := budget.reservedMicrousd + amount
      updatedAt := now }, rfl, cap, ?_, paid⟩ rfl fresh rfl⟩
  · rw [← taken, ← paid, ← cap]
    exact covered
  · rw [← taken]

theorem bindIncident_posts {incident : Option IncidentOwnership} {granted : Bool}
    {reservationId subject incidentId : String} :
    (bindIncident incident granted reservationId subject incidentId).Ensures books
      fun _ next => Posting repository books next (.bound reservationId) := by
  unfold bindIncident
  simp only [ensures_bind, ensures_read, ensures_lift, ensures_check, ensures_change,
    needed_eq_ok]
  intro reservation found _ _ _
  obtain rfl := Table.key_of_find found
  exact .bound rfl rfl found rfl

theorem settle_posts {reservationId : String} {actualUsd : Option Numeral} {now : Instant} :
    (settle repository reservationId actualUsd now).Ensures books
      fun _ next => ∀ actual, nonnegativeMicrousd actualUsd = .ok actual →
        Posting repository books next (.settled reservationId actual) := by
  unfold settle
  simp only [ensures_bind, ensures_read, ensures_lift, ensures_check, ensures_change,
    needed_eq_ok, stores]
  intro actual charges reservation found pending
  obtain rfl := Table.key_of_find found
  refine budgetLocked_ensures.mono ?_
  rintro budget drawn ⟨rfl, cap, taken, paid⟩ backed _ charge charges'
  rw [charges, Except.ok.injEq] at charges'
  subst charges'
  rw [taken] at backed
  refine .settled rfl found pending backed ⟨{ budget with
    reservedMicrousd := budget.reservedMicrousd - reservation.reservedMicrousd
    spentMicrousd := budget.spentMicrousd + actual
    updatedAt := now }, rfl, cap, ?_, ?_⟩ rfl
  · rw [← taken]
  · rw [← paid]

theorem perform_posts {action : Action} : (perform repository action).Ensures books
    fun event next => Posting repository books next event := by
  cases action with
  | issue actor expiresAt token uuid now =>
      simp only [perform, ensures_bind, ensures_pure]
      exact issue_posts
  | revoke principal subject actor now =>
      simp only [perform, ensures_bind, ensures_pure]
      exact revoke_posts
  | reserve principal subject amountUsd operation uuid now =>
      simp only [perform, ensures_bind, ensures_pure]
      refine reserve_posts.mono ?_
      rintro reservationId next ⟨credential, found, posting⟩
      refine credentialLocked_ensures.mono ?_
      rintro seen _ ⟨rfl, present⟩
      rw [found, Option.some.injEq] at present
      rw [← present]
      exact posting
  | bindIncident incident granted reservationId subject incidentId =>
      simp only [perform, ensures_bind, ensures_pure]
      exact bindIncident_posts
  | settle reservationId actualUsd now =>
      simp only [perform, ensures_bind, ensures_lift, ensures_pure]
      exact settle_posts
  | globalBudget now =>
      simp only [perform, globalBudget, ensures_bind, ensures_pure]
      refine budgetLocked_ensures.mono ?_
      rintro budget next ⟨rfl, cap, taken, paid⟩
      exact .shown rfl ⟨budget, rfl, cap, taken, paid⟩ rfl

/-- A step posts what it did, or it is rejected and changes nothing. -/
theorem ledger_step (action : Action) :
    (∃ event next, (ledger repository).step books action = (next, [event]) ∧
      (perform repository action).run books = .ok (event, next) ∧
      Posting repository books next event) ∨
    ∃ error, (ledger repository).step books action = (books, [.rejected error]) := by
  cases outcome : (perform repository action).run books with
  | ok reached =>
      obtain ⟨event, next⟩ := reached
      refine Or.inl ⟨event, next, ?_, rfl, perform_posts event next outcome⟩
      simp only [ledger, Transaction.commit, outcome]
  | error error =>
      exact Or.inr ⟨error, by simp only [ledger, Transaction.commit, outcome]⟩

/-- What committed postings keep is kept by every step. -/
theorem next_of_posting {Inv : Books → Prop} {action : Action}
    (posted : ∀ event next, (perform repository action).run books = .ok (event, next) →
      Posting repository books next event → Inv next) (unchanged : Inv books) :
    Inv ((ledger repository).next books action) := by
  unfold Machine.next
  rcases @ledger_step repository books action with
    ⟨event, next, stepped, committed, posting⟩ | ⟨error, stepped⟩
  · rw [stepped]
    exact posted event next committed posting
  · rw [stepped]
    exact unchanged

/-! ## Balance -/

/-- What a reservation holds back. -/
def outstanding (reservation : LiveTrialReservationRecord) : Nat :=
  if reservation.status = .reserved then reservation.reservedMicrousd else 0

/-- What a reservation has cost. -/
def charged (reservation : LiveTrialReservationRecord) : Nat :=
  if reservation.status = .settled then reservation.actualMicrousd.getD 0 else 0

structure Balanced (books : Books) : Prop where
  reserved : budgetReserved books = (books.reservations.rows.map outstanding).sum
  spent : budgetSpent books = (books.reservations.rows.map charged).sum
  priced : ∀ reservation ∈ books.reservations.rows, reservation.status = .settled →
    reservation.actualMicrousd ≠ none

theorem Draws.reserved {reservedAfter spentAfter : Nat} {next : Books}
    (draws : Draws repository reservedAfter spentAfter next) :
    budgetReserved next = reservedAfter := by
  obtain ⟨budget, present, _, taken, _⟩ := draws
  rw [budgetReserved, present]
  exact taken

theorem Draws.spent {reservedAfter spentAfter : Nat} {next : Books}
    (draws : Draws repository reservedAfter spentAfter next) :
    budgetSpent next = spentAfter := by
  obtain ⟨budget, present, _, _, paid⟩ := draws
  rw [budgetSpent, present]
  exact paid

/-- A row of a table after a write is the written one or an old one. -/
theorem mem_write {table : Table LiveTrialReservationRecord.id}
    {row member : LiveTrialReservationRecord} (inside : member ∈ (table.write row).rows) :
    member = row ∨ member ∈ table.rows := by
  obtain ⟨current, old, rfl⟩ := List.mem_map.mp inside
  unfold Table.replaceRow
  split
  · exact Or.inl rfl
  · exact Or.inr old

/-- Revising a reservation changes a sum by the difference. -/
theorem sum_revised {next : Books} {before after : LiveTrialReservationRecord}
    (written : next.reservations = books.reservations.write after)
    (found : books.reservations.find after.id = some before)
    (amount : LiveTrialReservationRecord → Nat) :
    (next.reservations.rows.map amount).sum + amount before =
      (books.reservations.rows.map amount).sum + amount after := by
  rw [written]
  exact Table.sum_write amount found

theorem Posting.balanced {next : Books} {event : Event}
    (posting : Posting repository books next event) (balanced : Balanced books) :
    Balanced next := by
  obtain ⟨held, paid, priced⟩ := balanced
  cases posting with
  | issued fresh opened draws reservations =>
      rw [← draws.reserved] at held
      rw [← draws.spent] at paid
      rw [← reservations] at held paid priced
      exact ⟨held, paid, priced⟩
  | revoked kept budget reservations =>
      constructor
      · rw [budgetReserved, budget, reservations]
        exact held
      · rw [budgetSpent, budget, reservations]
        exact paid
      · rw [reservations]
        exact priced
  | reserved _ _ _ covered draws pending fresh reservations =>
      constructor
      · rw [draws.reserved, reservations, Table.rows_insert, held]
        simp [outstanding, pending]
      · rw [draws.spent, reservations, Table.rows_insert, paid]
        simp [charged, pending]
      · intro row member done
        rw [reservations, Table.rows_insert] at member
        rcases List.mem_append.mp member with old | new
        · exact priced row old done
        · rw [List.mem_singleton.mp new, pending] at done
          cases done
  | @bound reservation incidentId kept budget found reservations =>
      have kept' := sum_revised reservations found outstanding
      have paid' := sum_revised reservations found charged
      constructor
      · change _ + outstanding reservation = _ + outstanding reservation at kept'
        rw [budgetReserved, budget]
        rw [budgetReserved] at held
        omega
      · change _ + charged reservation = _ + charged reservation at paid'
        rw [budgetSpent, budget]
        rw [budgetSpent] at paid
        omega
      · intro row member done
        rw [reservations] at member
        rcases mem_write member with rfl | old
        · exact priced reservation (Table.mem_of_find found) done
        · exact priced row old done
  | @settled reservation actual now kept found pending backed draws reservations =>
      have kept' := sum_revised reservations found outstanding
      have paid' := sum_revised reservations found charged
      have before : outstanding reservation = reservation.reservedMicrousd := by
        rw [outstanding, if_pos pending]
      have before' : charged reservation = 0 := by
        rw [charged, pending]
        rfl
      constructor
      · rw [draws.reserved]
        change _ + outstanding reservation = _ + 0 at kept'
        omega
      · rw [draws.spent]
        change _ + charged reservation = _ + actual at paid'
        omega
      · intro row member done
        rw [reservations] at member
        rcases mem_write member with rfl | old
        · exact Option.some_ne_none actual
        · exact priced row old done
  | shown kept draws reservations =>
      rw [← draws.reserved] at held
      rw [← draws.spent] at paid
      rw [← reservations] at held paid priced
      exact ⟨held, paid, priced⟩

theorem balanced_empty : Balanced Books.empty where
  reserved := rfl
  spent := rfl
  priced := by
    intro row member
    cases member

theorem ledger_balanced (actions : List Action) :
    Balanced ((ledger repository).run Books.empty actions) := by
  apply (ledger repository).run_invariant Balanced ?_ balanced_empty
  intro books action balanced
  exact next_of_posting (fun _ _ _ posting => posting.balanced balanced) balanced

/-! ## The ceiling -/

def Capped (books : Books) : Prop :=
  ∀ budget, books.budget = some budget →
    budget.spentMicrousd + budget.reservedMicrousd ≤ budget.capMicrousd

/-- A settlement charges at most what its reservation holds back. -/
def Covered (books : Books) : Action → Prop
  | .settle reservationId actualUsd _ => ∀ actual reservation,
      nonnegativeMicrousd actualUsd = .ok actual →
      books.reservations.find reservationId = some reservation →
      actual ≤ reservation.reservedMicrousd
  | _ => True

/-- The stored cap is the configured one, and it covers the budget. -/
structure Ceiling (repository : LiveTrialRepository) (books : Books) : Prop where
  owned : ∀ budget, books.budget = some budget → budget.capMicrousd = repository.cap
  kept : budgetSpent books + budgetReserved books ≤ repository.cap

theorem Ceiling.capped (ceiling : Ceiling repository books) : Capped books := by
  intro budget present
  have kept := ceiling.kept
  rw [budgetSpent, budgetReserved, present] at kept
  rw [ceiling.owned budget present]
  exact kept

theorem Draws.ceiling {reservedAfter spentAfter : Nat} {next : Books}
    (draws : Draws repository reservedAfter spentAfter next)
    (kept : spentAfter + reservedAfter ≤ repository.cap) : Ceiling repository next := by
  constructor
  · obtain ⟨budget, present, cap, _⟩ := draws
    intro other present'
    rw [present, Option.some.injEq] at present'
    rw [← present']
    exact cap
  · rw [draws.spent, draws.reserved]
    exact kept

theorem Ceiling.of_budget {next : Books} (ceiling : Ceiling repository books)
    (budget : next.budget = books.budget) : Ceiling repository next := by
  constructor
  · rw [budget]
    exact ceiling.owned
  · rw [budgetSpent, budgetReserved, budget]
    exact ceiling.kept

/-- The event that a committed action reports. -/
inductive Reports : Action → Event → Prop where
  | issue {actor expiresAt token uuid now subject} :
      Reports (.issue actor expiresAt token uuid now) (.issued subject)
  | revoke {principal subject actor now} :
      Reports (.revoke principal subject actor now) (.revoked subject)
  | reserve {principal subject amountUsd operation uuid now reservationId windowStartedAt} :
      Reports (.reserve principal subject amountUsd operation uuid now)
        (.reserved subject reservationId windowStartedAt now)
  | bindIncident {incident granted reservationId subject incidentId} :
      Reports (.bindIncident incident granted reservationId subject incidentId)
        (.bound reservationId)
  | settle {reservationId actualUsd now actual}
      (charges : nonnegativeMicrousd actualUsd = .ok actual) :
      Reports (.settle reservationId actualUsd now) (.settled reservationId actual)
  | globalBudget {now} : Reports (.globalBudget now) .shown

theorem reports_of_perform {action : Action} {event : Event} {next : Books}
    (committed : (perform repository action).run books = .ok (event, next)) :
    Reports action event := by
  cases action with
  | issue actor expiresAt token uuid now =>
      simp only [perform, bind_eq_ok, pure_eq_ok] at committed
      obtain ⟨_, _, _, same⟩ := committed
      cases same
      exact .issue
  | revoke principal subject actor now =>
      simp only [perform, bind_eq_ok, pure_eq_ok] at committed
      obtain ⟨_, _, _, same⟩ := committed
      cases same
      exact .revoke
  | reserve principal subject amountUsd operation uuid now =>
      simp only [perform, bind_eq_ok, pure_eq_ok] at committed
      obtain ⟨_, _, _, _, _, _, same⟩ := committed
      cases same
      exact .reserve
  | bindIncident incident granted reservationId subject incidentId =>
      simp only [perform, bind_eq_ok, pure_eq_ok] at committed
      obtain ⟨_, _, _, same⟩ := committed
      cases same
      exact .bindIncident
  | settle reservationId actualUsd now =>
      simp only [perform, bind_eq_ok, lift_eq_ok, pure_eq_ok] at committed
      obtain ⟨_, _, _, charge, _, ⟨charges, _⟩, same⟩ := committed
      cases same
      exact .settle charges
  | globalBudget now =>
      simp only [perform, bind_eq_ok, pure_eq_ok] at committed
      obtain ⟨_, _, _, same⟩ := committed
      cases same
      exact .globalBudget

theorem Posting.ceiling {next : Books} {event : Event}
    (posting : Posting repository books next event) (ceiling : Ceiling repository books)
    (covered : ∀ reservationId actual reservation, event = .settled reservationId actual →
      books.reservations.find reservationId = some reservation →
      actual ≤ reservation.reservedMicrousd) : Ceiling repository next := by
  have kept := ceiling.kept
  cases posting with
  | issued fresh opened draws reservations => exact draws.ceiling kept
  | revoked kept budget reservations => exact ceiling.of_budget budget
  | reserved _ _ _ room draws pending fresh reservations =>
      apply draws.ceiling
      omega
  | bound kept budget found reservations => exact ceiling.of_budget budget
  | @settled reservation actual now same found pending backed draws reservations =>
      have within := covered reservation.id actual reservation rfl found
      apply draws.ceiling
      omega
  | shown same draws reservations => exact draws.ceiling kept

/-- The budget stays under its cap in every run in which no settlement charges more than
its reservation holds back. -/
theorem covered_spending_capped (repository : LiveTrialRepository) (actions : List Action)
    (covered : (ledger repository).Follows Covered Books.empty actions) :
    Capped ((ledger repository).run Books.empty actions) := by
  refine @Ceiling.capped repository _ ?_
  refine (ledger repository).run_invariant_of_follows (Ceiling repository) ?_ ?_ covered
  · intro books action within ceiling
    refine next_of_posting (fun event next committed posting => ?_) ceiling
    refine posting.ceiling ceiling ?_
    rintro reservationId actual reservation rfl found
    cases reports_of_perform committed with
    | settle charges => exact within actual reservation charges found
  · constructor
    · intro budget present
      cases present
    · exact Nat.zero_le _

/-! ## Examples -/

def sampleRepository : LiveTrialRepository := ⟨20000000, 3, 3600, 2147483647, by decide⟩

def sampleExpiry : Instant := ⟨1000000000, by decide, by decide⟩

/-- The principal of the credential that the examples issue. -/
def samplePrincipal : ApiPrincipalRecord where
  subject := "live-trial-1"
  bearerSha256 := "digest"
  role := .liveTrial
  expiresAt := sampleExpiry
  revoked := false
  createdAt := .epoch
  updatedAt := .epoch

def dollars (amount : Int) : Option Numeral := some (.finite ⟨amount, 0⟩)

/-- One reservation that is settled. -/
def settledTrial (reserved actual : Int) : List Action :=
  [.issue "operator" (some sampleExpiry) "token" "1" .epoch,
   .reserve (some samplePrincipal) "live-trial-1" (dollars reserved) "initial-run" "1" .epoch,
   .settle "trial-reservation-1" (dollars actual) .epoch]

theorem settled_trial_capped : Capped ((ledger sampleRepository).run Books.empty (settledTrial 4 3)) := by
  refine covered_spending_capped sampleRepository (settledTrial 4 3) ⟨trivial, trivial, ?_, trivial⟩
  intro actual reservation charges found
  have cost : actual = 3000000 := by
    have charge : nonnegativeMicrousd (dollars 3) = .ok 3000000 := by decide
    rw [charge, Except.ok.injEq] at charges
    exact charges.symm
  have held : (((ledger sampleRepository).run Books.empty ((settledTrial 4 3).take 2)).reservations.find
      "trial-reservation-1").map (·.reservedMicrousd) = some 4000000 := by decide
  change (((ledger sampleRepository).run Books.empty ((settledTrial 4 3).take 2)).reservations.find
      "trial-reservation-1") = _ at found
  rw [found, Option.map_some, Option.some.injEq] at held
  omega

/-- A charge of 21 dollars against a reservation of 20 passes a cap of 20. -/
theorem settled_trial_overspent :
    ¬ ∀ (repository : LiveTrialRepository) (actions : List Action),
      Capped ((ledger repository).run Books.empty actions) := by
  intro capped
  have spending : (((ledger sampleRepository).run Books.empty (settledTrial 20 21)).budget.map
      fun budget => (budget.spentMicrousd, budget.reservedMicrousd, budget.capMicrousd)) =
        some (21000000, 0, 20000000) := by decide
  obtain ⟨budget, present, amounts⟩ := Option.map_eq_some_iff.mp spending
  have below := capped sampleRepository (settledTrial 20 21) budget present
  simp only [Prod.mk.injEq] at amounts
  omega

end CrossPatch.Runtime.TrialLedger
