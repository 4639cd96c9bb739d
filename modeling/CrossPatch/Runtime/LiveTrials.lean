import CrossPatch.Domain.Amounts
import CrossPatch.Library.Sha256
import CrossPatch.Library.Table
import CrossPatch.Library.Transaction
import CrossPatch.Runtime.Authority

/-!
# Live trials

Credentials with a rate limit each, one budget for all of them, and the reservations
that draw on it.  Every operation is one transaction.  It reads the rows that it
changes under their locks, which it keeps until it ends, so these rows are read as
they are when it commits.  The rows that it only looks at, a principal, an incident
and a grant, are read without a lock, so an operation takes them as arguments.
-/

namespace CrossPatch.Runtime.LiveTrials

open CrossPatch.Domain.Amounts CrossPatch.Domain.Failure
open CrossPatch.Library CrossPatch.Library.Attempt CrossPatch.Library.Calendar
open CrossPatch.Library.Decimals CrossPatch.Library.Octets CrossPatch.Library.Sha256
open CrossPatch.Library.Transaction
open CrossPatch.Runtime.Authority (addDuration)
open CrossPatch.Runtime.Records (needed)

/-! ## Amounts -/

def micro : Decimal := ⟨1000000, 0⟩

/-- Whole micro-dollars, rounded up. -/
def wholeMicrousd (amount : Decimal) : Attempt Nat :=
  match Context.default.multiply amount micro with
  | some scaled => .ok scaled.ceiling.toNat
  | none => raise .decimalOverflow "above Emax"

/-- `_microusd`, given what `Decimal(str(value))` returns. -/
def microusd : Option Numeral → Attempt Nat
  | none => raise .valueError "live-trial USD amount is invalid"
  | some (.finite amount) =>
      if 0 < amount.coefficient then wholeMicrousd amount
      else raise .valueError "live-trial USD amount must be positive"
  | some _ => raise .valueError "live-trial USD amount must be positive"

def nonnegativeMicrousd : Option Numeral → Attempt Nat
  | none => raise .valueError "live-trial USD amount is invalid"
  | some (.finite amount) =>
      if 0 ≤ amount.coefficient then wholeMicrousd amount
      else raise .valueError "live-trial USD amount must be non-negative"
  | some _ => raise .valueError "live-trial USD amount must be non-negative"

/-! ## Rows -/

inductive Role where
  | readOnly
  | operator
  | approver
  | liveTrial
  deriving DecidableEq

structure ApiPrincipalRecord where
  subject : String
  bearerSha256 : String
  role : Role
  expiresAt : Instant
  revoked : Bool
  createdAt : Instant
  updatedAt : Instant

structure LiveTrialCredentialRecord where
  subject : String
  createdBy : String
  rateWindowStartedAt : Instant
  rateCount : Nat
  revokedAt : Option Instant
  revokedBy : Option String
  createdAt : Instant
  updatedAt : Instant

structure LiveTrialBudgetRecord where
  capMicrousd : Nat
  spentMicrousd : Nat
  reservedMicrousd : Nat
  updatedAt : Instant

inductive ReservationStatus where
  | reserved
  | settled
  deriving DecidableEq

structure LiveTrialReservationRecord where
  id : String
  subject : String
  incidentId : Option String
  operation : String
  reservedMicrousd : Nat
  actualMicrousd : Option Nat
  status : ReservationStatus
  createdAt : Instant
  settledAt : Option Instant

/-- What `bind_incident` reads of an incident. -/
structure IncidentOwnership where
  liveTrial : Bool
  ownerSubject : Option String

/-- The rows of the live trials. -/
structure Books where
  principals : Table ApiPrincipalRecord.subject
  credentials : Table LiveTrialCredentialRecord.subject
  budget : Option LiveTrialBudgetRecord
  reservations : Table LiveTrialReservationRecord.id

def Books.empty : Books := ⟨.empty, .empty, none, .empty⟩

/-- The limits of the repository, which refuses rates below one, and the largest number
that a column can hold. -/
structure LiveTrialRepository where
  cap : Nat
  requestsPerWindow : Nat
  windowSeconds : Nat
  columnLimit : Nat
  positive : 1 ≤ requestsPerWindow ∧ 1 ≤ windowSeconds

abbrev Operation := Transaction Raised Books

/-- Refused by the database when the rows are flushed. -/
def flushError (message : String) : Raised := ⟨.integrityError, message⟩

variable (repository : LiveTrialRepository)

/-- A number is stored if the column can hold it. -/
def stores (value : Nat) : Operation Unit :=
  check (value ≤ repository.columnLimit) ⟨.overflowError, "integer out of range"⟩

/-! ## Operations -/

def budgetLocked (now : Instant) : Operation LiveTrialBudgetRecord := do
  let books ← read
  match books.budget with
  | none => do
      stores repository repository.cap
      let budget : LiveTrialBudgetRecord := ⟨repository.cap, 0, 0, now⟩
      change fun books => { books with budget := some budget }
      pure budget
  | some budget => do
      check (budget.capMicrousd = repository.cap)
        ⟨.runtimeError, "configured global live-trial budget changed"⟩
      pure budget

def addPrincipal (principal : ApiPrincipalRecord) : Operation Unit :=
  ⟨fun books =>
    if fresh : books.principals.find principal.subject = none then
      if books.principals.rows.all fun row => row.bearerSha256 != principal.bearerSha256 then
        .ok ((), { books with principals := books.principals.insert principal fresh })
      else .error (flushError "api_principals.bearer_sha256")
    else .error (flushError "api_principals.subject")⟩

def addCredential (credential : LiveTrialCredentialRecord) : Operation Unit :=
  ⟨fun books =>
    if fresh : books.credentials.find credential.subject = none then
      .ok ((), { books with credentials := books.credentials.insert credential fresh })
    else .error (flushError "live_trial_credentials.subject")⟩

def addReservation (reservation : LiveTrialReservationRecord) : Operation Unit :=
  ⟨fun books =>
    if fresh : books.reservations.find reservation.id = none then
      .ok ((), { books with reservations := books.reservations.insert reservation fresh })
    else .error (flushError "live_trial_reservations.id")⟩

/-- A naive expiry has no instant. -/
def issue (actor : String) (expiresAt : Option Instant) (token uuid : String) (now : Instant) :
    Operation String := do
  let expiry ← lift (needed expiresAt
    ⟨.valueError, "live-trial credential expiry must be timezone-aware"⟩)
  check (now < expiry) ⟨.valueError, "live-trial credential must expire in the future"⟩
  let _ ← budgetLocked repository now
  addPrincipal
    { subject := "live-trial-" ++ uuid
      bearerSha256 := hexdigest (utf8 token)
      role := .liveTrial
      expiresAt := expiry
      revoked := false
      createdAt := now
      updatedAt := now }
  addCredential
    { subject := "live-trial-" ++ uuid
      createdBy := actor
      rateWindowStartedAt := now
      rateCount := 0
      revokedAt := none
      revokedBy := none
      createdAt := now
      updatedAt := now }
  pure ("live-trial-" ++ uuid)

/-- The locked credential of a subject. -/
def credentialLocked (subject : String) (error : Raised) : Operation LiveTrialCredentialRecord := do
  let books ← read
  lift (needed (books.credentials.find subject) error)

def revokePrincipal (subject : String) (now : Instant) (books : Books) : Books :=
  { books with
    principals := match books.principals.find subject with
      | some row => books.principals.write { row with revoked := true, updatedAt := now }
      | none => books.principals }

def revoke (principal : Option ApiPrincipalRecord) (subject actor : String) (now : Instant) :
    Operation Unit := do
  let missing : Raised := ⟨.lookupError, subject⟩
  let credential ← credentialLocked subject missing
  let seen ← lift (needed principal missing)
  check (seen.role = .liveTrial) missing
  change (revokePrincipal subject now)
  match credential.revokedAt with
  | some _ => pure ()
  | none => change fun books =>
      { books with
        credentials := books.credentials.write
          { credential with
            revokedAt := some now
            revokedBy := some actor
            updatedAt := now } }

def unavailable : Raised := ⟨.liveTrialDenied, "live-trial credential is unavailable"⟩

def operations : List String := ["initial-run", "revision"]

/-- The rate window of the credential at `now`, started afresh when the old one is over. -/
def rateWindow (credential : LiveTrialCredentialRecord) (now : Instant) :
    Attempt LiveTrialCredentialRecord := do
  let ends ← addDuration credential.rateWindowStartedAt (repository.windowSeconds * 1000000)
  .ok (if ends ≤ now then { credential with rateWindowStartedAt := now, rateCount := 0 }
    else credential)

def reserve (principal : Option ApiPrincipalRecord) (subject : String) (amountUsd : Option Numeral)
    (operation uuid : String) (now : Instant) : Operation String := do
  let amount ← lift (microusd amountUsd)
  check (operation ∈ operations) ⟨.valueError, "unsupported live-trial budget operation"⟩
  let held ← credentialLocked subject unavailable
  let seen ← lift (needed principal unavailable)
  check (seen.revoked = false ∧ seen.role = .liveTrial ∧ now < seen.expiresAt) unavailable
  let credential ← lift (rateWindow repository held now)
  check (credential.rateCount < repository.requestsPerWindow)
    ⟨.liveTrialRateLimited, "live-trial per-credential rate limit reached"⟩
  let budget ← budgetLocked repository now
  check (budget.spentMicrousd + budget.reservedMicrousd + amount ≤ budget.capMicrousd)
    ⟨.liveTrialBudgetExceeded, "global live-trial budget exhausted"⟩
  stores repository (credential.rateCount + 1)
  change fun books =>
    { books with
      credentials := books.credentials.write
        { credential with rateCount := credential.rateCount + 1, updatedAt := now }
      budget := some
        { budget with
          reservedMicrousd := budget.reservedMicrousd + amount
          updatedAt := now } }
  addReservation
    { id := "trial-reservation-" ++ uuid
      subject := subject
      incidentId := none
      operation := operation
      reservedMicrousd := amount
      actualMicrousd := none
      status := .reserved
      createdAt := now
      settledAt := none }
  pure ("trial-reservation-" ++ uuid)

def ownershipMismatch : Raised :=
  ⟨.liveTrialDenied, "live-trial reservation ownership mismatch"⟩

def bindIncident (incident : Option IncidentOwnership) (granted : Bool)
    (reservationId subject incidentId : String) : Operation Unit := do
  let books ← read
  let reservation ← lift (needed (books.reservations.find reservationId) ownershipMismatch)
  let owned ← lift (needed incident ownershipMismatch)
  check (reservation.status = .reserved ∧ reservation.subject = subject ∧
    reservation.incidentId = none ∧ owned.liveTrial = true ∧ owned.ownerSubject = some subject ∧
    granted = true) ownershipMismatch
  change fun books =>
    { books with
      reservations := books.reservations.write { reservation with incidentId := some incidentId } }

def inconsistent : Raised :=
  ⟨.runtimeError, "global live-trial reserved budget is inconsistent"⟩

def settle (reservationId : String) (actualUsd : Option Numeral) (now : Instant) :
    Operation Unit := do
  let actual ← lift (nonnegativeMicrousd actualUsd)
  let books ← read
  let reservation ← lift (needed (books.reservations.find reservationId)
    ⟨.lookupError, reservationId⟩)
  check (reservation.status = .reserved)
    ⟨.liveTrialDenied, "live-trial reservation already settled"⟩
  let budget ← budgetLocked repository now
  check (reservation.reservedMicrousd ≤ budget.reservedMicrousd) inconsistent
  stores repository (budget.spentMicrousd + actual)
  change fun books =>
    { books with
      budget := some
        { budget with
          reservedMicrousd := budget.reservedMicrousd - reservation.reservedMicrousd
          spentMicrousd := budget.spentMicrousd + actual
          updatedAt := now }
      reservations := books.reservations.write
        { reservation with
          actualMicrousd := some actual
          status := .settled
          settledAt := some now } }

def globalBudget (now : Instant) : Operation LiveTrialBudgetRecord := budgetLocked repository now

end CrossPatch.Runtime.LiveTrials
