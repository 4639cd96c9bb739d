import CrossPatch.Mcp.JudgeRegistry

/-!
# Judge tokens in the database

`JudgeTokenRepository` keeps a row for each token and an audit row for each issue and
each revocation.  Every operation is one transaction.  A revocation reads its row under
the row lock, which it keeps until it ends, so the row is read as it is at the commit.
A registration looks its row up without a lock, so it takes what it has seen as an
argument.
-/

namespace CrossPatch.Runtime.JudgeTokens

open CrossPatch.Domain.Failure CrossPatch.Domain.Text
open CrossPatch.Library CrossPatch.Library.Attempt CrossPatch.Library.Calendar
open CrossPatch.Library.Runs CrossPatch.Library.Transaction
open CrossPatch.Mcp.JudgeRegistry (digest isBlank validateJudgeTokenExpiry)

/-! ## Rows -/

structure JudgeTokenRecord where
  tokenSha256 : String
  jti : String
  expiresAt : Instant
  revoked : Bool
  createdAt : Instant
  revokedAt : Option Instant
  deriving DecidableEq

inductive AuditAction where
  | issued
  | revoked
  deriving DecidableEq

structure JudgeTokenAuditRecord where
  id : String
  tokenId : String
  action : AuditAction
  actor : String
  createdAt : Instant

/-- An update of a token row, with the audit rows that its trigger sees. -/
structure Update where
  old : JudgeTokenRecord
  new : JudgeTokenRecord
  audit : List JudgeTokenAuditRecord

/-- The two tables, and the updates of token rows issued so far. -/
structure Books where
  tokens : Table JudgeTokenRecord.tokenSha256
  audit : Table JudgeTokenAuditRecord.id
  updates : List Update

def Books.empty : Books := ⟨.empty, .empty, []⟩

abbrev Operation := Transaction Raised Books

/-! ## The trigger -/

/-- `crosspatch_guard_judge_token_mutation`; a deletion has no new row. -/
def guardJudgeTokenMutation (audit : List JudgeTokenAuditRecord) (old : JudgeTokenRecord) :
    Option JudgeTokenRecord → Except String JudgeTokenRecord
  | none => .error "judge token identities cannot be deleted"
  | some new => do
      require (old.tokenSha256 = new.tokenSha256 ∧ old.jti = new.jti ∧
        old.expiresAt = new.expiresAt ∧ old.createdAt = new.createdAt)
        "judge token identity and expiry are immutable"
      if old.revoked then do
        require (new.revoked = true ∧ new.revokedAt = old.revokedAt)
          "judge token revocation is irreversible"
        .ok new
      else if new.revoked then
        match new.revokedAt with
        | none => .error "judge token revocation time is required"
        | some revokedAt => do
            require ((audit.any fun event => event.tokenId == new.jti &&
                event.action == .revoked && decide (event.createdAt = revokedAt)) = true)
              "judge token revocation requires matching append-only REVOKED audit"
            .ok new
      else do
        require (new.revokedAt = none) "active judge tokens cannot have a revocation time"
        .ok new

/-! ## Operations -/

def validateActor (actor : String) : Attempt String :=
  let normalized := Lines.trim isSpace actor.toList
  if normalized = [] ∨ 128 < normalized.length then
    raise .valueError "judge token audit actor is required and bounded"
  else .ok (String.ofList normalized)

/-- Refused by the database when the rows are flushed. -/
def flushError (message : String) : Raised := ⟨.integrityError, message⟩

def addToken (token : JudgeTokenRecord) : Operation Unit :=
  ⟨fun books =>
    if fresh : books.tokens.find token.tokenSha256 = none then
      if books.tokens.rows.all fun row => row.jti != token.jti then
        .ok ((), { books with tokens := books.tokens.insert token fresh })
      else .error (flushError "judge_tokens.jti")
    else .error (flushError "judge_tokens.token_sha256")⟩

def addAudit (event : JudgeTokenAuditRecord) : Operation Unit :=
  ⟨fun books =>
    if fresh : books.audit.find event.id = none then
      if books.tokens.rows.any fun row => row.jti == event.tokenId then
        .ok ((), { books with audit := books.audit.insert event fresh })
      else .error (flushError "judge_token_audit_events.token_id")
    else .error (flushError "judge_token_audit_events.id")⟩

def register (seen : Option JudgeTokenRecord) (token jti : String) (expiresAt : Option Instant)
    (actor uuid : String) (now : Instant) : Operation Unit := do
  let normalized ← lift (validateJudgeTokenExpiry expiresAt)
  check (isBlank token = false ∧ isBlank jti = false)
    ⟨.valueError, "judge token and JTI are required"⟩
  let auditActor ← lift (validateActor actor)
  match seen with
  | none => do
      addToken
        { tokenSha256 := digest token
          jti := jti
          expiresAt := normalized
          revoked := false
          createdAt := now
          revokedAt := none }
      addAudit ⟨"judge_audit_" ++ uuid, jti, .issued, auditActor, now⟩
  | some existing => do
      check (existing.tokenSha256 = digest token ∧ existing.jti = jti)
        ⟨.valueError, "judge token digest or JTI is already bound"⟩
      check (existing.revoked = false)
        ⟨.valueError, "revoked judge tokens cannot be re-registered"⟩
      check (existing.expiresAt = normalized)
        ⟨.valueError, "registered judge token expiry cannot change"⟩

def updateToken (old new : JudgeTokenRecord) (books : Books) : Books :=
  { books with
    tokens := books.tokens.write new
    updates := books.updates ++ [⟨old, new, books.audit.rows⟩] }

def JudgeTokenRecord.revokedBy (record : JudgeTokenRecord) (now : Instant) : JudgeTokenRecord :=
  { record with revoked := true, revokedAt := some now }

/-- Revoke a locked row, unless that has happened: the audit row goes first. -/
def revokeLocked (record : JudgeTokenRecord) (auditActor uuid : String) (now : Instant) :
    Operation JudgeTokenRecord :=
  if record.revoked then pure record
  else do
    addAudit ⟨"judge_audit_" ++ uuid, record.jti, .revoked, auditActor, now⟩
    change (updateToken record (record.revokedBy now))
    pure (record.revokedBy now)

def revoke (token actor uuid : String) (now : Instant) : Operation Unit := do
  let auditActor ← lift (validateActor actor)
  let books ← read
  match books.tokens.find (digest token) with
  | none => pure ()
  | some record => do
      let _ ← revokeLocked record auditActor uuid now
      pure ()

structure TokenStatus where
  tokenId : String
  expiresAt : Instant
  revoked : Bool
  createdAt : Instant
  revokedAt : Option Instant

def status (record : JudgeTokenRecord) : TokenStatus :=
  ⟨record.jti, record.expiresAt, record.revoked, record.createdAt, record.revokedAt⟩

def revokeByTokenId (tokenId actor uuid : String) (now : Instant) :
    Operation (Option TokenStatus) := do
  check (isBlank tokenId = false) ⟨.valueError, "judge token ID is required"⟩
  let auditActor ← lift (validateActor actor)
  let books ← read
  match books.tokens.rows.find? fun row => row.jti == tokenId with
  | none => pure none
  | some record => do
      let revoked ← revokeLocked record auditActor uuid now
      pure (some (status revoked))

/-- `DatabaseJudgeTokenRegistry.is_active`. -/
def isActive (books : Books) (token : String) (now : Instant) : Bool :=
  match books.tokens.find (digest token) with
  | some record => !record.revoked && decide (now < record.expiresAt)
  | none => false

/-! ## Runs -/

inductive Call where
  | register (seen : Option JudgeTokenRecord) (token jti : String) (expiresAt : Option Instant)
      (actor uuid : String) (now : Instant)
  | revoke (token actor uuid : String) (now : Instant)
  | revokeByTokenId (tokenId actor uuid : String) (now : Instant)

def Call.perform : Call → Operation Unit
  | .register seen token jti expiresAt actor uuid now =>
      JudgeTokens.register seen token jti expiresAt actor uuid now
  | .revoke token actor uuid now => JudgeTokens.revoke token actor uuid now
  | .revokeByTokenId tokenId actor uuid now => do
      let _ ← JudgeTokens.revokeByTokenId tokenId actor uuid now
      pure ()

/-- The transactions in the order of their commits. -/
def machine : Machine Books Call Empty where
  step books call := ((call.perform.commit books).2, [])

/-- Everything that a committed call can do. -/
inductive Effect (books : Books) : Books → Prop where
  | kept : Effect books books
  | issued (token : JudgeTokenRecord) (event : JudgeTokenAuditRecord)
      (fresh : books.tokens.find token.tokenSha256 = none)
      (unbound : ∀ row ∈ books.tokens.rows, row.jti ≠ token.jti)
      (unlisted : books.audit.find event.id = none)
      (active : token.revoked = false ∧ token.revokedAt = none)
      (named : event.tokenId = token.jti ∧ event.action = .issued) :
      Effect books
        { books with
          tokens := books.tokens.insert token fresh
          audit := books.audit.insert event unlisted }
  | revoked (record : JudgeTokenRecord) (event : JudgeTokenAuditRecord)
      (present : record ∈ books.tokens.rows) (active : record.revoked = false)
      (unlisted : books.audit.find event.id = none)
      (named : event.tokenId = record.jti ∧ event.action = .revoked) :
      Effect books
        (updateToken record (record.revokedBy event.createdAt)
          { books with audit := books.audit.insert event unlisted })

variable {books : Books}

theorem addToken_ensures (token : JudgeTokenRecord) :
    (addToken token).Ensures books fun _ next =>
      ∃ fresh : books.tokens.find token.tokenSha256 = none,
        (∀ row ∈ books.tokens.rows, row.jti ≠ token.jti) ∧
          next = { books with tokens := books.tokens.insert token fresh } := by
  intro value next reached
  unfold addToken at reached
  dsimp only at reached
  split at reached
  · rename_i fresh
    split at reached
    · rename_i unbound
      cases reached
      exact ⟨fresh, by simpa using unbound, rfl⟩
    · cases reached
  · cases reached

theorem addAudit_ensures (event : JudgeTokenAuditRecord) :
    (addAudit event).Ensures books fun _ next =>
      ∃ unlisted : books.audit.find event.id = none,
        next = { books with audit := books.audit.insert event unlisted } := by
  intro value next reached
  unfold addAudit at reached
  dsimp only at reached
  split at reached
  · rename_i unlisted
    split at reached
    · cases reached
      exact ⟨unlisted, rfl⟩
    · cases reached
  · cases reached

theorem register_ensures (seen : Option JudgeTokenRecord) (token jti : String)
    (expiresAt : Option Instant) (actor uuid : String) (now : Instant) :
    (register seen token jti expiresAt actor uuid now).Ensures books fun _ next =>
      Effect books next := by
  unfold register
  simp only [ensures_bind, ensures_lift, ensures_check]
  intro normalized _ _ auditActor _
  cases seen with
  | none =>
      rw [ensures_bind]
      refine (addToken_ensures _).mono ?_
      rintro _ _ ⟨fresh, unbound, rfl⟩
      refine (addAudit_ensures _).mono ?_
      rintro _ _ ⟨unlisted, rfl⟩
      exact .issued _ _ fresh unbound unlisted ⟨rfl, rfl⟩ ⟨rfl, rfl⟩
  | some existing =>
      simp only [ensures_bind, ensures_check]
      exact fun _ _ _ => .kept

theorem revokeLocked_ensures {record : JudgeTokenRecord} (auditActor uuid : String)
    (now : Instant) (present : record ∈ books.tokens.rows) :
    (revokeLocked record auditActor uuid now).Ensures books fun _ next => Effect books next := by
  unfold revokeLocked
  refine ensures_ite (fun _ => ensures_pure.mpr .kept) ?_
  intro active
  rw [ensures_bind]
  refine (addAudit_ensures _).mono ?_
  rintro _ _ ⟨unlisted, rfl⟩
  simp only [ensures_bind, ensures_change, ensures_pure]
  exact .revoked record _ present (by simpa using active) unlisted ⟨rfl, rfl⟩

theorem revoke_ensures (token actor uuid : String) (now : Instant) :
    (revoke token actor uuid now).Ensures books fun _ next => Effect books next := by
  unfold revoke
  simp only [ensures_bind, ensures_lift, ensures_read]
  intro auditActor _
  split
  · exact ensures_pure.mpr .kept
  · rename_i record found
    rw [ensures_bind]
    refine (revokeLocked_ensures auditActor uuid now (Table.mem_of_find found)).mono ?_
    exact fun _ _ effect => ensures_pure.mpr effect

theorem revokeByTokenId_ensures (tokenId actor uuid : String) (now : Instant) :
    (revokeByTokenId tokenId actor uuid now).Ensures books fun _ next => Effect books next := by
  unfold revokeByTokenId
  simp only [ensures_bind, ensures_check, ensures_lift, ensures_read]
  intro _ auditActor _
  split
  · exact ensures_pure.mpr .kept
  · rename_i record found
    rw [ensures_bind]
    refine (revokeLocked_ensures auditActor uuid now (List.mem_of_find?_eq_some found)).mono ?_
    exact fun _ _ effect => ensures_pure.mpr effect

theorem next_effect (books : Books) (call : Call) : Effect books (machine.next books call) := by
  refine commit_of_ensures ?_ .kept
  cases call with
  | register seen token jti expiresAt actor uuid now =>
      exact register_ensures seen token jti expiresAt actor uuid now
  | revoke token actor uuid now => exact revoke_ensures token actor uuid now
  | revokeByTokenId tokenId actor uuid now =>
      unfold Call.perform
      rw [ensures_bind]
      refine (revokeByTokenId_ensures tokenId actor uuid now).mono ?_
      exact fun _ _ effect => ensures_pure.mpr effect

end CrossPatch.Runtime.JudgeTokens
