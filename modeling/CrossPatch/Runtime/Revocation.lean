import CrossPatch.Runtime.JudgeAudit

/-!
# Revocation

In the database a revoked token stays revoked.  In memory it does exactly when no call
registers it again.
-/

namespace CrossPatch.Runtime.Revocation

open CrossPatch.Domain.Failure
open CrossPatch.Library CrossPatch.Library.Calendar CrossPatch.Library.Runs
open CrossPatch.Library.Transaction
open CrossPatch.Mcp.JudgeRegistry (digest)
open CrossPatch.Runtime.JudgeAudit CrossPatch.Runtime.JudgeTokens

variable {books : Books}

/-- The call revokes the token of the row. -/
def Revokes (record : JudgeTokenRecord) : Call → Prop
  | .register _ _ _ _ _ _ _ => False
  | .revoke token _ _ _ => digest token = record.tokenSha256
  | .revokeByTokenId tokenId _ _ _ => tokenId = record.jti

def Revoked (books : Books) (tokenSha256 : String) : Prop :=
  ∃ record ∈ books.tokens.rows, record.tokenSha256 = tokenSha256 ∧ record.revoked = true

theorem revokeLocked_revokes {record : JudgeTokenRecord} (auditActor uuid : String)
    (now : Instant) (present : record ∈ books.tokens.rows) :
    (revokeLocked record auditActor uuid now).Ensures books fun _ next =>
      Revoked next record.tokenSha256 := by
  unfold revokeLocked
  refine ensures_ite (fun gone => ensures_pure.mpr ⟨record, present, rfl, gone⟩) ?_
  intro _
  rw [ensures_bind]
  refine (addAudit_ensures _).mono ?_
  rintro _ _ ⟨unlisted, rfl⟩
  simp only [ensures_bind, ensures_change, ensures_pure]
  exact ⟨record.revokedBy now, (@mem_updateToken _ record (record.revokedBy now) _ present rfl).mpr
    (Or.inl rfl), rfl, rfl⟩

/-- A revocation that returns has revoked the row. -/
theorem perform_revokes {record : JudgeTokenRecord} {call : Call}
    (consistent : Consistent books) (present : record ∈ books.tokens.rows)
    (revokes : Revokes record call) :
    call.perform.Ensures books fun _ next => Revoked next record.tokenSha256 := by
  cases call with
  | register seen token jti expiresAt actor uuid now => cases revokes
  | revoke token actor uuid now =>
      have found : books.tokens.find (digest token) = some record := by
        rw [show digest token = record.tokenSha256 from revokes]
        exact Table.find_of_mem present
      simp only [Call.perform, revoke, ensures_bind, ensures_lift, ensures_read, found]
      intro auditActor _
      refine (revokeLocked_revokes auditActor uuid now present).mono ?_
      exact fun _ _ gone => ensures_pure.mpr gone
  | revokeByTokenId tokenId actor uuid now =>
      have names : tokenId = record.jti := revokes
      have found : (books.tokens.rows.find? fun row => row.jti == tokenId) = some record := by
        cases search : books.tokens.rows.find? fun row => row.jti == tokenId with
        | none =>
            have absent := List.find?_eq_none.mp search record present
            simp [names] at absent
        | some row =>
            have same : row.jti = tokenId := by simpa using List.find?_some search
            rw [consistent.bound row (List.mem_of_find?_eq_some search) record present
              (same.trans names)]
      simp only [Call.perform, revokeByTokenId, ensures_bind, ensures_check, ensures_lift,
        ensures_read, found]
      intro _ auditActor _
      refine (revokeLocked_revokes auditActor uuid now present).mono ?_
      exact fun _ _ gone => ensures_pure.mpr (ensures_pure.mpr gone)

theorem run_revoked {tokenSha256 : String} (revoked : Revoked books tokenSha256)
    (calls : List Call) : Revoked (machine.run books calls) tokenSha256 := by
  obtain ⟨record, present, key, flag⟩ := revoked
  obtain ⟨later, present', stays⟩ := run_keeps books calls record present
  exact ⟨later, present', stays.tokenSha256.trans key, (stays.revoked flag).1⟩

theorem isActive_of_revoked {token : String} (revoked : Revoked books (digest token))
    (now : Instant) : isActive books token now = false := by
  obtain ⟨record, present, key, flag⟩ := revoked
  have found : books.tokens.find (digest token) = some record := by
    rw [← key]
    exact Table.find_of_mem present
  simp [isActive, found, flag]

/-- A revocation in the database that has returned lasts through every run. -/
theorem revoked_forever (earlier later : List Call) {call : Call} {record : JudgeTokenRecord}
    {token : String}
    (registered : (machine.run Books.empty earlier).tokens.find (digest token) = some record)
    (revokes : Revokes record call)
    (returned : (call.perform.commit (machine.run Books.empty earlier)).1 = .ok ())
    (now : Instant) :
    isActive (machine.run Books.empty (earlier ++ call :: later)) token now = false := by
  have gone : Revoked (machine.next (machine.run Books.empty earlier) call) record.tokenSha256 :=
    (perform_revokes (run_consistent earlier) (Table.mem_of_find registered) revokes).of_commit
      returned
  rw [Machine.run_append, Machine.run_cons]
  rw [Table.key_of_find registered] at gone
  exact isActive_of_revoked (run_revoked gone later) now

/-- The database never forgets a revocation, and the registry in memory forgets none exactly
when no revoked token is registered again. -/
theorem revocation_final (calls : List Mcp.JudgeRegistry.Call) :
    (Mcp.JudgeRegistry.Irreversible calls ↔
      Mcp.JudgeRegistry.machine.Follows Mcp.JudgeRegistry.Final Table.empty calls) ∧
    ∀ earlier call later record token,
      (machine.run Books.empty earlier).tokens.find (digest token) = some record →
      Revokes record call →
      (call.perform.commit (machine.run Books.empty earlier)).1 = .ok () →
      ∀ now, isActive (machine.run Books.empty (earlier ++ call :: later)) token now = false := by
  refine ⟨⟨Mcp.JudgeRegistry.final_of_irreversible,
    Mcp.JudgeRegistry.irreversible_of_final⟩, ?_⟩
  intro earlier call later record token registered revokes returned now
  exact revoked_forever earlier later registered revokes returned now

/-- The registration of a token that nobody has seen before. -/
def registration (uuid : String) : Call :=
  .register none "judge" "judge-1" (some Mcp.JudgeRegistry.minJudgeTokenExpiry) "approver" uuid
    Instant.epoch

def revocation : Call := .revoke "judge" "approver" "second" Instant.epoch

theorem registration_revoked : isActive (machine.run Books.empty
    ([registration "first"] ++ revocation :: [registration "third"])) "judge" Instant.epoch =
      false := by
  refine (revocation_final []).2 [registration "first"] revocation [registration "third"]
    ⟨digest "judge", "judge-1", Mcp.JudgeRegistry.minJudgeTokenExpiry, false, Instant.epoch, none⟩
    "judge" ?_ rfl ?_ Instant.epoch
  · decide +kernel
  · decide +kernel

/-- A token that is registered, revoked and registered again. -/
def reinstated : List Mcp.JudgeRegistry.Call :=
  [.register "judge" (some Mcp.JudgeRegistry.minJudgeTokenExpiry), .revoke "judge",
    .register "judge" (some Mcp.JudgeRegistry.minJudgeTokenExpiry)]

theorem reinstated_active : ¬ Mcp.JudgeRegistry.Irreversible reinstated := by
  intro irreversible
  have silent := irreversible
    [.register "judge" (some Mcp.JudgeRegistry.minJudgeTokenExpiry)] "judge"
    [.register "judge" (some Mcp.JudgeRegistry.minJudgeTokenExpiry)] [] rfl
    (by decide +kernel) Instant.epoch
  revert silent
  decide +kernel

end CrossPatch.Runtime.Revocation
