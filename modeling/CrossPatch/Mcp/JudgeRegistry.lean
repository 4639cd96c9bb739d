import CrossPatch.Domain.Text
import CrossPatch.Library.Calendar
import CrossPatch.Library.Lines
import CrossPatch.Library.Runs
import CrossPatch.Library.Sha256
import CrossPatch.Library.Table
import CrossPatch.Library.Transaction

/-!
# The registry of judge tokens in memory

A `JudgeTokenRegistry` keeps one record for each token digest.  Registration writes a
fresh record over whatever stands there, so a revoked token is active again once it is
registered again.
-/

namespace CrossPatch.Mcp.JudgeRegistry

open CrossPatch.Domain.Failure CrossPatch.Domain.Text
open CrossPatch.Library CrossPatch.Library.Attempt CrossPatch.Library.Calendar
open CrossPatch.Library.Octets CrossPatch.Library.Runs CrossPatch.Library.Sha256
open CrossPatch.Library.Transaction

/-! ## Checks -/

/-- 2026-08-13T07:00:00Z. -/
def minJudgeTokenExpiry : Instant where
  micros := 1786604400000000
  low := by decide
  high := by decide

/-- A naive expiry has no instant. -/
def validateJudgeTokenExpiry (value : Option Instant) : Attempt Instant :=
  match value with
  | none => raise .valueError
      "judge token expiry must be timezone-aware and at or after 2026-08-13T07:00:00Z"
  | some normalized => do
      require (minJudgeTokenExpiry ≤ normalized)
        ⟨.valueError, "judge token expiry must be at or after 2026-08-13T07:00:00Z"⟩
      .ok normalized

def isBlank (text : String) : Bool := (Lines.trim isSpace text.toList).isEmpty

def digest (token : String) : String := hexdigest (utf8 token)

/-! ## Operations -/

structure JudgeTokenRecord where
  digest : String
  expiresAt : Instant
  revoked : Bool

abbrev Records := Table JudgeTokenRecord.digest

def register (token : String) (expiresAt : Option Instant) : Transaction Raised Records Unit := do
  check (isBlank token = false) ⟨.valueError, "judge token must not be blank"⟩
  let normalizedExpiry ← lift (validateJudgeTokenExpiry expiresAt)
  change fun records => records.put ⟨digest token, normalizedExpiry, false⟩

def rotate (token : String) (expiresAt : Option Instant) : Transaction Raised Records Unit :=
  register token expiresAt

def revokeRecord (digest : String) (records : Records) : Records :=
  match records.find digest with
  | some record => records.put { record with revoked := true }
  | none => records

def revoke (token : String) : Transaction Raised Records Unit :=
  change (revokeRecord (digest token))

def isActive (records : Records) (token : String) (now : Instant) : Bool :=
  match records.find (digest token) with
  | some record => !record.revoked && decide (now < record.expiresAt)
  | none => false

/-! ## Runs -/

inductive Call where
  | register (token : String) (expiresAt : Option Instant)
  | rotate (token : String) (expiresAt : Option Instant)
  | revoke (token : String)

def Call.perform : Call → Transaction Raised Records Unit
  | .register token expiresAt => JudgeRegistry.register token expiresAt
  | .rotate token expiresAt => JudgeRegistry.rotate token expiresAt
  | .revoke token => JudgeRegistry.revoke token

def machine : Machine Records Call Empty where
  step records call := ((call.perform.commit records).2, [])

/-- The token of a record that a call writes, if it passes the checks. -/
def Call.registers : Call → Option String
  | .register token expiresAt | .rotate token expiresAt =>
      if isBlank token = false ∧ expiresAt.any (minJudgeTokenExpiry ≤ ·) = true then some token
      else none
  | .revoke _ => none

def Revoked (records : Records) (digest : String) : Prop :=
  ∃ record, records.find digest = some record ∧ record.revoked = true

/-- No token is registered again after its revocation. -/
def Final (records : Records) (call : Call) : Prop :=
  ∀ token, call.registers = some token → ¬ Revoked records (digest token)

variable {records : Records}

/-- Everything that a call can do. -/
theorem next_cases (records : Records) (call : Call) :
    (∃ token expiry, call.registers = some token ∧ minJudgeTokenExpiry ≤ expiry ∧
      machine.next records call = records.put ⟨digest token, expiry, false⟩) ∨
    (∃ token, call = .revoke token ∧
      machine.next records call = revokeRecord (digest token) records) ∨
    (call.registers = none ∧ machine.next records call = records) := by
  have registration (token : String) (expiresAt : Option Instant) :
      (∃ expiry, (Call.register token expiresAt).registers = some token ∧
        minJudgeTokenExpiry ≤ expiry ∧ ((register token expiresAt).commit records).2 =
          records.put ⟨digest token, expiry, false⟩) ∨
      ((Call.register token expiresAt).registers = none ∧
        ((register token expiresAt).commit records).2 = records) := by
    have rejected (refused : (register token expiresAt).Ensures records fun _ _ => False) :
        ((register token expiresAt).commit records).2 = records :=
      @commit_of_ensures _ _ _ records _ (· = records)
        (refused.mono fun _ _ impossible => impossible.elim) rfl
    unfold Call.registers
    by_cases blank : isBlank token = false
    · cases expiresAt with
      | none =>
          refine Or.inr ⟨if_neg (by simp), rejected ?_⟩
          simp [register, validateJudgeTokenExpiry, raise]
      | some expiry =>
          by_cases early : minJudgeTokenExpiry ≤ expiry
          · refine Or.inl ⟨expiry, if_pos ⟨blank, by simpa using early⟩, early, ?_⟩
            have reached : (register token (some expiry)).run records =
                .ok ((), records.put ⟨digest token, expiry, false⟩) := by
              simp [register, validateJudgeTokenExpiry, blank, early]
            rw [commit, reached]
          · refine Or.inr ⟨if_neg (by simpa using fun _ => early), rejected ?_⟩
            simp [register, validateJudgeTokenExpiry, early]
    · refine Or.inr ⟨if_neg (fun passed => blank passed.1), rejected ?_⟩
      simp [register, blank]
  cases call with
  | register token expiresAt =>
      rcases registration token expiresAt with ⟨expiry, passed⟩ | refused
      · exact Or.inl ⟨token, expiry, passed⟩
      · exact Or.inr (Or.inr refused)
  | rotate token expiresAt =>
      rcases registration token expiresAt with ⟨expiry, passed⟩ | refused
      · exact Or.inl ⟨token, expiry, passed⟩
      · exact Or.inr (Or.inr refused)
  | revoke token => exact Or.inr (Or.inl ⟨token, rfl, rfl⟩)

theorem find_revokeRecord (gone wanted : String) (records : Records) :
    (revokeRecord gone records).find wanted =
      if wanted = gone then (records.find gone).map fun record => { record with revoked := true }
      else records.find wanted := by
  unfold revokeRecord
  cases found : records.find gone with
  | none =>
      by_cases same : wanted = gone
      · rw [if_pos same, same]
        exact found
      · rw [if_neg same]
  | some record =>
      have key : record.digest = gone := Table.key_of_find found
      dsimp only
      rw [Table.find_put, key, Option.map_some, key]

theorem revoked_next {call : Call} {digest : String} (final : Final records call)
    (revoked : Revoked records digest) : Revoked (machine.next records call) digest := by
  obtain ⟨record, found, flag⟩ := revoked
  rcases next_cases records call with
    ⟨token, expiry, registers, _, written⟩ | ⟨token, _, written⟩ | ⟨_, kept⟩
  · have differs : digest ≠ JudgeRegistry.digest token := by
      rintro rfl
      exact final token registers ⟨record, found, flag⟩
    exact ⟨record, by rw [written, Table.find_put, if_neg differs]; exact found, flag⟩
  · rw [written]
    unfold Revoked
    rw [find_revokeRecord]
    split
    · rename_i same
      rw [← same, found]
      exact ⟨_, rfl, rfl⟩
    · exact ⟨record, found, flag⟩
  · rw [kept]
    exact ⟨record, found, flag⟩

theorem isActive_of_revoked {token : String} (revoked : Revoked records (digest token))
    (now : Instant) : isActive records token now = false := by
  obtain ⟨record, found, flag⟩ := revoked
  simp [isActive, found, flag]

/-- A revoked record goes back to a revocation of a token that was registered. -/
theorem revoked_origin {calls : List Call} {gone : String}
    (revoked : Revoked (machine.run Table.empty calls) gone) :
    ∃ earlier token later, calls = earlier ++ .revoke token :: later ∧ digest token = gone ∧
      (machine.run Table.empty earlier).find gone ≠ none := by
  induction calls using List.reverseRecOn with
  | nil =>
      obtain ⟨record, found, _⟩ := revoked
      cases found
  | append_singleton calls call ih =>
      have before (still : Revoked (machine.run Table.empty calls) gone) :
          ∃ earlier token later, calls ++ [call] = earlier ++ .revoke token :: later ∧
            digest token = gone ∧ (machine.run Table.empty earlier).find gone ≠ none := by
        obtain ⟨earlier, token, later, split, same, registered⟩ := ih still
        exact ⟨earlier, token, later ++ [call], by rw [split]; simp, same, registered⟩
      obtain ⟨record, found, flag⟩ := revoked
      rw [Machine.run_append, Machine.run_cons, Machine.run_nil] at found
      rcases next_cases (machine.run Table.empty calls) call with
        ⟨token, expiry, _, _, written⟩ | ⟨token, rfl, written⟩ | ⟨_, kept⟩
      · rw [written, Table.find_put] at found
        split at found
        · cases found
          cases flag
        · exact before ⟨record, found, flag⟩
      · rw [written, find_revokeRecord] at found
        split at found
        · rename_i same
          refine ⟨calls, token, [], rfl, same.symm, ?_⟩
          intro absent
          rw [← same, absent] at found
          cases found
        · exact before ⟨record, found, flag⟩
      · rw [kept] at found
        exact before ⟨record, found, flag⟩

/-- After the revocation of a registered token, no call makes it active again. -/
def Irreversible (calls : List Call) : Prop :=
  ∀ earlier token later rest, calls = earlier ++ .revoke token :: (later ++ rest) →
    (machine.run Table.empty earlier).find (digest token) ≠ none →
    ∀ now, isActive (machine.run Table.empty (earlier ++ .revoke token :: later)) token now = false

theorem irreversible_of_final {calls : List Call}
    (final : machine.Follows Final Table.empty calls) : Irreversible calls := by
  intro earlier token later rest split registered now
  rw [split, Machine.follows_append, Machine.Follows, Machine.follows_append] at final
  refine isActive_of_revoked ?_ now
  rw [Machine.run_append, Machine.run_cons]
  refine machine.run_invariant_of_follows (fun records => Revoked records (digest token))
    (fun _ _ allowed => revoked_next allowed) ?_ final.2.2.1
  obtain ⟨record, found⟩ := Option.ne_none_iff_exists'.mp registered
  refine ⟨{ record with revoked := true }, ?_, rfl⟩
  change (revokeRecord (digest token) (machine.run Table.empty earlier)).find _ = _
  rw [find_revokeRecord, if_pos rfl, found]
  rfl

theorem epoch_lt_minJudgeTokenExpiry : Instant.epoch < minJudgeTokenExpiry := by decide

theorem final_of_irreversible {calls : List Call} (irreversible : Irreversible calls) :
    machine.Follows Final Table.empty calls := by
  rw [Machine.follows_iff_split]
  intro before call after split token registers revoked
  obtain ⟨earlier, gone, later, origin, same, registered⟩ := revoked_origin revoked
  have silent := irreversible earlier gone (later ++ [call]) after
    (by rw [split, origin]; simp) (same ▸ registered) Instant.epoch
  have whole : earlier ++ Call.revoke gone :: (later ++ [call]) = before ++ [call] := by
    rw [origin]
    simp
  rw [whole, Machine.run_append, Machine.run_cons, Machine.run_nil] at silent
  rcases next_cases (machine.run Table.empty before) call with
    ⟨written, expiry, names, early, next⟩ | ⟨_, rfl, _⟩ | ⟨none, _⟩
  · rw [registers, Option.some.injEq] at names
    subst names
    rw [next, isActive, Table.find_put, if_pos same] at silent
    have future : Instant.epoch < expiry :=
      Int.lt_of_lt_of_le epoch_lt_minJudgeTokenExpiry early
    simp [future] at silent
  · cases registers
  · rw [registers] at none
    cases none

end CrossPatch.Mcp.JudgeRegistry
