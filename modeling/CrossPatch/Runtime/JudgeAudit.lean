import CrossPatch.Runtime.JudgeTokens

/-!
# The audit of judge tokens

Whatever calls commit in whatever order, each token row has one issue in the audit, and
one revocation if and only if it is revoked.  The trigger admits every update, because
the audit row of a revocation is flushed before it.
-/

namespace CrossPatch.Runtime.JudgeAudit

open CrossPatch.Library CrossPatch.Library.Attempt CrossPatch.Library.Calendar
open CrossPatch.Library.Runs
open CrossPatch.Runtime.JudgeTokens

variable {books : Books}

/-! ## Rows after a step -/

theorem mem_updateToken {record new row : JudgeTokenRecord} (present : record ∈ books.tokens.rows)
    (same : new.tokenSha256 = record.tokenSha256) :
    row ∈ (updateToken record new books).tokens.rows ↔
      row = new ∨ row ∈ books.tokens.rows ∧ row.tokenSha256 ≠ record.tokenSha256 := by
  have found : books.tokens.find new.tokenSha256 = some record := by
    rw [same]
    exact Table.find_of_mem present
  rw [Table.mem_rows_iff]
  change (books.tokens.write new).find row.tokenSha256 = some row ↔ _
  rw [Table.find_write found]
  split
  · rename_i sameKey
    constructor
    · intro written
      exact Or.inl (Option.some.inj written).symm
    · rintro (rfl | ⟨_, differs⟩)
      · rfl
      · exact absurd (sameKey.trans same) differs
  · rename_i differs
    rw [← Table.mem_rows_iff]
    constructor
    · intro kept
      exact Or.inr ⟨kept, fun sameKey => differs (sameKey.trans same.symm)⟩
    · rintro (rfl | ⟨kept, _⟩)
      · exact absurd rfl differs
      · exact kept

theorem row_unique {first second : JudgeTokenRecord} (inFirst : first ∈ books.tokens.rows)
    (inSecond : second ∈ books.tokens.rows) (same : first.tokenSha256 = second.tokenSha256) :
    first = second := by
  have found := Table.find_of_mem inFirst
  rw [same, Table.find_of_mem inSecond] at found
  exact (Option.some.inj found).symm

def events (books : Books) (jti : String) (action : AuditAction) : List JudgeTokenAuditRecord :=
  books.audit.rows.filter fun event => event.tokenId == jti && event.action == action

/-- A new audit row joins the events that it belongs to. -/
theorem filter_insert {event : JudgeTokenAuditRecord} (unlisted : books.audit.find event.id = none)
    (jti : String) (action : AuditAction) :
    (books.audit.insert event unlisted).rows.filter
        (fun event => event.tokenId == jti && event.action == action) =
      events books jti action ++
        if event.tokenId = jti ∧ event.action = action then [event] else [] := by
  rw [Table.rows_insert, List.filter_append, events]
  congr 1
  by_cases matches' : event.tokenId = jti ∧ event.action = action
  · rw [if_pos matches', List.filter_cons_of_pos (by simpa using matches'), List.filter_nil]
  · rw [if_neg matches', List.filter_cons_of_neg (by simpa using matches'), List.filter_nil]

/-- The trigger lets an active row be revoked at the time of an audited revocation. -/
theorem guard_admits_revocation {record : JudgeTokenRecord} {audit : List JudgeTokenAuditRecord}
    {revokedAt : Instant} (active : record.revoked = false)
    (listed : ∃ event ∈ audit, event.tokenId = record.jti ∧ event.action = .revoked ∧
      event.createdAt = revokedAt) :
    guardJudgeTokenMutation audit record (some (record.revokedBy revokedAt)) =
      .ok (record.revokedBy revokedAt) := by
  obtain ⟨event, member, names, revocation, time⟩ := listed
  have seen : (audit.any fun row => row.tokenId == record.jti && row.action == .revoked &&
      decide (row.createdAt = revokedAt)) = true :=
    List.any_eq_true.mpr ⟨event, member, by simp [names, revocation, time]⟩
  unfold guardJudgeTokenMutation
  simp only [JudgeTokenRecord.revokedBy, active, seen, require, and_self, if_true, ok_bind,
    Bool.false_eq_true, if_false]

/-! ## Consistency -/

/-- What the audit says of a token row. -/
structure Audited (books : Books) (token : JudgeTokenRecord) : Prop where
  issued : ∃ event, events books token.jti .issued = [event]
  active : token.revoked = false → events books token.jti .revoked = []
  revoked : token.revoked = true → ∃ event, events books token.jti .revoked = [event] ∧
    token.revokedAt = some event.createdAt

structure Consistent (books : Books) : Prop where
  bound : ∀ first ∈ books.tokens.rows, ∀ second ∈ books.tokens.rows,
    first.jti = second.jti → first = second
  known : ∀ event ∈ books.audit.rows, ∃ token ∈ books.tokens.rows, token.jti = event.tokenId
  audited : ∀ token ∈ books.tokens.rows, Audited books token
  admitted : ∀ update ∈ books.updates,
    guardJudgeTokenMutation update.audit update.old (some update.new) = .ok update.new

theorem consistent_empty : Consistent Books.empty where
  bound _ member := by cases member
  known _ member := by cases member
  audited _ member := by cases member
  admitted _ member := by cases member

/-- A token keeps what the audit says when the new audit row is about another one. -/
theorem Audited.of_events {next : Books} {token : JudgeTokenRecord} (audited : Audited books token)
    (same : ∀ action, events next token.jti action = events books token.jti action) :
    Audited next token where
  issued := by rw [same]; exact audited.issued
  active := by rw [same]; exact audited.active
  revoked := by rw [same]; exact audited.revoked

theorem Consistent.issued (consistent : Consistent books) {token : JudgeTokenRecord}
    {event : JudgeTokenAuditRecord} (fresh : books.tokens.find token.tokenSha256 = none)
    (unbound : ∀ row ∈ books.tokens.rows, row.jti ≠ token.jti)
    (unlisted : books.audit.find event.id = none) (active : token.revoked = false)
    (named : event.tokenId = token.jti ∧ event.action = .issued) :
    Consistent
      { books with
        tokens := books.tokens.insert token fresh
        audit := books.audit.insert event unlisted } where
  bound := by
    intro first inFirst second inSecond same
    rw [Table.rows_insert, List.mem_append, List.mem_singleton] at inFirst inSecond
    rcases inFirst with old | rfl
    · rcases inSecond with old' | rfl
      · exact consistent.bound first old second old' same
      · exact absurd same (unbound first old)
    · rcases inSecond with old' | rfl
      · exact absurd same.symm (unbound second old')
      · rfl
  known := by
    intro listed member
    rw [Table.rows_insert, List.mem_append, List.mem_singleton] at member
    rcases member with old | rfl
    · obtain ⟨row, present, names⟩ := consistent.known listed old
      exact ⟨row, by rw [Table.rows_insert]; exact List.mem_append_left _ present, names⟩
    · exact ⟨token, by rw [Table.rows_insert]; simp, named.1.symm⟩
  audited := by
    intro row member
    rw [Table.rows_insert, List.mem_append, List.mem_singleton] at member
    rcases member with old | rfl
    · refine (consistent.audited row old).of_events ?_
      intro action
      unfold events
      rw [filter_insert, if_neg, List.append_nil]
      · rfl
      · rintro ⟨names, _⟩
        exact unbound row old (names.symm.trans named.1)
    · -- nothing in the audit could name a token that was not there
      have silent (action : AuditAction) : events books row.jti action = [] := by
        rw [events, List.filter_eq_nil_iff]
        intro listed inAudit matches'
        obtain ⟨other, present, names⟩ := consistent.known listed inAudit
        simp only [Bool.and_eq_true, beq_iff_eq] at matches'
        exact unbound other present (names.trans matches'.1)
      refine ⟨⟨event, ?_⟩, fun _ => ?_, fun revoked => ?_⟩
      · unfold events
        rw [filter_insert, silent, if_pos named, List.nil_append]
      · unfold events
        rw [filter_insert, silent, if_neg, List.nil_append]
        rintro ⟨_, revocation⟩
        rw [named.2] at revocation
        cases revocation
      · rw [active] at revoked
        cases revoked
  admitted := consistent.admitted

theorem Consistent.revoked (consistent : Consistent books) {record : JudgeTokenRecord}
    {event : JudgeTokenAuditRecord} (present : record ∈ books.tokens.rows)
    (active : record.revoked = false) (unlisted : books.audit.find event.id = none)
    (named : event.tokenId = record.jti ∧ event.action = .revoked) :
    Consistent (updateToken record (record.revokedBy event.createdAt)
      { books with audit := books.audit.insert event unlisted }) := by
  have rows {row : JudgeTokenRecord} := @mem_updateToken
    { books with audit := books.audit.insert event unlisted } record
    (record.revokedBy event.createdAt) row present rfl
  refine ⟨?_, ?_, ?_, ?_⟩
  · intro first inFirst second inSecond same
    rcases rows.mp inFirst with rfl | ⟨old, differs⟩
    · rcases rows.mp inSecond with rfl | ⟨old', differs'⟩
      · rfl
      · exact absurd (congrArg _ (consistent.bound record present second old' same).symm) differs'
    · rcases rows.mp inSecond with rfl | ⟨old', differs'⟩
      · exact absurd (congrArg _ (consistent.bound first old record present same)) differs
      · exact consistent.bound first old second old' same
  · intro listed member
    have owner : ∃ token ∈ books.tokens.rows, token.jti = listed.tokenId := by
      rcases List.mem_append.mp member with old | new
      · exact consistent.known listed old
      · rw [List.mem_singleton.mp new]
        exact ⟨record, present, named.1.symm⟩
    obtain ⟨token, inTokens, names⟩ := owner
    by_cases same : token.tokenSha256 = record.tokenSha256
    · have row := row_unique inTokens present same
      exact ⟨_, rows.mpr (Or.inl rfl), by rw [← names, row]; rfl⟩
    · exact ⟨token, rows.mpr (Or.inr ⟨inTokens, same⟩), names⟩
  · intro token member
    rcases rows.mp member with rfl | ⟨old, differs⟩
    · obtain ⟨⟨issue, issued⟩, quiet, _⟩ := consistent.audited record present
      refine ⟨⟨issue, ?_⟩, fun still => ?_, fun _ => ⟨event, ?_, rfl⟩⟩
      · change List.filter _ (books.audit.insert event unlisted).rows = _
        rw [filter_insert, if_neg, List.append_nil]
        · exact issued
        · rintro ⟨_, issuing⟩
          rw [named.2] at issuing
          cases issuing
      · cases still
      · change List.filter _ (books.audit.insert event unlisted).rows = _
        rw [filter_insert, show (record.revokedBy event.createdAt).jti = record.jti from rfl,
          if_pos named, quiet active, List.nil_append]
    · refine (consistent.audited token old).of_events ?_
      intro action
      change List.filter _ (books.audit.insert event unlisted).rows = _
      rw [filter_insert, if_neg, List.append_nil]
      rintro ⟨names, _⟩
      refine differs (congrArg _ (consistent.bound token old record present ?_))
      exact names.symm.trans named.1
  · intro update member
    rcases List.mem_append.mp member with old | new
    · exact consistent.admitted update old
    · rw [List.mem_singleton.mp new]
      refine guard_admits_revocation active ⟨event, ?_, named.1, named.2, rfl⟩
      -- the audit row of this revocation is the last one that the trigger sees
      exact List.mem_append_right _ (List.mem_singleton_self event)

theorem Consistent.effect {next : Books} (consistent : Consistent books)
    (effect : Effect books next) : Consistent next := by
  cases effect with
  | kept => exact consistent
  | issued token event fresh unbound unlisted active named =>
      exact consistent.issued fresh unbound unlisted active.1 named
  | revoked record event present active unlisted named =>
      exact consistent.revoked present active unlisted named

theorem run_consistent (calls : List Call) : Consistent (machine.run Books.empty calls) :=
  machine.run_invariant Consistent
    (fun books call consistent => consistent.effect (next_effect books call)) consistent_empty calls

/-! ## What stays -/

/-- The row of a token later on: its identity and expiry are the same, and a revocation
stays as it was. -/
structure Stays (token later : JudgeTokenRecord) : Prop where
  tokenSha256 : later.tokenSha256 = token.tokenSha256
  jti : later.jti = token.jti
  expiresAt : later.expiresAt = token.expiresAt
  revoked : token.revoked = true → later.revoked = true ∧ later.revokedAt = token.revokedAt

theorem Stays.refl (token : JudgeTokenRecord) : Stays token token :=
  ⟨rfl, rfl, rfl, fun revoked => ⟨revoked, rfl⟩⟩

theorem Stays.trans {first second third : JudgeTokenRecord} (before : Stays first second)
    (after : Stays second third) : Stays first third where
  tokenSha256 := after.tokenSha256.trans before.tokenSha256
  jti := after.jti.trans before.jti
  expiresAt := after.expiresAt.trans before.expiresAt
  revoked gone := by
    obtain ⟨flag, time⟩ := before.revoked gone
    obtain ⟨flag', time'⟩ := after.revoked flag
    exact ⟨flag', time'.trans time⟩

def Keeps (books next : Books) : Prop :=
  ∀ token ∈ books.tokens.rows, ∃ later ∈ next.tokens.rows, Stays token later

theorem Keeps.effect {next : Books} (effect : Effect books next) : Keeps books next := by
  intro token member
  cases effect with
  | kept => exact ⟨token, member, .refl token⟩
  | issued row event fresh unbound unlisted active named =>
      exact ⟨token, by rw [Table.rows_insert]; exact List.mem_append_left _ member, .refl token⟩
  | revoked record event present active unlisted named =>
      have rows {row : JudgeTokenRecord} := @mem_updateToken
        { books with audit := books.audit.insert event unlisted } record
        (record.revokedBy event.createdAt) row present rfl
      by_cases same : token.tokenSha256 = record.tokenSha256
      · have row := row_unique member present same
        refine ⟨_, rows.mpr (Or.inl rfl), by rw [row]; rfl, by rw [row]; rfl, by rw [row]; rfl, ?_⟩
        intro gone
        rw [row, active] at gone
        cases gone
      · exact ⟨token, rows.mpr (Or.inr ⟨member, same⟩), .refl token⟩

theorem run_keeps (books : Books) (calls : List Call) : Keeps books (machine.run books calls) := by
  refine @Machine.run_relation _ _ _ machine Keeps (fun _ => True) ?_ ?_ (fun _ _ _ => trivial) ?_
    books trivial calls
  · exact fun _ token member => ⟨token, member, .refl token⟩
  · intro first second third before after token member
    obtain ⟨later, present, stays⟩ := before token member
    obtain ⟨last, present', stays'⟩ := after later present
    exact ⟨last, present', stays.trans stays'⟩
  · exact fun books call _ => Keeps.effect (next_effect books call)

/-! ## The audit is exact -/

structure Exact (books : Books) : Prop where
  bijection : ∀ first ∈ books.tokens.rows, ∀ second ∈ books.tokens.rows,
    first.tokenSha256 = second.tokenSha256 ↔ first.jti = second.jti
  issued : ∀ token ∈ books.tokens.rows, ∃ event, events books token.jti .issued = [event]
  revoked : ∀ token ∈ books.tokens.rows, token.revoked = true ↔
    ∃ event, events books token.jti .revoked = [event] ∧ token.revokedAt = some event.createdAt
  admitted : ∀ update ∈ books.updates,
    guardJudgeTokenMutation update.audit update.old (some update.new) = .ok update.new

theorem Consistent.exact (consistent : Consistent books) : Exact books where
  bijection := by
    intro first inFirst second inSecond
    constructor
    · intro same
      rw [row_unique inFirst inSecond same]
    · intro same
      rw [consistent.bound first inFirst second inSecond same]
  issued token member := (consistent.audited token member).issued
  revoked := by
    intro token member
    have audited := consistent.audited token member
    refine ⟨audited.revoked, ?_⟩
    rintro ⟨event, revocations, _⟩
    cases flag : token.revoked with
    | true => rfl
    | false =>
        rw [audited.active flag] at revocations
        cases revocations
  admitted := consistent.admitted

/-- Rows and audit agree after every run, and a row keeps its identity and its expiry. -/
theorem audit_exact (earlier later : List Call) :
    Exact (machine.run Books.empty (earlier ++ later)) ∧
    ∀ token ∈ (machine.run Books.empty earlier).tokens.rows,
      ∃ kept ∈ (machine.run Books.empty (earlier ++ later)).tokens.rows,
        kept.tokenSha256 = token.tokenSha256 ∧ kept.jti = token.jti ∧
          kept.expiresAt = token.expiresAt := by
  refine ⟨(run_consistent _).exact, ?_⟩
  intro token member
  rw [Machine.run_append]
  obtain ⟨kept, present, stays⟩ := run_keeps _ later token member
  exact ⟨kept, present, stays.tokenSha256, stays.jti, stays.expiresAt⟩

end CrossPatch.Runtime.JudgeAudit
