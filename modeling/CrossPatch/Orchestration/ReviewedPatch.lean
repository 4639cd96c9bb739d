import CrossPatch.Domain.Semantics
import CrossPatch.Runtime.ExecutionAuthority

/-!
# What reviewers see of a patch

The Prosecutor and the Magistrate are shown the material part of a Counsel output,
while the warrant binds the literal bytes of its diff.  The material leaves out the
blanks at the ends of lines and the blank lines at the end of the diff, and nothing
else of a diff that the broker accepts.
-/

namespace CrossPatch.Orchestration.ReviewedPatch

open CrossPatch.Broker.Claim CrossPatch.Broker.Paths
open CrossPatch.Domain.Failure CrossPatch.Domain.Hashing CrossPatch.Domain.Seats
open CrossPatch.Domain.Semantics CrossPatch.Domain.Text
open CrossPatch.Library CrossPatch.Library.Attempt CrossPatch.Library.JsonText
open CrossPatch.Library.Octets
open CrossPatch.Runtime.ExecutionAuthority

/-- The patch that `open_approval` binds into the warrant. -/
def patchBytes (output : CounselOutput) : Bytes := utf8 output.normalizedDiff

/-- The lines of a diff without blanks at their ends, up to the last one that is not
empty. -/
def reviewedLines (output : CounselOutput) : List (List Char) :=
  Lines.contentLines '\n' isSpace output.normalizedDiff.toList

/-! ## Accepted diffs -/

theorem universalNewlines_eq {text : List Char} (canonical : '\r' ∉ text) :
    universalNewlines text = text := by
  fun_induction universalNewlines text with
  | case1 => rfl
  | case2 rest ih => exact absurd List.mem_cons_self canonical
  | case3 rest _ ih => exact absurd List.mem_cons_self canonical
  | case4 character rest _ _ ih =>
      rw [ih fun member => canonical (List.mem_cons_of_mem _ member)]

theorem startsWith_cons {line word : List Char} {lead : Char}
    (starts : startsWith line (String.ofList (lead :: word)) = true) :
    ∃ rest, line = lead :: rest := by
  rw [startsWith, String.toList_ofList] at starts
  cases line with
  | nil => cases starts
  | cons character rest =>
      rw [List.isPrefixOf_cons_cons, Bool.and_eq_true, beq_iff_eq] at starts
      exact ⟨rest, by rw [starts.1]⟩

theorem splitLines_starts {text word : List Char} {lead : Char}
    (starts : (splitLines text).head?.any (startsWith · (String.ofList (lead :: word))) = true) :
    ∃ rest, text = lead :: rest := by
  fun_cases splitLines text with
  | case1 => cases starts
  | case2 rest =>
      obtain ⟨_, impossible⟩ := startsWith_cons (by simpa [splitLines] using starts)
      cases impossible
  | case3 character rest _ breaks =>
      rw [splitLines, if_pos breaks] at starts
      · obtain ⟨_, impossible⟩ := startsWith_cons (by simpa using starts)
        cases impossible
      · assumption
  | case4 character rest _ breaks ends =>
      rw [splitLines, if_neg breaks, ends] at starts
      · obtain ⟨_, same⟩ := startsWith_cons (by simpa using starts)
        cases same
        exact ⟨rest, rfl⟩
      · assumption
  | case5 character rest _ breaks line others pieces =>
      rw [splitLines, if_neg breaks, pieces] at starts
      · obtain ⟨_, same⟩ := startsWith_cons (by simpa using starts)
        cases same
        exact ⟨rest, rfl⟩
      · assumption

theorem carriageReturn_mem {text : String} (member : '\r' ∈ text.toList) : 13 ∈ utf8 text := by
  obtain ⟨before, after, split⟩ := List.append_of_mem member
  have parts : text = String.ofList before ++ "\r" ++ String.ofList after := by
    rw [← String.toList_inj, split]
    simp
  rw [parts, utf8_append, utf8_append]
  exact List.mem_append_left _ (List.mem_append_right _ List.mem_cons_self)

/-- An accepted diff has LF line ends and starts with its first header. -/
theorem derivePatchPaths_text {tables : UnicodeTables} {text : String} {paths : List String}
    (accepted : derivePatchPaths tables (utf8 text) = .ok paths) :
    '\r' ∉ text.toList ∧ ∃ rest, text.toList = 'd' :: rest := by
  simp only [derivePatchPaths, bind_eq_ok, require_eq_ok, decodeUtf8_utf8, Except.ok.injEq,
    exists_eq_left'] at accepted
  obtain ⟨_, _, _, _, _, _, _, canonical, _, _, _, starts, _⟩ := accepted
  exact ⟨fun member => canonical (carriageReturn_mem member), splitLines_starts starts⟩

theorem normalizeDiff_accepted {tables : UnicodeTables} {output : CounselOutput}
    {paths : List String} (accepted : derivePatchPaths tables (patchBytes output) = .ok paths) :
    normalizeDiff output.normalizedDiff =
        String.ofList (Lines.join '\n' (reviewedLines output) ++ ['\n']) ∧
      reviewedLines output ≠ [] := by
  obtain ⟨canonical, rest, starts⟩ := derivePatchPaths_text accepted
  rw [normalizeDiff, universalNewlines_eq canonical, reviewedLines, starts]
  obtain ⟨trimmed, some⟩ := @Lines.trim_trimmedLines Char '\n' isSpace _ (by decide) 'd'
    (by decide) rest
  rw [trimmed]
  exact ⟨rfl, some⟩

/-! ## Fidelity -/

theorem summarizeOutput_material {tables : SemanticTables} {output : SeatOutput}
    {summary : UntrustedAgentSummary} (shown : summarizeOutput tables output = .ok summary) :
    summary.material = semanticPayload tables output := by
  simp only [summarizeOutput, bind_eq_ok, Except.ok.injEq] at shown
  obtain ⟨_, _, rfl⟩ := shown
  rfl

/-- Every Counsel output can be summarized. -/
theorem summarizeOutput_counsel (tables : SemanticTables) (output : CounselOutput) :
    ∃ summary, summarizeOutput tables (.counsel output) = .ok summary := by
  have intentions := @normalize_arr_ok tables.toUnicodeTables
    (semanticSort (output.testIntentions.map (semanticIntention tables))) (by
      intro item member
      obtain ⟨intention, _, rfl⟩ := List.mem_map.mp ((List.mem_insertionSort _).mp member)
      exact normalize_obj_ok ["catalog_id", "purpose"] rfl (by decide) (by decide) (by simp))
  obtain ⟨normalized, normalizes⟩ : ∃ value, Domain.Hashing.normalize tables.toUnicodeTables
      (semanticPayload tables (.counsel output)) = .ok value :=
    normalize_obj_ok ["normalized_diff", "test_intentions"] rfl (by decide) (by decide)
      (by simp [intentions])
  simp [summarizeOutput, semanticFingerprint, sha256Hex, canonicalJson_ok normalizes]

/-- Two Counsel outputs with accepted diffs that reviewers cannot tell apart have the same
diff, up to blanks at the ends of lines and blank lines at the end. -/
theorem reviewed_patch_fidelity (tables : SemanticTables) (first second : CounselOutput)
    (firstPaths secondPaths : List String) (summary : UntrustedAgentSummary)
    (accepted : derivePatchPaths tables.toUnicodeTables (patchBytes first) = .ok firstPaths)
    (acceptedOther :
      derivePatchPaths tables.toUnicodeTables (patchBytes second) = .ok secondPaths)
    (shown : summarizeOutput tables (.counsel first) = .ok summary)
    (shownOther : summarizeOutput tables (.counsel second) = .ok summary) :
    reviewedLines first = reviewedLines second := by
  have material := (summarizeOutput_material shown).symm.trans (summarizeOutput_material shownOther)
  simp only [semanticPayload, Json.obj.injEq, List.cons.injEq, Prod.mk.injEq, Json.str.injEq,
    true_and] at material
  obtain ⟨normalized, some⟩ := normalizeDiff_accepted accepted
  obtain ⟨normalizedOther, others⟩ := normalizeDiff_accepted acceptedOther
  have texts := normalized.symm.trans (material.1.trans normalizedOther)
  have joined := List.append_cancel_right (String.ofList_injective texts)
  exact Lines.join_contentLines_injective some others joined

/-! ## Two patches with one summary -/

/-- The sample patch with a blank at the end of its added line. -/
def paddedPatchText : String :=
  "diff --git a/app.py b/app.py\nindex 1111111..2222222 100644\n--- a/app.py\n+++ b/app.py\n" ++
    "@@ -1 +1 @@\n-a\n+b \n"

def paddedCounsel : CounselOutput :=
  { sampleCounsel with
    normalizedDiff := paddedPatchText
    proposes := by decide }

theorem padded_derived :
    derivePatchPaths .asciiOnly (patchBytes paddedCounsel) = .ok ["app.py"] := by
  decide

theorem padded_payload :
    semanticPayload sampleTables (.counsel paddedCounsel) =
      semanticPayload sampleTables (.counsel sampleCounsel) := by
  have same : normalizeDiff paddedCounsel.normalizedDiff =
      normalizeDiff sampleCounsel.normalizedDiff := by decide +kernel
  rw [semanticPayload, semanticPayload, same]
  rfl

theorem padded_shown : ∃ summary,
    summarizeOutput sampleTables (.counsel paddedCounsel) = .ok summary ∧
      summarizeOutput sampleTables (.counsel sampleCounsel) = .ok summary := by
  obtain ⟨summary, shown⟩ := summarizeOutput_counsel sampleTables sampleCounsel
  refine ⟨summary, ?_, shown⟩
  rw [← shown, summarizeOutput, summarizeOutput, semanticFingerprint, semanticFingerprint,
    padded_payload]
  rfl

/-- The reviewers are shown the same for both, and the warrants bind different bytes. -/
theorem padded_patch_unseen :
    derivePatchPaths sampleTables.toUnicodeTables (patchBytes paddedCounsel) = .ok ["app.py"] ∧
    derivePatchPaths sampleTables.toUnicodeTables (patchBytes sampleCounsel) = .ok ["app.py"] ∧
    (∃ summary, summarizeOutput sampleTables (.counsel paddedCounsel) = .ok summary ∧
      summarizeOutput sampleTables (.counsel sampleCounsel) = .ok summary) ∧
    patchBytes paddedCounsel ≠ patchBytes sampleCounsel :=
  ⟨padded_derived, sample_derived, padded_shown, by decide⟩

/-- The two patches have the same lines. -/
theorem padded_reviewed : reviewedLines paddedCounsel = reviewedLines sampleCounsel := by
  obtain ⟨summary, shown, shownOther⟩ := padded_shown
  exact reviewed_patch_fidelity sampleTables paddedCounsel sampleCounsel ["app.py"] ["app.py"]
    summary padded_derived sample_derived shown shownOther

end CrossPatch.Orchestration.ReviewedPatch
