import Mathlib

/-!
# Lines of a text

A text is cut into lines at a separator.  Blanks are a set of characters that
contains the separator.  Trimming removes the blanks at the end of a line, and the
content of a text is its trimmed lines without the empty ones at its end.
-/

namespace CrossPatch.Library.Lines

universe u

variable {α : Type u} (newline : α) (blank : α → Bool)

def join (lines : List (List α)) : List α := [newline].intercalate lines

def trimEnd (text : List α) : List α := text.rdropWhile blank

def trim (text : List α) : List α := trimEnd blank (text.dropWhile blank)

section Cutting

variable [DecidableEq α]

def trimmedLines (text : List α) : List (List α) :=
  (text.splitOn newline).map (trimEnd blank)

def contentLines (text : List α) : List (List α) :=
  (trimmedLines newline blank text).rdropWhile List.isEmpty

end Cutting

variable {newline : α} {blank : α → Bool}

theorem trimEnd_trimEnd (text : List α) :
    trimEnd blank (trimEnd blank text) = trimEnd blank text :=
  List.rdropWhile_idempotent _ _

theorem trimEnd_append {text rest : List α} (kept : trimEnd blank rest = rest) (some : rest ≠ []) :
    trimEnd blank (text ++ rest) = text ++ rest := by
  rw [trimEnd, List.rdropWhile_eq_self_iff] at kept ⊢
  intro _
  rw [List.getLast_append_of_ne_nil _ some]
  exact kept some

theorem join_concat {lines : List (List α)} (others : lines ≠ []) (line : List α) :
    join newline (lines ++ [line]) = join newline lines ++ newline :: line := by
  induction lines with
  | nil => exact absurd rfl others
  | cons first rest ih =>
      cases rest with
      | nil => simp [join, List.intercalate]
      | cons second tail =>
          have step := ih (List.cons_ne_nil _ _)
          simp only [join, List.intercalate, List.cons_append, List.intersperse] at step ⊢
          simp [step]

/-- Trimming joined lines leaves the lines up to the last one that is not empty. -/
theorem trimEnd_join (separates : blank newline = true) {lines : List (List α)}
    (trimmed : ∀ line ∈ lines, trimEnd blank line = line) :
    trimEnd blank (join newline lines) = join newline (lines.rdropWhile List.isEmpty) := by
  induction lines using List.reverseRecOn with
  | nil => rfl
  | append_singleton lines line ih =>
      have earlier := ih fun other member => trimmed other (List.mem_append_left _ member)
      have last := trimmed line (List.mem_append_right _ (List.mem_singleton_self line))
      cases line with
      | nil =>
          rw [List.rdropWhile_concat_pos _ _ _ rfl, ← earlier]
          by_cases others : lines = []
          · subst others
            rfl
          · rw [join_concat others, trimEnd, List.rdropWhile_concat_pos _ _ _ separates]
            rfl
      | cons character rest =>
          rw [List.rdropWhile_concat_neg _ _ _ (by simp)]
          by_cases others : lines = []
          · subst others
            simpa [join, List.intercalate] using last
          · rw [join_concat others, ← List.singleton_append, ← List.append_assoc]
            exact trimEnd_append last (List.cons_ne_nil _ _)

theorem trimEnd_cons {character : α} (visible : blank character = false) (rest : List α) :
    ∃ kept, trimEnd blank (character :: rest) = character :: kept := by
  induction rest using List.reverseRecOn with
  | nil => exact ⟨[], by simp [trimEnd, List.rdropWhile_singleton, visible]⟩
  | append_singleton rest last ih =>
      rw [← List.cons_append]
      by_cases ends : blank last = true
      · rw [trimEnd, List.rdropWhile_concat_pos _ _ _ ends]
        exact ih
      · rw [trimEnd, List.rdropWhile_concat_neg _ _ _ ends]
        exact ⟨rest ++ [last], rfl⟩

theorem trimEnd_subset {text : List α} {character : α} (member : character ∈ trimEnd blank text) :
    character ∈ text :=
  (List.rdropWhile_prefix _ _).subset member

variable [DecidableEq α]

theorem not_mem_of_mem_splitOn {text line : List α} (member : line ∈ text.splitOn newline) :
    newline ∉ line := by
  induction text generalizing line with
  | nil =>
      rw [List.splitOn_nil, List.mem_singleton] at member
      subst member
      exact List.not_mem_nil
  | cons character rest ih =>
      rw [List.splitOn_cons_eq_if_modifyHead] at member
      split at member
      · rcases List.mem_cons.mp member with rfl | later
        · exact List.not_mem_nil
        · exact ih later
      · rename_i differs
        cases pieces : rest.splitOn newline with
        | nil => exact absurd pieces (List.splitOn_ne_nil newline rest)
        | cons first others =>
            rw [pieces] at ih
            rw [pieces, List.modifyHead_cons, List.mem_cons] at member
            rcases member with rfl | later
            · rw [List.mem_cons, not_or]
              exact ⟨fun same => differs (by simp [same]), ih List.mem_cons_self⟩
            · exact ih (List.mem_cons_of_mem _ later)

theorem mem_of_mem_contentLines {text line : List α}
    (member : line ∈ contentLines newline blank text) :
    newline ∉ line ∧ trimEnd blank line = line := by
  have inside := (List.rdropWhile_prefix _ _).subset member
  obtain ⟨piece, listed, rfl⟩ := List.mem_map.mp inside
  refine ⟨fun present => not_mem_of_mem_splitOn listed (trimEnd_subset present), ?_⟩
  exact trimEnd_trimEnd piece

/-- Joined content is read back by cutting it. -/
theorem join_contentLines_injective {left right : List α}
    (some : contentLines newline blank left ≠ []) (others : contentLines newline blank right ≠ [])
    (same : join newline (contentLines newline blank left) =
      join newline (contentLines newline blank right)) :
    contentLines newline blank left = contentLines newline blank right := by
  have read := congrArg (List.splitOn newline) same
  unfold join at read
  rwa [List.splitOn_intercalate newline (fun _ member => (mem_of_mem_contentLines member).1) some,
    List.splitOn_intercalate newline (fun _ member => (mem_of_mem_contentLines member).1) others]
    at read

/-- Trimming a text whose lines are trimmed, from its first character that is not blank. -/
theorem trim_join_trimmedLines (separates : blank newline = true) {text : List α}
    {character : α} {rest : List α}
    (starts : join newline (trimmedLines newline blank text) = character :: rest)
    (visible : blank character = false) :
    trim blank (join newline (trimmedLines newline blank text)) =
      join newline (contentLines newline blank text) := by
  have trimmed : ∀ line ∈ trimmedLines newline blank text, trimEnd blank line = line := by
    intro line member
    obtain ⟨piece, _, rfl⟩ := List.mem_map.mp member
    exact trimEnd_trimEnd piece
  rw [trim, starts, List.dropWhile_cons_of_neg (by simp [visible]), ← starts]
  exact trimEnd_join separates trimmed

/-- A text that starts with a visible character has it in its first line. -/
theorem trimmedLines_cons (separates : blank newline = true) {character : α}
    (visible : blank character = false) (rest : List α) :
    ∃ kept others, trimmedLines newline blank (character :: rest) =
      (character :: kept) :: others := by
  have differs : (character == newline) = false := by
    rw [beq_eq_false_iff_ne]
    rintro rfl
    rw [separates] at visible
    cases visible
  cases pieces : rest.splitOn newline with
  | nil => exact absurd pieces (List.splitOn_ne_nil newline rest)
  | cons first others =>
      obtain ⟨kept, trimmed⟩ := trimEnd_cons visible first
      refine ⟨kept, others.map (trimEnd blank), ?_⟩
      rw [trimmedLines, List.splitOn_cons_eq_if_modifyHead, differs, pieces]
      simp [trimmed]

/-- A text that starts with a visible character is trimmed to its content. -/
theorem trim_trimmedLines (separates : blank newline = true) {character : α}
    (visible : blank character = false) (rest : List α) :
    trim blank (join newline (trimmedLines newline blank (character :: rest))) =
      join newline (contentLines newline blank (character :: rest)) ∧
    contentLines newline blank (character :: rest) ≠ [] := by
  obtain ⟨kept, others, lines⟩ := trimmedLines_cons separates visible rest
  constructor
  · have starts : ∃ tail, join newline ((character :: kept) :: others) = character :: tail := by
      cases others with
      | nil => exact ⟨kept, by simp [join, List.intercalate]⟩
      | cons second tail => exact ⟨_, by simp [join, List.intercalate, List.intersperse]; rfl⟩
    obtain ⟨tail, starts⟩ := starts
    exact trim_join_trimmedLines separates (by rw [lines, starts]) visible
  · rw [contentLines, lines, Ne, List.rdropWhile_eq_nil_iff]
    intro empty
    exact absurd (empty _ List.mem_cons_self) (by simp)

end CrossPatch.Library.Lines
