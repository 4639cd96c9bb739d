import Mathlib

/-!
# Backtracking patterns

A pattern is tried at a position of a text.  It answers with the numbers of characters it
can take there, each with the groups captured on the way, in the order in which a
backtracking matcher tries them; the first answer is the match.  Searching moves from
left to right and goes on behind each match.
-/

namespace CrossPatch.Library

abbrev Captures := List (String × List Char)

inductive Pattern where
  | empty
  | char (accepts : Char → Bool)
  /-- Between `least` and `most` accepted characters, the longest run first if greedy. -/
  | many (accepts : Char → Bool) (least : Nat) (most : Option Nat) (greedy : Bool)
  | sequence (first second : Pattern)
  | choice (first second : Pattern)
  | group (name : String) (body : Pattern)
  | reference (name : String)
  /-- The start of the text. -/
  | start
  /-- The end of the text, or the line feed that ends it. -/
  | finish
  | boundary (isWord : Char → Bool)
  | notAfter (rejects : Char → Bool)
  | notBefore (rejects : Char → Bool)

namespace Pattern

def optional (pattern : Pattern) : Pattern := .choice pattern .empty

def sequences : List Pattern → Pattern
  | [] => .empty
  | [pattern] => pattern
  | pattern :: rest => .sequence pattern (sequences rest)

def choices : List Pattern → Pattern
  | [] => .many (fun _ => false) 1 none true
  | [pattern] => pattern
  | pattern :: rest => .choice pattern (choices rest)

/-- The character before the position that lies `taken` characters further on. -/
def behind (previous : Option Char) (text : List Char) : Nat → Option Char
  | 0 => previous
  | taken + 1 => text[taken]?

def isWordAt (isWord : Char → Bool) (character : Option Char) : Bool := character.any isWord

/-- The lengths of the runs that `many` tries, in order. -/
def runLengths (available least : Nat) (most : Option Nat) (greedy : Bool) : List Nat :=
  let longest := match most with
    | none => available
    | some bound => min available bound
  let lengths := (List.range (longest + 1 - least)).map (least + ·)
  if greedy then lengths.reverse else lengths

/-- The numbers of characters that the pattern takes, with the groups they capture. -/
def run : Pattern → Option Char → List Char → Captures → List (Nat × Captures)
  | .empty, _, _, captures => [(0, captures)]
  | .char accepts, _, text, captures =>
      match text with
      | character :: _ => if accepts character then [(1, captures)] else []
      | [] => []
  | .many accepts least most greedy, _, text, captures =>
      (runLengths (text.takeWhile accepts).length least most greedy).map fun taken =>
        (taken, captures)
  | .sequence first second, previous, text, captures =>
      (run first previous text captures).flatMap fun (taken, captured) =>
        (run second (behind previous text taken) (text.drop taken) captured).map
          fun (more, captured) => (taken + more, captured)
  | .choice first second, previous, text, captures =>
      run first previous text captures ++ run second previous text captures
  | .group name body, previous, text, captures =>
      (run body previous text captures).map fun (taken, captured) =>
        (taken, (name, text.take taken) :: captured)
  | .reference name, _, text, captures =>
      match captures.lookup name with
      | some captured => if captured.isPrefixOf text then [(captured.length, captures)] else []
      | none => []
  | .start, previous, _, captures => if previous.isNone then [(0, captures)] else []
  | .finish, _, text, captures => if text = [] ∨ text = ['\n'] then [(0, captures)] else []
  | .boundary isWord, previous, text, captures =>
      if isWordAt isWord previous = isWordAt isWord text.head? then [] else [(0, captures)]
  | .notAfter rejects, previous, _, captures =>
      if previous.any rejects then [] else [(0, captures)]
  | .notBefore rejects, _, text, captures =>
      if text.head?.any rejects then [] else [(0, captures)]

/-- The match at a position. -/
def matchAt (pattern : Pattern) (previous : Option Char) (text : List Char) :
    Option (Nat × Captures) :=
  (run pattern previous text []).head?

/-! ## Searching -/

/-- The characters from `start` to `stop`. -/
structure Span where
  start : Nat
  stop : Nat
deriving DecidableEq

/-- All matches from left to right: each search goes on behind the match before.  The
patterns searched for take at least one character. -/
def findIter (pattern : Pattern) (skip position : Nat) (previous : Option Char) :
    List Char → List Span
  | [] => []
  | character :: rest =>
      match skip with
      | skip + 1 => findIter pattern skip (position + 1) (some character) rest
      | 0 =>
          match matchAt pattern previous (character :: rest) with
          | some (taken, _) =>
              ⟨position, position + taken⟩ ::
                findIter pattern (taken - 1) (position + 1) (some character) rest
          | none => findIter pattern 0 (position + 1) (some character) rest

def spans (pattern : Pattern) (text : List Char) : List Span := findIter pattern 0 0 none text

/-- The first match of a search, as the text before it and what it captured. -/
def search (pattern : Pattern) (previous : Option Char) : List Char → Option (Nat × Captures)
  | [] => none
  | character :: rest =>
      match matchAt pattern previous (character :: rest) with
      | some (_, captures) => some (0, captures)
      | none => (search pattern (some character) rest).map fun (before, captures) =>
          (before + 1, captures)

/-- Replace every match, and say whether there was one. -/
def substitute (pattern : Pattern) (replacement : Captures → List Char) (skip : Nat)
    (previous : Option Char) : List Char → List Char × Bool
  | [] => ([], false)
  | character :: rest =>
      match skip with
      | skip + 1 => substitute pattern replacement skip (some character) rest
      | 0 =>
          match matchAt pattern previous (character :: rest) with
          | some (taken, captures) =>
              (replacement captures ++
                (substitute pattern replacement (taken - 1) (some character) rest).1, true)
          | none =>
              let later := substitute pattern replacement 0 (some character) rest
              (character :: later.1, later.2)

/-! ## The length of a match -/

/-- A number of characters that every match takes at least. -/
def least : Pattern → Nat
  | .char _ => 1
  | .many _ least _ _ => least
  | .sequence first second => least first + least second
  | .choice first second => min (least first) (least second)
  | .group _ body => least body
  | _ => 0

theorem mem_runLengths {available least : Nat} {most : Option Nat} {greedy : Bool} {taken : Nat}
    (member : taken ∈ runLengths available least most greedy) :
    least ≤ taken ∧ taken ≤ available := by
  have lengths : ∃ longest ≤ available,
      taken ∈ (List.range (longest + 1 - least)).map (least + ·) := by
    unfold runLengths at member
    cases most with
    | none =>
        refine ⟨available, Nat.le_refl _, ?_⟩
        cases greedy with
        | true => exact List.mem_reverse.mp member
        | false => exact member
    | some bound =>
        refine ⟨min available bound, Nat.min_le_left _ _, ?_⟩
        cases greedy with
        | true => exact List.mem_reverse.mp member
        | false => exact member
  obtain ⟨longest, bound, member⟩ := lengths
  obtain ⟨more, below, rfl⟩ := List.mem_map.mp member
  have less := List.mem_range.mp below
  omega

/-- A match lies in the text. -/
theorem run_length {pattern : Pattern} {previous : Option Char} {text : List Char}
    {captures captured : Captures} {taken : Nat}
    (member : (taken, captured) ∈ run pattern previous text captures) :
    least pattern ≤ taken ∧ taken ≤ text.length := by
  induction pattern generalizing previous text captures captured taken with
  | empty =>
      cases List.mem_singleton.mp member
      exact ⟨Nat.le_refl _, Nat.zero_le _⟩
  | char accepts =>
      cases text with
      | nil => cases member
      | cons character rest =>
          rw [run] at member
          split at member
          · cases List.mem_singleton.mp member
            exact ⟨Nat.le_refl _, Nat.succ_le_succ (Nat.zero_le _)⟩
          · cases member
  | many accepts least most greedy =>
      obtain ⟨length, inside, equal⟩ := List.mem_map.mp member
      cases equal
      obtain ⟨enough, available⟩ := mem_runLengths inside
      exact ⟨enough, available.trans (List.takeWhile_prefix _).length_le⟩
  | sequence first second ihFirst ihSecond =>
      obtain ⟨⟨earlier, middle⟩, inFirst, later⟩ := List.mem_flatMap.mp member
      obtain ⟨⟨more, last⟩, inSecond, equal⟩ := List.mem_map.mp later
      cases equal
      obtain ⟨enough, available⟩ := ihFirst inFirst
      obtain ⟨further, rest⟩ := ihSecond inSecond
      rw [List.length_drop] at rest
      rw [least]
      omega
  | choice first second ihFirst ihSecond =>
      rw [least]
      obtain inFirst | inSecond := List.mem_append.mp member
      · exact ⟨(Nat.min_le_left _ _).trans (ihFirst inFirst).1, (ihFirst inFirst).2⟩
      · exact ⟨(Nat.min_le_right _ _).trans (ihSecond inSecond).1, (ihSecond inSecond).2⟩
  | group name body ih =>
      obtain ⟨⟨length, inner⟩, inBody, equal⟩ := List.mem_map.mp member
      cases equal
      exact ih inBody
  | reference name =>
      rw [run] at member
      refine ⟨Nat.zero_le _, ?_⟩
      split at member
      · split at member
        · rename_i same
          cases List.mem_singleton.mp member
          exact (List.isPrefixOf_iff_prefix.mp same).length_le
        · cases member
      · cases member
  | start =>
      rw [run] at member
      split at member
      · cases List.mem_singleton.mp member
        exact ⟨Nat.le_refl _, Nat.zero_le _⟩
      · cases member
  | finish =>
      rw [run] at member
      split at member
      · cases List.mem_singleton.mp member
        exact ⟨Nat.le_refl _, Nat.zero_le _⟩
      · cases member
  | boundary isWord =>
      rw [run] at member
      split at member
      · cases member
      · cases List.mem_singleton.mp member
        exact ⟨Nat.le_refl _, Nat.zero_le _⟩
  | notAfter rejects =>
      rw [run] at member
      split at member
      · cases member
      · cases List.mem_singleton.mp member
        exact ⟨Nat.le_refl _, Nat.zero_le _⟩
  | notBefore rejects =>
      rw [run] at member
      split at member
      · cases member
      · cases List.mem_singleton.mp member
        exact ⟨Nat.le_refl _, Nat.zero_le _⟩

theorem matchAt_length {pattern : Pattern} {previous : Option Char} {text : List Char}
    {taken : Nat} {captured : Captures}
    (matched : matchAt pattern previous text = some (taken, captured)) :
    least pattern ≤ taken ∧ taken ≤ text.length :=
  run_length (List.mem_of_head? matched)

/-! ## Laws of searching -/

variable {pattern : Pattern}

/-- A text without a match is left as it is. -/
theorem substitute_of_none {replacement : Captures → List Char} {previous : Option Char}
    {text : List Char} (none : (substitute pattern replacement 0 previous text).2 = false) :
    (substitute pattern replacement 0 previous text).1 = text := by
  induction text generalizing previous with
  | nil => rfl
  | cons character rest ih =>
      rw [substitute] at none ⊢
      dsimp only at none ⊢
      split at none
      · cases none
      · exact congrArg (character :: ·) (ih none)

/-- Where a search finds something, the pattern matches. -/
theorem search_spec {previous : Option Char} {text : List Char} {before : Nat}
    {captures : Captures} (found : search pattern previous text = some (before, captures)) :
    before < text.length ∧ ∃ taken,
      matchAt pattern (behind previous text before) (text.drop before) = some (taken, captures) := by
  induction text generalizing previous before with
  | nil => cases found
  | cons character rest ih =>
      rw [search] at found
      split at found
      · rename_i taken captured matched
        cases found
        exact ⟨Nat.zero_lt_succ _, taken, matched⟩
      · rename_i unmatched
        obtain ⟨⟨earlier, captured⟩, later, equal⟩ := Option.map_eq_some_iff.mp found
        cases equal
        obtain ⟨inside, taken, matched⟩ := ih later
        refine ⟨Nat.succ_lt_succ inside, taken, ?_⟩
        cases earlier with
        | zero => exact matched
        | succ earlier => exact matched

/-- A search that finds nothing has tried every position. -/
theorem search_eq_none {previous : Option Char} {text : List Char} :
    search pattern previous text = none ↔
      ∀ before < text.length,
        matchAt pattern (behind previous text before) (text.drop before) = none := by
  induction text generalizing previous with
  | nil => simp [search]
  | cons character rest ih =>
      rw [search]
      cases matched : matchAt pattern previous (character :: rest) with
      | some answer =>
          simp only [reduceCtorEq, false_iff]
          intro never
          have here := never 0 (Nat.zero_lt_succ _)
          rw [behind, List.drop_zero, matched] at here
          cases here
      | none =>
          rw [Option.map_eq_none_iff, ih]
          constructor
          · intro later before inside
            cases before with
            | zero => exact matched
            | succ before =>
                have silent := later before (Nat.lt_of_succ_lt_succ inside)
                cases before with
                | zero => exact silent
                | succ before => exact silent
          · intro all before inside
            have silent := all (before + 1) (Nat.succ_lt_succ inside)
            cases before with
            | zero => exact silent
            | succ before => exact silent

/-- A match that takes something is found. -/
theorem search_of_matchAt {previous : Option Char} {text : List Char} (proper : 0 < least pattern)
    {column : Nat}
    (matched : (matchAt pattern (behind previous text column) (text.drop column)).isSome = true) :
    (search pattern previous text).isSome = true := by
  cases found : search pattern previous text with
  | some answer => rfl
  | none =>
      obtain ⟨⟨taken, captured⟩, here⟩ := Option.isSome_iff_exists.mp matched
      obtain ⟨enough, inside⟩ := matchAt_length here
      rw [List.length_drop] at inside
      rw [search_eq_none.mp found column (by omega)] at here
      cases here

/-- A search finds the first match. -/
theorem search_least {previous : Option Char} {text : List Char} {before : Nat}
    {captures : Captures} (found : search pattern previous text = some (before, captures))
    {earlier : Nat} (less : earlier < before) :
    matchAt pattern (behind previous text earlier) (text.drop earlier) = none := by
  induction text generalizing previous before earlier with
  | nil => cases found
  | cons character rest ih =>
      rw [search] at found
      cases matched : matchAt pattern previous (character :: rest) with
      | some answer =>
          rw [matched] at found
          cases found
          cases less
      | none =>
          rw [matched] at found
          obtain ⟨⟨position, captured⟩, later, equal⟩ := Option.map_eq_some_iff.mp found
          cases equal
          cases earlier with
          | zero => exact matched
          | succ earlier =>
              have silent := ih later (Nat.lt_of_succ_lt_succ less)
              cases earlier with
              | zero => exact silent
              | succ earlier => exact silent

/-- A search passes over characters at which no match starts. -/
theorem search_replicate {character : Char}
    (never : ∀ previous rest, matchAt pattern previous (character :: rest) = none) (count : Nat)
    {previous : Option Char} {text : List Char} {before : Nat} {captures : Captures}
    (found : search pattern (some character) text = some (before, captures)) :
    search pattern previous (List.replicate (count + 1) character ++ text) =
      some (count + 1 + before, captures) := by
  induction count generalizing previous with
  | zero =>
      rw [List.replicate_one, List.singleton_append, search, never, found, Option.map_some,
        Nat.zero_add, Nat.add_comm]
  | succ count ih =>
      rw [List.replicate_succ, List.cons_append, search, never, ih, Option.map_some]
      simp only [Nat.add_right_comm]

/-! ## All matches -/

theorem behind_cons (previous : Option Char) (character : Char) (rest : List Char) (offset : Nat) :
    behind previous (character :: rest) (offset + 1) = behind (some character) rest offset := by
  cases offset with
  | zero => rfl
  | succ offset => rfl

/-- The pattern matches at the start of the span, up to its end. -/
def Matches (pattern : Pattern) (text : List Char) (span : Span) : Prop :=
  ∃ taken captured, matchAt pattern (behind none text span.start) (text.drop span.start) =
    some (taken, captured) ∧ span.stop = span.start + taken

/-- What a search for all matches finds are matches. -/
theorem mem_findIter {skip position : Nat} {previous : Option Char} {text : List Char} {span : Span}
    (member : span ∈ findIter pattern skip position previous text) :
    ∃ offset taken captured, skip ≤ offset ∧
      matchAt pattern (behind previous text offset) (text.drop offset) = some (taken, captured) ∧
      span = ⟨position + offset, position + offset + taken⟩ := by
  induction text generalizing skip position previous with
  | nil => cases member
  | cons character rest ih =>
      cases skip with
      | succ skip =>
          obtain ⟨offset, taken, captured, far, matched, rfl⟩ := ih member
          refine ⟨offset + 1, taken, captured, Nat.succ_le_succ far, ?_, ?_⟩
          · rw [behind_cons, List.drop_succ_cons, matched]
          · rw [Nat.add_right_comm, Nat.add_assoc position]
      | zero =>
          have later : ∀ {skip : Nat},
              span ∈ findIter pattern skip (position + 1) (some character) rest →
              ∃ offset taken captured, 0 ≤ offset ∧
                matchAt pattern (behind previous (character :: rest) offset)
                  ((character :: rest).drop offset) = some (taken, captured) ∧
                span = ⟨position + offset, position + offset + taken⟩ := by
            intro skip inside
            obtain ⟨offset, taken, captured, _, matched, rfl⟩ := ih inside
            refine ⟨offset + 1, taken, captured, Nat.zero_le _, ?_, ?_⟩
            · rw [behind_cons, List.drop_succ_cons, matched]
            · rw [Nat.add_right_comm, Nat.add_assoc position]
          rw [findIter] at member
          split at member
          · rename_i taken captured matched
            obtain rfl | inside := List.mem_cons.mp member
            · exact ⟨0, taken, captured, Nat.le_refl _, matched, rfl⟩
            · exact later inside
          · exact later member

/-- A match is found, or it starts inside one that is. -/
theorem findIter_complete {skip position : Nat} {previous : Option Char} {text : List Char}
    {offset taken : Nat} {captured : Captures} (proper : 0 < least pattern) (far : skip ≤ offset)
    (matched : matchAt pattern (behind previous text offset) (text.drop offset) =
      some (taken, captured)) :
    ⟨position + offset, position + offset + taken⟩ ∈
        findIter pattern skip position previous text ∨
      ∃ earlier ∈ findIter pattern skip position previous text,
        earlier.start < position + offset ∧ position + offset < earlier.stop := by
  induction text generalizing skip position previous offset with
  | nil =>
      obtain ⟨enough, inside⟩ := matchAt_length matched
      rw [List.drop_nil] at inside
      exact absurd (proper.trans_le enough) (Nat.not_lt.mpr inside)
  | cons character rest ih =>
      cases offset with
      | zero =>
          cases Nat.le_zero.mp far
          left
          rw [findIter, show matchAt pattern previous (character :: rest) = _ from matched]
          exact List.mem_cons_self
      | succ offset =>
          rw [behind_cons, List.drop_succ_cons] at matched
          have shift : position + (offset + 1) = position + 1 + offset := by
            omega
          rw [shift]
          cases skip with
          | succ skip => exact ih (Nat.le_of_succ_le_succ far) matched
          | zero =>
              rw [findIter]
              split
              · rename_i taken' captured' matched'
                by_cases beyond : taken' - 1 ≤ offset
                · obtain found | ⟨earlier, member, inside⟩ :=
                    @ih (taken' - 1) (position + 1) _ _ beyond matched
                  · exact .inl (List.mem_cons_of_mem _ found)
                  · exact .inr ⟨earlier, List.mem_cons_of_mem _ member, inside⟩
                · refine .inr ⟨_, List.mem_cons_self, ?_, ?_⟩
                  · dsimp only
                    omega
                  · dsimp only
                    omega
              · exact ih (Nat.zero_le _) matched

/-- The matches found follow each other. -/
theorem findIter_pairwise (skip position : Nat) (previous : Option Char) (text : List Char) :
    (findIter pattern skip position previous text).Pairwise
      fun first second => first.stop ≤ second.start := by
  induction text generalizing skip position previous with
  | nil => exact .nil
  | cons character rest ih =>
      cases skip with
      | succ skip => exact ih _ _ _
      | zero =>
          rw [findIter]
          split
          · refine .cons ?_ (ih _ _ _)
            intro second member
            obtain ⟨offset, _, _, far, _, rfl⟩ := mem_findIter member
            dsimp only
            omega
          · exact ih _ _ _

/-- A match that starts inside none of those found before it. -/
def Leading (pattern : Pattern) (text : List Char) (span : Span) : Prop :=
  Matches pattern text span ∧
    ∀ earlier ∈ spans pattern text, ¬ (earlier.start < span.start ∧ span.start < earlier.stop)

theorem matches_of_mem_spans {text : List Char} {span : Span} (member : span ∈ spans pattern text) :
    Matches pattern text span := by
  obtain ⟨offset, taken, captured, _, matched, rfl⟩ := mem_findIter member
  rw [Nat.zero_add]
  exact ⟨taken, captured, matched, rfl⟩

/-- A search for all matches finds those that start inside no other. -/
theorem mem_spans (proper : 0 < least pattern) {text : List Char} {span : Span} :
    span ∈ spans pattern text ↔ Leading pattern text span := by
  constructor
  · intro member
    refine ⟨matches_of_mem_spans member, ?_⟩
    rintro earlier found ⟨before, behind⟩
    have ordered := @findIter_pairwise pattern 0 0 none text
    obtain rfl | other := eq_or_ne earlier span
    · exact Nat.lt_irrefl _ before
    · have apart : earlier.stop ≤ span.start ∨ span.stop ≤ earlier.start :=
        List.Pairwise.forall_of_forall_of_flip (R := fun first second : Span => first ≠ second →
            first.stop ≤ second.start ∨ second.stop ≤ first.start)
          (fun _ _ same => absurd rfl same) (ordered.imp fun less _ => .inl less)
          (ordered.imp fun less _ => .inr less) found member other
      obtain less | less := apart
      · omega
      · obtain ⟨taken, _, _, stop⟩ := matches_of_mem_spans member
        omega
  · rintro ⟨⟨taken, captured, matched, stop⟩, unshadowed⟩
    have found := @findIter_complete pattern 0 0 none text _ _ _ proper (Nat.zero_le _) matched
    rw [Nat.zero_add] at found
    obtain here | ⟨earlier, member, inside⟩ := found
    · rw [← stop] at here
      exact here
    · exact absurd inside (unshadowed earlier member)

/-! ## Characters of a match -/

variable {holds : Char → Prop}

/-- Captured groups consist of characters of the text. -/
theorem run_captures {previous : Option Char} {text : List Char} {captures captured : Captures}
    {taken : Nat} (member : (taken, captured) ∈ run pattern previous text captures)
    (all : ∀ character ∈ text, holds character)
    (before : ∀ group ∈ captures, ∀ character ∈ group.2, holds character) :
    ∀ group ∈ captured, ∀ character ∈ group.2, holds character := by
  induction pattern generalizing previous text captures captured taken with
  | empty =>
      cases List.mem_singleton.mp member
      exact before
  | char accepts =>
      cases text with
      | nil => cases member
      | cons character rest =>
          rw [run] at member
          split at member
          · cases List.mem_singleton.mp member
            exact before
          · cases member
  | many accepts least most greedy =>
      obtain ⟨_, _, equal⟩ := List.mem_map.mp member
      cases equal
      exact before
  | sequence first second ihFirst ihSecond =>
      obtain ⟨⟨earlier, middle⟩, inFirst, later⟩ := List.mem_flatMap.mp member
      obtain ⟨⟨more, last⟩, inSecond, equal⟩ := List.mem_map.mp later
      cases equal
      exact ihSecond inSecond (fun character inside => all character (List.mem_of_mem_drop inside))
        (ihFirst inFirst all before)
  | choice first second ihFirst ihSecond =>
      obtain inFirst | inSecond := List.mem_append.mp member
      · exact ihFirst inFirst all before
      · exact ihSecond inSecond all before
  | group name body ih =>
      obtain ⟨⟨length, inner⟩, inBody, equal⟩ := List.mem_map.mp member
      cases equal
      refine List.forall_mem_cons.mpr ⟨?_, ih inBody all before⟩
      exact fun character inside => all character (List.mem_of_mem_take inside)
  | reference name =>
      rw [run] at member
      split at member
      · split at member
        · cases List.mem_singleton.mp member
          exact before
        · cases member
      · cases member
  | start =>
      rw [run] at member
      split at member
      · cases List.mem_singleton.mp member
        exact before
      · cases member
  | finish =>
      rw [run] at member
      split at member
      · cases List.mem_singleton.mp member
        exact before
      · cases member
  | boundary isWord =>
      rw [run] at member
      split at member
      · cases member
      · cases List.mem_singleton.mp member
        exact before
  | notAfter rejects =>
      rw [run] at member
      split at member
      · cases member
      · cases List.mem_singleton.mp member
        exact before
  | notBefore rejects =>
      rw [run] at member
      split at member
      · cases member
      · cases List.mem_singleton.mp member
        exact before

theorem matchAt_captures {previous : Option Char} {text : List Char} {taken : Nat}
    {captured : Captures} (matched : matchAt pattern previous text = some (taken, captured))
    (all : ∀ character ∈ text, holds character) :
    ∀ group ∈ captured, ∀ character ∈ group.2, holds character :=
  run_captures (List.mem_of_head? matched) all fun _ member => absurd member List.not_mem_nil

/-- A substitution brings in no other characters than its replacements do. -/
theorem mem_substitute {replacement : Captures → List Char}
    (kept : ∀ captured : Captures, (∀ group ∈ captured, ∀ character ∈ group.2, holds character) →
      ∀ character ∈ replacement captured, holds character)
    {skip : Nat} {previous : Option Char} {text : List Char}
    (all : ∀ character ∈ text, holds character) :
    ∀ character ∈ (substitute pattern replacement skip previous text).1, holds character := by
  induction text generalizing skip previous with
  | nil => exact fun _ member => absurd member List.not_mem_nil
  | cons character rest ih =>
      obtain ⟨here, others⟩ := List.forall_mem_cons.mp all
      cases skip with
      | succ skip => exact ih others
      | zero =>
          rw [substitute]
          split
          · rename_i taken captured matched
            intro other member
            obtain replaced | later := List.mem_append.mp member
            · exact kept captured (matchAt_captures matched all) other replaced
            · exact ih others other later
          · exact List.forall_mem_cons.mpr ⟨here, ih others⟩

end Pattern

end CrossPatch.Library
