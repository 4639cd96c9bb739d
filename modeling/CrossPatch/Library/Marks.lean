import CrossPatch.Library.Pattern

/-!
# Marked texts

Characters that carry a mark, such as the place they come from.  A pattern sees only the
characters, so it matches a marked text as it matches the text, and a substitution moves
the marks along with the characters that it keeps.
-/

namespace CrossPatch.Library.Marks

open CrossPatch.Library.Pattern

abbrev MarkedCaptures (Mark : Type) := List (String × List (Char × Mark))

variable {Mark : Type}

def letters (text : List (Char × Mark)) : List Char := text.map Prod.fst

/-- The groups without their marks. -/
def unmark (captures : MarkedCaptures Mark) : Captures :=
  captures.map fun group => (group.1, letters group.2)

/-- The matches of a pattern in a marked text; only groups capture. -/
def runMarked : Pattern → Option Char → List (Char × Mark) → MarkedCaptures Mark →
    List (Nat × MarkedCaptures Mark)
  | .sequence first second, previous, text, captures =>
      (runMarked first previous text captures).flatMap fun (taken, captured) =>
        (runMarked second (behind previous (letters text) taken) (text.drop taken) captured).map
          fun (more, captured) => (taken + more, captured)
  | .choice first second, previous, text, captures =>
      runMarked first previous text captures ++ runMarked second previous text captures
  | .group name body, previous, text, captures =>
      (runMarked body previous text captures).map fun (taken, captured) =>
        (taken, (name, text.take taken) :: captured)
  | pattern, previous, text, captures =>
      (run pattern previous (letters text) (unmark captures)).map fun (taken, _) => (taken, captures)

def matchMarked (pattern : Pattern) (previous : Option Char) (text : List (Char × Mark)) :
    Option (Nat × MarkedCaptures Mark) :=
  (runMarked pattern previous text []).head?

def substituteMarked (pattern : Pattern) (replacement : MarkedCaptures Mark → List (Char × Mark))
    (skip : Nat) (previous : Option Char) : List (Char × Mark) → List (Char × Mark)
  | [] => []
  | character :: rest =>
      match skip with
      | skip + 1 => substituteMarked pattern replacement skip (some character.1) rest
      | 0 =>
          match matchMarked pattern previous (character :: rest) with
          | some (taken, captures) =>
              replacement captures ++
                substituteMarked pattern replacement (taken - 1) (some character.1) rest
          | none => character :: substituteMarked pattern replacement 0 (some character.1) rest

/-! ## Without the marks -/

@[simp]
theorem letters_append (first second : List (Char × Mark)) :
    letters (first ++ second) = letters first ++ letters second :=
  List.map_append

theorem letters_take (text : List (Char × Mark)) (length : Nat) :
    letters (text.take length) = (letters text).take length :=
  List.map_take

theorem letters_drop (text : List (Char × Mark)) (length : Nat) :
    letters (text.drop length) = (letters text).drop length :=
  List.map_drop

theorem lookup_unmark (captures : MarkedCaptures Mark) (name : String) :
    (unmark captures).lookup name = (captures.lookup name).map letters := by
  induction captures with
  | nil => rfl
  | cons group rest ih =>
      obtain ⟨key, text⟩ := group
      change List.lookup name ((key, letters text) :: unmark rest) = _
      rw [List.lookup_cons, List.lookup_cons]
      cases name == key with
      | true => rfl
      | false => exact ih

/-- The answer of a match without the marks of its groups. -/
def unmarkAnswer (answer : Nat × MarkedCaptures Mark) : Nat × Captures :=
  (answer.1, unmark answer.2)

/-- What a pattern without parts takes, it takes without capturing. -/
theorem map_leaf {answers : List (Nat × Captures)} {captures : MarkedCaptures Mark}
    (silent : ∀ answer ∈ answers, answer.2 = unmark captures) :
    (answers.map fun (taken, _) => (taken, captures)).map unmarkAnswer = answers := by
  rw [List.map_map]
  refine (List.map_congr_left fun answer member => ?_).trans (List.map_id _)
  exact Prod.ext rfl (silent answer member).symm

theorem silent_if {condition : Prop} [Decidable condition] {taken : Nat} {captures : Captures}
    {answer : Nat × Captures}
    (member : answer ∈ if condition then [(taken, captures)] else []) : answer.2 = captures := by
  split at member
  · exact congrArg Prod.snd (List.mem_singleton.mp member)
  · cases member

theorem silent_unless {condition : Prop} [Decidable condition] {taken : Nat} {captures : Captures}
    {answer : Nat × Captures}
    (member : answer ∈ if condition then [] else [(taken, captures)]) : answer.2 = captures := by
  split at member
  · cases member
  · exact congrArg Prod.snd (List.mem_singleton.mp member)

theorem runMarked_unmark (pattern : Pattern) (previous : Option Char) (text : List (Char × Mark))
    (captures : MarkedCaptures Mark) :
    (runMarked pattern previous text captures).map unmarkAnswer =
      run pattern previous (letters text) (unmark captures) := by
  induction pattern generalizing previous text captures with
  | sequence first second ihFirst ihSecond =>
      rw [runMarked, run, ← ihFirst, List.map_flatMap, List.flatMap_map]
      refine List.flatMap_congr fun answer _ => ?_
      obtain ⟨taken, captured⟩ := answer
      have later := ihSecond (behind previous (letters text) taken) (text.drop taken) captured
      rw [letters_drop] at later
      simp only [unmarkAnswer]
      rw [← later, List.map_map, List.map_map]
      rfl
  | choice first second ihFirst ihSecond =>
      rw [runMarked, run, List.map_append, ihFirst, ihSecond]
  | group name body ih =>
      rw [runMarked, run, ← ih, List.map_map, List.map_map]
      refine List.map_congr_left fun answer _ => ?_
      simp [unmarkAnswer, unmark, letters_take]
  | empty => exact map_leaf fun answer member => congrArg Prod.snd (List.mem_singleton.mp member)
  | many accepts least most greedy =>
      refine map_leaf fun answer member => ?_
      obtain ⟨_, _, rfl⟩ := List.mem_map.mp member
      rfl
  | char accepts =>
      refine map_leaf fun answer member => ?_
      generalize letters text = characters at member
      cases characters with
      | nil => cases member
      | cons character rest => exact silent_if (by rwa [run] at member)
  | reference name =>
      refine map_leaf fun answer member => ?_
      rw [run] at member
      split at member
      · exact silent_if member
      · cases member
  | start => exact map_leaf fun answer member => silent_if (by rwa [run] at member)
  | finish => exact map_leaf fun answer member => silent_if (by rwa [run] at member)
  | boundary isWord => exact map_leaf fun answer member => silent_unless (by rwa [run] at member)
  | notAfter rejects => exact map_leaf fun answer member => silent_unless (by rwa [run] at member)
  | notBefore rejects => exact map_leaf fun answer member => silent_unless (by rwa [run] at member)

theorem matchMarked_unmark (pattern : Pattern) (previous : Option Char)
    (text : List (Char × Mark)) :
    (matchMarked pattern previous text).map unmarkAnswer =
      matchAt pattern previous (letters text) := by
  rw [matchMarked, ← List.head?_map, runMarked_unmark]
  rfl

/-- A substitution in a marked text is the substitution in the text. -/
theorem letters_substituteMarked {pattern : Pattern}
    {replacement : MarkedCaptures Mark → List (Char × Mark)} {plain : Captures → List Char}
    (same : ∀ captures, letters (replacement captures) = plain (unmark captures)) (skip : Nat)
    (previous : Option Char) (text : List (Char × Mark)) :
    letters (substituteMarked pattern replacement skip previous text) =
      (substitute pattern plain skip previous (letters text)).1 := by
  induction text generalizing skip previous with
  | nil => rfl
  | cons character rest ih =>
      change _ = (substitute pattern plain skip previous (character.1 :: letters rest)).1
      cases skip with
      | succ skip => exact ih skip (some character.1)
      | zero =>
          have here := matchMarked_unmark pattern previous (character :: rest)
          change _ = matchAt pattern previous (character.1 :: letters rest) at here
          rw [substituteMarked, substitute, ← here]
          cases matchMarked pattern previous (character :: rest) with
          | some answer =>
              dsimp only [Option.map_some, unmarkAnswer]
              rw [letters_append, same, ih]
          | none =>
              dsimp only [Option.map_none]
              rw [← ih]
              rfl

/-! ## The characters of a match -/

variable {holds : Char × Mark → Prop}

/-- The groups of a match are parts of the text. -/
theorem runMarked_captures {pattern : Pattern} {previous : Option Char}
    {text : List (Char × Mark)} {captures captured : MarkedCaptures Mark} {taken : Nat}
    (member : (taken, captured) ∈ runMarked pattern previous text captures)
    (all : ∀ character ∈ text, holds character)
    (before : ∀ group ∈ captures, ∀ character ∈ group.2, holds character) :
    ∀ group ∈ captured, ∀ character ∈ group.2, holds character := by
  induction pattern generalizing previous text captures captured taken with
  | sequence first second ihFirst ihSecond =>
      obtain ⟨⟨earlier, middle⟩, inFirst, later⟩ := List.mem_flatMap.mp member
      obtain ⟨⟨more, last⟩, inSecond, equal⟩ := List.mem_map.mp later
      cases equal
      exact ihSecond inSecond (fun character inside => all character (List.mem_of_mem_drop inside))
        (ihFirst inFirst all before)
  | choice first second ihFirst ihSecond =>
      obtain inFirst | inSecond := List.mem_append.mp member
      · exact ihFirst inFirst all before
      · exact ihSecond inSecond all before
  | group name body ih =>
      obtain ⟨⟨length, inner⟩, inBody, equal⟩ := List.mem_map.mp member
      cases equal
      refine List.forall_mem_cons.mpr ⟨?_, ih inBody all before⟩
      exact fun character inside => all character (List.mem_of_mem_take inside)
  | empty | char | many | reference | start | finish | boundary | notAfter | notBefore =>
      obtain ⟨_, _, equal⟩ := List.mem_map.mp member
      cases equal
      exact before

/-- A substitution keeps characters of the text with their marks. -/
theorem mem_substituteMarked {pattern : Pattern}
    {replacement : MarkedCaptures Mark → List (Char × Mark)}
    (kept : ∀ captured : MarkedCaptures Mark,
      (∀ group ∈ captured, ∀ character ∈ group.2, holds character) →
        ∀ character ∈ replacement captured, holds character)
    {skip : Nat} {previous : Option Char} {text : List (Char × Mark)}
    (all : ∀ character ∈ text, holds character) :
    ∀ character ∈ substituteMarked pattern replacement skip previous text, holds character := by
  induction text generalizing skip previous with
  | nil => exact fun _ member => absurd member List.not_mem_nil
  | cons character rest ih =>
      obtain ⟨here, others⟩ := List.forall_mem_cons.mp all
      cases skip with
      | succ skip => exact ih others
      | zero =>
          rw [substituteMarked]
          split
          · rename_i taken captured matched
            intro other member
            obtain replaced | later := List.mem_append.mp member
            · refine kept captured ?_ other replaced
              exact runMarked_captures (List.mem_of_head? matched) all
                fun _ member => absurd member List.not_mem_nil
            · exact ih others other later
          · exact List.forall_mem_cons.mpr ⟨here, ih others⟩

end CrossPatch.Library.Marks
