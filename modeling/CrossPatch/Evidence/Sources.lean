import CrossPatch.Evidence.Bounds
import CrossPatch.Library.Marks

/-!
# Where the sanitized text comes from

The operations on a line, on characters that carry the place of the kept text from which
they were taken.  Without the places they emit the sanitized text; a character without a
place belongs to a marker or ends a line.
-/

namespace CrossPatch.Evidence.Sanitizer

open CrossPatch.Domain.Failure CrossPatch.Domain.Text
open CrossPatch.Library CrossPatch.Library.Attempt CrossPatch.Library.Decoding
open CrossPatch.Library.Marks CrossPatch.Library.Octets CrossPatch.Library.Pattern

/-- A place in a text of several lines. -/
structure Place where
  line : Nat
  column : Nat
  deriving DecidableEq

abbrev Sourced := List (Char × Option Place)

/-- A line of the kept text. -/
def placed (line : Nat) (text : List Char) : Sourced :=
  text.mapIdx fun column character => (character, some ⟨line, column⟩)

def inserted (text : List Char) : Sourced := text.map fun character => (character, none)

section Sources

variable (tables : TextTables)

/-! ## Secrets -/

/-- `replaceText` with the secret marker. -/
def replaceSourced (secret : List Char) (skip : Nat) : Sourced → Sourced
  | [] => []
  | character :: rest =>
      match skip with
      | skip + 1 => replaceSourced secret skip rest
      | 0 =>
          if secret.isPrefixOf (letters (character :: rest)) then
            inserted secretMarker ++ replaceSourced secret (secret.length - 1) rest
          else character :: replaceSourced secret 0 rest

def redactConfiguredSourced (value : Sourced) (secret : String) : Sourced :=
  if isInfix secret.toList (letters value) then replaceSourced secret.toList 0 value else value

/-- `redactSecrets`. -/
def redactSourced (value : Sourced) (configured : List String) : Sourced :=
  let captured (captures : MarkedCaptures (Option Place)) (name : String) :=
    (captures.lookup name).getD []
  let first := substituteMarked (authorization tables)
    (fun _ => inserted ("Authorization: ".toList ++ secretMarker)) 0 none value
  let second := substituteMarked (openaiKey tables) (fun _ => inserted secretMarker) 0 none first
  let third := substituteMarked jsonNamedSecret (fun captures =>
    captured captures "prefix" ++ captured captures "quote" ++ inserted secretMarker ++
      captured captures "quote") 0 none second
  let fourth := substituteMarked (namedSecret tables) (fun captures =>
    captured captures "1" ++ captured captures "2" ++ inserted secretMarker) 0 none third
  configured.foldl redactConfiguredSourced fourth

/-! ## Lines -/

/-- What is kept of the text of a line, as `lineText` says. -/
def lineSources (configured : List String) (index : Nat) (line : Flagged) : Sourced :=
  if line.isSecret then
    (placed index (scanned tables line.raw)).take (textBeforeKey (scanned tables line.raw)).length
  else if controlsRemoved tables line.raw || line.isInstruction then []
  else (redactSourced tables (placed index (scanned tables line.raw)) configured).take
    maxLineCharacters

def sourcedLines (configured : List String) (index start : Nat) : List Flagged → Sourced
  | [] => []
  | line :: rest =>
      lineSources tables configured index line ++
        inserted (appendedMarker tables configured start line ++ newlineOf line.raw) ++
        sourcedLines configured (index + 1) (start + line.raw.length) rest

def sourcedText (raw : Bytes) (secretValues : List String) : Sourced :=
  sourcedLines tables (configuredSecrets secretValues) 0 0 (flag tables (keep raw).lines) ++
    inserted (closing raw).1

end Sources

variable {tables : TextTables} {configured : List String}

/-! ## Without the places -/

@[simp]
theorem letters_inserted (text : List Char) : letters (inserted text) = text := by
  rw [letters, inserted, List.map_map]
  exact List.map_id _

@[simp]
theorem letters_placed (line : Nat) (text : List Char) : letters (placed line text) = text := by
  exact List.ext_getElem (by simp [letters, placed]) fun _ _ _ => by simp [letters, placed]

theorem letters_replaceSourced (secret : List Char) (skip : Nat) (value : Sourced) :
    letters (replaceSourced secret skip value) =
      replaceText secret secretMarker skip (letters value) := by
  induction value generalizing skip with
  | nil => rfl
  | cons character rest ih =>
      change _ = replaceText secret secretMarker skip (character.1 :: letters rest)
      cases skip with
      | succ skip => exact ih skip
      | zero =>
          rw [replaceSourced, replaceText]
          change letters (if secret.isPrefixOf (character.1 :: letters rest) then _ else _) = _
          split
          · rw [letters_append, letters_inserted, ih]
          · rw [← ih]
            rfl

theorem letters_redactConfiguredSourced {value : Sourced} {state : List Char × Bool}
    (same : letters value = state.1) :
    letters (configured.foldl redactConfiguredSourced value) =
      (configured.foldl redactConfigured state).1 := by
  induction configured generalizing value state with
  | nil => exact same
  | cons secret rest ih =>
      rw [List.foldl_cons, List.foldl_cons, redactConfiguredSourced, redactConfigured, same]
      split
      · exact ih (by rw [letters_replaceSourced, same])
      · exact ih same

theorem letters_lookup (captures : MarkedCaptures (Option Place)) (name : String) :
    letters ((captures.lookup name).getD []) = ((unmark captures).lookup name).getD [] := by
  rw [lookup_unmark]
  cases captures.lookup name with
  | none => rfl
  | some text => rfl

theorem letters_redactSourced (value : Sourced) :
    letters (redactSourced tables value configured) =
      (redactSecrets tables (letters value) configured).1 := by
  have header : ∀ value : Sourced, letters (substituteMarked (authorization tables)
      (fun _ => inserted ("Authorization: ".toList ++ secretMarker)) 0 none value) =
        (substitute (authorization tables) (fun _ => "Authorization: ".toList ++ secretMarker) 0 none
          (letters value)).1 :=
    letters_substituteMarked (fun _ => by rw [letters_inserted]) 0 none
  have key : ∀ value : Sourced, letters (substituteMarked (openaiKey tables)
      (fun _ => inserted secretMarker) 0 none value) =
        (substitute (openaiKey tables) (fun _ => secretMarker) 0 none (letters value)).1 :=
    letters_substituteMarked (fun _ => by rw [letters_inserted]) 0 none
  have json : ∀ value : Sourced, letters (substituteMarked jsonNamedSecret (fun captures =>
      (captures.lookup "prefix").getD [] ++ (captures.lookup "quote").getD [] ++
        inserted secretMarker ++ (captures.lookup "quote").getD []) 0 none value) =
        (substitute jsonNamedSecret (fun captures => (captures.lookup "prefix").getD [] ++
          (captures.lookup "quote").getD [] ++ secretMarker ++ (captures.lookup "quote").getD [])
            0 none (letters value)).1 :=
    letters_substituteMarked (fun _ => by simp [letters_lookup]) 0 none
  have named : ∀ value : Sourced, letters (substituteMarked (namedSecret tables) (fun captures =>
      (captures.lookup "1").getD [] ++ (captures.lookup "2").getD [] ++ inserted secretMarker)
        0 none value) =
        (substitute (namedSecret tables) (fun captures => (captures.lookup "1").getD [] ++
          (captures.lookup "2").getD [] ++ secretMarker) 0 none (letters value)).1 :=
    letters_substituteMarked (fun _ => by simp [letters_lookup]) 0 none
  refine letters_redactConfiguredSourced ?_
  dsimp only
  rw [named, json, key, header]

theorem take_textBeforeKey (text : List Char) :
    text.take (textBeforeKey text).length = textBeforeKey text := by
  unfold textBeforeKey
  split
  · rename_i before captures found
    rw [List.length_take_of_le (search_spec found).1.le]
  · rfl

theorem letters_lineSources (index : Nat) (line : Flagged) :
    letters (lineSources tables configured index line) = lineText tables configured line := by
  unfold lineSources lineText
  split
  · rw [letters_take, letters_placed, take_textBeforeKey]
  · split
    · rfl
    · rw [letters_take, letters_redactSourced, letters_placed]

theorem letters_sourcedLines (index start : Nat) (lines : List Flagged) :
    letters (sourcedLines tables configured index start lines) =
      (sanitizeLines tables configured start lines).flatMap Prod.fst := by
  induction lines generalizing index start with
  | nil => rfl
  | cons line rest ih =>
      rw [sourcedLines, sanitizeLines, List.flatMap_cons, sanitizeLine_row, letters_append,
        letters_append, letters_lineSources, letters_inserted, ih]
      simp only [List.append_assoc]

/-- Without the places it is the sanitized text. -/
theorem letters_sourcedText (raw : Bytes) (secretValues : List String) :
    letters (sourcedText tables raw secretValues) = sanitizedText tables raw secretValues := by
  rw [sourcedText, sanitizedText, emitted, letters_append, letters_sourcedLines, letters_inserted]

/-! ## Places -/

/-- A character is what stands at its place of the line, if it has one. -/
def StandsIn (index : Nat) (text : List Char) (character : Char × Option Place) : Prop :=
  ∀ place, character.2 = some place →
    place.line = index ∧ text[place.column]? = some character.1

section Standing

variable {index : Nat} {text : List Char}

theorem standsIn_inserted (marker : List Char) :
    ∀ character ∈ inserted marker, StandsIn index text character := by
  intro character member place sourced
  obtain ⟨_, _, rfl⟩ := List.mem_map.mp member
  cases sourced

theorem standsIn_placed : ∀ character ∈ placed index text, StandsIn index text character := by
  intro character member place sourced
  obtain ⟨column, inside, rfl⟩ := List.mem_mapIdx.mp member
  cases sourced
  exact ⟨rfl, List.getElem?_eq_getElem inside⟩

theorem standsIn_replaceSourced {secret : List Char} {skip : Nat} {value : Sourced}
    (all : ∀ character ∈ value, StandsIn index text character) :
    ∀ character ∈ replaceSourced secret skip value, StandsIn index text character := by
  induction value generalizing skip with
  | nil => exact fun _ member => absurd member List.not_mem_nil
  | cons first rest ih =>
      obtain ⟨here, others⟩ := List.forall_mem_cons.mp all
      cases skip with
      | succ skip => exact ih others
      | zero =>
          rw [replaceSourced]
          split
          · exact List.forall_mem_append.mpr ⟨standsIn_inserted _, ih others⟩
          · exact List.forall_mem_cons.mpr ⟨here, ih others⟩

theorem standsIn_redactConfigured {value : Sourced}
    (all : ∀ character ∈ value, StandsIn index text character) :
    ∀ character ∈ configured.foldl redactConfiguredSourced value,
      StandsIn index text character := by
  induction configured generalizing value with
  | nil => exact all
  | cons secret rest ih =>
      rw [List.foldl_cons]
      apply ih
      rw [redactConfiguredSourced]
      split
      · exact standsIn_replaceSourced all
      · exact all

theorem standsIn_lookup {captures : MarkedCaptures (Option Place)} {name : String}
    (all : ∀ group ∈ captures, ∀ character ∈ group.2, StandsIn index text character) :
    ∀ character ∈ (captures.lookup name).getD [], StandsIn index text character := by
  cases found : captures.lookup name with
  | none => exact fun _ member => absurd member List.not_mem_nil
  | some group =>
      obtain ⟨before, after, split, _⟩ := List.lookup_eq_some_iff.mp found
      exact all (name, group) (split ▸ List.mem_append_right _ List.mem_cons_self)

/-- A redaction keeps characters with their places. -/
theorem standsIn_redactSourced {value : Sourced}
    (all : ∀ character ∈ value, StandsIn index text character) :
    ∀ character ∈ redactSourced tables value configured, StandsIn index text character := by
  unfold redactSourced
  apply standsIn_redactConfigured
  refine mem_substituteMarked ?_ (mem_substituteMarked ?_ (mem_substituteMarked ?_
    (mem_substituteMarked ?_ all)))
  · intro captures groups
    exact List.forall_mem_append.mpr ⟨List.forall_mem_append.mpr
      ⟨standsIn_lookup groups, standsIn_lookup groups⟩, standsIn_inserted _⟩
  · intro captures groups
    exact List.forall_mem_append.mpr ⟨List.forall_mem_append.mpr ⟨List.forall_mem_append.mpr
      ⟨standsIn_lookup groups, standsIn_lookup groups⟩, standsIn_inserted _⟩,
      standsIn_lookup groups⟩
  · exact fun _ _ => standsIn_inserted _
  · exact fun _ _ => standsIn_inserted _

end Standing

theorem standsIn_lineSources (index : Nat) (line : Flagged) :
    ∀ character ∈ lineSources tables configured index line,
      StandsIn index (scanned tables line.raw) character := by
  intro character member
  unfold lineSources at member
  split at member
  · exact standsIn_placed character (List.mem_of_mem_take member)
  · split at member
    · cases member
    · exact standsIn_redactSourced standsIn_placed character (List.mem_of_mem_take member)

/-- A character of the lines comes from the line of its place. -/
theorem mem_sourcedLines {index start : Nat} {lines : List Flagged} {character : Char}
    {place : Place} :
    (character, some place) ∈ sourcedLines tables configured index start lines ↔
      ∃ line, index ≤ place.line ∧ lines[place.line - index]? = some line ∧
        (character, some place) ∈ lineSources tables configured place.line line := by
  induction lines generalizing index start with
  | nil => simp [sourcedLines]
  | cons line rest ih =>
      have unplaced : ∀ text, (character, some place) ∉ inserted text := by
        intro text member
        obtain ⟨_, _, equal⟩ := List.mem_map.mp member
        cases equal
      rw [sourcedLines, List.mem_append, List.mem_append, or_iff_left (unplaced _), ih]
      constructor
      · rintro (here | ⟨other, after, listed, member⟩)
        · obtain ⟨same, _⟩ := standsIn_lineSources index line _ here place rfl
          exact ⟨line, same.ge, by rw [same, Nat.sub_self]; rfl, same ▸ here⟩
        · refine ⟨other, by omega, ?_, member⟩
          rw [show place.line - index = (place.line - (index + 1)) + 1 by omega]
          exact listed
      · rintro ⟨other, after, listed, member⟩
        by_cases same : place.line = index
        · rw [same, Nat.sub_self, List.getElem?_cons_zero, Option.some.injEq] at listed
          subst listed
          exact .inl (same ▸ member)
        · refine .inr ⟨other, by omega, ?_, member⟩
          rwa [show place.line - index = (place.line - (index + 1)) + 1 by omega,
            List.getElem?_cons_succ] at listed

theorem mem_sourcedText {raw : Bytes} {secretValues : List String} {character : Char}
    {place : Place} :
    (character, some place) ∈ sourcedText tables raw secretValues ↔
      ∃ line, (flag tables (keep raw).lines)[place.line]? = some line ∧
        (character, some place) ∈
          lineSources tables (configuredSecrets secretValues) place.line line := by
  have unplaced : (character, some place) ∉ inserted (closing raw).1 := by
    intro member
    obtain ⟨_, _, equal⟩ := List.mem_map.mp member
    cases equal
  rw [sourcedText, List.mem_append, or_iff_left unplaced, mem_sourcedLines]
  simp

/-- Characters with a place stand there in the kept text. -/
theorem sourcedText_stands {raw : Bytes} {secretValues : List String} {character : Char}
    {place : Place} (member : (character, some place) ∈ sourcedText tables raw secretValues) :
    ∃ line, (keep raw).lines[place.line]? = some line ∧
      (scanned tables line)[place.column]? = some character := by
  obtain ⟨line, here, inside⟩ := mem_sourcedText.mp member
  exact ⟨line.raw, (flag_getElem? here).1,
    (standsIn_lineSources place.line line _ inside place rfl).2⟩

end CrossPatch.Evidence.Sanitizer
