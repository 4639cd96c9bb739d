import CrossPatch.Domain.Semantics
import CrossPatch.Library.Arrangement

/-!
# What a fingerprint sees

The material of an output is what its seat decides: the sets it names, up to letter
case, white space and compatibility form, and its plain fields.  The fingerprint is
compared with it, field by field.
-/

namespace CrossPatch.Domain.Semantics

open CrossPatch.Domain.Failure CrossPatch.Domain.Hashing CrossPatch.Domain.Seats
open CrossPatch.Domain.StateMachine CrossPatch.Domain.Text
open CrossPatch.Library CrossPatch.Library.Arrangement CrossPatch.Library.Attempt
open CrossPatch.Library.JsonText CrossPatch.Library.Octets CrossPatch.Library.Sha256

/-! ## Words -/

/-- The words of a text, as `str.split()` has them. -/
def words (text : List Char) : List (List Char) :=
  (text.splitOnP isSpace).filter fun word => !word.isEmpty

/-- Words that follow others. -/
def spaced (words : List (List Char)) : List Char := words.flatMap fun word => ' ' :: word

theorem join_words (first : List Char) (rest : List (List Char)) :
    Lines.join ' ' (first :: rest) = first ++ spaced rest := by
  induction rest generalizing first with
  | nil => simp [Lines.join, List.intercalate, spaced]
  | cons second others ih =>
      have step := ih second
      simp only [Lines.join, List.intercalate, List.intersperse, List.flatten_cons, spaced,
        List.flatMap_cons] at step ⊢
      rw [step]
      simp

theorem words_dropWhile (text : List Char) : words (text.dropWhile isSpace) = words text := by
  induction text with
  | nil => rfl
  | cons character rest ih =>
      by_cases space : isSpace character = true
      · rw [List.dropWhile_cons_of_pos space, ih]
        simp [words, List.splitOnP_cons_eq_if_modifyHead, space]
      · rw [List.dropWhile_cons_of_neg space]

theorem collapseSpaces_dropWhile (text : List Char) :
    (collapseSpaces text).dropWhile isSpace = collapseSpaces (text.dropWhile isSpace) := by
  have blank : isSpace ' ' = true := by decide
  induction text with
  | nil => rfl
  | cons character rest ih =>
      by_cases space : isSpace character = true
      · rw [List.dropWhile_cons_of_pos space, ← ih, collapseSpaces, if_pos space]
        split
        · rename_i others collapsed
          rw [collapsed]
        · rw [List.dropWhile_cons_of_pos blank]
      · rw [List.dropWhile_cons_of_neg space, collapseSpaces, if_neg space,
          List.dropWhile_cons_of_neg space]

theorem trimEnd_cons_eq (character : Char) (rest : List Char) :
    Lines.trimEnd isSpace (character :: rest) =
      if isSpace character = true ∧ Lines.trimEnd isSpace rest = [] then []
      else character :: Lines.trimEnd isSpace rest := by
  induction rest using List.reverseRecOn with
  | nil => simp [Lines.trimEnd, List.rdropWhile_singleton]
  | append_singleton rest last ih =>
      rw [← List.cons_append]
      by_cases ends : isSpace last = true
      · simp only [Lines.trimEnd, List.rdropWhile_concat_pos _ _ _ ends] at ih ⊢
        exact ih
      · simp [Lines.trimEnd, ends]

/-- White space is collapsed with what follows it. -/
theorem collapseSpaces_blank {character : Char} (blank : isSpace character = true)
    (rest : List Char) : collapseSpaces (character :: rest) =
      if rest.head?.any isSpace then collapseSpaces rest else ' ' :: collapseSpaces rest := by
  rw [collapseSpaces, if_pos blank]
  cases rest with
  | nil => rfl
  | cons next others =>
      by_cases space : isSpace next = true
      · have again : ∃ kept, collapseSpaces (next :: others) = ' ' :: kept := by
          rw [collapseSpaces, if_pos space]
          split
          · exact ⟨_, rfl⟩
          · exact ⟨_, rfl⟩
        obtain ⟨kept, collapsed⟩ := again
        simp [collapsed, space]
      · have other : next ≠ ' ' := by
          rintro rfl
          exact space (by decide)
        rw [collapseSpaces, if_neg space]
        simp [other, space]

/-- Collapsed and trimmed at its end, a text is its first piece and the words after it. -/
theorem trimEnd_collapseSpaces {text first : List Char} {others : List (List Char)}
    (pieces : text.splitOnP isSpace = first :: others) :
    Lines.trimEnd isSpace (collapseSpaces text) =
      first ++ spaced (others.filter fun word => !word.isEmpty) := by
  induction text generalizing first others with
  | nil =>
      cases pieces
      rfl
  | cons character rest ih =>
      cases later : rest.splitOnP isSpace with
      | nil => exact absurd later (List.splitOnP_ne_nil _ _)
      | cons next tail =>
          rw [List.splitOnP_cons_eq_if_modifyHead, later] at pieces
          have known := ih later
          by_cases space : isSpace character = true
          · rw [if_pos space, List.cons.injEq] at pieces
            obtain ⟨rfl, rfl⟩ := pieces
            rw [collapseSpaces_blank space, List.nil_append]
            cases rest with
            | nil =>
                cases later
                decide
            | cons following kept =>
                rw [List.splitOnP_cons_eq_if_modifyHead] at later
                by_cases again : isSpace following = true
                · rw [if_pos again, List.cons.injEq] at later
                  obtain ⟨rfl, rfl⟩ := later
                  simpa [again] using known
                · rw [if_neg again] at later
                  obtain ⟨word, rfl⟩ : ∃ word, next = following :: word := by
                    cases inner : kept.splitOnP isSpace with
                    | nil => exact absurd inner (List.splitOnP_ne_nil _ _)
                    | cons word _ =>
                        rw [inner, List.modifyHead_cons, List.cons.injEq] at later
                        exact ⟨word, later.1.symm⟩
                  simp [again, trimEnd_cons_eq, known, spaced]
          · rw [if_neg space, List.modifyHead_cons, List.cons.injEq] at pieces
            obtain ⟨rfl, rfl⟩ := pieces
            rw [collapseSpaces, if_neg space, trimEnd_cons_eq, if_neg (fun both => space both.1), known]
            rfl

/-- `" ".join(text.split())`. -/
theorem trim_collapseSpaces (text : List Char) :
    Lines.trim isSpace (collapseSpaces text) = Lines.join ' ' (words text) := by
  rw [Lines.trim, collapseSpaces_dropWhile, ← words_dropWhile]
  cases shown : text.dropWhile isSpace with
  | nil => decide
  | cons character rest =>
      have visible : ¬ isSpace character = true := by
        have first := List.head?_dropWhile_not isSpace text
        rw [shown] at first
        simpa using first
      cases later : rest.splitOnP isSpace with
      | nil => exact absurd later (List.splitOnP_ne_nil _ _)
      | cons next tail =>
          have pieces : (character :: rest).splitOnP isSpace = (character :: next) :: tail := by
            rw [List.splitOnP_cons_eq_if_modifyHead, if_neg visible, later, List.modifyHead_cons]
          rw [trimEnd_collapseSpaces pieces, words, pieces,
            List.filter_cons_of_pos (by simp), join_words]

/-! ## Objects -/

/-- Members under the same distinct keys are equal as soon as they are permuted. -/
theorem eq_of_perm_of_keys {left right : List (String × Json)}
    (keys : left.map Prod.fst = right.map Prod.fst) (distinct : (left.map Prod.fst).Nodup)
    (perm : left.Perm right) : left = right := by
  induction left generalizing right with
  | nil => exact perm.nil_eq
  | cons member rest ih =>
      cases right with
      | nil => cases keys
      | cons member' rest' =>
          rw [List.map_cons, List.map_cons, List.cons.injEq] at keys
          have there : member ∈ member' :: rest' := perm.mem_iff.mp List.mem_cons_self
          have distinct' : ((member' :: rest').map Prod.fst).Nodup := by
            rw [List.map_cons, ← keys.1, ← keys.2]
            exact distinct
          obtain rfl := List.inj_on_of_nodup_map distinct' there List.mem_cons_self keys.1
          rw [ih keys.2 (List.nodup_cons.mp distinct).2 perm.cons_inv]

theorem sortMembers_cancel (keys : List String) {left right : List (String × Json)}
    (named : left.map Prod.fst = keys) (named' : right.map Prod.fst = keys)
    (distinct : keys.Nodup) : sortMembers left = sortMembers right ↔ left = right := by
  constructor
  · intro same
    have perm := (sortMembers_perm left).symm.trans (same ▸ sortMembers_perm right)
    exact eq_of_perm_of_keys (named.trans named'.symm) (named ▸ distinct) perm
  · rintro rfl
    rfl

/-- An object under distinct ASCII keys is normalized member by member. -/
theorem normalize_obj_eq {tables : UnicodeTables} (keys : List String)
    {members normalized : List (String × Json)} (named : members.map Prod.fst = keys)
    (ascii : keys.all isAscii = true) (distinct : keys.Nodup)
    (values : List.Forall₂ (fun member read => read.1 = member.1 ∧
      normalize tables member.2 = .ok read.2) members normalized) :
    normalize tables (.obj members) = .ok (.obj (sortMembers normalized)) := by
  subst named
  suffices ∀ seen : List String, (∀ key ∈ seen, key ∉ members.map Prod.fst) →
      normalizeMembers tables seen members = .ok normalized by
    have whole := this [] fun _ impossible => absurd impossible List.not_mem_nil
    simp [Hashing.normalize, whole]
  induction values with
  | nil =>
      intro seen fresh
      rfl
  | @cons member read rest others first later ih =>
      intro seen fresh
      obtain ⟨key, value⟩ := member
      obtain ⟨key', value'⟩ := read
      obtain ⟨rfl, normalizes⟩ := first
      rw [List.map_cons, List.all_cons, Bool.and_eq_true] at ascii
      rw [List.map_cons, List.nodup_cons] at distinct
      have fixed := tables.nfc_ascii key' ascii.1
      have unseen : tables.nfc key' ∉ seen := by
        rw [fixed]
        exact fun inside => fresh key' inside List.mem_cons_self
      have remaining := ih ascii.2 distinct.2 (key' :: seen) (by
        intro other inside
        rcases List.mem_cons.mp inside with rfl | earlier
        · exact distinct.1
        · exact fun member => fresh other earlier (List.mem_cons_of_mem _ member))
      rw [normalizeMembers, require_true unseen]
      simp [fixed, normalizes, remaining]

theorem normalizeItems_eq {tables : UnicodeTables} {α : Type} {items : List α}
    {shown read : α → Json} (values : ∀ item, normalize tables (shown item) = .ok (read item)) :
    normalizeItems tables (items.map shown) = .ok (items.map read) := by
  induction items with
  | nil => rfl
  | cons item rest ih => simp [normalizeItems, values, ih]

/-! ## Material -/

section Material

variable (tables : SemanticTables)

/-- The words of a text in compatibility form, without their case. -/
def foldText (text : String) : String :=
  tables.casefold (String.ofList (Lines.join ' ' (words (tables.nfkc text).toList)))

theorem semanticText_eq (text : String) : semanticText tables text = foldText tables text := by
  rw [semanticText, trim_collapseSpaces, foldText]

/-- A set-valued field: what its elements are hashed as, and when they are the same. -/
structure SetField (α φ : Type) where
  semantic : α → Json
  form : α → φ
  shown : φ → Json
  shown_injective : Function.Injective shown
  normalizes : ∀ value,
    normalize tables.toUnicodeTables (semantic value) = .ok (shown (form value))
  determined : ∀ one two, sortKey (semantic one) = sortKey (semantic two) → form one = form two

theorem ordered_of_sortKey {one two : Json} (same : sortKey one = sortKey two) :
    ordered one = ordered two := encode_injective same

/-- Texts are the same up to case, white space and compatibility form. -/
def textForm (text : String) : String := tables.nfc (foldText tables text)

def textField : SetField tables String String where
  semantic text := .str (semanticText tables text)
  form := textForm tables
  shown := .str
  shown_injective _ _ := Json.str.inj
  normalizes text := by rw [normalize_str, textForm, semanticText_eq]
  determined one two same := by
    have texts := Json.str.inj (ordered_of_sortKey same)
    rw [textForm, textForm, ← semanticText_eq, ← semanticText_eq, texts]

theorem normalize_textForm (text : String) :
    normalize tables.toUnicodeTables (.str (semanticText tables text)) =
      .ok (.str (textForm tables text)) := by
  rw [normalize_str, textForm, semanticText_eq]

def intentionKeys : List String := ["catalog_id", "purpose"]

def intentionField : SetField tables TestIntention (String × String) where
  semantic := semanticIntention tables
  form intention := (textForm tables intention.catalogId, textForm tables intention.purpose)
  shown form := .obj (sortMembers [("catalog_id", .str form.1), ("purpose", .str form.2)])
  shown_injective := by
    rintro ⟨catalogId, purpose⟩ ⟨catalogId', purpose'⟩ same
    have members := (sortMembers_cancel intentionKeys rfl rfl (by decide)).mp (Json.obj.inj same)
    simpa using members
  normalizes intention :=
    normalize_obj_eq intentionKeys rfl (by decide) (by decide)
      (.cons ⟨rfl, normalize_textForm tables _⟩ (.cons ⟨rfl, normalize_textForm tables _⟩ .nil))
  determined one two same := by
    have members := (sortMembers_cancel intentionKeys rfl rfl (by decide)).mp
      (Json.obj.inj (ordered_of_sortKey same))
    simp only [orderedMembers, ordered, List.cons.injEq, Prod.mk.injEq, Json.str.injEq, true_and,
      and_true, semanticText_eq] at members
    rw [textForm, textForm, textForm, textForm, members.1, members.2]

def changeKeys : List String := ["code", "target"]

/-- A code is folded twice. -/
def changeField : SetField tables RequiredChange (String × Option String) where
  semantic := semanticChange tables
  form change := (textForm tables (foldText tables change.code),
    change.target.map fun seat => textForm tables seat.value)
  shown form := .obj (sortMembers [("code", .str form.1), ("target", form.2.elim .null .str)])
  shown_injective := by
    rintro ⟨code, target⟩ ⟨code', target'⟩ same
    have members := (sortMembers_cancel changeKeys rfl rfl (by decide)).mp (Json.obj.inj same)
    cases target with
    | none =>
        cases target' with
        | none => simpa using members
        | some _ => simp at members
    | some _ =>
        cases target' with
        | none => simp at members
        | some _ => simpa using members
  normalizes change := by
    refine normalize_obj_eq changeKeys rfl (by decide) (by decide)
      (.cons ⟨rfl, ?_⟩ (.cons ⟨rfl, ?_⟩ .nil))
    · rw [normalize_textForm, semanticText_eq]
    · cases change.target with
      | none => rfl
      | some seat => exact normalize_textForm tables seat.value
  determined one two same := by
    have members := (sortMembers_cancel changeKeys rfl rfl (by decide)).mp
      (Json.obj.inj (ordered_of_sortKey same))
    simp only [orderedMembers, ordered, List.cons.injEq, Prod.mk.injEq, Json.str.injEq, true_and,
      and_true, semanticText_eq] at members
    obtain ⟨codes, targets⟩ := members
    rw [Prod.mk.injEq, textForm, textForm, codes]
    refine ⟨rfl, ?_⟩
    cases target : one.target with
    | none =>
        cases target' : two.target with
        | none => rfl
        | some _ => simp [target, target', semanticSeat, ordered] at targets
    | some _ =>
        cases target' : two.target with
        | none => simp [target, target', semanticSeat, ordered] at targets
        | some _ =>
            simp only [target, target', semanticSeat, ordered, Json.str.injEq,
              semanticText_eq] at targets
            rw [Option.map_some, Option.map_some, textForm, textForm, targets]

end Material

/-! ## Set-valued fields -/

namespace SetField

variable {tables : SemanticTables} {α φ : Type} (field : SetField tables α φ)

def key (value : α) : Bytes := sortKey (field.semantic value)

/-- The elements of the two lists are the same, whatever their order and repetition. -/
def SameSet (left right : List α) : Prop :=
  ∀ form, form ∈ left.map field.form ↔ form ∈ right.map field.form

/-- The elements pair off: each is repeated as often, and no two pairs cross in sorting order. -/
def Aligned (left right : List α) : Prop :=
  ∃ pairs, PairsOff field.key field.form left right pairs

/-- The field in canonical form. -/
def canonical (values : List α) : Json :=
  .arr ((arrange field.key values).map fun value => field.shown (field.form value))

theorem SameSet.refl (values : List α) : field.SameSet values values := fun _ => Iff.rfl

variable {field}

theorem Aligned.sameSet {left right : List α} (aligned : field.Aligned left right) :
    field.SameSet left right := by
  obtain ⟨pairs, pairsOff⟩ := aligned
  exact fun form => pairsOff.forms_perm.mem_iff

theorem canonical_eq_iff {left right : List α} :
    field.canonical left = field.canonical right ↔ field.Aligned left right := by
  have determined : ∀ one two, field.key one = field.key two → field.form one = field.form two :=
    field.determined
  have shown : ∀ values : List α, (values.map fun value => field.shown (field.form value)) =
      (values.map field.form).map field.shown := fun values => (List.map_map ..).symm
  rw [canonical, canonical, Json.arr.injEq, shown, shown, Aligned,
    ← arrange_forms_eq_iff determined]
  exact (List.map_injective_iff.mpr field.shown_injective).eq_iff

theorem normalize_set (values : List α) :
    normalize tables.toUnicodeTables (.arr (semanticSort (values.map field.semantic))) =
      .ok (field.canonical values) := by
  have sorted : semanticSort (values.map field.semantic) =
      (arrange field.key values).map field.semantic := arrange_map sortKey field.semantic values
  rw [sorted, Hashing.normalize, normalizeItems_eq field.normalizes]
  rfl

end SetField

/-! ## Outputs -/

section Outputs

variable (tables : SemanticTables)

/-- The outputs of a seat have the same material, prose apart. -/
def SameMaterial : SeatOutput → SeatOutput → Prop
  | .inspector left, .inspector right =>
      left.mechanism = right.mechanism ∧
        (textField tables).SameSet left.evidenceIds right.evidenceIds ∧
        (textField tables).SameSet left.falsifiers right.falsifiers
  | .prosecutor left, .prosecutor right =>
      left.rivalMechanism = right.rivalMechanism ∧
        (textField tables).SameSet left.counterexampleIds right.counterexampleIds ∧
        (textField tables).SameSet left.testIds right.testIds
  | .counsel left, .counsel right =>
      tables.nfc (normalizeDiff left.normalizedDiff) =
          tables.nfc (normalizeDiff right.normalizedDiff) ∧
        (intentionField tables).SameSet left.testIntentions right.testIntentions
  | .magistrate left, .magistrate right =>
      left.verdict = right.verdict ∧
        (textField tables).SameSet left.findingCodes right.findingCodes ∧
        (changeField tables).SameSet left.requiredChanges right.requiredChanges ∧
        left.remandTarget = right.remandTarget
  | .bailiff left, .bailiff right => tables.nfc left.warrantId = tables.nfc right.warrantId
  | _, _ => False

/-- The set-valued fields of two outputs of a seat are aligned. -/
def Aligned : SeatOutput → SeatOutput → Prop
  | .inspector left, .inspector right =>
      (textField tables).Aligned left.evidenceIds right.evidenceIds ∧
        (textField tables).Aligned left.falsifiers right.falsifiers
  | .prosecutor left, .prosecutor right =>
      (textField tables).Aligned left.counterexampleIds right.counterexampleIds ∧
        (textField tables).Aligned left.testIds right.testIds
  | .counsel left, .counsel right =>
      (intentionField tables).Aligned left.testIntentions right.testIntentions
  | .magistrate left, .magistrate right =>
      (textField tables).Aligned left.findingCodes right.findingCodes ∧
        (changeField tables).Aligned left.requiredChanges right.requiredChanges
  | .bailiff _, .bailiff _ => True
  | _, _ => False

/-- The payload in canonical form, its members not yet sorted. -/
def canonicalMembers : SeatOutput → List (String × Json)
  | .inspector output =>
      [("mechanism", .str output.mechanism.value),
       ("evidence_ids", (textField tables).canonical output.evidenceIds),
       ("falsifiers", (textField tables).canonical output.falsifiers)]
  | .prosecutor output =>
      let material :=
        [("counterexample_ids", (textField tables).canonical output.counterexampleIds),
         ("test_ids", (textField tables).canonical output.testIds)]
      match output.rivalMechanism with
      | some mechanism =>
          ("outcome", .str "SUPPORTED_RIVAL") :: material ++
            [("rival_mechanism", .str mechanism.value)]
      | none => ("outcome", .str "NO_SUPPORTED_RIVAL") :: material
  | .counsel output =>
      [("normalized_diff", .str (tables.nfc (normalizeDiff output.normalizedDiff))),
       ("test_intentions", (intentionField tables).canonical output.testIntentions)]
  | .magistrate output =>
      [("verdict", .str output.verdict.value),
       ("finding_codes", (textField tables).canonical output.findingCodes),
       ("required_changes", (changeField tables).canonical output.requiredChanges),
       ("remand_target", seatJson output.remandTarget)]
  | .bailiff output => [("warrant_id", .str (tables.nfc output.warrantId))]

end Outputs

theorem MechanismCode.value_injective : Function.Injective MechanismCode.value := by
  intro left right same
  cases left <;> cases right <;> first | rfl | exact absurd same (by decide)

theorem Verdict.value_injective : Function.Injective Verdict.value := by
  intro left right same
  cases left <;> cases right <;> first | rfl | exact absurd same (by decide)

theorem seatJson_injective : Function.Injective seatJson := by
  intro left right same
  rcases left with _ | left
  · rcases right with _ | right
    · rfl
    · cases same
  · rcases right with _ | right
    · cases same
    · have values := Json.str.inj same
      cases left <;> cases right <;> first | rfl | exact absurd values (by decide)

section Canonical

variable {tables : SemanticTables}

theorem normalize_ascii {text : String} (ascii : isAscii text = true) :
    normalize tables.toUnicodeTables (.str text) = .ok (.str text) := by
  rw [normalize_str, tables.nfc_ascii text ascii]

theorem mechanism_ascii (mechanism : MechanismCode) : isAscii mechanism.value = true := by
  cases mechanism <;> decide

theorem normalize_payload (output : SeatOutput) :
    normalize tables.toUnicodeTables (semanticPayload tables output) =
      .ok (.obj (sortMembers (canonicalMembers tables output))) := by
  have texts : ∀ values, normalize tables.toUnicodeTables (semanticTexts tables values) =
      .ok ((textField tables).canonical values) := (textField tables).normalize_set
  cases output with
  | inspector output =>
      exact normalize_obj_eq ["mechanism", "evidence_ids", "falsifiers"] rfl (by decide)
        (by decide) (.cons ⟨rfl, normalize_ascii (mechanism_ascii _)⟩
          (.cons ⟨rfl, texts _⟩ (.cons ⟨rfl, texts _⟩ .nil)))
  | prosecutor output =>
      rw [semanticPayload, canonicalMembers]
      cases output.rivalMechanism with
      | some mechanism =>
          exact normalize_obj_eq ["outcome", "counterexample_ids", "test_ids", "rival_mechanism"]
            rfl (by decide) (by decide) (.cons ⟨rfl, normalize_ascii (by decide)⟩
              (.cons ⟨rfl, texts _⟩ (.cons ⟨rfl, texts _⟩
                (.cons ⟨rfl, normalize_ascii (mechanism_ascii _)⟩ .nil))))
      | none =>
          exact normalize_obj_eq ["outcome", "counterexample_ids", "test_ids"] rfl (by decide)
            (by decide) (.cons ⟨rfl, normalize_ascii (by decide)⟩
              (.cons ⟨rfl, texts _⟩ (.cons ⟨rfl, texts _⟩ .nil)))
  | counsel output =>
      exact normalize_obj_eq ["normalized_diff", "test_intentions"] rfl (by decide) (by decide)
        (.cons ⟨rfl, rfl⟩ (.cons ⟨rfl, (intentionField tables).normalize_set _⟩ .nil))
  | magistrate output =>
      refine normalize_obj_eq ["verdict", "finding_codes", "required_changes", "remand_target"]
        rfl (by decide) (by decide) (.cons ⟨rfl, normalize_ascii ?_⟩ (.cons ⟨rfl, texts _⟩
          (.cons ⟨rfl, (changeField tables).normalize_set _⟩ (.cons ⟨rfl, ?_⟩ .nil))))
      · cases output.verdict <;> decide
      · cases output.remandTarget with
        | none => rfl
        | some seat => exact normalize_ascii (by cases seat <;> decide)
  | bailiff output =>
      exact normalize_obj_eq ["warrant_id"] rfl (by decide) (by decide) (.cons ⟨rfl, rfl⟩ .nil)

theorem rival_iff {left right : ProsecutorOutput} :
    sortMembers (canonicalMembers tables (.prosecutor left)) =
        sortMembers (canonicalMembers tables (.prosecutor right)) ↔
      left.rivalMechanism = right.rivalMechanism ∧
        (textField tables).Aligned left.counterexampleIds right.counterexampleIds ∧
        (textField tables).Aligned left.testIds right.testIds := by
  rw [canonicalMembers, canonicalMembers]
  have lengths : ∀ one two : List (String × Json), sortMembers one = sortMembers two →
      one.length = two.length := fun one two same => by
    rw [← (sortMembers_perm one).length_eq, same, (sortMembers_perm two).length_eq]
  cases left.rivalMechanism with
  | none =>
      cases right.rivalMechanism with
      | none =>
          rw [sortMembers_cancel ["outcome", "counterexample_ids", "test_ids"] rfl rfl (by decide)]
          simp [SetField.canonical_eq_iff]
      | some mechanism =>
          exact iff_of_false (fun same => absurd (lengths _ _ same) (by simp)) (by simp)
  | some mechanism =>
      cases right.rivalMechanism with
      | none => exact iff_of_false (fun same => absurd (lengths _ _ same) (by simp)) (by simp)
      | some other =>
          rw [sortMembers_cancel ["outcome", "counterexample_ids", "test_ids", "rival_mechanism"]
            rfl rfl (by decide)]
          simp only [List.cons_append, List.nil_append, List.cons.injEq, Prod.mk.injEq,
            Json.str.injEq, true_and, and_true, SetField.canonical_eq_iff,
            MechanismCode.value_injective.eq_iff, Option.some.injEq]
          constructor
          · rintro ⟨counterexamples, tests, mechanism⟩
            exact ⟨mechanism, counterexamples, tests⟩
          · rintro ⟨mechanism, counterexamples, tests⟩
            exact ⟨counterexamples, tests, mechanism⟩

/-- Canonical payloads of a seat are equal exactly when the material is the same and aligned. -/
theorem canonicalMembers_eq_iff {left right : SeatOutput} (seat : left.seat = right.seat) :
    sortMembers (canonicalMembers tables left) = sortMembers (canonicalMembers tables right) ↔
      SameMaterial tables left right ∧ Aligned tables left right := by
  cases left with
  | inspector left =>
      cases right with
      | inspector right =>
          rw [canonicalMembers, canonicalMembers,
            sortMembers_cancel ["mechanism", "evidence_ids", "falsifiers"] rfl rfl (by decide)]
          simp only [List.cons.injEq, Prod.mk.injEq, Json.str.injEq, true_and, and_true,
            SetField.canonical_eq_iff, MechanismCode.value_injective.eq_iff]
          constructor
          · rintro ⟨mechanism, evidenceIds, falsifiers⟩
            exact ⟨⟨mechanism, evidenceIds.sameSet, falsifiers.sameSet⟩, evidenceIds, falsifiers⟩
          · rintro ⟨⟨mechanism, _⟩, aligned⟩
            exact ⟨mechanism, aligned⟩
      | _ => cases seat
  | prosecutor left =>
      cases right with
      | prosecutor right =>
          rw [rival_iff]
          constructor
          · rintro ⟨mechanism, counterexamples, tests⟩
            exact ⟨⟨mechanism, counterexamples.sameSet, tests.sameSet⟩, counterexamples, tests⟩
          · rintro ⟨⟨mechanism, _⟩, aligned⟩
            exact ⟨mechanism, aligned⟩
      | _ => cases seat
  | counsel left =>
      cases right with
      | counsel right =>
          rw [canonicalMembers, canonicalMembers,
            sortMembers_cancel ["normalized_diff", "test_intentions"] rfl rfl (by decide)]
          simp only [List.cons.injEq, Prod.mk.injEq, Json.str.injEq, true_and, and_true,
            SetField.canonical_eq_iff]
          constructor
          · rintro ⟨diff, intentions⟩
            exact ⟨⟨diff, intentions.sameSet⟩, intentions⟩
          · rintro ⟨⟨diff, _⟩, aligned⟩
            exact ⟨diff, aligned⟩
      | _ => cases seat
  | magistrate left =>
      cases right with
      | magistrate right =>
          rw [canonicalMembers, canonicalMembers, sortMembers_cancel
            ["verdict", "finding_codes", "required_changes", "remand_target"] rfl rfl (by decide)]
          simp only [List.cons.injEq, Prod.mk.injEq, Json.str.injEq, true_and, and_true,
            SetField.canonical_eq_iff, Verdict.value_injective.eq_iff, seatJson_injective.eq_iff]
          constructor
          · rintro ⟨verdict, codes, changes, target⟩
            exact ⟨⟨verdict, codes.sameSet, changes.sameSet, target⟩, codes, changes⟩
          · rintro ⟨⟨verdict, _, _, target⟩, codes, changes⟩
            exact ⟨verdict, codes, changes, target⟩
      | _ => cases seat
  | bailiff left =>
      cases right with
      | bailiff right =>
          rw [canonicalMembers, canonicalMembers,
            sortMembers_cancel ["warrant_id"] rfl rfl (by decide)]
          simp [SameMaterial, Aligned]
      | _ => cases seat

/-! ## Fingerprints -/

variable (tables) in
/-- The bytes whose digest is the fingerprint of an output. -/
def payloadBytes (output : SeatOutput) : Bytes :=
  encode (.obj (sortMembers (canonicalMembers tables output)))

theorem semanticFingerprint_eq (output : SeatOutput) :
    semanticFingerprint tables output = .ok (hexdigest (payloadBytes tables output)) := by
  simp [semanticFingerprint, sha256Hex, canonicalJson_ok (normalize_payload output), payloadBytes]

theorem payloadBytes_eq_iff {left right : SeatOutput} (seat : left.seat = right.seat) :
    payloadBytes tables left = payloadBytes tables right ↔
      SameMaterial tables left right ∧ Aligned tables left right := by
  rw [← canonicalMembers_eq_iff seat]
  constructor
  · exact fun same => Json.obj.inj (encode_injective same)
  · intro same
    rw [payloadBytes, payloadBytes, same]

/-- Short of a collision, outputs of a seat have one fingerprint exactly when their material is
the same and aligned. -/
theorem fingerprint_eq_iff {left right : SeatOutput} (seat : left.seat = right.seat)
    (free : CollisionFree [payloadBytes tables left, payloadBytes tables right]) :
    semanticFingerprint tables left = semanticFingerprint tables right ↔
      SameMaterial tables left right ∧ Aligned tables left right := by
  rw [semanticFingerprint_eq, semanticFingerprint_eq, Except.ok.injEq, ← payloadBytes_eq_iff seat]
  constructor
  · exact free.hexdigest List.mem_cons_self (List.mem_cons_of_mem _ List.mem_cons_self)
  · intro same
    rw [same]

end Canonical

end CrossPatch.Domain.Semantics
