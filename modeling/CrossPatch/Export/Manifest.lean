import CrossPatch.Export.Members

/-!
# The manifest as it is read back

Its canonical bytes are parsed as the manifest in the order of its keys, and what the builder
puts into it passes the checks of the verifier.
-/

namespace CrossPatch.Export.Manifest

open CrossPatch.Broker.Paths CrossPatch.Domain.Hashing CrossPatch.Domain.Text
open CrossPatch.Export.Builder CrossPatch.Export.Members CrossPatch.Export.Verifier
open CrossPatch.Library CrossPatch.Library.Attempt CrossPatch.Library.Documents
open CrossPatch.Library.JsonReader (Decoder asciiSpell)
open CrossPatch.Library.JsonText CrossPatch.Library.Octets CrossPatch.Library.Sha256

variable {tables : PathTables}

/-! ## Objects as they are read back -/

/-- The members of an object that was written in the order of their keys. -/
def inOrder (members : List (String × Json)) : List (Text × Document) :=
  sortPairs (sortedMembers (ofMembers members))

section Fields

variable {members : List (String × Json)}

theorem field_inOrder (distinct : (members.map Prod.fst).Nodup) (name : String) :
    field (inOrder members) name = (members.lookup name).map fun value => (ofJson value).ordered := by
  rw [field, inOrder, lookup_ordered, lookup_ofMembers, Option.map_map]
  · rfl
  · rw [ofMembers_keys]
    exact distinct.map ofString_injective

theorem stringAt_inOrder (distinct : (members.map Prod.fst).Nodup) {name text : String}
    (found : members.lookup name = some (.str text)) :
    stringAt (inOrder members) name = some text := by
  rw [stringAt, textAt, field_inOrder distinct, found]
  exact plainText_ofString text

theorem textAt_inOrder (distinct : (members.map Prod.fst).Nodup) {name text : String}
    (found : members.lookup name = some (.str text)) :
    textAt (inOrder members) name = some (ofString text) := by
  rw [textAt, field_inOrder distinct, found]
  rfl

theorem intAt_inOrder (distinct : (members.map Prod.fst).Nodup) {name : String} {value : Int}
    (found : members.lookup name = some (.int value)) :
    intAt (inOrder members) name = some value := by
  rw [intAt, field_inOrder distinct, found]
  rfl

theorem hasKeys_inOrder (distinct : (members.map Prod.fst).Nodup) {names : List String}
    (same : ∀ name, name ∈ members.map Prod.fst ↔ name ∈ names) :
    hasKeys (inOrder members) names = true := by
  have keys : ((inOrder members).map Prod.fst).Perm ((members.map Prod.fst).map ofString) := by
    have sorted := (sortPairs_perm (sortedMembers (ofMembers members))).map Prod.fst
    rwa [sortedMembers_keys, ofMembers_keys] at sorted
  rw [hasKeys, Bool.and_eq_true, List.all_eq_true, List.all_eq_true]
  constructor
  · intro member inside
    have key := keys.mem_iff.mp (List.mem_map_of_mem (f := Prod.fst) inside)
    obtain ⟨name, listed, equal⟩ := List.mem_map.mp key
    rw [List.contains_iff_mem, ← equal]
    exact List.mem_map_of_mem ((same name).mp listed)
  · intro name listed
    rw [field_inOrder distinct, Option.isSome_map, List.lookup_isSome_iff]
    obtain ⟨member, inside, rfl⟩ := List.mem_map.mp ((same name).mpr listed)
    exact ⟨member, inside, beq_self_eq_true _⟩

end Fields

/-! ## The manifest -/

theorem digestAt_inOrder {members : List (String × Json)}
    (distinct : (members.map Prod.fst).Nodup) {name text : String}
    (found : members.lookup name = some (.str text)) (digest : isSha256 text = true) :
    digestAt (inOrder members) name = true := by
  rw [digestAt, stringAt_inOrder distinct found]
  exact digest

theorem countAt_inOrder {members : List (String × Json)}
    (distinct : (members.map Prod.fst).Nodup) {name : String} {count : Int}
    (found : members.lookup name = some (.int count)) (natural : 0 ≤ count) :
    countAt (inOrder members) name = true := by
  rw [countAt, intAt_inOrder distinct found]
  exact decide_eq_true natural

section Incident

variable (binding : CaseBinding)

theorem incidentMembers_nodup : ((incidentMembers binding).map Prod.fst).Nodup := by
  unfold incidentMembers proofMembers
  cases binding.proof <;> simp

theorem incidentMembers_keys (name : String) :
    name ∈ (incidentMembers binding).map Prod.fst ↔
      name ∈ incidentKeys ++ if binding.proof.isSome then proofKeys else [] := by
  unfold incidentMembers proofMembers incidentKeys proofKeys
  cases binding.proof <;> simp

theorem lookup_incidentMembers :
    (incidentMembers binding).lookup "id" = some (.str binding.incidentId) ∧
      (incidentMembers binding).lookup "base_sha" = some (.str binding.baseSha) ∧
      (incidentMembers binding).lookup "receipt_sha256" = some (.str binding.receiptSha256) ∧
      (incidentMembers binding).lookup "timeline_head" = some (.str binding.timelineHead) ∧
      (incidentMembers binding).lookup "verdict_sha256" = some (.str binding.verdictSha256) ∧
      (incidentMembers binding).lookup "warrant_sha256" = some (.str binding.warrantSha256) := by
  simp [incidentMembers, List.lookup_cons]

def countMembers (proof : ScenarioProof) : List (String × Json) :=
  [("receipts", .int proof.counts.1), ("jobs", .int proof.counts.2.1),
   ("deliveries", .int proof.counts.2.2)]

variable {binding} in
theorem lookup_proofMembers {proof : ScenarioProof} (proven : binding.proof = some proof) :
    (incidentMembers binding).lookup "counts" = some (.obj (countMembers proof)) ∧
      (incidentMembers binding).lookup "execution_status" = some (.str proof.executionStatus) ∧
      (incidentMembers binding).lookup "plan_id" = some (.str provenPlanId) ∧
      (incidentMembers binding).lookup "plan_sha256" = some (.str proof.planSha256) ∧
      (incidentMembers binding).lookup "response_statuses" =
        some (.arr (proof.responseStatuses.map .int)) ∧
      (incidentMembers binding).lookup "scenario" = some (.str provenScenario) ∧
      (incidentMembers binding).lookup "trusted_observation_sha256" =
        some (.str proof.trustedObservationSha256) := by
  rw [incidentMembers, proven]
  simp [proofMembers, countMembers, List.lookup_cons]

theorem all_isStatus {statuses : List Int} (bounds : ∀ status ∈ statuses, 100 ≤ status ∧ status ≤ 599) :
    (sortedItems (ofItems (statuses.map .int))).all isStatus = true := by
  rw [sortedItems_eq_map, ofItems_eq, List.map_map, List.map_map, List.all_eq_true]
  intro document member
  obtain ⟨status, listed, rfl⟩ := List.mem_map.mp member
  exact decide_eq_true (bounds status listed)

variable {binding} in
theorem validProof_inOrder {proof : ScenarioProof} (proven : binding.proof = some proof) :
    validProof (inOrder (incidentMembers binding)) = true := by
  have distinct := incidentMembers_nodup binding
  obtain ⟨counts, status, planId, planDigest, statuses, scenario, observed⟩ :=
    lookup_proofMembers proven
  have countsDistinct : ((countMembers proof).map Prod.fst).Nodup := by simp [countMembers]
  have length : (sortedItems (ofItems (proof.responseStatuses.map .int))).length =
      proof.responseStatuses.length := by
    rw [sortedItems_eq_map, ofItems_eq, List.length_map, List.length_map, List.length_map]
  have statusesField : field (inOrder (incidentMembers binding)) "response_statuses" =
      some (.arr (sortedItems (ofItems (proof.responseStatuses.map .int)))) := by
    rw [field_inOrder distinct, statuses]
    rfl
  have countsField : field (inOrder (incidentMembers binding)) "counts" =
      some (.obj (inOrder (countMembers proof))) := by
    rw [field_inOrder distinct, counts]
    rfl
  rw [validProof, statusesField, countsField]
  dsimp only
  simp only [Bool.and_eq_true, beq_iff_eq, decide_eq_true_eq]
  refine ⟨⟨⟨⟨⟨⟨⟨⟨⟨⟨?_, stringAt_inOrder distinct scenario⟩, stringAt_inOrder distinct planId⟩,
    digestAt_inOrder distinct planDigest proof.plan⟩, ?_⟩, ?_⟩, all_isStatus proof.responses.2.2⟩,
    countAt_inOrder countsDistinct (by simp [countMembers]) proof.counted.1⟩,
    countAt_inOrder countsDistinct (by simp [countMembers, List.lookup_cons]) proof.counted.2.1⟩,
    countAt_inOrder countsDistinct (by simp [countMembers, List.lookup_cons]) proof.counted.2.2⟩,
    digestAt_inOrder distinct observed proof.observed⟩
  · exact hasKeys_inOrder countsDistinct fun name => by simp [countMembers]
  · rw [stringAt_inOrder distinct status]
    exact List.contains_iff_mem.mpr proof.status
  · rw [length]
    exact ⟨proof.responses.1, proof.responses.2.1⟩

/-- What the builder binds is accepted as it is read back. -/
theorem validateIncident_inOrder :
    validateIncident (inOrder (incidentMembers binding)) = .ok binding.incidentId := by
  have distinct := incidentMembers_nodup binding
  obtain ⟨incidentId, base, receipt, timeline, verdict, warrant⟩ := lookup_incidentMembers binding
  obtain ⟨verdictDigest, warrantDigest, receiptDigest, timelineDigest⟩ := binding.digests
  have keyed : hasKeys (inOrder (incidentMembers binding)) incidentKeys = true ∨
      hasKeys (inOrder (incidentMembers binding)) (incidentKeys ++ proofKeys) = true := by
    have keys := incidentMembers_keys binding
    cases proven : binding.proof with
    | none =>
        refine .inl (hasKeys_inOrder distinct fun name => ?_)
        rw [keys, proven]
        exact List.mem_append.trans (or_iff_left List.not_mem_nil)
    | some proof =>
        refine .inr (hasKeys_inOrder distinct fun name => ?_)
        rw [keys, proven]
        rfl
  have digests : (["receipt_sha256", "timeline_head", "verdict_sha256", "warrant_sha256"].all
      fun name => digestAt (inOrder (incidentMembers binding)) name) = true := by
    simp only [List.all_cons, List.all_nil, Bool.and_true, Bool.and_eq_true]
    exact ⟨digestAt_inOrder distinct receipt receiptDigest,
      digestAt_inOrder distinct timeline timelineDigest,
      digestAt_inOrder distinct verdict verdictDigest,
      digestAt_inOrder distinct warrant warrantDigest⟩
  have proved : (proofKeys.all fun name =>
      (field (inOrder (incidentMembers binding)) name).isSome) = true →
      validProof (inOrder (incidentMembers binding)) = true := by
    intro whole
    cases proven : binding.proof with
    | none =>
        have counted := List.all_eq_true.mp whole "counts" (by decide)
        rw [field_inOrder distinct, incidentMembers, proven] at counted
        simp [proofMembers, List.lookup_cons] at counted
    | some proof => exact validProof_inOrder proven
  unfold validateIncident
  rw [require_true keyed, ok_bind, stringAt_inOrder distinct incidentId]
  dsimp only
  rw [require_true binding.incident, ok_bind, stringAt_inOrder distinct base,
    require_true (show (some binding.baseSha).any isGitSha = true from binding.base), ok_bind,
    require_true digests, ok_bind, require_true proved, ok_bind]

end Incident

/-! ## Files -/

def entryMembers (staged : Staged) : List (String × Json) :=
  [("incident_id", .str staged.artifact.incidentId), ("kind", .str staged.artifact.kind),
    ("path", .str staged.path), ("provenance", .str staged.artifact.provenance),
    ("sha256", .str (hexdigest staged.artifact.data)),
    ("size_bytes", .int staged.artifact.data.length)]

/-- The entry as it is read back. -/
def fileOf (staged : Staged) : FileEntry where
  path := staged.path
  kind := staged.artifact.kind
  provenance := ofString staged.artifact.provenance
  sha256 := hexdigest staged.artifact.data
  sizeBytes := staged.artifact.data.length

/-- The artifact was accepted and stands at its place, which is not the root itself. -/
structure Placed (tables : PathTables) (binding : CaseBinding) (staged : Staged) : Prop where
  publishable : Publishable tables binding staged.artifact
  path : staged.path = memberPath binding staged.artifact
  below : staged.artifact.path ≠ "."

section Files

variable {binding : CaseBinding} {staged : Staged}

theorem entryMembers_nodup : ((entryMembers staged).map Prod.fst).Nodup := by simp [entryMembers]

theorem lookup_entryMembers :
    (entryMembers staged).lookup "incident_id" = some (.str staged.artifact.incidentId) ∧
      (entryMembers staged).lookup "kind" = some (.str staged.artifact.kind) ∧
      (entryMembers staged).lookup "path" = some (.str staged.path) ∧
      (entryMembers staged).lookup "provenance" = some (.str staged.artifact.provenance) ∧
      (entryMembers staged).lookup "sha256" = some (.str (hexdigest staged.artifact.data)) ∧
      (entryMembers staged).lookup "size_bytes" = some (.int staged.artifact.data.length) := by
  simp [entryMembers, List.lookup_cons]

theorem Placed.safe (placed : Placed tables binding staged) : SafeName tables staged.path := by
  rw [placed.path]
  exact safeName_memberPath placed.publishable.path placed.below

theorem Placed.leads (placed : Placed tables binding staged) :
    startsWith staged.path.toList (incidentRoot binding.incidentId ++ "/") = true := by
  have whole : (incidentRoot binding.incidentId ++ "/" ++ staged.artifact.path).toList =
      (incidentRoot binding.incidentId ++ "/").toList ++ staged.artifact.path.toList :=
    String.toList_append
  rw [startsWith, List.isPrefixOf_iff_prefix, placed.path, memberPath, whole]
  exact List.prefix_append _ _

theorem Placed.published (placed : Placed tables binding staged) :
    ((pureParts staged.path.toList).drop 2).all (fun part => !startsRaw tables part) = true := by
  rw [placed.path, pureParts_memberPath, List.all_eq_true]
  intro part member
  rw [Bool.not_eq_true']
  exact placed.publishable.published part member

/-- What the builder lists is accepted as it is read back. -/
theorem validateFile_entry (placed : Placed tables binding staged) {previous : String}
    (later : previous < staged.path) :
    validateFile tables binding.incidentId previous (ofJson staged.entry).ordered =
      .ok (fileOf staged) := by
  have distinct : ((entryMembers staged).map Prod.fst).Nodup := entryMembers_nodup
  obtain ⟨incident, kind, path, provenance, digest, size⟩ := lookup_entryMembers
  have keyed : hasKeys (inOrder (entryMembers staged)) fileKeys = true :=
    hasKeys_inOrder distinct fun name => by simp [entryMembers, fileKeys]
  have bound : stringAt (inOrder (entryMembers staged)) "incident_id" = some binding.incidentId ∧
      startsWith staged.path.toList (incidentRoot binding.incidentId ++ "/") = true := by
    rw [stringAt_inOrder distinct incident, placed.publishable.incident]
    exact ⟨rfl, placed.leads⟩
  have allowed : allowedKind ((field (inOrder (entryMembers staged)) "kind").getD .null) =
      .ok (some staged.artifact.kind) := by
    rw [field_inOrder distinct, kind]
    change Except.ok ((plainText (ofString staged.artifact.kind)).filter _) = _
    rw [plainText_ofString, Option.filter_some,
      if_pos (List.contains_iff_mem.mpr placed.publishable.kind)]
  have provided : ofString staged.artifact.provenance ≠ [] := by
    intro empty
    rw [ofString, List.map_eq_nil_iff] at empty
    exact staged.artifact.bounded.1 (String.toList_inj.mp empty)
  change validateFile tables binding.incidentId previous (.obj (inOrder (entryMembers staged))) = _
  unfold validateFile
  dsimp only
  rw [require_true keyed, ok_bind, stringAt_inOrder distinct path]
  dsimp only
  rw [safeMemberName_eq_ok.mpr ⟨placed.safe, rfl⟩, ok_bind, require_true later, ok_bind,
    require_true bound, ok_bind, allowed, ok_bind]
  dsimp only
  rw [require_true placed.published, ok_bind, textAt_inOrder distinct provenance]
  dsimp only
  rw [require_true provided, ok_bind, stringAt_inOrder distinct digest]
  dsimp only
  rw [require_true (hexdigest_isSha256 _), ok_bind, intAt_inOrder distinct size]
  rfl

theorem validateFiles_entries {staged : List Staged} (placed : ∀ one ∈ staged, Placed tables binding one)
    {previous : String} (increasing : (previous :: staged.map Staged.path).Pairwise (· < ·)) :
    validateFiles tables binding.incidentId previous
      (sortedItems (ofItems (staged.map Staged.entry))) = .ok (staged.map fileOf) := by
  induction staged generalizing previous with
  | nil => rfl
  | cons first rest ih =>
      obtain ⟨own, others⟩ := List.forall_mem_cons.mp placed
      rw [List.map_cons] at increasing
      obtain ⟨after, increasing⟩ := List.pairwise_cons.mp increasing
      rw [List.map_cons, ofItems, sortedItems, validateFiles,
        validateFile_entry own (after _ List.mem_cons_self), ok_bind]
      change (validateFiles tables binding.incidentId first.path _ >>= _) = _
      rw [ih others increasing, ok_bind, List.map_cons]

end Files

/-! ## The manifest -/

mutual

theorem ordered_ofJson : (value : Json) → (ofJson value).ordered = ofJson (ordered value)
  | .null => rfl
  | .bool _ => rfl
  | .int _ => rfl
  | .float _ => rfl
  | .str _ => rfl
  | .arr items => by
      rw [ofJson, Document.ordered, sortedItems_ofItems items, ordered, ofJson]
  | .obj members => by
      have sorted : sortPairs (ofMembers (orderedMembers members)) =
          ofMembers (sortMembers (orderedMembers members)) := by
        rw [ofMembers_eq, ofMembers_eq, sortMembers, sortPairs]
        exact (List.map_insertionSort _ _ _ _ fun left _ right _ =>
          (codes_ofString_le left.1 right.1).symm).symm
      rw [ofJson, Document.ordered, sortedMembers_ofMembers members, sorted, ordered, ofJson]

theorem sortedItems_ofItems : (items : List Json) →
    sortedItems (ofItems items) = ofItems (orderedItems items)
  | [] => rfl
  | item :: rest => by
      rw [ofItems, sortedItems, ordered_ofJson item, sortedItems_ofItems rest, orderedItems, ofItems]

theorem sortedMembers_ofMembers : (members : List (String × Json)) →
    sortedMembers (ofMembers members) = ofMembers (orderedMembers members)
  | [] => rfl
  | (key, value) :: rest => by
      rw [ofMembers, sortedMembers, ordered_ofJson value, sortedMembers_ofMembers rest,
        orderedMembers, ofMembers]

end

theorem asciiSpell_ascii {character spelled : Char} (member : spelled ∈ asciiSpell character) :
    spelled.toNat < 128 := by
  have digits (unit : Nat) (own : spelled ∈ JsonReader.unicodeEscape unit) : spelled.toNat < 128 := by
    have fixed {nibble : Nat} : (hexDigit nibble).toNat < 128 :=
      isLowerHex_ascii (List.contains_iff_mem.mpr (hexDigit_mem nibble))
    rw [JsonReader.unicodeEscape] at own
    simp only [List.mem_cons, List.not_mem_nil, or_false] at own
    rcases own with rfl | rfl | rfl | rfl | rfl | rfl
    · decide
    · decide
    · exact fixed
    · exact fixed
    · exact fixed
    · exact fixed
  unfold asciiSpell at member
  dsimp only at member
  split at member
  · rw [List.mem_singleton.mp member]
    omega
  · split at member
    · exact digits _ member
    · rcases List.mem_append.mp member with high | low
      · exact digits _ high
      · exact digits _ low

theorem asciiText_ascii (value : Json) :
    ∀ character ∈ (ofJson value).asciiText, character.toNat < 128 := by
  intro character member
  rw [asciiText_ofJson, List.mem_flatMap] at member
  obtain ⟨_, _, spelled⟩ := member
  exact asciiSpell_ascii spelled

/-- ASCII text as bytes, and back. -/
theorem utf8_of_ascii {text : List Char} (ascii : ∀ character ∈ text, character.toNat < 128) :
    utf8 (String.ofList text) = text.map fun character => UInt8.ofNat character.toNat := by
  induction text with
  | nil => rfl
  | cons character rest ih =>
      obtain ⟨low, later⟩ := List.forall_mem_cons.mp ascii
      rw [JsonReader.utf8_cons, JsonReader.utf8EncodeChar_low low, ih later, List.map_cons,
        List.singleton_append]

theorem chars_of_ascii {text : List Char} (ascii : ∀ character ∈ text, character.toNat < 128) :
    (utf8 (String.ofList text)).map (fun byte => Char.ofNat byte.toNat) = text := by
  rw [utf8_of_ascii ascii, List.map_map]
  refine (List.map_congr_left fun character member => ?_).trans (List.map_id _)
  have low := ascii character member
  have small : character.toNat % 2 ^ 8 = character.toNat := Nat.mod_eq_of_lt (by omega)
  simp only [Function.comp_apply, UInt8.toNat_ofNat', small, Char.ofNat_toNat, id_eq]

theorem decodeAscii_utf8 {text : List Char} (ascii : ∀ character ∈ text, character.toNat < 128) :
    decodeAscii (utf8 (String.ofList text)) = some text := by
  have low : ((utf8 (String.ofList text)).all fun byte => decide (byte.toNat < 128)) = true := by
    rw [utf8_of_ascii ascii, List.all_map, List.all_eq_true]
    intro character member
    have small := ascii character member
    rw [Function.comp_apply, UInt8.toNat_ofNat', Nat.mod_eq_of_lt (by omega)]
    exact decide_eq_true small
  rw [decodeAscii, if_pos low, chars_of_ascii ascii]

theorem decodeSignature_encode {signature : Bytes} (size : signature.length = 64) :
    decodeSignature (utf8 (String.ofList (Base64.encode signature))) = .ok signature := by
  rw [decodeSignature, chars_of_ascii (Base64.encode_ascii signature), Base64.decode_encode]
  dsimp only
  rw [require_true size, ok_bind]

variable {decoder : Decoder}

/-- Canonical bytes of an object without repeated keys are parsed as that object. -/
theorem parseManifest_written {members : List (String × Json)} {bytes : Bytes}
    (written : canonicalJsonBytes decoder (ofJson (.obj members)) = .ok bytes)
    (once : (ofJson (.obj members)).repeats = false)
    (nested : (ofJson (.obj members)).calls ≤ 16) :
    parseManifest decoder bytes = .ok (inOrder members) := by
  have same := ordered_ofJson (.obj members)
  obtain ⟨_, printable, rfl⟩ : ∃ _ : Unit, (ofJson (.obj members)).printable decoder.maxDigits = true ∧
      utf8 (String.ofList (ofJson (.obj members)).ordered.asciiText) = bytes := by
    simpa only [canonicalJsonBytes, bind_eq_ok, require_eq_ok, Except.ok.injEq] using written
  have within : Within decoder decoder.maxDepth (ofJson (.obj members)).ordered := by
    refine within_of_printable _ _ ?_ ?_
    · rw [printable_ordered, printable]
    · rw [calls_ordered]
      exact nested.trans decoder.roomy.2
  have finished : read decoder (ofJson (.obj members)).ordered.asciiText =
      .ok (ofJson (.obj members)).ordered := by
    rw [same] at within ⊢
    exact read_asciiText (readable_of_within _ _ within)
  have ascii : ∀ character ∈ (ofJson (.obj members)).ordered.asciiText, character.toNat < 128 := by
    rw [same]
    exact asciiText_ascii _
  have again : canonicalJsonBytes decoder (.obj (inOrder members)) =
      .ok (utf8 (String.ofList (ofJson (.obj members)).ordered.asciiText)) := by
    change canonicalJsonBytes decoder (ofJson (.obj members)).ordered = _
    rw [canonicalJsonBytes, printable_ordered, require_true printable, ok_bind, ordered_ordered]
  unfold parseManifest
  rw [decodeAscii_utf8 ascii]
  dsimp only
  rw [finished]
  dsimp only
  rw [repeats_ordered, once, if_neg Bool.false_ne_true]
  change (canonicalJsonBytes decoder (.obj (inOrder members)) >>= _) = _
  rw [again, ok_bind, require_true rfl, ok_bind]
  rfl

theorem repeatsItems_ofItems (items : List Json) :
    repeatsItems (ofItems items) = items.any fun item => (ofJson item).repeats := by
  induction items with
  | nil => rfl
  | cons item rest ih => rw [ofItems, repeatsItems, ih, List.any_cons]

theorem repeatsMembers_ofMembers (members : List (String × Json)) :
    repeatsMembers (ofMembers members) = members.any fun member => (ofJson member.2).repeats := by
  induction members with
  | nil => rfl
  | cons member rest ih => rw [ofMembers, repeatsMembers, ih, List.any_cons]

/-- No key is repeated in a value whose parts repeat none. -/
theorem repeats_obj {members : List (String × Json)} (distinct : (members.map Prod.fst).Nodup)
    (parts : ∀ member ∈ members, (ofJson member.2).repeats = false) :
    (ofJson (.obj members)).repeats = false := by
  have keys : ((ofMembers members).map Prod.fst).Nodup := by
    rw [ofMembers_keys]
    exact distinct.map ofString_injective
  rw [ofJson, Document.repeats, decide_eq_false (not_not_intro keys), Bool.false_or,
    repeatsMembers_ofMembers, List.any_eq_false]
  exact fun member inside => Bool.eq_false_iff.mp (parts member inside)

theorem repeats_arr {items : List Json} (parts : ∀ item ∈ items, (ofJson item).repeats = false) :
    (ofJson (.arr items)).repeats = false := by
  rw [ofJson, Document.repeats, repeatsItems_ofItems, List.any_eq_false]
  exact fun item inside => Bool.eq_false_iff.mp (parts item inside)

theorem calls_obj {members : List (String × Json)} {bound : Nat}
    (parts : ∀ member ∈ members, (ofJson member.2).calls ≤ bound) :
    (ofJson (.obj members)).calls ≤ bound + 1 := by
  rw [ofJson, Document.calls, Nat.add_le_add_iff_right, memberCalls_le, ofMembers_eq]
  intro member inside
  obtain ⟨own, listed, rfl⟩ := List.mem_map.mp inside
  exact parts own listed

theorem calls_arr {items : List Json} {bound : Nat}
    (parts : ∀ item ∈ items, (ofJson item).calls ≤ bound) :
    (ofJson (.arr items)).calls ≤ bound + 1 := by
  rw [ofJson, Document.calls, Nat.add_le_add_iff_right]
  induction items with
  | nil => exact Nat.zero_le _
  | cons item rest ih =>
      obtain ⟨first, later⟩ := List.forall_mem_cons.mp parts
      rw [ofItems, itemCalls]
      exact max_le first (ih later)

/-- The parts of a manifest: no key is repeated, and nothing is nested deeply. -/
theorem entry_flat (staged : Staged) :
    (ofJson staged.entry).repeats = false ∧ (ofJson staged.entry).calls ≤ 2 := by
  change (ofJson (.obj (entryMembers staged))).repeats = false ∧
    (ofJson (.obj (entryMembers staged))).calls ≤ 1 + 1
  refine ⟨repeats_obj entryMembers_nodup ?_, calls_obj ?_⟩ <;>
    simp [entryMembers, ofJson, Document.repeats, Document.calls]

theorem incident_flat (binding : CaseBinding) :
    (ofJson (.obj (incidentMembers binding))).repeats = false ∧
      (ofJson (.obj (incidentMembers binding))).calls ≤ 3 := by
  have part : ∀ member ∈ incidentMembers binding,
      (ofJson member.2).repeats = false ∧ (ofJson member.2).calls ≤ 2 := by
    intro member inside
    have shallow (text : String) : (ofJson (.str text)).repeats = false ∧
        (ofJson (.str text)).calls ≤ 2 := ⟨rfl, Nat.le_succ 1⟩
    rw [incidentMembers, List.mem_append] at inside
    rcases inside with fixed | proven
    · simp only [List.mem_cons, List.not_mem_nil, or_false] at fixed
      rcases fixed with rfl | rfl | rfl | rfl | rfl | rfl <;> exact shallow _
    · cases own : binding.proof with
      | none =>
          rw [own] at proven
          cases proven
      | some proof =>
          rw [own] at proven
          simp only [proofMembers, List.mem_cons, List.not_mem_nil, or_false] at proven
          rcases proven with rfl | rfl | rfl | rfl | rfl | rfl | rfl
          · change (ofJson (.obj (countMembers proof))).repeats = false ∧
              (ofJson (.obj (countMembers proof))).calls ≤ 1 + 1
            refine ⟨repeats_obj (by simp [countMembers]) ?_, calls_obj ?_⟩ <;>
              simp [countMembers, ofJson, Document.repeats, Document.calls]
          · exact shallow _
          · exact shallow _
          · exact shallow _
          · refine ⟨repeats_arr ?_, @calls_arr _ 1 ?_⟩ <;>
              simp [ofJson, Document.repeats, Document.calls]
          · exact shallow _
          · exact shallow _
  exact ⟨repeats_obj (incidentMembers_nodup binding) fun member inside => (part member inside).1,
    calls_obj fun member inside => (part member inside).2⟩

def manifestMembers (binding : CaseBinding) (staged : List Staged) : List (String × Json) :=
  [("files", .arr (staged.map Staged.entry)), ("format", .str format),
    ("incident", .obj (incidentMembers binding))]

theorem manifest_flat (binding : CaseBinding) (staged : List Staged) :
    (ofJson (.obj (manifestMembers binding staged))).repeats = false ∧
      (ofJson (.obj (manifestMembers binding staged))).calls ≤ 16 := by
  have entries : ∀ entry ∈ staged.map Staged.entry,
      (ofJson entry).repeats = false ∧ (ofJson entry).calls ≤ 2 := by
    intro entry member
    obtain ⟨one, _, rfl⟩ := List.mem_map.mp member
    exact entry_flat one
  have part : ∀ member ∈ manifestMembers binding staged,
      (ofJson member.2).repeats = false ∧ (ofJson member.2).calls ≤ 3 := by
    intro member inside
    simp only [manifestMembers, List.mem_cons, List.not_mem_nil, or_false] at inside
    rcases inside with rfl | rfl | rfl
    · exact ⟨repeats_arr fun entry listed => (entries entry listed).1,
        calls_arr fun entry listed => (entries entry listed).2⟩
    · exact ⟨rfl, by decide⟩
    · exact incident_flat binding
  refine ⟨repeats_obj (by simp [manifestMembers]) fun member inside => (part member inside).1, ?_⟩
  exact (calls_obj fun member inside => (part member inside).2).trans (by decide)

theorem validateManifest_members {binding : CaseBinding} {staged : List Staged}
    (placed : ∀ one ∈ staged, Placed tables binding one)
    (increasing : (staged.map Staged.path).Pairwise (· < ·)) :
    validateManifest tables (inOrder (manifestMembers binding staged)) = .ok (staged.map fileOf) := by
  have distinct : ((manifestMembers binding staged).map Prod.fst).Nodup := by
    simp [manifestMembers]
  have keyed : hasKeys (inOrder (manifestMembers binding staged)) ["files", "format", "incident"] =
        true ∧ stringAt (inOrder (manifestMembers binding staged)) "format" = some format :=
    ⟨hasKeys_inOrder distinct fun name => by simp [manifestMembers],
      stringAt_inOrder distinct (by simp [manifestMembers, List.lookup_cons])⟩
  have incident : field (inOrder (manifestMembers binding staged)) "incident" =
      some (.obj (inOrder (incidentMembers binding))) := by
    rw [field_inOrder distinct]
    simp [manifestMembers, List.lookup_cons]
    rfl
  have files : field (inOrder (manifestMembers binding staged)) "files" =
      some (.arr (sortedItems (ofItems (staged.map Staged.entry)))) := by
    rw [field_inOrder distinct]
    rfl
  have named : ("" :: staged.map Staged.path).Pairwise (· < ·) := by
    refine List.pairwise_cons.mpr ⟨fun path member => ?_, increasing⟩
    obtain ⟨one, listed, rfl⟩ := List.mem_map.mp member
    obtain ⟨character, rest, spelled⟩ := List.exists_cons_of_ne_nil fun empty =>
      (placed one listed).safe.bounded.1 (String.toList_inj.mp (empty.trans rfl))
    rw [String.lt_iff_toList_lt, spelled]
    exact List.nil_lt_cons _ _
  unfold validateManifest
  rw [require_true keyed, ok_bind, incident]
  dsimp only
  rw [validateIncident_inOrder, ok_bind, files]
  exact validateFiles_entries placed named

/-! ## How long a manifest is -/

mutual

/-- A bound on what is written of a value, in whatever order its members stand. -/
def room : Json → Nat
  | .null => 5
  | .bool _ => 5
  | .int value => (intText value).length
  | .float value => value.text.length
  | .str text => 6 * text.length + 2
  | .arr items => roomItems items + 2
  | .obj members => roomMembers members + 2

def roomItems : List Json → Nat
  | [] => 0
  | item :: rest => room item + 1 + roomItems rest

def roomMembers : List (String × Json) → Nat
  | [] => 0
  | (key, value) :: rest => 6 * key.length + room value + 4 + roomMembers rest

end

theorem length_quote_le (text : String) : (quote text).length ≤ 6 * text.length + 2 := by
  have escaped (character : Char) : (escape character).length ≤ 6 := by
    unfold escape
    split
    · exact Nat.le_add_left 2 4
    · split
      · exact le_refl 6
      · exact Nat.le_add_left 1 5
  have body : ∀ characters : List Char,
      (quoteBody characters).length ≤ 6 * characters.length + 1 := by
    intro characters
    induction characters with
    | nil => exact le_refl 1
    | cons character rest ih =>
        have first := escaped character
        rw [quoteBody, List.length_append, List.length_cons]
        omega
  have whole := body text.toList
  rw [String.length_toList] at whole
  rw [quote, List.length_cons]
  omega

mutual

theorem length_write_le : (value : Json) → (write value).length ≤ room value
  | .null => Nat.le_succ 4
  | .bool true => Nat.le_succ 4
  | .bool false => le_refl 5
  | .int _ => le_refl _
  | .float _ => le_refl _
  | .str text => length_quote_le text
  | .arr [] => le_refl 2
  | .arr (item :: rest) => by
      have first := length_write_le item
      have others := length_writeItems_le rest
      rw [write, room, roomItems, List.cons_append, List.length_cons, List.length_append]
      omega
  | .obj [] => le_refl 2
  | .obj ((key, value) :: rest) => by
      have name := length_quote_le key
      have first := length_write_le value
      have others := length_writeMembers_le rest
      simp only [write, room, roomMembers, List.cons_append, List.append_assoc, List.length_cons,
        List.length_append]
      omega

theorem length_writeItems_le : (items : List Json) →
    (writeItems items).length ≤ roomItems items + 1
  | [] => le_refl 1
  | item :: rest => by
      have first := length_write_le item
      have others := length_writeItems_le rest
      rw [writeItems, roomItems, List.cons_append, List.length_cons, List.length_append]
      omega

theorem length_writeMembers_le : (members : List (String × Json)) →
    (writeMembers members).length ≤ roomMembers members + 1
  | [] => le_refl 1
  | (key, value) :: rest => by
      have name := length_quote_le key
      have first := length_write_le value
      have others := length_writeMembers_le rest
      simp only [writeMembers, roomMembers, List.cons_append, List.append_assoc, List.length_cons,
        List.length_append]
      omega

end

theorem roomMembers_eq_sum (members : List (String × Json)) :
    roomMembers members =
      (members.map fun member => 6 * member.1.length + room member.2 + 4).sum := by
  induction members with
  | nil => rfl
  | cons member rest ih => rw [roomMembers, ih, List.map_cons, List.sum_cons]

mutual

theorem room_ordered : (value : Json) → room (ordered value) = room value
  | .null => rfl
  | .bool _ => rfl
  | .int _ => rfl
  | .float _ => rfl
  | .str _ => rfl
  | .arr items => by rw [ordered, room, room, roomItems_ordered items]
  | .obj members => by
      rw [ordered, room, room, roomMembers_eq_sum,
        ((sortMembers_perm (orderedMembers members)).map _).sum_eq, ← roomMembers_eq_sum,
        roomMembers_ordered members]

theorem roomItems_ordered : (items : List Json) → roomItems (orderedItems items) = roomItems items
  | [] => rfl
  | item :: rest => by
      rw [orderedItems, roomItems, roomItems, room_ordered item, roomItems_ordered rest]

theorem roomMembers_ordered : (members : List (String × Json)) →
    roomMembers (orderedMembers members) = roomMembers members
  | [] => rfl
  | (key, value) :: rest => by
      rw [orderedMembers, roomMembers, roomMembers, room_ordered value, roomMembers_ordered rest]

end

/-- A text that is written in ASCII takes at most twelve times the room of its value. -/
theorem length_asciiText_le (value : Json) :
    (ofJson value).ordered.asciiText.length ≤ 12 * room value := by
  have spelled (character : Char) : (asciiSpell character).length ≤ 12 := by
    unfold asciiSpell
    dsimp only
    split
    · exact Nat.le_add_left 1 11
    · split
      · exact Nat.le_add_left 6 6
      · exact le_refl 12
  have respelled : ∀ text : List Char,
      (text.flatMap asciiSpell).length ≤ 12 * text.length := by
    intro text
    induction text with
    | nil => exact Nat.zero_le _
    | cons character rest ih =>
        have first := spelled character
        rw [List.flatMap_cons, List.length_append, List.length_cons]
        omega
  have text := respelled (write (ordered value))
  have whole := length_write_le (ordered value)
  rw [room_ordered] at whole
  rw [ordered_ofJson, asciiText_ofJson]
  omega

/-- The canonical bytes of a value take at most twelve times its room. -/
theorem length_canonical_le {decoder : Decoder} {value : Json} {bytes : Bytes}
    (written : canonicalJsonBytes decoder (ofJson value) = .ok bytes) :
    bytes.length ≤ 12 * room value := by
  obtain ⟨_, _, rfl⟩ : ∃ _ : Unit, (ofJson value).printable decoder.maxDigits = true ∧
      utf8 (String.ofList (ofJson value).ordered.asciiText) = bytes := by
    simpa only [canonicalJsonBytes, bind_eq_ok, require_eq_ok, Except.ok.injEq] using written
  have room := length_asciiText_le value
  rw [ordered_ofJson] at room ⊢
  rwa [utf8_of_ascii (asciiText_ascii _), List.length_map]

end CrossPatch.Export.Manifest
