import CrossPatch.Export.RoundTrip

/-!
# What an archive holds

The order in which artifacts are given does not matter, and whoever verifies an archive that
was built reads the data of every artifact back from it.
-/

namespace CrossPatch.Export.Contents

open CrossPatch.Broker.Paths CrossPatch.Domain.Failure CrossPatch.Domain.Text
open CrossPatch.Export.Builder CrossPatch.Export.Layout CrossPatch.Export.Members
open CrossPatch.Export.RoundTrip CrossPatch.Export.StoredZip CrossPatch.Export.Verifier
open CrossPatch.Library CrossPatch.Library.Attempt CrossPatch.Library.Documents
open CrossPatch.Library.Octets
open CrossPatch.Library.JsonReader (Decoder)

variable {tables : PathTables} {decoder : Decoder} {binding : CaseBinding}

/-! ## The order of the artifacts -/

/-- Artifacts with different paths are put in one order. -/
theorem inPathOrder_perm {artifacts given : List ExportArtifact} (same : given.Perm artifacts)
    (distinct : ((artifacts.map (stagedOf binding)).map Staged.path).Nodup) :
    inPathOrder binding given = inPathOrder binding artifacts := by
  have total : Std.Total fun left right : Staged => left.path ≤ right.path :=
    ⟨fun left right => le_total left.path right.path⟩
  have transitive : IsTrans Staged fun left right => left.path ≤ right.path :=
    ⟨fun _ _ _ => le_trans⟩
  have staged := same.map (stagedOf binding)
  refine List.Perm.eq_of_pairwise (fun left right member other le ge => ?_)
    (List.pairwise_insertionSort _ _) (List.pairwise_insertionSort _ _)
    (((List.perm_insertionSort _ _).trans staged).trans (List.perm_insertionSort _ _).symm)
  refine List.inj_on_of_nodup_map distinct ?_ ?_ (le_antisymm le ge)
  · exact staged.mem_iff.mp ((List.perm_insertionSort _ _).mem_iff.mp member)
  · exact (List.perm_insertionSort _ _).mem_iff.mp other

theorem build_of_perm {signer : Signer} {writeZip : List (String × Bytes) → Bytes}
    {artifacts given : List ExportArtifact} {archive : Bytes} (same : given.Perm artifacts)
    (built : build tables decoder signer writeZip binding artifacts = .ok archive) :
    build tables decoder signer writeZip binding given = .ok archive := by
  obtain ⟨staged, done, packed⟩ := bind_eq_ok.mp built
  obtain ⟨rfl, publishable, distinct⟩ := stage_ok done List.nodup_nil
  rw [List.nil_append] at packed distinct
  have ordered := inPathOrder_perm same distinct
  have again : stage tables binding [] given = .ok (given.map (stagedOf binding)) := by
    refine stage_of_publishable (fun artifact member => ?_) ?_
    · exact publishable artifact (same.mem_iff.mp member)
    · exact (((same.map (stagedOf binding)).map Staged.path).nodup_iff).mpr distinct
  unfold inPathOrder at ordered
  rw [build, again, ok_bind, ordered]
  exact packed

/-- The archive does not depend on the order in which the artifacts are given. -/
theorem build_order (tables : PathTables) (decoder : Decoder) (signer : Signer)
    (writeZip : List (String × Bytes) → Bytes) (binding : CaseBinding)
    (artifacts given : List ExportArtifact) (same : given.Perm artifacts) :
    (build tables decoder signer writeZip binding given).toOption =
      (build tables decoder signer writeZip binding artifacts).toOption := by
  cases one : build tables decoder signer writeZip binding artifacts with
  | ok archive => rw [build_of_perm same one]
  | error _ =>
      cases other : build tables decoder signer writeZip binding given with
      | ok archive =>
          rw [build_of_perm same.symm other] at one
          cases one
      | error _ => rfl

/-- Two artifacts that are given the other way round give the same archive. -/
theorem build_order_sample :
    (build plainTables .plain sampleSigner packed sampleBinding
        [sampleArtifact "patch", sampleArtifact "log"]).toOption =
      some (sampleArchive ["log", "patch"]) := by
  have same := build_order plainTables .plain sampleSigner packed sampleBinding
    (sampleArtifacts ["log", "patch"]) [sampleArtifact "patch", sampleArtifact "log"]
    (.swap _ _ _)
  rw [same, sample_built logAndPatch_accepted]
  rfl

/-! ## What is read back -/

theorem validateDirectory_sizes {limits : VerificationLimits} {before infos : List ZipInfo}
    (validated : validateDirectory limits tables before infos = .ok ()) :
    ∀ info ∈ infos, info.fileSize ≤ limits.maxMemberBytes := by
  induction infos generalizing before with
  | nil => exact fun _ member => absurd member List.not_mem_nil
  | cons info rest ih =>
      obtain ⟨_, first, later⟩ := bind_eq_ok.mp validated
      refine List.forall_mem_cons.mpr ⟨?_, ih later⟩
      simp only [validateEntry, bind_eq_ok, require_eq_ok] at first
      obtain ⟨_, _, _, _, _, _, _, _, _, small, _⟩ := first
      exact small

/-- Whoever verifies what was built finds the artifacts and nothing else, each with its data. -/
theorem verified_contents (limits : VerificationLimits) (zip : ZipReader) (keys : Ed25519)
    (tables : PathTables) (decoder : Decoder) (signer : Signer)
    (writeZip : List (String × Bytes) → Bytes) (binding : CaseBinding)
    (artifacts : List ExportArtifact) (archive publicKey : Bytes) (result : VerificationResult)
    (packs : ∀ members, Storable members → writeZip members = archive → Packs zip archive members)
    (built : build tables decoder signer writeZip binding artifacts = .ok archive)
    (returned : verifyExport limits zip keys tables decoder archive publicKey = .ok result)
    (valid : result.valid = true) :
    ∃ infos, zip.infolist archive = .ok infos ∧
      (infos.map ZipInfo.filename).Perm
        (manifestName :: signatureName :: artifacts.map (memberPath binding)) ∧
      ∀ artifact ∈ artifacts,
        memberBytes limits zip archive infos (memberPath binding artifact) =
          some artifact.data := by
  obtain ⟨manifestBytes, done⟩ := build_ok built
  obtain ⟨holds, infos, gives, listed, pairs⟩ :=
    (packs _ (storable_exportMembers done.publishable) done.archive.symm).listed
  obtain ⟨manifest, rfl, verified⟩ := verifyExport_valid returned valid
  obtain ⟨_, found, _, _, _, _, _, opened, _⟩ := verifyBytes_ok verified
  obtain rfl : found = infos := by
    have again := opened.listed
    rw [listed, Except.ok.injEq] at again
    exact again.symm
  have names := (filenames_of_forall₂ pairs fun _ _ own => own.1.filename).trans
    (exportMembers_names _)
  have once : ((exportMembers signer manifestBytes
      (inPathOrder binding artifacts)).map Prod.fst).Nodup :=
    exportMembers_once names (validateDirectory_ok opened.directory List.nodup_nil).2
  refine ⟨found, listed, ?_, ?_⟩
  · rw [names]
    refine ((List.Perm.map Staged.path (List.perm_insertionSort _ _)).trans ?_).cons _ |>.cons _
    rw [List.map_map]
    exact .refl _
  · intro artifact member
    have packed : (stagedOf binding artifact).member ∈
        exportMembers signer manifestBytes (inPathOrder binding artifacts) :=
      List.mem_cons_of_mem _ (List.mem_cons_of_mem _
        (List.mem_map_of_mem (mem_inPathOrder.mpr ⟨artifact, member, rfl⟩)))
    obtain ⟨info, named, stored, stream, opens, full⟩ :=
      byName_of_forall₂ pairs (fun _ _ own => own.1.filename) once _ packed
    have small := validateDirectory_sizes opened.directory info (byName_mem named).1
    have data := readBounded_of_holds gives opens full stored.size (stored.size ▸ small)
    have located : byName found (memberPath binding artifact) = some info := named
    rw [memberBytes, located, Option.bind_some, data]
    rfl

/-- The archive of the two artifacts holds them. -/
theorem logAndPatch_contents : ∃ infos,
    storedReader.infolist (sampleArchive ["log", "patch"]) = .ok infos ∧
      (infos.map ZipInfo.filename).Perm (manifestName :: signatureName ::
        (sampleArtifacts ["log", "patch"]).map (memberPath sampleBinding)) ∧
      ∀ artifact ∈ sampleArtifacts ["log", "patch"],
        memberBytes .default storedReader (sampleArchive ["log", "patch"]) infos
          (memberPath sampleBinding artifact) = some artifact.data :=
  verified_contents .default storedReader sampleKeys plainTables .plain sampleSigner packed
    sampleBinding (sampleArtifacts ["log", "patch"]) (sampleArchive ["log", "patch"])
    sampleSigner.publicKey
    ⟨true, [], some (exportManifest sampleBinding (sampleArtifacts ["log", "patch"]))⟩
    (sample_packs logAndPatch_accepted) (sample_built logAndPatch_accepted)
    (by rw [verifyExport, logAndPatch_valid]) rfl

end CrossPatch.Export.Contents
