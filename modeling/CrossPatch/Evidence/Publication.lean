import CrossPatch.Evidence.Artifacts

/-!
# Published artifacts

What a reading of a published file learns, and what a writer leaves alone: the files that
are published and the drafts of the other writers.
-/

namespace CrossPatch.Evidence.Publication

open CrossPatch.Domain.Failure CrossPatch.Evidence.Artifacts
open CrossPatch.Library CrossPatch.Library.Attempt CrossPatch.Library.Octets
open CrossPatch.Library.Runs CrossPatch.Library.Sha256

variable {roots : Roots} {files : Files} {space : Space} {digest : String} {inode : Nat}
  {value : Bytes}

/-! ## Published files and drafts -/

structure Published (files : Files) (space : Space) (digest : String) (inode : Nat)
    (value : Bytes) : Prop where
  found : files.find (.blob space digest) = some inode
  content : files.content inode = value
  mode : files.mode inode = fileMode

/-- A file that only its writer knows. -/
structure Draft (files : Files) (temporary : Name) (inode : Nat) (content : Bytes) : Prop where
  found : files.find temporary = some inode
  content : files.content inode = content
  alone : ∀ name, files.find name = some inode → name = temporary

/-- No temporary name stands for the published file. -/
def Unlinked (files : Files) (space : Space) (digest : String) : Prop :=
  ∀ inode, files.find (.blob space digest) = some inode →
    ∀ space' digest' job, files.find (.temporary space' digest' job) ≠ some inode

/-- What holds of the files while jobs with the known values work on them. -/
structure Tidy (known : List Bytes) (jobs : Nat) (files : Files) : Prop where
  named : ∀ name inode, files.find name = some inode →
    inode < files.files.length ∧ files.mode inode = fileMode
  temporaries : ∀ space digest job inode,
    files.find (.temporary space digest job) = some inode → job < jobs
  blobs : ∀ space digest inode, files.find (.blob space digest) = some inode →
    files.content inode ∈ known ∧ hexdigest (files.content inode) = digest
  separate : ∀ space digest space' digest' inode, files.find (.blob space digest) = some inode →
    files.find (.blob space' digest') = some inode → space = space' ∧ digest = digest'

theorem tidy_empty (known : List Bytes) : Tidy known 0 Disk.empty where
  named _ _ found := by cases found
  temporaries _ _ _ _ found := by cases found
  blobs _ _ _ found := by cases found
  separate _ _ _ _ _ found := by cases found

theorem Tidy.published {known : List Bytes} {jobs : Nat} (tidy : Tidy known jobs files)
    (free : CollisionFree known) (listed : value ∈ known)
    (found : files.find (.blob space (hexdigest value)) = some inode) :
    Published files space (hexdigest value) inode value := by
  obtain ⟨member, same⟩ := tidy.blobs space _ inode found
  exact ⟨found, free.hexdigest member listed same, (tidy.named _ inode found).2⟩

/-- A published file has a single link exactly when no temporary name stands for it. -/
theorem Tidy.links_eq_one {known : List Bytes} {jobs : Nat} (tidy : Tidy known jobs files)
    (found : files.find (.blob space digest) = some inode) :
    files.links inode = 1 ↔ Unlinked files space digest := by
  rw [Disk.links_eq_one_iff found]
  constructor
  · intro alone other found' space' digest' job named
    rw [found, Option.some.injEq] at found'
    subst found'
    cases alone _ named
  · intro unlinked other named
    cases other with
    | blob space' digest' =>
        obtain ⟨rfl, rfl⟩ := tidy.separate space digest space' digest' inode found named
        rfl
    | temporary space' digest' job => exact absurd named (unlinked inode found space' digest' job)

/-! ## Reading a published file -/

/-- What a reading has learnt about the file. -/
def ReadingSound (inode : Nat) (value : Bytes) : Reading → Prop
  | .opening => True
  | .stat current => current = inode
  | .content before seen => before.inode = inode ∧ before.size = value.length ∧ seen <+: value
  | .restat before content => before.inode = inode ∧ before.size = value.length ∧ content = value
  | .lstat after content => after.inode = inode ∧ after.size = value.length ∧ content = value

/-- The next operation looks at the metadata. -/
def looks : Reading → Bool
  | .stat _ | .restat _ _ => true
  | _ => false

/-- The operations left, each taking one byte at least. -/
def readingWork (length : Nat) : Reading → Nat
  | .opening => length + 5
  | .stat _ => length + 4
  | .content _ seen => length - seen.length + 3
  | .restat _ _ => 2
  | .lstat _ _ => 1

theorem validate_published (published : Published files space digest inode value)
    (single : files.links inode = 1) (path : String) :
    validatePrivateRegular path (fstat files inode) = .ok () := by
  simp [validatePrivateRegular, fstat, single, published.mode]

theorem step_published (published : Published files space digest inode value) (count : Nat)
    {reading : Reading} (sound : ReadingSound inode value reading)
    (single : looks reading = true → files.links inode = 1) :
    (∃ next, reading.step roots files space digest count = .ok (.inl next) ∧
      ReadingSound inode value next ∧
      readingWork value.length next < readingWork value.length reading) ∨
    ∃ metadata, reading.step roots files space digest count = .ok (.inr (value, metadata)) ∧
      metadata.size = value.length := by
  cases reading with
  | opening =>
      refine Or.inl ⟨.stat inode, ?_, rfl, ?_⟩
      · simp [Reading.step, published.found]
      · simp [readingWork]
  | stat current =>
      have same : current = inode := sound
      subst same
      refine Or.inl ⟨.content (fstat files current) [], ?_, ⟨rfl, ?_, List.nil_prefix⟩, ?_⟩
      · simp [Reading.step, validate_published published (single rfl)]
      · rw [fstat, published.content]
      · simp [readingWork]
  | content before seen =>
      obtain ⟨same, size, rest, whole⟩ := sound
      have remaining : (files.content before.inode).drop seen.length = rest := by
        rw [same, published.content, ← whole, List.drop_left]
      cases rest with
      | nil =>
          rw [List.append_nil] at whole
          refine Or.inl ⟨.restat before seen, ?_, ⟨same, size, whole⟩, ?_⟩
          · simp [Reading.step, remaining]
          · simp [readingWork, whole]
      | cons byte later =>
          refine Or.inl ⟨.content before (seen ++ byte :: later.take count), ?_,
            ⟨same, size, later.drop count, ?_⟩, ?_⟩
          · simp [Reading.step, remaining]
          · rw [← whole, List.append_assoc, List.cons_append, List.take_append_drop]
          · have length := congrArg List.length whole
            simp only [List.length_append, List.length_cons] at length
            simp only [readingWork, List.length_append, List.length_cons]
            omega
  | restat before content =>
      obtain ⟨same, size, whole⟩ := sound
      refine Or.inl ⟨.lstat (fstat files inode) content, ?_, ⟨rfl, ?_, whole⟩, ?_⟩
      · have sizes : before.size = (fstat files inode).size := by
          rw [size, fstat, published.content]
        simp only [Reading.step, same, validate_published published (single rfl), ok_bind]
        rw [require_true ⟨rfl, sizes⟩]
        rfl
      · rw [fstat, published.content]
      · simp [readingWork]
  | lstat after content =>
      obtain ⟨same, size, whole⟩ := sound
      refine Or.inr ⟨after, ?_, size⟩
      simp [Reading.step, published.found, same, whole]

theorem verify_published (published : Published files space (hexdigest value) inode value)
    (count : Nat) {reading : Reading} (sound : ReadingSound inode value reading)
    (single : looks reading = true → files.links inode = 1) :
    (∃ next, reading.verify roots files space (hexdigest value) value.length count =
        .ok (.inl next) ∧ ReadingSound inode value next ∧
      readingWork value.length next < readingWork value.length reading) ∨
    reading.verify roots files space (hexdigest value) value.length count = .ok (.inr value) := by
  unfold Reading.verify
  rcases @step_published roots files space _ inode value published count reading sound single with
    ⟨next, step, more⟩ | ⟨metadata, step, size⟩
  · refine Or.inl ⟨next, ?_, more⟩
    rw [step]
    rfl
  · refine Or.inr ?_
    rw [step]
    simp [verified, size]

theorem verify_linked {reading : Reading} (sound : ReadingSound inode value reading)
    (looking : looks reading = true) (linked : files.links inode ≠ 1) (size count : Nat) :
    ∃ error, reading.verify roots files space digest size count = .error error := by
  unfold Reading.verify
  have refused (path : String) : ∃ error,
      validatePrivateRegular path (fstat files inode) = .error error := by
    unfold validatePrivateRegular
    rw [require_false (by exact linked)]
    exact ⟨_, rfl⟩
  obtain ⟨error, raised⟩ := refused (path roots space digest)
  refine ⟨error, ?_⟩
  cases reading with
  | stat current =>
      have same : current = inode := sound
      simp [Reading.step, same, raised]
  | restat before content =>
      have same : before.inode = inode := sound.1
      simp [Reading.step, same, raised]
  | opening => cases looking
  | content before seen => cases looking
  | lstat after content => cases looking

/-! ## What a file operation leaves alone -/

/-- The jobs but one keep their drafts, and everything that is published stays. -/
structure Frame (owner : Nat) (files next : Files) : Prop where
  published : ∀ space digest inode value, Published files space digest inode value →
    Published next space digest inode value
  drafts : ∀ space digest job inode content, job ≠ owner →
    Draft files (.temporary space digest job) inode content →
    Draft next (.temporary space digest job) inode content
  fresh : ∀ space digest job, job ≠ owner → files.find (.temporary space digest job) = none →
    next.find (.temporary space digest job) = none

theorem Frame.refl (owner : Nat) (files : Files) : Frame owner files files :=
  ⟨fun _ _ _ _ published => published, fun _ _ _ _ _ _ draft => draft, fun _ _ _ _ none => none⟩

variable {known : List Bytes} {jobs owner : Nat}

theorem frame_create (tidy : Tidy known jobs files) (space : Space) (digest : String)
    (owner : Nat) :
    Frame owner files (files.create (.temporary space digest owner) fileMode) where
  published space' digest' inode value published := by
    have present := (tidy.named _ inode published.found).1
    refine ⟨?_, ?_, ?_⟩
    · rw [Disk.find_create, if_neg (by simp), published.found]
    · rw [Disk.content_create_ne present, published.content]
    · rw [Disk.mode_create_ne present, published.mode]
  drafts space' digest' job inode content differs draft := by
    have present := (tidy.named _ inode draft.found).1
    refine ⟨?_, ?_, ?_⟩
    · rw [Disk.find_create, if_neg (by simp [differs]), draft.found]
    · rw [Disk.content_create_ne present, draft.content]
    · intro name found
      rw [Disk.find_create] at found
      split at found
      · rw [Option.some.injEq] at found
        omega
      · exact draft.alone name found
  fresh space' digest' job differs none := by
    rw [Disk.find_create, if_neg (by simp [differs]), none]

theorem frame_append {content : Bytes}
    (draft : Draft files (.temporary space digest owner) inode content) (items : Bytes) :
    Frame owner files (files.append inode items) where
  published space' digest' other value published := by
    have differs : other ≠ inode := by
      rintro rfl
      cases draft.alone _ published.found
    exact ⟨published.found, by rw [Disk.content_append_ne differs, published.content],
      by rw [Disk.mode_append, published.mode]⟩
  drafts space' digest' job other content' differs other' := by
    have apart : other ≠ inode := by
      rintro rfl
      cases draft.alone _ other'.found
      exact differs rfl
    exact ⟨other'.found, by rw [Disk.content_append_ne apart, other'.content], other'.alone⟩
  fresh _ _ _ _ none := none

theorem frame_link {content : Bytes}
    (draft : Draft files (.temporary space digest owner) inode content) {target : String}
    (absent : files.find (.blob space target) = none) :
    Frame owner files (files.link inode (.blob space target)) where
  published space' digest' other value published := by
    refine ⟨?_, published.content, published.mode⟩
    rw [Disk.find_link, if_neg, published.found]
    intro same
    have found := published.found
    rw [same, absent] at found
    cases found
  drafts space' digest' job other content' differs other' := by
    refine ⟨by rw [Disk.find_link, if_neg (by simp), other'.found], other'.content, ?_⟩
    intro name found
    rw [Disk.find_link] at found
    split at found
    · rw [Option.some.injEq] at found
      subst found
      cases draft.alone _ other'.found
      exact absurd rfl differs
    · exact other'.alone name found
  fresh space' digest' job differs none := by
    rw [Disk.find_link, if_neg (by simp), none]

theorem frame_unlink (files : Files) (space : Space) (digest : String) (owner : Nat) :
    Frame owner files (files.unlink (.temporary space digest owner)) where
  published space' digest' inode value published := by
    refine ⟨?_, published.content, published.mode⟩
    rw [Disk.find_unlink, if_neg (by simp), published.found]
  drafts space' digest' job inode content differs draft := by
    refine ⟨by rw [Disk.find_unlink, if_neg (by simp [differs]), draft.found], draft.content, ?_⟩
    intro name found
    rw [Disk.find_unlink] at found
    split at found
    · cases found
    · exact draft.alone name found
  fresh space' digest' job differs none := by
    rw [Disk.find_unlink, if_neg (by simp [differs]), none]

/-! ## Tidiness after a file operation -/

theorem Tidy.create (tidy : Tidy known jobs files) (present : owner < jobs) (space : Space)
    (digest : String) :
    Tidy known jobs (files.create (.temporary space digest owner) fileMode) where
  named name inode found := by
    rw [Disk.find_create] at found
    rw [Disk.length_create]
    split at found
    · rw [Option.some.injEq] at found
      subst found
      exact ⟨Nat.lt_succ_self _, Disk.mode_create_self _ _⟩
    · obtain ⟨bound, mode⟩ := tidy.named name inode found
      exact ⟨Nat.lt_succ_of_lt bound, by rw [Disk.mode_create_ne bound, mode]⟩
  temporaries space' digest' job inode found := by
    rw [Disk.find_create] at found
    split at found
    · rename_i same
      cases same
      exact present
    · exact tidy.temporaries space' digest' job inode found
  blobs space' digest' inode found := by
    rw [Disk.find_create, if_neg (by simp)] at found
    rw [Disk.content_create_ne (tidy.named _ inode found).1]
    exact tidy.blobs space' digest' inode found
  separate space' digest' space'' digest'' inode found found' := by
    rw [Disk.find_create, if_neg (by simp)] at found found'
    exact tidy.separate space' digest' space'' digest'' inode found found'

theorem Tidy.append (tidy : Tidy known jobs files) {content : Bytes}
    (draft : Draft files (.temporary space digest owner) inode content) (items : Bytes) :
    Tidy known jobs (files.append inode items) where
  named name other found := by
    rw [Disk.length_append, Disk.mode_append]
    exact tidy.named name other found
  temporaries := tidy.temporaries
  blobs space' digest' other found := by
    have differs : other ≠ inode := by
      rintro rfl
      cases draft.alone _ found
    rw [Disk.content_append_ne differs]
    exact tidy.blobs space' digest' other found
  separate := tidy.separate

theorem Tidy.link (tidy : Tidy known jobs files) (listed : value ∈ known)
    (draft : Draft files (.temporary space (hexdigest value) owner) inode value) :
    Tidy known jobs (files.link inode (.blob space (hexdigest value))) where
  named name other found := by
    rw [Disk.find_link] at found
    split at found
    · rw [Option.some.injEq] at found
      subst found
      exact tidy.named _ inode draft.found
    · exact tidy.named name other found
  temporaries space' digest' job other found := by
    rw [Disk.find_link, if_neg (by simp)] at found
    exact tidy.temporaries space' digest' job other found
  blobs space' digest' other found := by
    rw [Disk.find_link] at found
    rw [Disk.content_link]
    split at found
    · rename_i same
      rw [Option.some.injEq] at found
      cases same
      subst found
      rw [draft.content]
      exact ⟨listed, rfl⟩
    · exact tidy.blobs space' digest' other found
  separate space' digest' space'' digest'' other found found' := by
    have only (space : Space) (digest : String) (name : files.find (.blob space digest) = some inode) :
        False := by cases draft.alone _ name
    rw [Disk.find_link] at found found'
    split at found
    · rename_i same
      split at found'
      · rename_i same'
        cases same
        cases same'
        exact ⟨rfl, rfl⟩
      · rw [← found] at found'
        exact (only _ _ found').elim
    · split at found'
      · rw [← found'] at found
        exact (only _ _ found).elim
      · exact tidy.separate space' digest' space'' digest'' other found found'

theorem Tidy.unlink (tidy : Tidy known jobs files) (space : Space) (digest : String)
    (owner : Nat) : Tidy known jobs (files.unlink (.temporary space digest owner)) where
  named name inode found := by
    rw [Disk.find_unlink] at found
    split at found
    · cases found
    · exact tidy.named name inode found
  temporaries space' digest' job inode found := by
    rw [Disk.find_unlink] at found
    split at found
    · cases found
    · exact tidy.temporaries space' digest' job inode found
  blobs space' digest' inode found := by
    rw [Disk.find_unlink, if_neg (by simp)] at found
    exact tidy.blobs space' digest' inode found
  separate space' digest' space'' digest'' inode found found' := by
    rw [Disk.find_unlink, if_neg (by simp)] at found found'
    exact tidy.separate space' digest' space'' digest'' inode found found'

end CrossPatch.Evidence.Publication
