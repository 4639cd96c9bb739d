import CrossPatch.Evidence.Publication

/-!
# Concurrent writers of artifacts

A put or a read fails exactly when it looks at the metadata of a file that a writer has
linked and not yet unlinked, which is forever when that writer has died in between.  As
long as no job looks then, every job returns, and every read returns the stored bytes.
-/

namespace CrossPatch.Evidence.Writers

open CrossPatch.Domain.Failure CrossPatch.Evidence.Artifacts CrossPatch.Evidence.Publication
open CrossPatch.Library CrossPatch.Library.Octets CrossPatch.Library.Runs
open CrossPatch.Library.Sha256

variable {roots : Roots} {files : Files} {space : Space} {value : Bytes} {known : List Bytes}
  {jobs number : Nat}

/-! ## Jobs -/

def temporary (number : Nat) (space : Space) (value : Bytes) : Name :=
  .temporary space (hexdigest value) number

/-- The value is published under its digest, and the reading has seen nothing else. -/
def Reads (files : Files) (space : Space) (value : Bytes) (reading : Reading) : Prop :=
  ∃ inode, Published files space (hexdigest value) inode value ∧ ReadingSound inode value reading

def Stored (files : Files) (space : Space) (value : Bytes) : Prop :=
  ∃ inode, Published files space (hexdigest value) inode value

def Drafted (files : Files) (number : Nat) (space : Space) (value content : Bytes) (inode : Nat) :
    Prop :=
  Draft files (temporary number space value) inode content

/-- Where a put stands, as long as it has not failed. -/
def PutSound (files : Files) (number : Nat) (space : Space) (value : Bytes) : Stage → Prop
  | .lookup | .create => files.find (temporary number space value) = none
  | .write inode rest =>
      ∃ content, Drafted files number space value content inode ∧ content ++ rest = value
  | .link => ∃ inode, Drafted files number space value value inode
  | .conflict reading =>
      (∃ inode, Drafted files number space value value inode) ∧ Reads files space value reading
  | .unlink error => error = none ∧ Stored files space value
  | .check reading => Reads files space value reading
  | .stored reference =>
      reference = ⟨space, hexdigest value, value.length⟩ ∧ Stored files space value
  | .delivered _ => False
  | .failed _ => False
  | .crashed => True

/-- Where a read of a stored value stands. -/
def ReadSound (files : Files) (space : Space) (value : Bytes) : Stage → Prop
  | .check reading => Reads files space value reading
  | .delivered result => result = value
  | .crashed => True
  | _ => False

def JobSound (files : Files) (number : Nat) (known : List Bytes) (job : Job) : Prop :=
  match job.task with
  | .put space value => value ∈ known ∧ PutSound files number space value job.stage
  | .read reference => ∃ value ∈ known, reference = ⟨reference.space, hexdigest value, value.length⟩ ∧
      Stored files reference.space value ∧ ReadSound files reference.space value job.stage

/-- The operations left to a put. -/
def putWork (length : Nat) : Stage → Nat
  | .lookup => 3 * length + 15
  | .create => 3 * length + 14
  | .write _ rest => rest.length + 2 * length + 13
  | .link => 2 * length + 12
  | .conflict reading => readingWork length reading + length + 6
  | .unlink _ => length + 6
  | .check reading => readingWork length reading
  | _ => 0

def readWork (length : Nat) : Stage → Nat
  | .check reading => readingWork length reading
  | _ => 0

def work (job : Job) : Nat :=
  match job.task with
  | .put _ value => putWork value.length job.stage
  | .read reference => readWork reference.sizeBytes job.stage

/-- The digest whose file the next operation of a job looks at. -/
def target (job : Job) : Option (Space × String) :=
  match job.task, job.stage with
  | .put space value, .conflict reading | .put space value, .check reading =>
      if looks reading then some (space, hexdigest value) else none
  | .read reference, .check reading =>
      if looks reading then some (reference.space, reference.sha256) else none
  | _, _ => none

/-! ## The other jobs -/

section Framed

variable {next : Files} {owner : Nat}

theorem Stored.frame (frame : Frame owner files next) (stored : Stored files space value) :
    Stored next space value := by
  obtain ⟨inode, published⟩ := stored
  exact ⟨inode, frame.published _ _ _ _ published⟩

theorem Reads.frame (frame : Frame owner files next) {reading : Reading}
    (reads : Reads files space value reading) : Reads next space value reading := by
  obtain ⟨inode, published, sound⟩ := reads
  exact ⟨inode, frame.published _ _ _ _ published, sound⟩

/-- A job is as sound as before after a step of another one. -/
theorem JobSound.frame (frame : Frame owner files next) (other : number ≠ owner) {job : Job}
    (sound : JobSound files number known job) : JobSound next number known job := by
  obtain ⟨task, stage⟩ := job
  cases task with
  | put space value =>
      obtain ⟨listed, sound⟩ := sound
      refine ⟨listed, ?_⟩
      cases stage with
      | lookup => exact frame.fresh _ _ _ other sound
      | create => exact frame.fresh _ _ _ other sound
      | write inode rest =>
          obtain ⟨content, draft, whole⟩ := sound
          exact ⟨content, frame.drafts _ _ _ _ _ other draft, whole⟩
      | link =>
          obtain ⟨inode, draft⟩ := sound
          exact ⟨inode, frame.drafts _ _ _ _ _ other draft⟩
      | conflict reading =>
          obtain ⟨⟨inode, draft⟩, reads⟩ := sound
          exact ⟨⟨inode, frame.drafts _ _ _ _ _ other draft⟩, reads.frame frame⟩
      | unlink error => exact ⟨sound.1, sound.2.frame frame⟩
      | check reading => exact Reads.frame frame sound
      | stored reference => exact ⟨sound.1, sound.2.frame frame⟩
      | delivered result => exact sound
      | failed error => exact sound
      | crashed => trivial
  | read reference =>
      obtain ⟨value, listed, same, stored, sound⟩ := sound
      refine ⟨value, listed, same, stored.frame frame, ?_⟩
      cases stage with
      | check reading => exact Reads.frame frame sound
      | delivered result => exact sound
      | crashed => trivial
      | lookup => exact sound
      | create => exact sound
      | write inode rest => exact sound
      | link => exact sound
      | conflict reading => exact sound
      | unlink error => exact sound
      | stored result => exact sound
      | failed error => exact sound

end Framed

/-! ## One step of a put -/

/-- What a step that does not fail leaves behind. -/
structure Advanced (known : List Bytes) (jobs number : Nat) (space : Space) (value : Bytes)
    (files : Files) (stage : Stage) (result : Stage × Files) : Prop where
  sound : PutSound result.2 number space value result.1
  frame : Frame number files result.2
  tidy : Tidy known jobs result.2
  less : putWork value.length result.1 < putWork value.length stage

/-- A put advances, unless it is to look at a file with two names. -/
theorem putStep_advanced (tidy : Tidy known jobs files) (free : CollisionFree known)
    (listed : value ∈ known) (present : number < jobs) (count : Nat) {stage : Stage}
    (sound : PutSound files number space value stage) (unfinished : stage.finished = false)
    (settled : ∀ digest, target ⟨.put space value, stage⟩ = some (space, digest) →
      Unlinked files space digest) :
    Advanced known jobs number space value files stage
      (putStep roots files number count space value stage) := by
  have single {reading : Reading} {inode : Nat}
      (published : Published files space (hexdigest value) inode value)
      (unlinked : looks reading = true → Unlinked files space (hexdigest value))
      (looking : looks reading = true) : files.links inode = 1 :=
    (tidy.links_eq_one published.found).mpr (unlinked looking)
  cases stage with
  | lookup =>
      by_cases absent : files.find (.blob space (hexdigest value)) = none
      · have step : putStep roots files number count space value .lookup = (.create, files) := by
          simp [putStep, absent]
        rw [step]
        exact ⟨sound, .refl _ _, tidy, Nat.lt_succ_self _⟩
      · have step : putStep roots files number count space value .lookup =
            (.check .opening, files) := by simp [putStep, absent]
        obtain ⟨inode, found⟩ := Option.ne_none_iff_exists'.mp absent
        rw [step]
        refine ⟨⟨inode, tidy.published free listed found, trivial⟩, .refl _ _, tidy, ?_⟩
        simp only [putWork, readingWork]
        omega
  | create =>
      have fresh : files.find (.temporary space (hexdigest value) number) = none := sound
      have step : putStep roots files number count space value .create =
          (.write files.files.length value,
            files.create (.temporary space (hexdigest value) number) fileMode) := by
        simp [putStep, fresh]
      rw [step]
      refine ⟨⟨[], ⟨?_, Disk.content_create_self _ _, ?_⟩, rfl⟩, frame_create tidy _ _ _,
        tidy.create present _ _, ?_⟩
      · rw [temporary, Disk.find_create, if_pos rfl]
      · intro name found
        rw [Disk.find_create] at found
        split at found
        · rename_i same
          exact same
        · exact absurd (tidy.named name _ found).1 (Nat.lt_irrefl _)
      · simp only [putWork]
        omega
  | write inode rest =>
      obtain ⟨content, draft, whole⟩ := sound
      by_cases done : rest = []
      · have step : putStep roots files number count space value (.write inode rest) =
            (.link, files) := by simp [putStep, done]
        rw [done, List.append_nil] at whole
        rw [step]
        refine ⟨⟨inode, whole ▸ draft⟩, .refl _ _, tidy, ?_⟩
        simp only [putWork]
        omega
      · have step : putStep roots files number count space value (.write inode rest) =
            (.write inode (rest.drop (count + 1)), files.append inode (rest.take (count + 1))) := by
          simp [putStep, done]
        have bound := (tidy.named _ inode draft.found).1
        rw [step]
        refine ⟨⟨content ++ rest.take (count + 1), ⟨draft.found, ?_, draft.alone⟩, ?_⟩,
          frame_append draft _, tidy.append draft _, ?_⟩
        · rw [Disk.content_append_self bound, draft.content]
        · rw [List.append_assoc, List.take_append_drop, whole]
        · have positive := List.length_pos_iff.mpr done
          simp only [putWork, List.length_drop]
          omega
  | link =>
      obtain ⟨inode, draft⟩ := sound
      have found : files.find (.temporary space (hexdigest value) number) = some inode :=
        draft.found
      by_cases absent : files.find (.blob space (hexdigest value)) = none
      · have step : putStep roots files number count space value .link =
            (.unlink none, files.link inode (.blob space (hexdigest value))) := by
          simp [putStep, found, absent]
        rw [step]
        refine ⟨⟨rfl, inode, ?_, draft.content, (tidy.named _ inode draft.found).2⟩,
          frame_link draft absent, tidy.link listed draft, ?_⟩
        · rw [Disk.find_link, if_pos rfl]
        · simp only [putWork]
          omega
      · have step : putStep roots files number count space value .link =
            (.conflict .opening, files) := by simp [putStep, found, absent]
        obtain ⟨first, named⟩ := Option.ne_none_iff_exists'.mp absent
        rw [step]
        refine ⟨⟨⟨inode, draft⟩, first, tidy.published free listed named, trivial⟩, .refl _ _, tidy,
          ?_⟩
        simp only [putWork, readingWork]
        omega
  | conflict reading =>
      obtain ⟨drafted, inode, published, learnt⟩ := sound
      have unlinked : looks reading = true → Unlinked files space (hexdigest value) := by
        intro looking
        exact settled _ (by simp [target, looking])
      rcases @verify_published roots files space inode value published count reading learnt
        (single published unlinked) with ⟨next, step, learnt', less⟩ | step
      · simp only [putStep, step]
        refine ⟨⟨drafted, inode, published, learnt'⟩, .refl _ _, tidy, ?_⟩
        simp only [putWork]
        omega
      · simp only [putStep, step]
        refine ⟨⟨rfl, inode, published⟩, .refl _ _, tidy, ?_⟩
        simp only [putWork]
        cases reading <;> simp only [readingWork] <;> omega
  | unlink error =>
      obtain ⟨rfl, stored⟩ := sound
      have frame := frame_unlink files space (hexdigest value) number
      obtain ⟨inode, published⟩ := stored
      refine ⟨⟨inode, frame.published _ _ _ _ published, trivial⟩, frame, tidy.unlink _ _ _, ?_⟩
      simp only [putStep, putWork, readingWork]
      omega
  | check reading =>
      obtain ⟨inode, published, learnt⟩ := sound
      have unlinked : looks reading = true → Unlinked files space (hexdigest value) := by
        intro looking
        exact settled _ (by simp [target, looking])
      rcases @verify_published roots files space inode value published count reading learnt
        (single published unlinked) with ⟨next, step, learnt', less⟩ | step
      · simp only [putStep, step]
        exact ⟨⟨inode, published, learnt'⟩, .refl _ _, tidy, less⟩
      · simp only [putStep, step]
        refine ⟨⟨rfl, inode, published⟩, .refl _ _, tidy, ?_⟩
        simp only [putWork]
        cases reading <;> simp [readingWork]
  | stored reference => cases unfinished
  | delivered result => cases unfinished
  | failed error => cases unfinished
  | crashed => cases unfinished

/-! ## One step of a job -/

theorem readStep_advanced {reference : Reference} {stage : Stage} (count : Nat)
    (tidy : Tidy known jobs files)
    (same : reference = ⟨reference.space, hexdigest value, value.length⟩)
    (sound : ReadSound files reference.space value stage) (unfinished : stage.finished = false)
    (settled : ∀ space digest, target ⟨.read reference, stage⟩ = some (space, digest) →
      Unlinked files space digest) :
    ReadSound files reference.space value (readStep roots files count reference stage) ∧
      readWork reference.sizeBytes (readStep roots files count reference stage) <
        readWork reference.sizeBytes stage := by
  cases stage with
  | check reading =>
      obtain ⟨inode, published, learnt⟩ := sound
      have sha : reference.sha256 = hexdigest value := congrArg Reference.sha256 same
      have size : reference.sizeBytes = value.length := congrArg Reference.sizeBytes same
      have single : looks reading = true → files.links inode = 1 := by
        intro looking
        refine (tidy.links_eq_one published.found).mpr (settled _ _ ?_)
        simp [target, looking, sha]
      rcases @verify_published roots files reference.space inode value published count reading learnt
        single with ⟨next, step, learnt', less⟩ | step
      · simp only [readStep, sha, size, step]
        exact ⟨⟨inode, published, learnt'⟩, less⟩
      · simp only [readStep, sha, size, step]
        refine ⟨rfl, ?_⟩
        cases reading <;> simp [readWork, readingWork]
  | stored result => cases unfinished
  | delivered result => cases unfinished
  | failed error => cases unfinished
  | crashed => cases unfinished
  | lookup => cases sound
  | create => cases sound
  | write inode rest => cases sound
  | link => cases sound
  | conflict reading => cases sound
  | unlink error => cases sound

/-- Every job advances, unless it is to look at a file with two names. -/
theorem jobStep_advanced (tidy : Tidy known jobs files) (free : CollisionFree known)
    (present : number < jobs) (count : Nat) {job : Job}
    (sound : JobSound files number known job) (unfinished : job.stage.finished = false)
    (settled : ∀ space digest, target job = some (space, digest) → Unlinked files space digest) :
    JobSound (job.step roots files number count).2 number known
      { job with stage := (job.step roots files number count).1 } ∧
    Frame number files (job.step roots files number count).2 ∧
    Tidy known jobs (job.step roots files number count).2 ∧
    work { job with stage := (job.step roots files number count).1 } < work job := by
  obtain ⟨task, stage⟩ := job
  cases task with
  | put space value =>
      obtain ⟨listed, sound⟩ := sound
      have advanced := @putStep_advanced roots files space value known jobs number tidy free listed
        present count stage sound unfinished (fun digest named => settled space digest named)
      exact ⟨⟨listed, advanced.sound⟩, advanced.frame, advanced.tidy, advanced.less⟩
  | read reference =>
      obtain ⟨value, listed, same, stored, sound⟩ := sound
      obtain ⟨sound', less⟩ := @readStep_advanced roots files value known jobs reference stage count
        tidy same sound unfinished settled
      exact ⟨⟨value, listed, same, stored, sound'⟩, .refl _ _, tidy, less⟩

theorem jobStep_finished (count : Nat) {job : Job} (finished : job.stage.finished = true) :
    job.step roots files number count = (job.stage, files) := by
  obtain ⟨task, stage⟩ := job
  cases task with
  | put space value => cases stage <;> first | rfl | cases finished
  | read reference => cases stage <;> first | rfl | cases finished

/-! ## Sound worlds -/

structure Sound (known : List Bytes) (world : World) : Prop where
  tidy : Tidy known world.jobs.length world.files
  jobs : ∀ number job, world.jobs[number]? = some job → JobSound world.files number known job

variable {world : World}

theorem sound_empty (known : List Bytes) : Sound known World.empty where
  tidy := tidy_empty known
  jobs number job found := by cases found

/-- The job that an action advances does not look at a file with two names. -/
def Settled (world : World) : Action → Prop
  | .advance number _ => ∀ job space digest, world.jobs[number]? = some job →
      target job = some (space, digest) → Unlinked world.files space digest
  | _ => True

def values : Action → List Bytes
  | .put _ value => [value]
  | _ => []

theorem Sound.append (sound : Sound known world) {job : Job}
    (new : JobSound world.files world.jobs.length known job) :
    Sound known { world with jobs := world.jobs ++ [job] } where
  tidy := by
    obtain ⟨named, temporaries, blobs, separate⟩ := sound.tidy
    refine ⟨named, ?_, blobs, separate⟩
    intro space digest owner inode found
    rw [List.length_append]
    exact Nat.lt_add_right _ (temporaries space digest owner inode found)
  jobs := by
    intro number current found
    dsimp only at found
    rw [List.getElem?_append] at found
    split at found
    · exact sound.jobs number current found
    · have position : number = world.jobs.length := by
        have bound := List.getElem?_eq_some_iff.mp found
        obtain ⟨bound, _⟩ := bound
        rw [List.length_singleton] at bound
        omega
      subst position
      rw [Nat.sub_self, List.getElem?_cons_zero, Option.some.injEq] at found
      exact found ▸ new

theorem Sound.set (sound : Sound known world) {next : Files} {job : Job}
    (frame : Frame number world.files next) (tidy : Tidy known world.jobs.length next)
    (new : JobSound next number known job) :
    Sound known ⟨next, world.jobs.set number job⟩ where
  tidy := by
    rw [List.length_set]
    exact tidy
  jobs := by
    intro other current found
    dsimp only at found
    rw [List.getElem?_set] at found
    split at found
    · rename_i same
      split at found
      · rw [Option.some.injEq] at found
        exact same ▸ found ▸ new
      · cases found
    · rename_i differs
      exact (sound.jobs other current found).frame frame (Ne.symm differs)

theorem Sound.act (sound : Sound known world) (free : CollisionFree known) {action : Action}
    (settled : Settled world action) (listed : ∀ value ∈ values action, value ∈ known) :
    Sound known (world.act roots action) := by
  cases action with
  | put space value =>
      refine sound.append ⟨listed value (List.mem_singleton_self value), ?_⟩
      change world.files.find _ = none
      cases found : world.files.find (temporary world.jobs.length space value) with
      | none => rfl
      | some inode =>
          exact absurd (sound.tidy.temporaries _ _ _ _ found) (Nat.lt_irrefl _)
  | read number =>
      simp only [World.act]
      split
      · rename_i task reference found
        have owner := sound.jobs number _ found
        cases task with
        | put space value =>
            obtain ⟨member, same, stored⟩ := owner
            subst same
            obtain ⟨inode, published⟩ := stored
            exact sound.append ⟨value, member, rfl, ⟨inode, published⟩, inode, published, trivial⟩
        | read other =>
            obtain ⟨_, _, _, _, impossible⟩ := owner
            exact impossible.elim
      · exact sound
  | advance number count =>
      simp only [World.act]
      cases found : world.jobs[number]? with
      | none => exact sound
      | some job =>
          have current := sound.jobs number job found
          obtain ⟨present, _⟩ := List.getElem?_eq_some_iff.mp found
          cases finished : job.stage.finished with
          | true =>
              dsimp only
              rw [jobStep_finished count finished]
              exact sound.set (.refl _ _) sound.tidy current
          | false =>
              obtain ⟨new, frame, tidy, _⟩ := @jobStep_advanced roots world.files known
                world.jobs.length number sound.tidy free present count job current finished
                (fun space digest => settled job space digest found)
              exact sound.set frame tidy new
  | crash number =>
      simp only [World.act]
      cases found : world.jobs[number]? with
      | none => exact sound
      | some job =>
          dsimp only
          split
          · exact sound
          · have current := sound.jobs number job found
            refine sound.set (.refl _ _) sound.tidy ?_
            obtain ⟨task, stage⟩ := job
            cases task with
            | put space value => exact ⟨current.1, trivial⟩
            | read reference =>
                obtain ⟨value, listed, same, stored, _⟩ := current
                exact ⟨value, listed, same, stored, trivial⟩

/-! ## Failures -/

/-- The exception that has been raised in a job, cleaned up or not. -/
def raised : Stage → Option Raised
  | .unlink error => error
  | .failed error => some error
  | _ => none

/-- No job has failed, a put returns the digest of its value, and a read of what it has
returned delivers this value. -/
structure Fine (world : World) : Prop where
  quiet : ∀ job ∈ world.jobs, raised job.stage = none
  digests : ∀ space value reference, ⟨.put space value, .stored reference⟩ ∈ world.jobs →
    reference = ⟨space, hexdigest value, value.length⟩
  contents : ∀ space value reference result,
    ⟨.put space value, .stored reference⟩ ∈ world.jobs →
    ⟨.read reference, .delivered result⟩ ∈ world.jobs → result = value

theorem Sound.fine (sound : Sound known world) (free : CollisionFree known) : Fine world := by
  have jobs {job : Job} (member : job ∈ world.jobs) :
      ∃ number, JobSound world.files number known job := by
    obtain ⟨number, found⟩ := List.mem_iff_getElem?.mp member
    exact ⟨number, sound.jobs number job found⟩
  refine ⟨?_, ?_, ?_⟩
  · intro job member
    obtain ⟨number, current⟩ := jobs member
    obtain ⟨task, stage⟩ := job
    cases task with
    | put space value =>
        obtain ⟨_, current⟩ := current
        cases stage with
        | unlink error => exact current.1
        | failed error => exact current.elim
        | _ => rfl
    | read reference =>
        obtain ⟨_, _, _, _, current⟩ := current
        cases stage with
        | unlink error => exact current.elim
        | failed error => exact current.elim
        | _ => rfl
  · intro space value reference member
    obtain ⟨_, _, same, _⟩ := jobs member
    exact same
  · intro space value reference result put read
    obtain ⟨_, listed, same, _⟩ := jobs put
    obtain ⟨_, value', listed', same', _, delivered⟩ := jobs read
    have digests : hexdigest value' = hexdigest value := by
      rw [same] at same'
      exact (congrArg Reference.sha256 same').symm
    exact (show result = value' from delivered).trans (free.hexdigest listed' listed digests)

/-- A job that looks at a file with two names raises an exception. -/
theorem Sound.not_fine (sound : Sound known world) {action : Action}
    (unsettled : ¬ Settled world action) : ¬ Fine (world.act roots action) := by
  intro fine
  cases action with
  | put space value => exact unsettled trivial
  | read number => exact unsettled trivial
  | crash number => exact unsettled trivial
  | advance number count =>
      refine unsettled ?_
      intro job space digest found named
      by_contra linked
      have current := sound.jobs number job found
      obtain ⟨present, _⟩ := List.getElem?_eq_some_iff.mp found
      have quiet : raised (job.step roots world.files number count).1 = none := by
        refine fine.quiet { job with stage := (job.step roots world.files number count).1 } ?_
        simp only [World.act]
        rw [found]
        exact List.mem_iff_getElem?.mpr ⟨number, by simp [present]⟩
      obtain ⟨task, stage⟩ := job
      cases task with
      | put space' value =>
          obtain ⟨_, current⟩ := current
          cases stage with
          | conflict reading =>
              obtain ⟨_, inode, published, learnt⟩ := current
              simp only [target] at named
              split at named
              · rename_i looking
                cases named
                obtain ⟨error, failed⟩ := @verify_linked roots world.files space (hexdigest value)
                  inode value reading learnt looking
                  (mt (sound.tidy.links_eq_one published.found).mp linked) value.length count
                simp [Job.step, putStep, failed, raised] at quiet
              · cases named
          | check reading =>
              obtain ⟨inode, published, learnt⟩ := current
              simp only [target] at named
              split at named
              · rename_i looking
                cases named
                obtain ⟨error, failed⟩ := @verify_linked roots world.files space (hexdigest value)
                  inode value reading learnt looking
                  (mt (sound.tidy.links_eq_one published.found).mp linked) value.length count
                simp [Job.step, putStep, failed, raised] at quiet
              · cases named
          | _ => cases named
      | read reference =>
          obtain ⟨value, _, same, _, current⟩ := current
          cases stage with
          | check reading =>
              obtain ⟨inode, published, learnt⟩ := current
              simp only [target] at named
              split at named
              · rename_i looking
                cases named
                have sha : reference.sha256 = hexdigest value := congrArg Reference.sha256 same
                rw [sha] at linked
                obtain ⟨error, failed⟩ := @verify_linked roots world.files reference.space
                  reference.sha256 inode value reading learnt looking
                  (mt (sound.tidy.links_eq_one published.found).mp linked) reference.sizeBytes count
                simp [Job.step, readStep, failed, raised] at quiet
              · cases named
          | _ => cases named

/-! ## Runs -/

/-- The values that the puts of a run store. -/
def putValues (actions : List Action) : List Bytes := actions.flatMap values

/-- How often a run advances a job. -/
def advances (number : Nat) (actions : List Action) : Nat :=
  actions.countP fun action => match action with
    | .advance other _ => other == number
    | _ => false

theorem run_sound (sound : Sound known world) (free : CollisionFree known)
    {actions : List Action} (listed : ∀ value ∈ putValues actions, value ∈ known)
    (follows : (machine roots).Follows Settled world actions) :
    Sound known ((machine roots).run world actions) := by
  have allowed : (machine roots).Follows
      (fun current action => Settled current action ∧ ∀ value ∈ values action, value ∈ known)
      world actions := by
    refine follows.mono ?_
    intro current action member settled
    exact ⟨settled, fun value inside =>
      listed value (List.mem_flatMap.mpr ⟨action, member, inside⟩)⟩
  exact (machine roots).run_invariant_of_follows (Sound known)
    (fun current action conditions current' => current'.act free conditions.1 conditions.2) sound
    allowed

theorem follows_of_fine (sound : Sound known world) (free : CollisionFree known)
    {actions : List Action} (listed : ∀ value ∈ putValues actions, value ∈ known)
    (fine : ∀ earlier later, actions = earlier ++ later →
      Fine ((machine roots).run world earlier)) :
    (machine roots).Follows Settled world actions := by
  induction actions generalizing world with
  | nil => trivial
  | cons action rest ih =>
      have settled : Settled world action := by
        by_contra unsettled
        exact sound.not_fine unsettled (fine [action] rest rfl)
      have onwards : Sound known (world.act roots action) := by
        refine sound.act free settled ?_
        exact fun value inside => listed value (List.mem_append_left _ inside)
      refine ⟨settled, ih onwards ?_ ?_⟩
      · exact fun value inside => listed value (List.mem_append_right _ inside)
      · intro earlier later split
        exact fine (action :: earlier) later (by rw [split, List.cons_append])

/-- A job that has ended stays as it is. -/
theorem finished_act {job : Job} (found : world.jobs[number]? = some job)
    (finished : job.stage.finished = true) (action : Action) :
    (world.act roots action).jobs[number]? = some job := by
  obtain ⟨present, _⟩ := List.getElem?_eq_some_iff.mp found
  cases action with
  | put space value =>
      simp only [World.act]
      rw [List.getElem?_append_left present, found]
  | read other =>
      simp only [World.act]
      split
      · rw [List.getElem?_append_left present, found]
      · exact found
  | advance other count =>
      simp only [World.act]
      cases current : world.jobs[other]? with
      | none => exact found
      | some active =>
          dsimp only
          by_cases same : other = number
          · subst same
            rw [found, Option.some.injEq] at current
            subst current
            rw [jobStep_finished count finished, List.getElem?_set_self present]
          · rw [List.getElem?_set_ne same, found]
  | crash other =>
      simp only [World.act]
      cases current : world.jobs[other]? with
      | none => exact found
      | some active =>
          dsimp only
          by_cases same : other = number
          · subst same
            rw [found, Option.some.injEq] at current
            subst current
            rw [if_pos finished, found]
          · split
            · exact found
            · rw [List.getElem?_set_ne same, found]

/-- An action brings a job closer to its end if it advances the job, and is otherwise of no
effect on it or ends it. -/
theorem work_act (sound : Sound known world) (free : CollisionFree known) {job : Job}
    (found : world.jobs[number]? = some job) {action : Action} (settled : Settled world action) :
    ∃ next, (world.act roots action).jobs[number]? = some next ∧
      (next.stage.finished = true ∨ work next + advances number [action] ≤ work job) := by
  cases finished : job.stage.finished with
  | true => exact ⟨job, finished_act found finished action, Or.inl finished⟩
  | false =>
      obtain ⟨present, _⟩ := List.getElem?_eq_some_iff.mp found
      cases action with
      | put space value =>
          refine ⟨job, ?_, Or.inr (by simp [advances])⟩
          simp only [World.act]
          rw [List.getElem?_append_left present, found]
      | read other =>
          refine ⟨job, ?_, Or.inr (by simp [advances])⟩
          simp only [World.act]
          split
          · rw [List.getElem?_append_left present, found]
          · exact found
      | advance other count =>
          simp only [World.act]
          by_cases same : other = number
          · subst same
            obtain ⟨_, _, _, less⟩ := @jobStep_advanced roots world.files known world.jobs.length
              other sound.tidy free present count job (sound.jobs other job found) finished
              (fun space digest => settled job space digest found)
            refine ⟨{ job with stage := (job.step roots world.files other count).1 }, ?_,
              Or.inr ?_⟩
            · rw [found]
              exact List.getElem?_set_self present
            · simp only [advances, List.countP_cons_of_pos, List.countP_nil, beq_self_eq_true]
              omega
          · refine ⟨job, ?_, Or.inr (by simp [advances, same])⟩
            cases current : world.jobs[other]? with
            | none => exact found
            | some active =>
                dsimp only
                rw [List.getElem?_set_ne same, found]
      | crash other =>
          simp only [World.act]
          by_cases same : other = number
          · subst same
            refine ⟨{ job with stage := .crashed }, ?_, Or.inl rfl⟩
            rw [found]
            dsimp only
            rw [finished]
            exact List.getElem?_set_self present
          · refine ⟨job, ?_, Or.inr (by simp [advances])⟩
            cases current : world.jobs[other]? with
            | none => exact found
            | some active =>
                dsimp only
                split
                · exact found
                · rw [List.getElem?_set_ne same, found]

theorem JobSound.work_pos {job : Job} (sound : JobSound files number known job)
    (unfinished : job.stage.finished = false) : 0 < work job := by
  have reading (length : Nat) (reading : Reading) : 0 < readingWork length reading := by
    cases reading <;> simp [readingWork]
  obtain ⟨task, stage⟩ := job
  cases task with
  | put space value =>
      cases stage with
      | conflict current => simp [work, putWork]
      | check current => exact reading _ current
      | lookup => simp [work, putWork]
      | create => simp [work, putWork]
      | write inode rest => simp [work, putWork]
      | link => simp [work, putWork]
      | unlink error => simp [work, putWork]
      | _ => cases unfinished
  | read reference =>
      obtain ⟨_, _, _, _, sound⟩ := sound
      cases stage with
      | check current => exact reading _ current
      | delivered result => cases unfinished
      | crashed => cases unfinished
      | _ => cases sound

/-- A job that is advanced often enough comes to its end. -/
theorem run_returns (sound : Sound known world) (free : CollisionFree known)
    {actions : List Action} (listed : ∀ value ∈ putValues actions, value ∈ known)
    (follows : (machine roots).Follows Settled world actions) {job : Job}
    (found : world.jobs[number]? = some job)
    (enough : job.stage.finished = true ∨ work job ≤ advances number actions) :
    ∃ last, ((machine roots).run world actions).jobs[number]? = some last ∧
      last.stage.finished = true := by
  induction actions generalizing world job with
  | nil =>
      refine ⟨job, found, ?_⟩
      rcases enough with finished | none
      · exact finished
      · by_contra unfinished
        have positive := (sound.jobs number job found).work_pos (by simpa using unfinished)
        exact absurd none (Nat.not_le.mpr positive)
  | cons action rest ih =>
      have onwards : Sound known (world.act roots action) := by
        refine sound.act free follows.1 ?_
        exact fun value inside => listed value (List.mem_append_left _ inside)
      have inside : ∀ value ∈ putValues rest, value ∈ known :=
        fun value member => listed value (List.mem_append_right _ member)
      rcases enough with finished | enough
      · exact ih onwards inside follows.2 (finished_act found finished action) (Or.inl finished)
      · obtain ⟨next, found', closer⟩ := work_act sound free found follows.1
        refine ih onwards inside follows.2 found' (closer.imp id ?_)
        intro less
        have counted : advances number (action :: rest) =
            advances number [action] + advances number rest := by
          rw [advances, ← List.singleton_append, List.countP_append]
          rfl
        omega

/-! ## The law of concurrent puts -/

/-- Nothing fails at any moment of the run, and what is read is what was stored. -/
def AlwaysFine (roots : Roots) (actions : List Action) : Prop :=
  ∀ earlier later, actions = earlier ++ later → Fine ((machine roots).run World.empty earlier)

/-- Every job that is advanced often enough has ended when the run is over. -/
def Returns (roots : Roots) (actions : List Action) : Prop :=
  ∀ earlier later number job, actions = earlier ++ later →
    ((machine roots).run World.empty earlier).jobs[number]? = some job →
    work job ≤ advances number later →
    ∃ last, ((machine roots).run World.empty actions).jobs[number]? = some last ∧
      last.stage.finished = true

/-- Short of a collision among the stored values, nothing fails in a run exactly when no job
looks at a file that a writer has not yet unlinked, and then every job returns. -/
theorem fine_iff_settled (roots : Roots) (actions : List Action) :
    ¬ CollisionFree (putValues actions) ∨
      (AlwaysFine roots actions ↔ (machine roots).Follows Settled World.empty actions) ∧
      ((machine roots).Follows Settled World.empty actions → Returns roots actions) := by
  by_cases free : CollisionFree (putValues actions)
  · refine Or.inr ⟨⟨?_, ?_⟩, ?_⟩
    · exact fun fine => follows_of_fine (sound_empty _) free (fun _ member => member) fine
    · intro follows earlier later split
      rw [split, Machine.follows_append] at follows
      refine (run_sound (sound_empty (putValues actions)) free ?_ follows.1).fine free
      intro value member
      rw [split, putValues, List.flatMap_append]
      exact List.mem_append_left _ member
    · intro follows earlier later number job split found enough
      rw [split, Machine.follows_append] at follows
      have before : ∀ value ∈ putValues earlier, value ∈ putValues actions := by
        intro value member
        rw [split, putValues, List.flatMap_append]
        exact List.mem_append_left _ member
      have after : ∀ value ∈ putValues later, value ∈ putValues actions := by
        intro value member
        rw [split, putValues, List.flatMap_append]
        exact List.mem_append_right _ member
      have sound := run_sound (sound_empty (putValues actions)) free before follows.1
      rw [split, Machine.run_append]
      exact run_returns sound free after follows.2 found (Or.inr enough)
  · exact Or.inl free

/-- A put that is left alone, and a read of what it has returned. -/
example : (((machine ⟨"raw", "sanitized"⟩).run World.empty
    ([.put .raw [7]] ++ List.replicate 12 (.advance 0 0) ++ [.read 0] ++
      List.replicate 7 (.advance 1 0))).jobs.map fun job => match job.stage with
        | .stored reference => some reference.sizeBytes
        | .delivered value => some value.length
        | _ => none) = [some 1, some 1] := by
  decide +kernel

/-- A writer of the empty value dies after its link, and another one comes to verify it. -/
def abandoned : List Action :=
  [.put .raw [], .advance 0 0, .advance 0 0, .advance 0 0, .advance 0 0, .crash 0, .put .raw [],
    .advance 1 0, .advance 1 0, .advance 1 0]

theorem abandoned_fails : ¬ (¬ CollisionFree (putValues abandoned) ∨
    AlwaysFine ⟨"raw", "sanitized"⟩ abandoned) := by
  rintro (collides | fine)
  · refine collides ?_
    intro left inLeft right inRight _
    have only : ∀ value ∈ putValues abandoned, value = [] := by decide
    rw [only left inLeft, only right inRight]
  · have quiet := (fine abandoned [] (List.append_nil _).symm).quiet
    revert quiet
    decide +kernel

end CrossPatch.Evidence.Writers
