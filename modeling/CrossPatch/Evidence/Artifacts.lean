import CrossPatch.Domain.Failure
import CrossPatch.Library.Disk
import CrossPatch.Library.Runs
import CrossPatch.Library.Sha256

/-!
# Content-addressed artifacts

Writers publish a value under its digest: they write a temporary file of their own, link
it to its final name and unlink the temporary one.  Readers and writers verify what
stands under the final name, and accept only a file with a single link.  Every job, a put
or a read, takes one file operation at a time, in any order with the others, and may die
between two of them.  The random part of a temporary name is the number of its job.
-/

namespace CrossPatch.Evidence.Artifacts

open CrossPatch.Domain.Failure
open CrossPatch.Library CrossPatch.Library.Attempt CrossPatch.Library.Octets
open CrossPatch.Library.Runs CrossPatch.Library.Sha256

/-! ## Paths and metadata -/

inductive Space where
  | raw
  | sanitized
  deriving DecidableEq

inductive Name where
  | blob (space : Space) (digest : String)
  | temporary (space : Space) (digest : String) (job : Nat)
  deriving DecidableEq

abbrev Files := Disk Name UInt8

/-- The directories of one incident. -/
structure Roots where
  raw : String
  sanitized : String

def Roots.root (roots : Roots) : Space → String
  | .raw => roots.raw
  | .sanitized => roots.sanitized

def fileName (digest : String) : String := digest ++ ".blob"

def path (roots : Roots) (space : Space) (digest : String) : String :=
  roots.root space ++ "/" ++ String.ofList (digest.toList.take 2) ++ "/" ++ fileName digest

def fileMode : Nat := 0o600

structure Metadata where
  inode : Nat
  size : Nat
  links : Nat
  mode : Nat
  deriving DecidableEq

def fstat (files : Files) (inode : Nat) : Metadata :=
  ⟨inode, (files.content inode).length, files.links inode, files.mode inode⟩

/-- Every file here is a regular one. -/
def validatePrivateRegular (path : String) (metadata : Metadata) : Attempt Unit := do
  require (metadata.links = 1)
    ⟨.unsafeArtifactPath, "artifact is not a single-link regular file: " ++ path⟩
  require (metadata.mode = fileMode)
    ⟨.unsafeArtifactPath, "artifact mode is not 0600: " ++ path⟩

/-! ## Reading -/

/-- What `_read_private_regular` does next. -/
inductive Reading where
  | opening
  | stat (inode : Nat)
  | content (before : Metadata) (seen : Bytes)
  | restat (before : Metadata) (value : Bytes)
  | lstat (after : Metadata) (value : Bytes)

variable (roots : Roots)

/-- One file operation; a read of the descriptor takes `count + 1` bytes at most. -/
def Reading.step (files : Files) (space : Space) (digest : String) (count : Nat) :
    Reading → Attempt (Reading ⊕ Bytes × Metadata)
  | .opening =>
      match files.find (.blob space digest) with
      | none => raise .fileNotFoundError (path roots space digest)
      | some inode => .ok (.inl (.stat inode))
  | .stat inode => do
      validatePrivateRegular (path roots space digest) (fstat files inode)
      .ok (.inl (.content (fstat files inode) []))
  | .content before seen =>
      match ((files.content before.inode).drop seen.length).take (count + 1) with
      | [] => .ok (.inl (.restat before seen))
      | chunk => .ok (.inl (.content before (seen ++ chunk)))
  | .restat before value => do
      let metadata := fstat files before.inode
      validatePrivateRegular (path roots space digest) metadata
      require (before.inode = metadata.inode ∧ before.size = metadata.size)
        ⟨.artifactIntegrityError, "artifact changed while being read: " ++ fileName digest⟩
      .ok (.inl (.lstat metadata value))
  | .lstat after value =>
      match files.find (.blob space digest) with
      | none => raise .fileNotFoundError (path roots space digest)
      | some inode => do
          require (inode = after.inode)
            ⟨.unsafeArtifactPath,
              "artifact path changed while being read: " ++ path roots space digest⟩
          .ok (.inr (value, after))

/-- The checks of `_verify_existing` and of `_read_verified`. -/
def verified (digest : String) (size : Nat) (found : Bytes × Metadata) : Attempt Bytes := do
  require (found.2.size = size)
    ⟨.artifactIntegrityError, "artifact size mismatch: " ++ fileName digest⟩
  require (hexdigest found.1 = digest)
    ⟨.artifactIntegrityError, "artifact hash mismatch: " ++ fileName digest⟩
  .ok found.1

def Reading.verify (files : Files) (space : Space) (digest : String) (size count : Nat)
    (reading : Reading) : Attempt (Reading ⊕ Bytes) := do
  match ← reading.step roots files space digest count with
  | .inl next => .ok (.inl next)
  | .inr found => do
      let value ← verified digest size found
      .ok (.inr value)

/-! ## Jobs -/

/-- A `RawArtifactRef` or a `SanitizedArtifactRef` of the incident. -/
structure Reference where
  space : Space
  sha256 : String
  sizeBytes : Nat
  deriving DecidableEq

inductive Task where
  | put (space : Space) (value : Bytes)
  | read (reference : Reference)

inductive Stage where
  | lookup
  | create
  | write (inode : Nat) (rest : Bytes)
  | link
  | conflict (reading : Reading)
  | unlink (error : Option Raised)
  | check (reading : Reading)
  | stored (reference : Reference)
  | delivered (value : Bytes)
  | failed (error : Raised)
  | crashed

structure Job where
  task : Task
  stage : Stage

/-- `_put`, one file operation at a time; a write takes `count + 1` bytes at most. -/
def putStep (files : Files) (job count : Nat) (space : Space) (value : Bytes) :
    Stage → Stage × Files :=
  let digest := hexdigest value
  let temporary := Name.temporary space digest job
  fun stage => match stage with
  | .lookup =>
      if files.find (.blob space digest) = none then (.create, files) else (.check .opening, files)
  | .create =>
      if files.find temporary = none then
        (.write files.files.length value, files.create temporary fileMode)
      else (.unlink (some ⟨.fileExistsError, "temporary file"⟩), files)
  | .write inode rest =>
      if rest = [] then (.link, files)
      else (.write inode (rest.drop (count + 1)), files.append inode (rest.take (count + 1)))
  | .link =>
      match files.find temporary with
      | none => (.unlink (some ⟨.fileNotFoundError, "temporary file"⟩), files)
      | some inode =>
          if files.find (.blob space digest) = none then
            (.unlink none, files.link inode (.blob space digest))
          else (.conflict .opening, files)
  | .conflict reading =>
      match reading.verify roots files space digest value.length count with
      | .error error => (.unlink (some error), files)
      | .ok (.inl next) => (.conflict next, files)
      | .ok (.inr _) => (.unlink none, files)
  | .unlink (some error) => (.failed error, files.unlink temporary)
  | .unlink none => (.check .opening, files.unlink temporary)
  | .check reading =>
      match reading.verify roots files space digest value.length count with
      | .error error => (.failed error, files)
      | .ok (.inl next) => (.check next, files)
      | .ok (.inr _) => (.stored ⟨space, digest, value.length⟩, files)
  | done => (done, files)

/-- `read_raw` or `read_sanitized`. -/
def readStep (files : Files) (count : Nat) (reference : Reference) : Stage → Stage
  | .check reading =>
      match reading.verify roots files reference.space reference.sha256 reference.sizeBytes count
        with
      | .error error => .failed error
      | .ok (.inl next) => .check next
      | .ok (.inr value) => .delivered value
  | done => done

/-! ## Runs -/

structure World where
  files : Files
  jobs : List Job

def World.empty : World := ⟨.empty, []⟩

inductive Action where
  | put (space : Space) (value : Bytes)
  | read (job : Nat)
  | advance (job count : Nat)
  | crash (job : Nat)

def Job.step (files : Files) (number count : Nat) (job : Job) : Stage × Files :=
  match job.task with
  | .put space value => putStep roots files number count space value job.stage
  | .read reference => (readStep roots files count reference job.stage, files)

def Stage.finished : Stage → Bool
  | .stored _ | .delivered _ | .failed _ | .crashed => true
  | _ => false

/-- A read is given the reference that a put has returned. -/
def World.act (world : World) : Action → World
  | .put space value => { world with jobs := world.jobs ++ [⟨.put space value, .lookup⟩] }
  | .read number =>
      match world.jobs[number]? with
      | some ⟨_, .stored reference⟩ =>
          { world with jobs := world.jobs ++ [⟨.read reference, .check .opening⟩] }
      | _ => world
  | .advance number count =>
      match world.jobs[number]? with
      | some job =>
          { files := (job.step roots world.files number count).2
            jobs := world.jobs.set number
              { job with stage := (job.step roots world.files number count).1 } }
      | none => world
  | .crash number =>
      match world.jobs[number]? with
      | some job =>
          if job.stage.finished then world
          else { world with jobs := world.jobs.set number { job with stage := .crashed } }
      | none => world

def machine : Machine World Action Empty where
  step world action := (world.act roots action, [])

end CrossPatch.Evidence.Artifacts
