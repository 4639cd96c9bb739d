import CrossPatch.Broker.Containment
import CrossPatch.Broker.Warrant
import CrossPatch.Library.FileTree
import CrossPatch.Library.Lines

/-!
# Standalone worktrees

`EphemeralWorktree._prepare` extracts the bound commit into an empty directory, lets
`git apply` change it in whatever way it likes, and compares the trees before and after.
Git, the tar reader and the rest of the host are parameters; what they answer is checked
here.
-/

namespace CrossPatch.Runner.Worktree

open CrossPatch.Domain.Failure CrossPatch.Domain.Hashing CrossPatch.Domain.Text
open CrossPatch.Library CrossPatch.Library.Attempt CrossPatch.Library.FileTree
open CrossPatch.Library.JsonText CrossPatch.Library.Octets CrossPatch.Library.Sha256
open CrossPatch.Broker.Containment CrossPatch.Broker.Paths CrossPatch.Broker.Warrant
open CrossPatch.Runner.Catalog

/-! ## Trees and paths -/

/-- A name in a directory: neither empty nor with a slash in it. -/
abbrev FileName := { name : List Char // name ≠ [] ∧ '/' ∉ name }

structure SourceFile where
  content : Bytes
  executable : Bool

abbrev Tree := Node FileName SourceFile

/-- The names of a path, as `PurePosixPath` takes it apart. -/
def namesOf (path : String) : List FileName :=
  (components path).attachWith _ fun _ member =>
    ⟨(mem_components member).2.1, (mem_components member).1⟩

def textOf (names : List FileName) : String := pathOf (names.map Subtype.val)

def contentAt (names : List FileName) (tree : Tree) : Option Bytes :=
  (fileAt names tree).map SourceFile.content

/-! ## Extraction -/

inductive MemberKind where
  | directory
  | regular
  | other
deriving DecidableEq

/-- What the tar reader says about a member of the archive. -/
structure Member where
  name : String
  kind : MemberKind
  size : Nat
  executable : Bool
  content : Option Bytes

def maxArchiveBytes : Nat := 256 * 1024 * 1024

def maxArchiveFiles : Nat := 50000

def unsafeSnapshot (message : String) : Raised := ⟨.unsafeRepositorySnapshot, message⟩

def osError : Obstacle → Raised
  | .present => ⟨.fileExistsError, "File exists"⟩
  | .missing => ⟨.fileNotFoundError, "No such file or directory"⟩
  | .notDirectory => ⟨.notADirectoryError, "Not a directory"⟩

def safeMemberName (tables : UnicodeTables) (name : String) : Attempt (List FileName) := do
  require (name = tables.nfkc name ∧ '\\' ∉ name.toList ∧ '\x00' ∉ name.toList)
    (unsafeSnapshot "archive path is not canonical")
  require (startsWith name.toList "/" = false ∧ ['.', '.'] ∉ components name)
    (unsafeSnapshot "archive path escapes the standalone snapshot")
  require (".git".toList ∉ components name)
    (unsafeSnapshot "archive contains Git control metadata")
  .ok (namesOf name)

structure Extraction where
  seen : List String
  fileCount : Nat
  totalSize : Nat
  tree : Tree

def extractMember (tables : UnicodeTables) (state : Extraction) (member : Member) :
    Attempt Extraction := do
  let relative ← safeMemberName tables member.name
  let key := String.ofList (asPosix member.name.toList)
  require (key ∉ state.seen) (unsafeSnapshot "archive contains duplicate paths")
  match member.kind with
  | .directory =>
      let tree ← mapFailure osError (makeDirectories relative state.tree)
      .ok { state with seen := key :: state.seen, tree := tree }
  | .other => .error (unsafeSnapshot "archive contains a link or special file")
  | .regular =>
      require (state.fileCount + 1 ≤ maxArchiveFiles ∧
          state.totalSize + member.size ≤ maxArchiveBytes)
        (unsafeSnapshot "archive exceeds snapshot limits")
      let prepared ← mapFailure osError (makeDirectories relative.dropLast state.tree)
      match member.content with
      | none => .error (unsafeSnapshot "archive regular file has no content")
      | some content =>
          let tree ← mapFailure osError
            (createFile ⟨content, member.executable⟩ relative prepared)
          .ok ⟨key :: state.seen, state.fileCount + 1, state.totalSize + member.size, tree⟩

def extractRegularArchive (tables : UnicodeTables) (members : List Member) : Attempt Tree := do
  let state ← members.foldlM (extractMember tables) ⟨[], 0, 0, .directory []⟩
  .ok state.tree

/-! ## Manifests -/

/-- Paths with the digests of their files, in the order of the walk. -/
abbrev Manifest := List (String × String)

def isLinkedDirectory : Tree → Bool
  | .link toDirectory => toDirectory
  | _ => false

/-- The loop over `directory_names`. -/
def refuseLinkedDirectories (entries : List (FileName × Tree)) : Attempt Unit :=
  forEach (fun entry => require (isLinkedDirectory entry.2 = false)
    (unsafeSnapshot "snapshot directory contains a link")) entries

/-- The loop over `filenames`. -/
def recordFiles (parent : List FileName) : List (FileName × Tree) → Manifest → Attempt Manifest
  | [], manifest => .ok manifest
  | (name, .file file) :: rest, manifest => do
      let recorded := manifest ++ [(textOf (parent ++ [name]), hexdigest file.content)]
      require (recorded.length ≤ maxArchiveFiles)
        (unsafeSnapshot "snapshot contains too many files")
      recordFiles parent rest recorded
  | (_, .directory _) :: rest, manifest => recordFiles parent rest manifest
  | (_, .link true) :: rest, manifest => recordFiles parent rest manifest
  | (_, .link false) :: _, _ => .error (unsafeSnapshot "snapshot contains a link or special file")
  | (_, .special) :: _, _ => .error (unsafeSnapshot "snapshot contains a link or special file")

mutual

/-- `os.walk` from the top, without following links. -/
def walk (parent : List FileName) : Tree → Manifest → Attempt Manifest
  | .directory entries, manifest => do
      refuseLinkedDirectories entries
      let recorded ← recordFiles parent entries manifest
      walkEntries parent entries recorded
  | .file _, manifest => .ok manifest
  | .link _, manifest => .ok manifest
  | .special, manifest => .ok manifest

def walkEntries (parent : List FileName) : List (FileName × Tree) → Manifest → Attempt Manifest
  | [], manifest => .ok manifest
  | (name, node) :: rest, manifest => do
      let walked ← walk (parent ++ [name]) node manifest
      walkEntries parent rest walked

end

def treeManifest (root : Tree) : Attempt Manifest := walk [] root []

def sealEntry : FileName × Tree → Attempt Unit
  | (_, .link false) => .error (unsafeSnapshot "candidate tree contains a special file")
  | (_, .special) => .error (unsafeSnapshot "candidate tree contains a special file")
  | (_, .link true) => .error (unsafeSnapshot "candidate tree contains a special directory")
  | (_, .file _) => .ok ()
  | (_, .directory _) => .ok ()

mutual

/-- `os.walk` from the bottom; modes are not part of the tree. -/
def sealCandidateTree : Tree → Attempt Unit
  | .directory entries => do
      sealBelow entries
      forEach sealEntry entries
  | .file _ => .ok ()
  | .link _ => .ok ()
  | .special => .ok ()

def sealBelow : List (FileName × Tree) → Attempt Unit
  | [] => .ok ()
  | (_, node) :: rest => do
      sealCandidateTree node
      sealBelow rest

end

/-! ## Preparation -/

/-- A directory tree as the operating system keeps it. -/
structure Checkout where
  entries : List (FileName × Tree)
  wellFormed : WellFormed (.directory entries : Tree)

/-- What `_prepare` asks of the host: the authority's repository, the four Git commands
with their output or their refusal, the tar reader, and where the workspace is. -/
structure Host where
  isDirectory : Attempt Bool
  revParse : String → Attempt Bytes
  lsTree : String → Attempt Bytes
  archive : String → Attempt (Option Bytes)
  readArchive : Bytes → Attempt (List Member)
  applyPatch : Tree → Bytes → Attempt (Option Checkout)
  workspace : String

/-- The policy's questions about an extracted tree.  Without links on the way a path
leaves the root only by a `..`. -/
def fileSystem (root : Tree) : FileSystem where
  resolveRoot path := .ok path
  isSymlink _ parts :=
    match nodeAt (namesOf (pathOf parts)) root with
    | some (.link _) => .ok true
    | _ => .ok false
  staysInside _ path := .ok (decide (['.', '.'] ∉ components path))

def contextFormat : String := "crosspatch-candidate-context-v1"

def digestJson (manifest : Manifest) (path : String) : Json :=
  match manifest.lookup path with
  | some digest => .str digest
  | none => .null

def contextJson (document : WarrantDocument) (workspace : String) (base candidate : Manifest) :
    Json :=
  .obj [("allowed_paths", texts document.allowedPaths),
    ("base_file_sha256", .obj (document.allowedPaths.map fun path => (path, digestJson base path))),
    ("base_sha", .str document.baseSha),
    ("candidate_file_sha256",
      .obj (document.allowedPaths.map fun path => (path, digestJson candidate path))),
    ("candidate_root", .str workspace),
    ("format", .str contextFormat),
    ("patch_sha256", .str document.patchSha256)]

def changedPaths (base candidate : Manifest) : List String :=
  sortedSet ((base.map Prod.fst ++ candidate.map Prod.fst).filter fun path =>
    base.lookup path != candidate.lookup path)

structure PreparedWorkspace where
  tree : Tree
  context : Bytes

section Prepare

variable (tables : UnicodeTables) (host : Host) (document : WarrantDocument)

/-- `decode("ascii").strip()` of the output of a Git command. -/
def asciiOutput (output : Bytes) : Attempt String :=
  match decodeUtf8 output with
  | some text =>
      if isAscii text then .ok (String.ofList (Lines.trim isSpace text.toList))
      else raise .unicodeDecodeError "ordinal not in range(128)"
  | none => raise .unicodeDecodeError "ordinal not in range(128)"

def materialize : Attempt Tree := do
  let directory ← host.isDirectory
  require (directory = true) (unsafeSnapshot "authority repository root is not a directory")
  let output ← host.revParse document.baseSha
  let resolvedCommit ← asciiOutput output
  require (resolvedCommit = document.baseSha)
    (unsafeSnapshot "base SHA does not resolve to the exact bound commit")
  let listing ← host.lsTree document.baseSha
  require (hexdigest listing = document.repositoryManifestSha256)
    (unsafeSnapshot "repository manifest changed from the warrant")
  match ← host.archive document.baseSha with
  | none => .error (unsafeSnapshot "failed to materialize the bounded source archive")
  | some archive =>
      require (archive.length ≤ maxArchiveBytes)
        (unsafeSnapshot "failed to materialize the bounded source archive")
      let members ← host.readArchive archive
      extractRegularArchive tables members

def applyApproved (base : Tree) : Attempt PreparedWorkspace := do
  let patch ← document.patchBytes
  let _ ← validateDeclaredPatchPaths tables (fileSystem base) host.workspace patch
    document.allowedPaths
  let baseManifest ← treeManifest base
  match ← host.applyPatch base patch with
  | none => .error (unsafeSnapshot "approved patch does not apply to the bound base")
  | some candidate =>
      let candidateManifest ← treeManifest (.directory candidate.entries)
      require (changedPaths baseManifest candidateManifest = document.allowedPaths)
        (unsafeSnapshot "resulting tree changed outside exact allowed paths")
      let context ← canonicalJson tables
        (contextJson document host.workspace baseManifest candidateManifest)
      sealCandidateTree (.directory candidate.entries)
      .ok ⟨.directory candidate.entries, context⟩

def prepare : Attempt PreparedWorkspace := do
  let base ← materialize tables host document
  applyApproved tables host document base

end Prepare

end CrossPatch.Runner.Worktree
