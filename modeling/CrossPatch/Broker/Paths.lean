import CrossPatch.Domain.Text
import CrossPatch.Library.Octets

/-!
# Patch paths

The path policy and the strict reader of unified diffs.  The repository on disk
is seen through three questions, each of which may fail; everything else is
computed from the text.
-/

namespace CrossPatch.Broker.Paths

open CrossPatch.Domain.Failure CrossPatch.Domain.Text
open CrossPatch.Library.Attempt CrossPatch.Library.Octets

/-- Parts of paths are compared in many places. -/
instance lawfulBEqPart : LawfulBEq (List Char) := inferInstance

/-! ## Path policy -/

def protectedExact : List String :=
  [".gitmodules", "compose.yaml", "compose.yml", "docker-compose.yaml", "docker-compose.yml",
   "package-lock.json", "package.json", "pnpm-lock.yaml", "pyproject.toml", "uv.lock",
   "yarn.lock"]

def protectedLeads : List String :=
  [".git/", ".github/", ".superpowers/", "backend/src/crosspatch/broker/",
   "backend/src/crosspatch/runner/", "docs/", "infra/"]

def startsWith (text : List Char) (lead : String) : Bool := lead.toList.isPrefixOf text

def splitSlash : List Char → List (List Char)
  | [] => [[]]
  | character :: rest =>
      match splitSlash rest with
      | [] => [[character]]
      | part :: others =>
          if character = '/' then [] :: part :: others else (character :: part) :: others

/-- `PurePosixPath(text).parts` of a relative path. -/
def pureParts (text : List Char) : List (List Char) :=
  (splitSlash text).filter fun part => part != [] && part != ['.']

def joinSlash : List (List Char) → List Char
  | [] => []
  | [part] => part
  | part :: rest => part ++ '/' :: joinSlash rest

/-- `PurePosixPath(text).as_posix()` of a relative path. -/
def asPosix (text : List Char) : List Char :=
  match pureParts text with
  | [] => ['.']
  | parts => joinSlash parts

/-- An absolute Windows path without backslashes that is not an absolute POSIX
path: a drive followed by a slash. -/
def windowsAbsolute : List Char → Bool
  | _ :: ':' :: '/' :: _ => true
  | _ => false

def drivePrefixed : List Char → Bool
  | letter :: ':' :: _ => ('A' ≤ letter ∧ letter ≤ 'Z') ∨ ('a' ≤ letter ∧ letter ≤ 'z')
  | _ => false

def normalizeCandidatePath (tables : UnicodeTables) (value : String) : Attempt String := do
  require (value ≠ "") ⟨.pathPolicyViolation, "patch paths must be non-empty strings"⟩
  require (tables.nfkc value = value)
    ⟨.pathPolicyViolation, "patch paths must already be Unicode-normalized"⟩
  let text := value.toList
  require ('\x00' ∉ text ∧ '\\' ∉ text)
    ⟨.pathPolicyViolation, "patch paths cannot contain NUL or backslash characters"⟩
  require ((startsWith text "/" || windowsAbsolute text || drivePrefixed text) = false)
    ⟨.pathPolicyViolation, "absolute patch paths are forbidden"⟩
  require (text = asPosix text ∧ ['.', '.'] ∉ pureParts text)
    ⟨.pathPolicyViolation, "patch paths must already be normalized and cannot traverse"⟩
  .ok (String.ofList (asPosix text))

def isProtected (path : String) : Bool :=
  protectedExact.contains path || protectedLeads.any (startsWith path.toList) ||
    (pureParts path.toList).contains "tests".toList

/-- What the policy asks about the repository on disk. -/
structure FileSystem where
  resolveRoot : String → Attempt String
  isSymlink : String → List (List Char) → Attempt Bool
  staysInside : String → String → Attempt Bool

section Repository

variable (tables : UnicodeTables) (files : FileSystem)

/-- No ancestor of the path, nor the path itself, is a symbolic link. -/
def refuseSymlinks (root path : String) (parts : List (List Char)) : Attempt Unit :=
  forEach (fun ancestor => do
    let linked ← files.isSymlink root ancestor
    require (linked = false)
      ⟨.pathPolicyViolation, "patch path contains a symlink: " ++ path⟩)
    parts.inits.tail

def validatePatchPath (root value : String) : Attempt String := do
  let normalized ← normalizeCandidatePath tables value
  require (isProtected normalized = false)
    ⟨.pathPolicyViolation, "runner-owned or protected path: " ++ normalized⟩
  refuseSymlinks files root normalized (pureParts normalized.toList)
  let inside ← files.staysInside root normalized
  require (inside = true) ⟨.pathPolicyViolation, "patch path escapes the repository root"⟩
  .ok normalized

def sortedSet (paths : List String) : List String := paths.dedup.insertionSort (· ≤ ·)

def validatePatchPaths (repositoryRoot : String) (paths : List String) :
    Attempt (List String) := do
  let root ← files.resolveRoot repositoryRoot
  let canonical ← collect (validatePatchPath tables files root) paths
  require (canonical ≠ [])
    ⟨.pathPolicyViolation, "a warrant must bind at least one patch path"⟩
  .ok (sortedSet canonical)

end Repository

/-! ## Unified diffs -/

/-- Line boundaries of `str.splitlines`. -/
def isLineBreak (character : Char) : Bool :=
  let code := character.toNat
  (10 ≤ code && code ≤ 13) || (28 ≤ code && code ≤ 30) || code == 0x85 || code == 0x2028 ||
    code == 0x2029

def splitLines : List Char → List (List Char)
  | [] => []
  | '\r' :: '\n' :: rest => [] :: splitLines rest
  | character :: rest =>
      if isLineBreak character then [] :: splitLines rest
      else
        match splitLines rest with
        | [] => [[character]]
        | line :: others => (character :: line) :: others

def unsafeControls : List String :=
  ["rename from ", "rename to ", "copy from ", "copy to ", "similarity index ",
   "dissimilarity index ", "old mode ", "new mode ", "new file mode ", "deleted file mode ",
   "GIT binary patch", "Binary files "]

def maxPatchBytes : Nat := 1048576

def isHeaderCharacter (character : Char) : Bool :=
  !isSpace character && character != '"' && character != '\\'

/-- The pattern `diff --git a/([^\s"\\]+) b/([^\s"\\]+)`. -/
def diffHeader (line : List Char) : Option (List Char × List Char) := do
  let rest ← line.dropPrefix? "diff --git a/".toList
  let oldPath := rest.takeWhile isHeaderCharacter
  let newPath ← (rest.dropWhile isHeaderCharacter).dropPrefix? " b/".toList
  if oldPath ≠ [] ∧ newPath ≠ [] ∧ newPath.all isHeaderCharacter then some (oldPath, newPath)
  else none

/-- The pattern `[0-9a-f]{7,64}`, followed by the given continuation. -/
def hexRun (text : List Char) (next : List Char → Bool) : Bool :=
  let digits := text.takeWhile isLowerHex
  7 ≤ digits.length && digits.length ≤ 64 && next (text.dropWhile isLowerHex)

/-- The pattern `index [0-9a-f]{7,64}\.\.[0-9a-f]{7,64} (100644|100755)`. -/
def indexLine (line : List Char) : Bool :=
  match line.dropPrefix? "index ".toList with
  | none => false
  | some rest =>
      hexRun rest fun afterOld =>
        match afterOld.dropPrefix? "..".toList with
        | none => false
        | some newSide =>
            hexRun newSide fun mode =>
              mode == " 100644".toList || mode == " 100755".toList

/-- Group the lines of a diff into sections, each with its header line. -/
def sections : List (List Char) → List (List Char × List (List Char))
  | [] => []
  | line :: rest =>
      if startsWith line "diff " then
        (line, rest.takeWhile fun other => !startsWith other "diff ") :: sections rest
      else sections rest

def sectionPath (tables : UnicodeTables) (header : List Char) (body : List (List Char)) :
    Attempt String := do
  let (oldText, newText) ←
    match diffHeader header with
    | some paths => .ok paths
    | none => raise .patchFormatViolation "diff header contains an unsupported path encoding"
  let oldPath ← normalizeCandidatePath tables (String.ofList oldText)
  let newPath ← normalizeCandidatePath tables (String.ofList newText)
  require (oldPath = newPath)
    ⟨.patchFormatViolation, "cross-path changes, renames, and copies are forbidden"⟩
  require (isProtected oldPath = false)
    ⟨.pathPolicyViolation, "runner-owned or protected path: " ++ oldPath⟩
  require (body.any (fun line => unsafeControls.any (startsWith line)) = false)
    ⟨.patchFormatViolation, "diff contains binary, rename, copy, or mode controls"⟩
  let indexLines := body.filter (startsWith · "index ")
  require (indexLines.length = 1 ∧ indexLines.all indexLine = true)
    ⟨.patchFormatViolation, "diff must bind one regular-file index line"⟩
  require (body.count ("--- a/" ++ oldPath).toList = 1 ∧
      body.count ("+++ b/" ++ newPath).toList = 1)
    ⟨.patchFormatViolation, "diff file markers do not match the header path"⟩
  require (body.any (startsWith · "@@ ") = true)
    ⟨.patchFormatViolation, "diff section contains no text hunk"⟩
  .ok oldPath

def derivePatchPaths (tables : UnicodeTables) (patch : Bytes) : Attempt (List String) := do
  require (patch ≠ []) ⟨.patchFormatViolation, "patch bytes must not be empty"⟩
  require (patch.length ≤ maxPatchBytes)
    ⟨.patchFormatViolation, "patch exceeds the one-megabyte broker limit"⟩
  require (0 ∉ patch) ⟨.patchFormatViolation, "patch bytes contain NUL"⟩
  require (13 ∉ patch) ⟨.patchFormatViolation, "patch must use canonical LF line endings"⟩
  require (patch.getLast? = some 10) ⟨.patchFormatViolation, "patch must end with LF"⟩
  let text ←
    match decodeUtf8 patch with
    | some text => .ok text
    | none => raise .patchFormatViolation "patch must be valid UTF-8"
  let lines := splitLines text.toList
  require (lines.head?.any (startsWith · "diff ") = true)
    ⟨.patchFormatViolation, "patch must start with a diff --git header"⟩
  let derived ← collect (fun part => sectionPath tables part.1 part.2) (sections lines)
  require derived.Nodup
    ⟨.patchFormatViolation, "a patch path may appear in only one diff section"⟩
  .ok (derived.insertionSort (· ≤ ·))

/-- Require the declared paths to be exactly those of the patch bytes. -/
def validateDeclaredPatchPaths (tables : UnicodeTables) (files : FileSystem)
    (repositoryRoot : String) (patch : Bytes) (declaredPaths : List String) :
    Attempt (List String) := do
  let derived ← derivePatchPaths tables patch
  let declared ← validatePatchPaths tables files repositoryRoot declaredPaths
  require (declared = derived)
    ⟨.pathPolicyViolation, "declared paths do not match paths derived from patch bytes"⟩
  let validated ← validatePatchPaths tables files repositoryRoot derived
  require (validated = derived)
    ⟨.pathPolicyViolation, "derived patch paths are not canonical"⟩
  .ok derived

/-! ## Accepted paths -/

theorem normalizeCandidatePath_eq_ok {tables : UnicodeTables} {value path : String}
    (accepted : normalizeCandidatePath tables value = .ok path) :
    path = value ∧ tables.nfkc value = value := by
  simp only [normalizeCandidatePath, bind_eq_ok, require_eq_ok, Except.ok.injEq] at accepted
  obtain ⟨_, _, _, normal, _, _, _, _, _, ⟨posix, _⟩, rfl⟩ := accepted
  rw [← posix, String.ofList_toList]
  exact ⟨rfl, normal⟩

theorem validatePatchPath_eq_ok {tables : UnicodeTables} {files : FileSystem}
    {root value path : String} (accepted : validatePatchPath tables files root value = .ok path) :
    path = value ∧ tables.nfkc value = value := by
  simp only [validatePatchPath, bind_eq_ok, require_eq_ok, Except.ok.injEq] at accepted
  obtain ⟨normalized, normalizedOk, _, _, _, _, _, _, _, _, rfl⟩ := accepted
  exact normalizeCandidatePath_eq_ok normalizedOk

theorem collect_validatePatchPath {tables : UnicodeTables} {files : FileSystem}
    {root : String} {paths canonical : List String}
    (collected : collect (validatePatchPath tables files root) paths = .ok canonical) :
    canonical = paths ∧ ∀ path ∈ paths, tables.nfkc path = path := by
  induction paths generalizing canonical with
  | nil =>
      cases collected
      exact ⟨rfl, fun _ member => absurd member List.not_mem_nil⟩
  | cons path rest ih =>
      simp only [collect, bind_eq_ok, Except.ok.injEq] at collected
      obtain ⟨first, firstOk, others, othersOk, rfl⟩ := collected
      obtain ⟨rfl, normal⟩ := validatePatchPath_eq_ok firstOk
      obtain ⟨rfl, normals⟩ := ih othersOk
      exact ⟨rfl, List.forall_mem_cons.mpr ⟨normal, normals⟩⟩

theorem validatePatchPaths_eq_ok {tables : UnicodeTables} {files : FileSystem}
    {root : String} {paths result : List String}
    (accepted : validatePatchPaths tables files root paths = .ok result) :
    result = sortedSet paths ∧ ∀ path ∈ paths, tables.nfkc path = path := by
  simp only [validatePatchPaths, bind_eq_ok, require_eq_ok, Except.ok.injEq] at accepted
  obtain ⟨resolved, _, canonical, collected, _, _, rfl⟩ := accepted
  obtain ⟨rfl, normals⟩ := collect_validatePatchPath collected
  exact ⟨rfl, normals⟩

/-- Declared paths that are sorted and free of duplicates are exactly the
derived ones. -/
theorem validateDeclaredPatchPaths_eq_ok {tables : UnicodeTables} {files : FileSystem}
    {root : String} {patch : Bytes} {declared result : List String}
    (accepted : validateDeclaredPatchPaths tables files root patch declared = .ok result)
    (distinct : declared.Nodup) (sorted : declared.insertionSort (· ≤ ·) = declared) :
    derivePatchPaths tables patch = .ok declared ∧
      ∀ path ∈ declared, tables.nfkc path = path := by
  simp only [validateDeclaredPatchPaths, bind_eq_ok, require_eq_ok, Except.ok.injEq] at accepted
  obtain ⟨derived, derivedOk, canonical, canonicalOk, _, rfl, _⟩ := accepted
  obtain ⟨rfl, normals⟩ := validatePatchPaths_eq_ok canonicalOk
  rw [sortedSet, distinct.dedup, sorted] at derivedOk
  exact ⟨derivedOk, normals⟩

end CrossPatch.Broker.Paths
