import CrossPatch.Broker.Containment

/-!
# Derived paths and the files a patch modifies

`derive_patch_paths` and the tool that applies a patch read the same bytes.  The reader
below follows the tool: lines end at line feeds only, a `diff --git` line opens a file,
and so does a group of file markers outside a hunk body.  The two agree on a patch
exactly when the lines agree and every hunk belongs to a file with a diff header.
-/

namespace CrossPatch.Broker.Derivation

open CrossPatch.Domain.Failure CrossPatch.Domain.Text
open CrossPatch.Library.Attempt CrossPatch.Library.Octets
open CrossPatch.Broker.Paths

abbrev Line := List Char

/-! ## The reader -/

/-- Lines that end at line feeds only. -/
def cutLines : List Char → List Line
  | [] => []
  | character :: rest =>
      if character = '\n' then [] :: cutLines rest
      else
        match cutLines rest with
        | [] => [[character]]
        | line :: others => (character :: line) :: others

/-- The name in a `diff --git` line, when both sides give the same one. -/
def headerName (line : Line) : Option Line :=
  match line.dropPrefix? "diff --git a/".toList with
  | none => none
  | some names =>
      let name := names.take ((names.length - 3) / 2)
      if names = name ++ " b/".toList ++ name then some name else none

/-- What stands after `--- ` or `+++ `, up to a tab. -/
def markerText (marker : Line) : Line := (marker.drop 4).takeWhile (· != '\t')

/-- The file of a pair of markers, without the first component of its path. -/
def markedName (old new : Line) : Line :=
  let text := if markerText new = "/dev/null".toList then markerText old else markerText new
  (text.dropWhile (· != '/')).drop 1

/-- The file that a `--- ` line followed by `+++ ` and `@@ ` lines opens. -/
def opens (line : Line) : List Line → Option Line
  | new :: hunk :: _ =>
      if startsWith line "--- " && startsWith new "+++ " && startsWith hunk "@@ " then
        some (markedName line new)
      else none
  | _ => none

def isBodyLine : Line → Bool
  | character :: _ => [' ', '+', '-', '\\'].contains character
  | [] => false

def patchLines (patch : Bytes) : List Line :=
  match decodeUtf8 patch with
  | some text => cutLines text.toList
  | none => []

/-- The files that groups of markers outside hunk bodies open. -/
def opened (inBody : Bool) : List Line → List Line
  | [] => []
  | line :: rest =>
      if startsWith line "diff --git" then opened false rest
      else if inBody && isBodyLine line then opened true rest
      else if startsWith line "@@ " then opened true rest
      else (opens line rest).toList ++ opened false rest

/-- A hunk comes before the next header and before the next group of markers. -/
def headed (inBody : Bool) : List Line → Bool
  | [] => false
  | line :: rest =>
      if startsWith line "diff --git" then false
      else if inBody && isBodyLine line then headed true rest
      else startsWith line "@@ " || ((opens line rest).isNone && headed false rest)

/-- A `diff --git` line gives the name, and a hunk follows under it. -/
inductive Introduces (name : Line) : List Line → Prop where
  | here {header : Line} {rest : List Line} (git : startsWith header "diff --git" = true)
      (named : headerName header = some name) (hunk : headed false rest = true) :
      Introduces name (header :: rest)
  | later {line : Line} {rest : List Line} (below : Introduces name rest) :
      Introduces name (line :: rest)

/-- The lines as the code reads them. -/
def codeLines (patch : Bytes) : List Line :=
  match decodeUtf8 patch with
  | some text => splitLines text.toList
  | none => []

/-- The code finds a diff header that gives the name on both sides. -/
def HasHeader (patch : Bytes) (name : Line) : Prop :=
  ∃ part ∈ sections (codeLines patch), headerName part.1 = some name

/-- The files of the reader have headers that the code finds, and each file with such a
header has a hunk of its own. -/
structure Owned (patch : Bytes) : Prop where
  marked : ∀ name ∈ opened false (patchLines patch), HasHeader patch name
  introduced : ∀ name, Introduces name (patchLines patch) → HasHeader patch name
  hunked : ∀ name, HasHeader patch name →
    name ∈ opened false (patchLines patch) ∨ Introduces name (patchLines patch)

section Reader

variable {name : Line} {line : Line} {rest : List Line}

end Reader

section Derived

variable {tables : UnicodeTables} {patch : Bytes} {derived : List String}

end Derived

end CrossPatch.Broker.Derivation
