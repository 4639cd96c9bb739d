import CrossPatch.Broker.Paths

/-!
# Containment of accepted paths

What the path policy guarantees about the paths it lets through, and which
paths it overlooks: the root itself, the protected directories without a path
below them, and whatever lies below a protected file.
-/

namespace CrossPatch.Broker.Containment

open CrossPatch.Domain.Failure CrossPatch.Domain.Text
open CrossPatch.Library.Attempt CrossPatch.Library.Octets
open CrossPatch.Broker.Paths

/-! ## Splitting and joining -/

theorem splitSlash_ne_nil (text : List Char) : splitSlash text ≠ [] := by
  induction text with
  | nil => exact List.cons_ne_nil _ _
  | cons character rest ih =>
      rw [splitSlash]
      split
      · exact List.cons_ne_nil _ _
      · split <;> exact List.cons_ne_nil _ _

theorem splitSlash_slash (rest : List Char) : splitSlash ('/' :: rest) = [] :: splitSlash rest := by
  rw [splitSlash]
  split
  · rename_i empty
    exact absurd empty (splitSlash_ne_nil rest)
  · rename_i part others split
    rw [if_pos rfl, split]

theorem splitSlash_cons {character : Char} {rest part : List Char} {others : List (List Char)}
    (plain : character ≠ '/') (split : splitSlash rest = part :: others) :
    splitSlash (character :: rest) = (character :: part) :: others := by
  rw [splitSlash, split]
  exact if_neg plain

theorem joinSlash_cons (part : List Char) {parts : List (List Char)} (nonempty : parts ≠ []) :
    joinSlash (part :: parts) = part ++ '/' :: joinSlash parts := by
  cases parts with
  | nil => exact absurd rfl nonempty
  | cons next others => rfl

theorem joinSlash_append {parts rest : List (List Char)} (left : parts ≠ []) (right : rest ≠ []) :
    joinSlash (parts ++ rest) = joinSlash parts ++ '/' :: joinSlash rest := by
  induction parts with
  | nil => exact absurd rfl left
  | cons part parts ih =>
      rw [List.cons_append, joinSlash_cons part (List.append_ne_nil_of_right_ne_nil parts right)]
      cases parts with
      | nil => rfl
      | cons next others =>
          rw [ih (List.cons_ne_nil _ _), joinSlash_cons part (List.cons_ne_nil _ _),
            List.append_assoc, List.cons_append]

theorem splitSlash_part {part : List Char} (whole : '/' ∉ part) : splitSlash part = [part] := by
  induction part with
  | nil => rfl
  | cons character rest ih =>
      obtain ⟨plain, whole⟩ := List.ne_and_not_mem_of_not_mem_cons whole
      exact splitSlash_cons plain.symm (ih whole)

theorem splitSlash_append {part : List Char} (whole : '/' ∉ part) (rest : List Char) :
    splitSlash (part ++ '/' :: rest) = part :: splitSlash rest := by
  induction part with
  | nil => exact splitSlash_slash rest
  | cons character others ih =>
      obtain ⟨plain, whole⟩ := List.ne_and_not_mem_of_not_mem_cons whole
      exact splitSlash_cons plain.symm (ih whole)

theorem splitSlash_joinSlash {parts : List (List Char)} (nonempty : parts ≠ [])
    (whole : ∀ part ∈ parts, '/' ∉ part) : splitSlash (joinSlash parts) = parts := by
  induction parts with
  | nil => exact absurd rfl nonempty
  | cons part parts ih =>
      obtain ⟨first, others⟩ := List.forall_mem_cons.mp whole
      cases parts with
      | nil => exact splitSlash_part first
      | cons next later =>
          rw [joinSlash_cons part (List.cons_ne_nil _ _), splitSlash_append first,
            ih (List.cons_ne_nil _ _) others]

theorem slash_not_mem {text part : List Char} (member : part ∈ splitSlash text) : '/' ∉ part := by
  induction text generalizing part with
  | nil =>
      obtain rfl := List.mem_singleton.mp member
      exact List.not_mem_nil
  | cons character rest ih =>
      by_cases slash : character = '/'
      · rw [slash, splitSlash_slash, List.mem_cons] at member
        obtain rfl | member := member
        · exact List.not_mem_nil
        · exact ih member
      · obtain ⟨first, others, split⟩ := List.exists_cons_of_ne_nil (splitSlash_ne_nil rest)
        rw [splitSlash_cons slash split, List.mem_cons] at member
        obtain rfl | member := member
        · have later : '/' ∉ first := ih (split ▸ List.mem_cons_self)
          exact List.not_mem_cons_of_ne_of_not_mem (Ne.symm slash) later
        · exact ih (split ▸ List.mem_cons_of_mem _ member)

/-! ## Components and ancestors -/

def components (path : String) : List (List Char) := pureParts path.toList

def pathOf (parts : List (List Char)) : String := String.ofList (joinSlash parts)

theorem mem_components {path : String} {part : List Char} (member : part ∈ components path) :
    '/' ∉ part ∧ part ≠ [] ∧ part ≠ ['.'] := by
  obtain ⟨split, kept⟩ := List.mem_filter.mp member
  rw [Bool.and_eq_true, bne_iff_ne, bne_iff_ne] at kept
  exact ⟨slash_not_mem split, kept⟩

/-- Some components of a path, read back from the text that joins them. -/
theorem components_pathOf {path : String} {parts : List (List Char)} (nonempty : parts ≠ [])
    (subset : parts ⊆ components path) : components (pathOf parts) = parts := by
  have whole : splitSlash (joinSlash parts) = parts :=
    splitSlash_joinSlash nonempty fun part member => (mem_components (subset member)).1
  rw [components, pathOf, String.toList_ofList, pureParts, whole, List.filter_eq_self]
  intro part member
  obtain ⟨_, named, notHere⟩ := mem_components (subset member)
  rw [Bool.and_eq_true, bne_iff_ne, bne_iff_ne]
  exact ⟨named, notHere⟩

/-- Where a path without symbolic links leads: every `..` takes one step back. -/
def resolved (done : List (List Char)) : List (List Char) → List (List Char)
  | [] => done
  | part :: rest =>
      if part = ['.', '.'] then resolved done.dropLast rest else resolved (done ++ [part]) rest

theorem resolved_append (done parts rest : List (List Char)) :
    resolved done (parts ++ rest) = resolved (resolved done parts) rest := by
  induction parts generalizing done with
  | nil => rfl
  | cons part parts ih =>
      rw [List.cons_append, resolved, resolved]
      split
      · exact ih _
      · exact ih _

theorem resolved_plain {parts : List (List Char)} (descends : ['.', '.'] ∉ parts)
    (done : List (List Char)) : resolved done parts = done ++ parts := by
  induction parts generalizing done with
  | nil => exact (List.append_nil done).symm
  | cons part parts ih =>
      obtain ⟨plain, descends⟩ := List.ne_and_not_mem_of_not_mem_cons descends
      rw [resolved, if_neg plain.symm, ih descends, List.append_assoc, List.singleton_append]

/-! ## Accepted paths -/

/-- The policy has taken the path as it stands. -/
structure Accepted (tables : UnicodeTables) (path : String) : Prop where
  normalized : normalizeCandidatePath tables path = .ok path
  unprotected : isProtected path = false

variable {tables : UnicodeTables} {files : FileSystem} {path : String}

theorem Accepted.posix (accepted : Accepted tables path) :
    path.toList = asPosix path.toList ∧ ['.', '.'] ∉ components path := by
  have normalized := accepted.normalized
  simp only [normalizeCandidatePath, bind_eq_ok, require_eq_ok] at normalized
  obtain ⟨_, _, _, _, _, _, _, _, _, canonical, _⟩ := normalized
  exact canonical

theorem Accepted.named (accepted : Accepted tables path) (nested : path ≠ ".") :
    components path ≠ [] := by
  intro empty
  have posix := accepted.posix.1
  rw [asPosix, show pureParts path.toList = [] from empty] at posix
  exact nested (String.toList_inj.mp posix)

theorem Accepted.pathOf_components (accepted : Accepted tables path)
    (named : components path ≠ []) : pathOf (components path) = path := by
  have posix := accepted.posix.1
  obtain ⟨part, parts, split⟩ := List.exists_cons_of_ne_nil named
  rw [asPosix, show pureParts path.toList = part :: parts from split] at posix
  have joined : path.toList = joinSlash (part :: parts) := posix
  rw [split, pathOf, ← joined, String.ofList_toList]

/-- No part of an accepted path was dropped: what stands between its slashes
are its components. -/
theorem Accepted.splitSlash_eq (accepted : Accepted tables path) (named : components path ≠ []) :
    splitSlash path.toList = components path := by
  have whole : splitSlash (joinSlash (components path)) = components path :=
    splitSlash_joinSlash named fun part member => (mem_components member).1
  have joined := congrArg String.toList (accepted.pathOf_components named)
  rw [pathOf, String.toList_ofList] at joined
  rwa [joined] at whole

theorem validatePatchPath_accepted {root value result : String}
    (accepted : validatePatchPath tables files root value = .ok result) :
    Accepted tables value := by
  obtain ⟨rfl, _⟩ := validatePatchPath_eq_ok accepted
  simp only [validatePatchPath, bind_eq_ok, require_eq_ok, Except.ok.injEq] at accepted
  obtain ⟨normalized, normalizedOk, _, unprotected, _, _, _, _, _, _, rfl⟩ := accepted
  exact ⟨normalizedOk, unprotected⟩

theorem collect_accepted {root : String} {paths canonical : List String}
    (collected : collect (validatePatchPath tables files root) paths = .ok canonical) :
    ∀ path ∈ paths, Accepted tables path := by
  induction paths generalizing canonical with
  | nil => exact fun _ member => absurd member List.not_mem_nil
  | cons first rest ih =>
      simp only [collect, bind_eq_ok] at collected
      obtain ⟨_, firstOk, _, othersOk, _⟩ := collected
      exact List.forall_mem_cons.mpr ⟨validatePatchPath_accepted firstOk, ih othersOk⟩

theorem validatePatchPaths_accepted {root : String} {paths result : List String}
    (accepted : validatePatchPaths tables files root paths = .ok result) :
    ∀ path ∈ paths, Accepted tables path := by
  simp only [validatePatchPaths, bind_eq_ok] at accepted
  obtain ⟨_, _, canonical, collected, _⟩ := accepted
  exact collect_accepted collected

/-! ## Containment -/

/-- A protected path, or a protected directory itself. -/
def Guarded (path : String) : Prop := isProtected path = true ∨ path ++ "/" ∈ protectedLeads

/-- What the policy is for: the path names a file strictly inside whatever root
it is joined to, and neither it nor one of its ancestors is guarded. -/
structure Contained (path : String) : Prop where
  named : components path ≠ []
  plain : ∀ part ∈ splitSlash path.toList, part ≠ [] ∧ part ≠ ['.'] ∧ part ≠ ['.', '.']
  inside : ∀ root, ∃ below, below ≠ [] ∧
    resolved [] (root ++ components path) = resolved [] root ++ below
  unguarded : ∀ parts, parts ≠ [] → parts <+: components path → ¬ Guarded (pathOf parts)

/-- The root itself, a protected directory, or a path below a protected file. -/
def Overlooked (path : String) : Prop :=
  path = "." ∨ path ++ "/" ∈ protectedLeads ∨
    ∃ parts, parts ≠ [] ∧ parts <+: components path ∧ parts ≠ components path ∧
      pathOf parts ∈ protectedExact

theorem startsWith_append {text : List Char} {lead : String} (rest : List Char)
    (leads : startsWith text lead = true) : startsWith (text ++ rest) lead = true := by
  rw [startsWith, List.isPrefixOf_iff_prefix] at leads ⊢
  exact leads.trans (List.prefix_append text rest)

/-- An accepted path begins with the text of each of its proper ancestors and
a slash. -/
theorem Accepted.below (accepted : Accepted tables path) {parts rest : List (List Char)}
    (whole : parts ++ rest = components path) (left : parts ≠ []) (right : rest ≠ []) :
    path.toList = (pathOf parts).toList ++ '/' :: joinSlash rest := by
  have named : components path ≠ [] := whole ▸ List.append_ne_nil_of_left_ne_nil left rest
  have joined := congrArg String.toList (accepted.pathOf_components named)
  rw [pathOf, String.toList_ofList, ← whole, joinSlash_append left right] at joined
  rw [pathOf, String.toList_ofList, joined]

/-- A guard on a proper ancestor is a guard on the path, unless the ancestor is
one of the protected files. -/
theorem Accepted.exact_of_guarded (accepted : Accepted tables path)
    {parts rest : List (List Char)} (whole : parts ++ rest = components path)
    (left : parts ≠ []) (right : rest ≠ []) (guarded : Guarded (pathOf parts)) :
    pathOf parts ∈ protectedExact := by
  have below := accepted.below whole left right
  have unprotected := accepted.unprotected
  rw [isProtected, Bool.or_eq_false_iff, Bool.or_eq_false_iff] at unprotected
  obtain ⟨⟨_, unled⟩, untested⟩ := unprotected
  rw [List.any_eq_false] at unled
  obtain protectedParts | directory := guarded
  · rw [isProtected, Bool.or_eq_true, Bool.or_eq_true] at protectedParts
    obtain (named | led) | tested := protectedParts
    · exact List.contains_iff_mem.mp named
    · obtain ⟨lead, member, leads⟩ := List.any_eq_true.mp led
      refine absurd ?_ (unled lead member)
      rw [below]
      exact startsWith_append _ leads
    · have subset : parts ⊆ components path := whole ▸ List.subset_append_left parts rest
      have read := components_pathOf left subset
      rw [components] at read
      rw [read] at tested
      have member := subset (List.contains_iff_mem.mp tested)
      rw [← List.contains_iff_mem] at member
      exact absurd member (Bool.eq_false_iff.mp untested)
  · refine absurd ?_ (unled _ directory)
    rw [startsWith, List.isPrefixOf_iff_prefix, below, String.toList_append]
    exact ⟨joinSlash rest, by simp⟩

theorem Accepted.contained (accepted : Accepted tables path) (seen : ¬ Overlooked path) :
    Contained path := by
  obtain ⟨nested, undirected, lonely⟩ : path ≠ "." ∧ path ++ "/" ∉ protectedLeads ∧
      ∀ parts, parts ≠ [] → parts <+: components path → parts ≠ components path →
        pathOf parts ∉ protectedExact := by
    refine ⟨fun here => seen (.inl here), fun directory => seen (.inr (.inl directory)), ?_⟩
    intro parts nonempty initial proper member
    exact seen (.inr (.inr ⟨parts, nonempty, initial, proper, member⟩))
  have named := accepted.named nested
  have descends := accepted.posix.2
  constructor
  case named => exact named
  case plain =>
    intro part member
    rw [accepted.splitSlash_eq named] at member
    obtain ⟨_, nonempty, notHere⟩ := mem_components member
    exact ⟨nonempty, notHere, fun back => descends (back ▸ member)⟩
  case inside =>
    intro root
    refine ⟨components path, named, ?_⟩
    rw [resolved_append, resolved_plain descends]
  case unguarded =>
    intro parts nonempty initial guarded
    obtain ⟨rest, whole⟩ := initial
    cases rest with
    | nil =>
        rw [List.append_nil] at whole
        rw [whole, accepted.pathOf_components named] at guarded
        obtain protectedPath | directory := guarded
        · exact absurd protectedPath (Bool.eq_false_iff.mp accepted.unprotected)
        · exact undirected directory
    | cons part rest =>
        have proper : parts ≠ components path := by
          intro same
          rw [← whole] at same
          exact List.cons_ne_nil part rest (List.append_right_eq_self.mp same.symm)
        exact lonely parts nonempty ⟨_, whole⟩ proper
          (accepted.exact_of_guarded whole nonempty (List.cons_ne_nil _ _) guarded)

theorem Accepted.seen (accepted : Accepted tables path) (contained : Contained path) :
    ¬ Overlooked path := by
  rintro (rfl | directory | ⟨parts, nonempty, initial, _, member⟩)
  · exact contained.named rfl
  · refine contained.unguarded _ contained.named (List.prefix_refl _) (.inr ?_)
    rwa [accepted.pathOf_components contained.named]
  · refine contained.unguarded parts nonempty initial (.inl ?_)
    rw [isProtected, List.contains_iff_mem.mpr member]
    rfl

/-- An accepted path is contained exactly when it is not one the policy overlooks. -/
theorem contained_iff {repositoryRoot : String} {paths result : List String}
    (accepted : validatePatchPaths tables files repositoryRoot paths = .ok result)
    (member : path ∈ paths) : Contained path ↔ ¬ Overlooked path :=
  have taken := validatePatchPaths_accepted accepted path member
  ⟨taken.seen, taken.contained⟩

/-- A repository without a symbolic link. -/
def linkFree : FileSystem where
  resolveRoot root := .ok root
  isSymlink _ _ := .ok false
  staysInside _ _ := .ok true

theorem contained_iff_source : Contained "backend/app.py" ↔ ¬ Overlooked "backend/app.py" := by
  have accepted : validatePatchPaths .asciiOnly linkFree "/srv/repository" ["backend/app.py"] =
      .ok ["backend/app.py"] := by decide
  exact contained_iff accepted List.mem_cons_self

/-- The root, a protected directory and a path below a protected file are
accepted, and none of them is contained. -/
theorem overlooked_accepted :
    validatePatchPaths .asciiOnly linkFree "/srv/repository" [".", "docs", "package.json/x"] =
        .ok [".", "docs", "package.json/x"] ∧
      ∀ path ∈ [".", "docs", "package.json/x"], ¬ Contained path := by
  have accepted : validatePatchPaths .asciiOnly linkFree "/srv/repository"
      [".", "docs", "package.json/x"] = .ok [".", "docs", "package.json/x"] := by decide
  refine ⟨accepted, ?_⟩
  intro path member contained
  apply (validatePatchPaths_accepted accepted path member).seen contained
  simp only [List.mem_cons, List.not_mem_nil, or_false] at member
  obtain rfl | rfl | rfl := member
  · exact .inl rfl
  · exact .inr (.inl (by decide))
  · exact .inr (.inr ⟨["package.json".toList], by decide, by decide, by decide, by decide⟩)

end CrossPatch.Broker.Containment
