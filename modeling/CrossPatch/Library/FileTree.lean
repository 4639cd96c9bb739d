import CrossPatch.Library.Attempt

/-!
# Trees of files

A directory holds named entries: files, further directories, symbolic links and special
files.  Making directories and creating files is done the way `mkdir` with parents and
an exclusive `open` do it, and both are described by the files that a path then names.
-/

namespace CrossPatch.Library.FileTree

open CrossPatch.Library.Attempt

inductive Node (Name Content : Type) where
  | file (content : Content)
  | directory (entries : List (Name × Node Name Content))
  /-- A symbolic link remembers whether it leads to a directory. -/
  | link (toDirectory : Bool)
  | special

/-- What stands in the way of a new entry. -/
inductive Obstacle where
  | present
  | missing
  | notDirectory

variable {Name Content : Type}

/-- The names in each directory are distinct. -/
inductive WellFormed : Node Name Content → Prop where
  | file (content : Content) : WellFormed (.file content)
  | directory {entries : List (Name × Node Name Content)} (distinct : (entries.map Prod.fst).Nodup)
      (children : ∀ entry ∈ entries, WellFormed entry.2) : WellFormed (.directory entries)
  | link (toDirectory : Bool) : WellFormed (.link toDirectory)
  | special : WellFormed .special

/-- No symbolic link and no special file anywhere below. -/
inductive Regular : Node Name Content → Prop where
  | file (content : Content) : Regular (.file content)
  | directory {entries : List (Name × Node Name Content)}
      (children : ∀ entry ∈ entries, Regular entry.2) : Regular (.directory entries)

variable [DecidableEq Name]

def setEntry (name : Name) (node : Node Name Content) :
    List (Name × Node Name Content) → List (Name × Node Name Content)
  | [] => [(name, node)]
  | (other, child) :: rest =>
      if other = name then (name, node) :: rest else (other, child) :: setEntry name node rest

/-- What the path names, without following links. -/
def nodeAt : List Name → Node Name Content → Option (Node Name Content)
  | [], node => some node
  | name :: rest, .directory entries =>
      match entries.lookup name with
      | some child => nodeAt rest child
      | none => none
  | _ :: _, _ => none

def fileAt (path : List Name) (node : Node Name Content) : Option Content :=
  match nodeAt path node with
  | some (.file content) => some content
  | _ => none

/-- `mkdir` with its parents; a directory that exists already is left alone. -/
def makeDirectories : List Name → Node Name Content → Except Obstacle (Node Name Content)
  | [], .directory entries => .ok (.directory entries)
  | [], _ => .error .present
  | name :: rest, .directory entries => do
      let child ← makeDirectories rest ((entries.lookup name).getD (.directory []))
      .ok (.directory (setEntry name child entries))
  | _ :: _, _ => .error .notDirectory

/-- A new file under a name that nothing has yet. -/
def createFile (content : Content) :
    List Name → Node Name Content → Except Obstacle (Node Name Content)
  | [], _ => .error .present
  | [name], .directory entries =>
      if (entries.lookup name).isSome then .error .present
      else .ok (.directory (setEntry name (.file content) entries))
  | name :: next :: rest, .directory entries =>
      match entries.lookup name with
      | none => .error .missing
      | some child => do
          let child ← createFile content (next :: rest) child
          .ok (.directory (setEntry name child entries))
  | _ :: _, _ => .error .notDirectory

/-! ## Entries -/

section Entries

variable {entries : List (Name × Node Name Content)} {name other : Name}
  {node child : Node Name Content}

theorem lookup_setEntry :
    (setEntry name node entries).lookup other =
      if other = name then some node else entries.lookup other := by
  induction entries with
  | nil =>
      rw [setEntry, List.lookup_cons]
      split
      · rename_i same
        rw [if_pos (beq_iff_eq.mp same)]
      · rename_i differs
        rw [if_neg (by simpa using differs)]
  | cons entry rest ih =>
      obtain ⟨first, node'⟩ := entry
      rw [setEntry]
      by_cases replaced : first = name
      · rw [if_pos replaced, List.lookup_cons, List.lookup_cons, replaced]
        by_cases same : other = name
        · simp [same]
        · rw [beq_false_of_ne same, if_neg same]
      · rw [if_neg replaced, List.lookup_cons, List.lookup_cons, ih]
        by_cases found : other = first
        · simp [found, replaced]
        · rw [beq_false_of_ne found]

theorem mem_setEntry {entry : Name × Node Name Content}
    (member : entry ∈ setEntry name node entries) : entry = (name, node) ∨ entry ∈ entries := by
  induction entries with
  | nil => exact .inl (List.mem_singleton.mp member)
  | cons first rest ih =>
      rw [setEntry] at member
      split at member
      · obtain rfl | later := List.mem_cons.mp member
        · exact .inl rfl
        · exact .inr (List.mem_cons_of_mem _ later)
      · obtain rfl | later := List.mem_cons.mp member
        · exact .inr List.mem_cons_self
        · exact (ih later).imp_right (List.mem_cons_of_mem _)

theorem mem_names_setEntry (member : other ∈ (setEntry name node entries).map Prod.fst) :
    other = name ∨ other ∈ entries.map Prod.fst := by
  obtain ⟨entry, inside, rfl⟩ := List.mem_map.mp member
  obtain rfl | inside := mem_setEntry inside
  · exact .inl rfl
  · exact .inr (List.mem_map_of_mem inside)

theorem nodup_setEntry (distinct : (entries.map Prod.fst).Nodup) :
    ((setEntry name node entries).map Prod.fst).Nodup := by
  induction entries with
  | nil => exact List.nodup_singleton name
  | cons first rest ih =>
      obtain ⟨fresh, distinct⟩ := List.nodup_cons.mp distinct
      rw [setEntry]
      split
      · rename_i same
        exact List.nodup_cons.mpr ⟨same ▸ fresh, distinct⟩
      · rename_i differs
        refine List.nodup_cons.mpr ⟨?_, ih distinct⟩
        intro member
        obtain same | member := mem_names_setEntry member
        · exact differs same
        · exact fresh member

theorem mem_of_lookup (found : entries.lookup name = some child) : (name, child) ∈ entries := by
  induction entries with
  | nil => cases found
  | cons first rest ih =>
      obtain ⟨head, node⟩ := first
      rw [List.lookup_cons] at found
      split at found
      · rename_i same
        cases found
        rw [beq_iff_eq.mp same]
        exact List.mem_cons_self
      · exact List.mem_cons_of_mem _ (ih found)

theorem lookup_of_mem (distinct : (entries.map Prod.fst).Nodup) (member : (name, child) ∈ entries) :
    entries.lookup name = some child := by
  induction entries with
  | nil => cases member
  | cons first rest ih =>
      obtain ⟨head, node⟩ := first
      obtain ⟨fresh, distinct⟩ := List.nodup_cons.mp distinct
      rw [List.lookup_cons]
      obtain same | later := List.mem_cons.mp member
      · cases same
        simp
      · have differs : name ≠ head := by
          rintro rfl
          exact fresh (List.mem_map.mpr ⟨_, later, rfl⟩)
        rw [beq_false_of_ne differs]
        exact ih distinct later

end Entries

/-! ## Files after an operation -/

section Files

variable {node node' : Node Name Content}

theorem nodeAt_directory {name : Name} {rest : List Name} {entries : List (Name × Node Name Content)} :
    nodeAt (name :: rest) (.directory entries) = (entries.lookup name).bind (nodeAt rest) := by
  rw [nodeAt]
  cases entries.lookup name <;> rfl

theorem fileAt_directory {name : Name} {rest : List Name} {entries : List (Name × Node Name Content)} :
    fileAt (name :: rest) (.directory entries) = (entries.lookup name).bind (fileAt rest) := by
  rw [fileAt, nodeAt_directory]
  cases entries.lookup name <;> rfl

theorem fileAt_empty (path : List Name) :
    fileAt path (.directory [] : Node Name Content) = none := by
  cases path <;> rfl

/-- Making directories leaves every file where it was. -/
theorem fileAt_makeDirectories {names : List Name} (made : makeDirectories names node = .ok node')
    (path : List Name) : fileAt path node' = fileAt path node := by
  induction names generalizing node node' path with
  | nil =>
      cases node with
      | directory entries =>
          cases made
          rfl
      | file | link | special => cases made
  | cons name rest ih =>
      cases node with
      | directory entries =>
          obtain ⟨child, childMade, put⟩ := bind_eq_ok.mp made
          cases put
          cases path with
          | nil => rfl
          | cons first path =>
              rw [fileAt_directory, fileAt_directory, lookup_setEntry]
              split
              · rename_i same
                rw [same, Option.bind_some, ih childMade]
                cases entries.lookup name with
                | none => exact fileAt_empty path
                | some child => rfl
              · rfl
      | file | link | special => cases made

/-- A created file is at its path; every other file stays where it was. -/
theorem fileAt_createFile {content : Content} {names : List Name}
    (created : createFile content names node = .ok node') (path : List Name) :
    fileAt path node' = if path = names then some content else fileAt path node := by
  induction names generalizing node node' path with
  | nil => cases created
  | cons name rest ih =>
      cases node with
      | file | link | special => cases rest <;> cases created
      | directory entries =>
          cases rest with
          | nil =>
              rw [createFile] at created
              split at created
              · cases created
              · rename_i absent
                cases created
                cases path with
                | nil => rfl
                | cons first path =>
                    rw [fileAt_directory, fileAt_directory, lookup_setEntry]
                    by_cases same : first = name
                    · rw [if_pos same, Option.bind_some, same]
                      have fresh : entries.lookup name = none := Option.not_isSome_iff_eq_none.mp absent
                      cases path with
                      | nil => simp [fileAt, nodeAt]
                      | cons next path => simp [fileAt, nodeAt, fresh]
                    · simp [same]
          | cons next rest =>
              rw [createFile] at created
              split at created
              · cases created
              · rename_i child found
                obtain ⟨child', childCreated, put⟩ := bind_eq_ok.mp created
                cases put
                cases path with
                | nil => rfl
                | cons first path =>
                    rw [fileAt_directory, fileAt_directory, lookup_setEntry]
                    by_cases same : first = name
                    · rw [if_pos same, Option.bind_some, same, found, Option.bind_some,
                        ih childCreated]
                      simp
                    · simp [same]

/-- A file is created only where there was none. -/
theorem fileAt_eq_none_of_createFile {content : Content} {names : List Name}
    (created : createFile content names node = .ok node') : fileAt names node = none := by
  induction names generalizing node node' with
  | nil => cases created
  | cons name rest ih =>
      cases node with
      | file | link | special => rfl
      | directory entries =>
          rw [fileAt_directory]
          cases rest with
          | nil =>
              rw [createFile] at created
              split at created
              · cases created
              · rename_i absent
                rw [Option.not_isSome_iff_eq_none.mp absent]
                rfl
          | cons next rest =>
              rw [createFile] at created
              split at created
              · cases created
              · rename_i child found
                obtain ⟨child', childCreated, _⟩ := bind_eq_ok.mp created
                rw [found]
                exact ih childCreated

theorem directory_of_makeDirectories {names : List Name}
    (made : makeDirectories names node = .ok node') : ∃ entries, node' = .directory entries := by
  cases node with
  | file | link | special => cases names <;> cases made
  | directory entries =>
      cases names with
      | nil =>
          cases made
          exact ⟨entries, rfl⟩
      | cons name rest =>
          obtain ⟨child, _, put⟩ := bind_eq_ok.mp made
          cases put
          exact ⟨_, rfl⟩

theorem directory_of_createFile {content : Content} {names : List Name}
    (created : createFile content names node = .ok node') :
    ∃ entries, node' = .directory entries := by
  cases names with
  | nil => cases created
  | cons name rest =>
      cases node with
      | file | link | special => cases rest <;> cases created
      | directory entries =>
          cases rest with
          | nil =>
              rw [createFile] at created
              split at created
              · cases created
              · cases created
                exact ⟨_, rfl⟩
          | cons next rest =>
              rw [createFile] at created
              split at created
              · cases created
              · obtain ⟨child, _, put⟩ := bind_eq_ok.mp created
                cases put
                exact ⟨_, rfl⟩

theorem WellFormed.setEntry {name : Name} {child : Node Name Content}
    {entries : List (Name × Node Name Content)} (formed : WellFormed (.directory entries))
    (childFormed : WellFormed child) : WellFormed (.directory (setEntry name child entries)) := by
  cases formed with
  | directory distinct children =>
      refine .directory (nodup_setEntry distinct) ?_
      intro entry member
      obtain rfl | member := mem_setEntry member
      · exact childFormed
      · exact children entry member

theorem WellFormed.child {name : Name} {child : Node Name Content}
    {entries : List (Name × Node Name Content)} (formed : WellFormed (.directory entries))
    (found : entries.lookup name = some child) : WellFormed child := by
  cases formed with
  | directory distinct children => exact children (name, child) (mem_of_lookup found)

omit [DecidableEq Name] in
theorem WellFormed.empty : WellFormed (.directory [] : Node Name Content) :=
  .directory List.nodup_nil fun _ member => absurd member List.not_mem_nil

theorem WellFormed.makeDirectories {names : List Name} (formed : WellFormed node)
    (made : makeDirectories names node = .ok node') : WellFormed node' := by
  induction names generalizing node node' with
  | nil =>
      cases node with
      | directory entries =>
          cases made
          exact formed
      | file | link | special => cases made
  | cons name rest ih =>
      cases node with
      | directory entries =>
          obtain ⟨child, childMade, put⟩ := bind_eq_ok.mp made
          cases put
          refine formed.setEntry (ih ?_ childMade)
          cases found : entries.lookup name with
          | none => exact .empty
          | some child => exact formed.child found
      | file | link | special => cases made

theorem WellFormed.createFile {content : Content} {names : List Name} (formed : WellFormed node)
    (created : createFile content names node = .ok node') : WellFormed node' := by
  induction names generalizing node node' with
  | nil => cases created
  | cons name rest ih =>
      cases node with
      | file | link | special => cases rest <;> cases created
      | directory entries =>
          cases rest with
          | nil =>
              rw [FileTree.createFile] at created
              split at created
              · cases created
              · cases created
                exact formed.setEntry (.file content)
          | cons next rest =>
              rw [FileTree.createFile] at created
              split at created
              · cases created
              · rename_i child found
                obtain ⟨child', childCreated, put⟩ := bind_eq_ok.mp created
                cases put
                exact formed.setEntry (ih (formed.child found) childCreated)

end Files

end CrossPatch.Library.FileTree
