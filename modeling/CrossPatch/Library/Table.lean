import Mathlib

/-!
# Tables with a primary key

A table is a list of rows with distinct keys, in the order of insertion.  Reading
is by key or by enumeration; the two views agree.  `insert` refuses a key that is
taken, `write` replaces the row under a key.
-/

namespace CrossPatch.Library

universe u v

structure Table {Row : Type u} {Key : Type v} (key : Row → Key) where
  rows : List Row
  unique : (rows.map key).Nodup

namespace Table

variable {Row : Type u} {Key : Type v} {key : Row → Key}

def empty : Table key := ⟨[], List.nodup_nil⟩

variable [DecidableEq Key]

def find (table : Table key) (wanted : Key) : Option Row :=
  table.rows.find? fun row => key row == wanted

def replaceRow (row current : Row) (key : Row → Key) : Row :=
  if key current = key row then row else current

theorem map_replaceRow (row : Row) (rows : List Row) :
    (rows.map fun current => replaceRow row current key).map key = rows.map key := by
  rw [List.map_map]
  apply List.map_congr_left
  intro current _
  by_cases same : key current = key row
  · simp [replaceRow, same]
  · simp [replaceRow, same]

/-- Replace the row that has the key of `row`; no row is added. -/
def write (table : Table key) (row : Row) : Table key where
  rows := table.rows.map fun current => replaceRow row current key
  unique := by
    rw [map_replaceRow]
    exact table.unique

def insert (table : Table key) (row : Row) (fresh : table.find (key row) = none) : Table key where
  rows := table.rows ++ [row]
  unique := by
    rw [List.map_append, List.map_singleton, List.nodup_append]
    refine ⟨table.unique, List.nodup_singleton _, ?_⟩
    intro left inLeft right inRight same
    rw [List.mem_singleton] at inRight
    obtain ⟨current, member, rfl⟩ := List.mem_map.mp inLeft
    have absent := List.find?_eq_none.mp fresh current member
    simp [same, inRight] at absent

def remove (table : Table key) (gone : Key) : Table key where
  rows := table.rows.filter fun row => key row != gone
  unique := (List.filter_sublist.map key).nodup table.unique

/-- Replace the row that has the key of `row`, or add it. -/
def put (table : Table key) (row : Row) : Table key :=
  if fresh : table.find (key row) = none then table.insert row fresh else table.write row

/-! ## Reading -/

theorem key_of_find {table : Table key} {wanted : Key} {row : Row}
    (found : table.find wanted = some row) : key row = wanted := by
  simpa using List.find?_some found

theorem mem_of_find {table : Table key} {wanted : Key} {row : Row}
    (found : table.find wanted = some row) : row ∈ table.rows :=
  List.mem_of_find?_eq_some found

/-- Keys are distinct, so a listed row is the one found under its key. -/
theorem find_of_mem {table : Table key} {row : Row} (member : row ∈ table.rows) :
    table.find (key row) = some row := by
  obtain ⟨rows, unique⟩ := table
  unfold find
  dsimp only at *
  induction rows with
  | nil => cases member
  | cons first rest ih =>
      rw [List.map_cons, List.nodup_cons] at unique
      rcases List.mem_cons.mp member with rfl | later
      · simp
      · have differs : key first ≠ key row := by
          intro same
          exact unique.1 (same ▸ List.mem_map_of_mem later)
        rw [List.find?_cons_of_neg (by simpa using differs)]
        exact ih unique.2 later

theorem mem_rows_iff {table : Table key} {row : Row} :
    row ∈ table.rows ↔ table.find (key row) = some row :=
  ⟨find_of_mem, mem_of_find⟩

theorem find_write {table : Table key} {row : Row} {current : Row}
    (found : table.find (key row) = some current) (wanted : Key) :
    (table.write row).find wanted = if wanted = key row then some row else table.find wanted := by
  have presentKey := key_of_find found
  have present := mem_of_find found
  split
  · rename_i same
    subst same
    have written : row ∈ (table.write row).rows := by
      refine List.mem_map.mpr ⟨current, present, ?_⟩
      rw [replaceRow, if_pos presentKey]
    exact find_of_mem written
  · rename_i differs
    have sameTest : ∀ other : Row, (key (replaceRow row other key) == wanted) =
        (key other == wanted) := by
      intro other
      by_cases same : key other = key row
      · rw [replaceRow, if_pos same, same]
      · rw [replaceRow, if_neg same]
    unfold find write
    dsimp only
    rw [List.find?_map]
    simp only [Function.comp_def, sameTest]
    cases search : table.rows.find? fun other => key other == wanted with
    | none => rfl
    | some other =>
        have otherKey : key other = wanted := by simpa using List.find?_some search
        rw [Option.map_some, replaceRow, if_neg (fun same => differs (otherKey ▸ same))]

theorem find_write_self {table : Table key} {row current : Row}
    (found : table.find (key row) = some current) : (table.write row).find (key row) = some row := by
  rw [find_write found, if_pos rfl]

theorem find_insert {table : Table key} {row : Row} (fresh : table.find (key row) = none)
    (wanted : Key) :
    (table.insert row fresh).find wanted =
      if wanted = key row then some row else table.find wanted := by
  unfold find insert
  dsimp only
  rw [List.find?_append]
  split
  · rename_i same
    subst same
    have absent : (table.rows.find? fun current => key current == key row) = none := fresh
    simp [absent]
  · rename_i differs
    have absent : ([row].find? fun current => key current == wanted) = none := by
      simp [Ne.symm differs]
    rw [absent, Option.or_none]

theorem rows_insert {table : Table key} {row : Row} (fresh : table.find (key row) = none) :
    (table.insert row fresh).rows = table.rows ++ [row] := rfl

/-- Writing a row changes a sum over the table by the difference of the two rows. -/
theorem sum_write {table : Table key} {row current : Row} (amount : Row → Nat)
    (found : table.find (key row) = some current) :
    ((table.write row).rows.map amount).sum + amount current =
      (table.rows.map amount).sum + amount row := by
  have present := mem_of_find found
  have sameKey := key_of_find found
  obtain ⟨rows, unique⟩ := table
  unfold write
  dsimp only at *
  clear found
  induction rows with
  | nil => cases present
  | cons first rest ih =>
      rw [List.map_cons, List.nodup_cons] at unique
      simp only [List.map_cons, List.sum_cons]
      rcases List.mem_cons.mp present with rfl | later
      · have others : rest.map (fun other => replaceRow row other key) = rest := by
          conv_rhs => rw [← List.map_id rest]
          apply List.map_congr_left
          intro other member
          have differs : key other ≠ key row := by
            intro same
            exact unique.1 (sameKey.trans same.symm ▸ List.mem_map_of_mem member)
          rw [replaceRow, if_neg differs, id]
        rw [others, replaceRow, if_pos sameKey]
        omega
      · have differs : key first ≠ key row := by
          intro same
          exact unique.1 (same.trans sameKey.symm ▸ List.mem_map_of_mem later)
        rw [replaceRow, if_neg differs]
        have step := ih unique.2 later
        omega

theorem find_insert_self {table : Table key} {row : Row} (fresh : table.find (key row) = none) :
    (table.insert row fresh).find (key row) = some row := by
  rw [find_insert fresh, if_pos rfl]

theorem find_put (table : Table key) (row : Row) (wanted : Key) :
    (table.put row).find wanted = if wanted = key row then some row else table.find wanted := by
  unfold put
  split
  · exact find_insert _ wanted
  · rename_i taken
    obtain ⟨current, found⟩ := Option.ne_none_iff_exists'.mp taken
    exact find_write found wanted

theorem find_remove (table : Table key) (gone wanted : Key) :
    (table.remove gone).find wanted = if wanted = gone then none else table.find wanted := by
  unfold find remove
  dsimp only
  rw [List.find?_filter]
  split
  · rename_i same
    rw [List.find?_eq_none]
    intro row _
    simp [same]
  · rename_i differs
    congr 1
    funext row
    by_cases same : key row = wanted
    · simp [same, differs]
    · simp [same]

/-! ## Sizes -/

theorem length_put_of_find {table : Table key} {row current : Row}
    (found : table.find (key row) = some current) :
    (table.put row).rows.length = table.rows.length := by
  have taken : table.find (key row) ≠ none := by
    rw [found]
    exact Option.some_ne_none current
  rw [put, dif_neg taken]
  exact List.length_map _

theorem length_put_of_fresh {table : Table key} {row : Row}
    (fresh : table.find (key row) = none) :
    (table.put row).rows.length = table.rows.length + 1 := by
  rw [put, dif_pos fresh, rows_insert, List.length_append, List.length_singleton]

theorem length_remove_le (table : Table key) (gone : Key) :
    (table.remove gone).rows.length ≤ table.rows.length := List.length_filter_le _ _

end Table

end CrossPatch.Library
