import Mathlib

/-!
# Append-only chains

A chain numbers its entries from one, each entry repeats the digest of the entry
before it, and each entry is sealed.  Chains grow at the end; the lemmas read the
numbering, the links and the latest entry off a chain.
-/

namespace CrossPatch.Library.Chains

universe u v

/-- The parts of an entry that a chain is about. -/
structure Links (Entry : Type u) (Digest : Type v) where
  sequence : Entry → Nat
  previous : Entry → Digest
  digest : Entry → Digest
  genesis : Digest
  isSealed : Entry → Prop

variable {Entry : Type u} {Digest : Type v}

/-- The digest that the next entry has to repeat. -/
def Links.head (links : Links Entry Digest) (entries : List Entry) : Digest :=
  (entries.getLast?.map links.digest).getD links.genesis

inductive Chain (links : Links Entry Digest) : List Entry → Prop where
  | nil : Chain links []
  | append {entries : List Entry} {entry : Entry} (chain : Chain links entries)
      (numbered : links.sequence entry = entries.length + 1)
      (linked : links.previous entry = links.head entries)
      (intact : links.isSealed entry) :
      Chain links (entries ++ [entry])

variable {links : Links Entry Digest} {entries : List Entry}

/-- The entries are numbered without gap or repeat. -/
theorem Chain.sequences (chain : Chain links entries) :
    entries.map links.sequence = List.range' 1 entries.length := by
  induction chain with
  | nil => rfl
  | append chain numbered _ _ ih =>
      rw [List.map_append, ih, List.map_singleton, numbered, List.length_append,
        List.length_singleton, List.range'_concat]
      simp [Nat.add_comm]

/-- Each entry repeats the digest before it, the first one the genesis value. -/
theorem Chain.links_previous (chain : Chain links entries) :
    entries.map links.previous = (links.genesis :: entries.map links.digest).dropLast := by
  induction chain with
  | nil => rfl
  | @append before entry chain _ linked _ ih =>
      rw [List.map_append, ih, List.map_singleton, linked, List.map_append, List.map_singleton,
        ← List.cons_append, List.dropLast_concat, Links.head]
      cases before using List.reverseRecOn with
      | nil => rfl
      | append_singleton earlier last =>
          rw [List.map_append, List.map_singleton, ← List.cons_append, List.dropLast_concat,
            List.getLast?_concat]
          rfl

theorem Chain.all_sealed (chain : Chain links entries) :
    ∀ entry ∈ entries, links.isSealed entry := by
  induction chain with
  | nil => exact fun _ member => absurd member List.not_mem_nil
  | append _ _ _ intact ih =>
      intro entry member
      rcases List.mem_append.mp member with earlier | last
      · exact ih entry earlier
      · rw [List.mem_singleton.mp last]
        exact intact

theorem Chain.sequence_le (chain : Chain links entries) :
    ∀ entry ∈ entries, links.sequence entry ≤ entries.length := by
  intro entry member
  have numbered : links.sequence entry ∈ List.range' 1 entries.length := by
    rw [← chain.sequences]
    exact List.mem_map_of_mem member
  obtain ⟨index, below, same⟩ := List.mem_range'.mp numbered
  omega

/-- The entry with the largest number is the last one. -/
theorem Chain.argmax_eq_getLast (chain : Chain links entries) :
    entries.argmax links.sequence = entries.getLast? := by
  cases chain with
  | nil => rfl
  | @append before entry chain numbered _ _ =>
      rw [List.argmax_concat, List.getLast?_concat]
      cases latest : before.argmax links.sequence with
      | none => rfl
      | some earlier =>
          have bound := chain.sequence_le earlier (List.argmax_mem latest)
          have later : links.sequence earlier < links.sequence entry := by omega
          simp [later]

/-- The last entry has the number of entries for its own. -/
theorem Chain.sequence_getLast (chain : Chain links entries) {last : Entry}
    (latest : entries.getLast? = some last) : links.sequence last = entries.length := by
  cases chain with
  | nil => cases latest
  | append _ numbered _ _ =>
      rw [List.getLast?_concat, Option.some.injEq] at latest
      rw [← latest, numbered, List.length_append, List.length_singleton]

/-- A chain is sorted by its numbers. -/
theorem Chain.sorted (chain : Chain links entries) :
    entries.Pairwise fun left right => links.sequence left ≤ links.sequence right := by
  induction chain with
  | nil => exact List.Pairwise.nil
  | @append before entry chain numbered _ _ ih =>
      refine List.pairwise_append.mpr ⟨ih, List.pairwise_singleton _ _, ?_⟩
      intro earlier member last isLast
      rw [List.mem_singleton.mp isLast, numbered]
      exact (chain.sequence_le earlier member).trans (Nat.le_succ _)

end CrossPatch.Library.Chains
