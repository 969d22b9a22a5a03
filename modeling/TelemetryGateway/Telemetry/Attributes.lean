/-!
# Attributes of a log entry

A finite map from texts to texts. Its entries are kept in the order of their keys and no key occurs
twice, so two maps with the same entries are equal.

## Main definitions

- `Attributes`: the map
- `Attributes.insert`: the map with one entry set
- `Attributes.ofList`: the map of a list of entries, of which the last one with a key counts
-/

namespace TelemetryGateway.Telemetry

/-- An entry in a list that is sorted by keys takes its place there, or that of the entry with its
key. -/
def insertEntry (key value : String) : List (String × String) → List (String × String)
  | [] => [(key, value)]
  | (k, v) :: rest =>
    if key < k then (key, value) :: (k, v) :: rest
    else if key = k then (key, value) :: rest
    else (k, v) :: insertEntry key value rest

/-- The entries are in the strict order of their keys. -/
def KeysSorted (entries : List (String × String)) : Prop :=
  entries.Pairwise fun a b => a.1 < b.1

/-- Every entry after an insertion is the new one or an old one. -/
theorem mem_insertEntry {key value : String} {entries : List (String × String)}
    {e : String × String} (h : e ∈ insertEntry key value entries) : e = (key, value) ∨ e ∈ entries := by
  induction entries with
  | nil => simpa [insertEntry] using h
  | cons head rest ih =>
    obtain ⟨k, v⟩ := head
    simp only [insertEntry] at h
    split at h
    · simpa using h
    · split at h
      · rcases List.mem_cons.1 h with h | h
        · exact .inl h
        · exact .inr (List.mem_cons_of_mem _ h)
      · rcases List.mem_cons.1 h with h | h
        · exact .inr (h ▸ List.mem_cons_self)
        · exact (ih h).imp id (List.mem_cons_of_mem _)

/-- Insertion keeps the order of keys. -/
theorem keysSorted_insertEntry {key value : String} {entries : List (String × String)}
    (sorted : KeysSorted entries) : KeysSorted (insertEntry key value entries) := by
  induction entries with
  | nil => simp [insertEntry, KeysSorted]
  | cons head rest ih =>
    obtain ⟨k, v⟩ := head
    obtain ⟨below, tail⟩ := List.pairwise_cons.1 sorted
    simp only [insertEntry]
    split
    · next lt =>
      refine List.pairwise_cons.2 ⟨fun e mem => ?_, sorted⟩
      rcases List.mem_cons.1 mem with rfl | mem
      · exact lt
      · exact String.lt_trans lt (below e mem)
    · next notLt =>
      split
      · next eq =>
        subst eq
        exact List.pairwise_cons.2 ⟨below, tail⟩
      · next ne =>
        have gt : k < key := by
          rcases String.le_total key k with le | le
          · exact absurd (String.le_antisymm le (String.not_lt.1 notLt)) ne
          · exact String.not_le.1 fun le' => ne (String.le_antisymm le' le)
        refine List.pairwise_cons.2 ⟨fun e mem => ?_, ih tail⟩
        rcases mem_insertEntry mem with rfl | mem
        · exact gt
        · exact below e mem

/-- A map from texts to texts. -/
structure Attributes where
  /-- The entries in the order of their keys. -/
  entries : List (String × String)
  /-- No key occurs twice, and the keys are in order. -/
  sorted : KeysSorted entries
deriving DecidableEq

namespace Attributes

def empty : Attributes := ⟨[], List.Pairwise.nil⟩

instance : Inhabited Attributes := ⟨empty⟩

def size (a : Attributes) : Nat := a.entries.length

def insert (a : Attributes) (key value : String) : Attributes :=
  ⟨insertEntry key value a.entries, keysSorted_insertEntry a.sorted⟩

/-- The map of a list of entries; of several entries with one key the last one counts. -/
def ofList (entries : List (String × String)) : Attributes :=
  entries.foldl (fun a e => a.insert e.1 e.2) empty

end Attributes

end TelemetryGateway.Telemetry
