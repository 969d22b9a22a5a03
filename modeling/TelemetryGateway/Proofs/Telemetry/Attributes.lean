import Mathlib
import TelemetryGateway.Telemetry.Attributes

/-!
# Attributes from their entries

A map does not depend on the order in which its entries are set, as long as no key is set twice.

## Main statements

- `Attributes.insertAll_perm`: what setting entries with new keys leaves
- `Attributes.ofList_perm`: the entries of a map, in any order, make up the map
-/

namespace TelemetryGateway.Telemetry

/-- An entry with a new key is added to the others. -/
theorem insertEntry_perm {key : String} (value : String) {entries : List (String × String)}
    (hnew : ∀ e ∈ entries, e.1 ≠ key) : (insertEntry key value entries).Perm ((key, value) :: entries) := by
  induction entries with
  | nil => exact List.Perm.refl _
  | cons head rest ih =>
    obtain ⟨k, v⟩ := head
    have hne : key ≠ k := by
      intro h
      exact hnew (k, v) List.mem_cons_self h.symm
    have hrest := ih fun e he => hnew e (List.mem_cons_of_mem _ he)
    simp only [insertEntry, if_neg hne]
    split
    -- In front of the head
    · exact List.Perm.refl _
    -- Further on, from where it can be moved past the head
    · exact (hrest.cons (k, v)).trans (List.Perm.swap ..)

/-- Two lists in the order of their keys that have the same entries are equal. -/
theorem KeysSorted.eq_of_perm {entries entries' : List (String × String)} (hperm : entries.Perm entries')
    (hsorted : KeysSorted entries) (hsorted' : KeysSorted entries') : entries = entries' :=
  List.Perm.eq_of_pairwise (fun a _ _ _ hab hba => absurd (String.lt_trans hab hba) (String.lt_irrefl a.1))
    hsorted hsorted' hperm

namespace Attributes

/-- The map with all entries of a list set, one after the other. -/
def insertAll (a : Attributes) (entries : List (String × String)) : Attributes :=
  entries.foldl (fun a e => a.insert e.1 e.2) a

/-- Entries with distinct new keys are added to the others, whatever their order. -/
theorem insertAll_perm {entries : List (String × String)} (hnodup : (entries.map (·.1)).Nodup)
    {a : Attributes} (hnew : ∀ e ∈ entries, ∀ e' ∈ a.entries, e'.1 ≠ e.1) :
    (a.insertAll entries).entries.Perm (entries ++ a.entries) := by
  induction entries generalizing a with
  | nil => exact List.Perm.refl _
  | cons e rest ih =>
    obtain ⟨hfirst, hrest⟩ := List.nodup_cons.1 hnodup
    have hinsert : (a.insert e.1 e.2).entries.Perm (e :: a.entries) :=
      insertEntry_perm e.2 fun e' he' => hnew e List.mem_cons_self e' he'
    refine (ih hrest fun x hx e' he' => ?_).trans ?_
    -- The other keys are still new: they differ from the first one and from those before it
    · rcases List.mem_cons.1 (hinsert.mem_iff.1 he') with rfl | hold
      · exact fun hkey => hfirst (List.mem_map.2 ⟨x, hx, hkey.symm⟩)
      · exact hnew x (List.mem_cons_of_mem _ hx) e' hold
    · exact (hinsert.append_left rest).trans List.perm_middle

theorem nodup_keys (a : Attributes) : (a.entries.map (·.1)).Nodup := by
  rw [List.nodup_iff_pairwise_ne, List.pairwise_map]
  exact a.sorted.imp fun h => String.ne_of_lt h

/-- The entries of a map, in any order, make up the map. -/
theorem ofList_perm {a : Attributes} {order : List (String × String)} (hperm : order.Perm a.entries) :
    ofList order = a := by
  have hkeys : (order.map (·.1)).Nodup := (hperm.map _).nodup_iff.2 a.nodup_keys
  have hset : (ofList order).entries.Perm order := by
    have h := insertAll_perm (a := empty) hkeys fun _ _ _ h => by cases h
    rwa [empty, List.append_nil] at h
  -- Both have the same entries in the order of their keys
  have hentries : (ofList order).entries = a.entries :=
    KeysSorted.eq_of_perm (hset.trans hperm) (ofList order).sorted a.sorted
  cases a with
  | mk entries sorted =>
    cases hall : ofList order with
    | mk entries' sorted' =>
      rw [hall] at hentries
      cases hentries
      rfl

end Attributes

end TelemetryGateway.Telemetry
