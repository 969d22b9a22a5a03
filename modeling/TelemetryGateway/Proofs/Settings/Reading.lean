import Mathlib
import TelemetryGateway.Proofs.Telemetry.Wire.Carry
import TelemetryGateway.Settings.Reading

/-!
# Fields of a part

A part is read field by field, and each field has a place of its own. So to set one entry of the table that a part is
read from is to set the place of its field, and nothing else is read differently. This holds also where there is no
table yet; where there is a list, the table replaces it, and all other fields are read as if nothing had been given.

## Main definitions

- `Slot.Apart`: a field whose value does not touch a place
- `Stands`: a field with its place in a part
- `laid`, `readOr`: the entries of what stands in a tree, and the part that is read from it
- `kept`: what is kept of a part when entries are set

## Main statements

- `lookup_setEntry`: what is found in a table with an entry set
- `Stands.readPart_setEntry`: an entry that is set is read into its place
- `Stands.readPart_laid`, `Stands.readOr_lookup`: the same wherever a part may stand, and what is read from its fields
- `stands_server` and the others: the fields of the settings
-/

/-- A list, which may stand for a part with its fields in their order. -/
def TelemetryGateway.Yaml.Node.isList : TelemetryGateway.Yaml.Node → Bool
  | .list _ => true
  | _ => false

namespace TelemetryGateway.Settings

open TelemetryGateway.Telemetry.Wire (Lens)
open TelemetryGateway.Yaml (Node setEntry)

/-! ## Entries of a table -/

theorem lookup_setEntry (name name' : String) (v : Node) (entries : List (String × Node)) :
    (setEntry name v entries).lookup name' = if name' = name then some v else entries.lookup name' := by
  induction entries with
  | nil =>
    by_cases h : name' = name
    · simp [setEntry, h]
    · simp [setEntry, h, List.lookup_cons, beq_false_of_ne h]
  | cons entry entries ih =>
    obtain ⟨n, w⟩ := entry
    by_cases hn : n = name
    · subst hn
      by_cases h : name' = n
      · simp [setEntry, h]
      · simp [setEntry, h, List.lookup_cons, beq_false_of_ne h]
    · by_cases h : name' = n
      · subst h
        simp [setEntry, hn]
      · simp [setEntry, hn, List.lookup_cons, beq_false_of_ne h, ih]

/-! ## Fields and places -/

section Slots

variable {σ α : Type} {c : Conversion}

/-- What is read for a field does not touch a place. -/
def Slot.Apart (slot : Slot σ) (set : α → σ → σ) : Prop :=
  ∀ c v change, slot.read c v = some change → ∀ x p, change (set x p) = set x (change p)

theorem Slot.apart_of {β : Type} {name : String} {kind : Conversion → Node → Option β} {set' : β → σ → σ}
    {set : α → σ → σ} (h : ∀ y x p, set' y (set x p) = set x (set' y p)) : (Slot.of name kind set').Apart set := by
  intro c v change hread x p
  obtain ⟨y, -, rfl⟩ := Option.map_eq_some_iff.1 hread
  exact h y x p

variable {set : α → σ → σ}

theorem readSlot_apart {slot : Slot σ} (hslot : slot.Apart set) (v? : Option Node) (x : α) (p : σ) :
    readSlot c (set x p) (slot, v?) = (readSlot c p (slot, v?)).map (set x) := by
  cases v? with
  | none => rfl
  | some v =>
    cases hread : slot.read c v with
    | none => simp [readSlot, hread]
    | some change => simp [readSlot, hread, hslot c v change hread x p]

/-- Fields apart from a place leave it to itself. -/
theorem foldlM_readSlot_apart {slots : List (Slot σ × Option Node)} (hslots : ∀ slot ∈ slots, slot.1.Apart set) (x : α)
    (p : σ) : slots.foldlM (readSlot c) (set x p) = (slots.foldlM (readSlot c) p).map (set x) := by
  induction slots generalizing p with
  | nil => rfl
  | cons slot slots ih =>
    obtain ⟨hfirst, hrest⟩ := List.forall_mem_cons.1 hslots
    obtain ⟨slot, v?⟩ := slot
    simp only [List.foldlM_cons, readSlot_apart hfirst]
    cases readSlot c p (slot, v?) with
    | none => rfl
    | some q => exact ih hrest q

theorem get_of_foldlM_readSlot {get : σ → α} (hlens : Lens get set) {slots : List (Slot σ × Option Node)}
    (hslots : ∀ slot ∈ slots, slot.1.Apart set) {p q : σ} (h : slots.foldlM (readSlot c) p = some q) :
    get q = get p := by
  have hself := foldlM_readSlot_apart (c := c) hslots (get p) p
  rw [hlens.set_get, h] at hself
  obtain ⟨q', -, hq⟩ := Option.map_eq_some_iff.1 hself.symm
  rw [← hq, hlens.get_set]

/-- A field stands at a place: it is read into it, and no other field touches it. -/
structure Stands (slots : List (Slot σ)) (name : String) (kind : Conversion → Node → Option α) (get : σ → α)
    (set : α → σ → σ) : Prop where
  lens : Lens get set
  exists_split : ∃ front back, slots = front ++ Slot.of name kind set :: back ∧
    (∀ slot ∈ front, slot.name ≠ name ∧ slot.Apart set) ∧ ∀ slot ∈ back, slot.name ≠ name ∧ slot.Apart set

namespace Stands

variable {slots : List (Slot σ)} {name : String} {kind : Conversion → Node → Option α} {get : σ → α}
  {start r : σ} {entries : List (String × Node)} (h : Stands slots name kind get set)

include h

/-- What is found at the place of a field is what its entry says, or what stood there at first. -/
theorem get_of_readPart (hread : readPart slots start c (.table entries) = some r) :
    match entries.lookup name with
    | none => get r = get start
    | some v => kind c v = some (get r) := by
  obtain ⟨front, back, rfl, hfront, hback⟩ := h.exists_split
  simp only [readPart, List.map_append, List.map_cons, List.foldlM_append, List.foldlM_cons, Option.bind_eq_bind,
    Option.bind_eq_some_iff] at hread
  obtain ⟨p, hp, q, hq, hr⟩ := hread
  have hbefore : get p = get start := by
    refine get_of_foldlM_readSlot h.lens (fun slot hmem => ?_) hp
    obtain ⟨s, hs, rfl⟩ := List.mem_map.1 hmem
    exact (hfront s hs).2
  have hafter : get r = get q := by
    refine get_of_foldlM_readSlot h.lens (fun slot hmem => ?_) hr
    obtain ⟨s, hs, rfl⟩ := List.mem_map.1 hmem
    exact (hback s hs).2
  simp only [readSlot, Slot.of] at hq
  cases hlookup : entries.lookup name with
  | none =>
    rw [hlookup] at hq
    cases hq
    exact hafter.trans hbefore
  | some v =>
    rw [hlookup] at hq
    simp only [Option.map_map, Option.map_eq_some_iff] at hq
    obtain ⟨y, hy, rfl⟩ := hq
    simp only [Function.comp_apply] at hafter
    rw [hafter, h.lens.get_set]
    exact hy

/-- An entry that is set is read into its place. -/
theorem readPart_setEntry (hread : readPart slots start c (.table entries) = some r) {v : Node} {x : α}
    (hv : kind c v = some x) : readPart slots start c (.table (setEntry name v entries)) = some (set x r) := by
  obtain ⟨front, back, rfl, hfront, hback⟩ := h.exists_split
  have hsame (slots : List (Slot σ)) (hslots : ∀ slot ∈ slots, slot.name ≠ name ∧ slot.Apart set) :
      slots.map (fun slot => (slot, (setEntry name v entries).lookup slot.name)) =
        slots.map fun slot => (slot, entries.lookup slot.name) := by
    refine List.map_congr_left fun slot hslot => ?_
    rw [lookup_setEntry, if_neg (hslots slot hslot).1]
  have hapart : ∀ slot ∈ back.map (fun slot => (slot, entries.lookup slot.name)), slot.1.Apart set := by
    intro slot hmem
    obtain ⟨s, hs, rfl⟩ := List.mem_map.1 hmem
    exact (hback s hs).2
  simp only [readPart, List.map_append, List.map_cons, List.foldlM_append, List.foldlM_cons, Option.bind_eq_bind,
    Option.bind_eq_some_iff] at hread ⊢
  obtain ⟨p, hp, q, hq, hr⟩ := hread
  have hnew : readSlot c p (Slot.of name kind set, (setEntry name v entries).lookup name) = some (set x p) := by
    rw [lookup_setEntry, if_pos rfl]
    simp [readSlot, Slot.of, hv]
  -- Whether the entry is new or not, what is read behind it comes out the same
  have hset : set x q = set x p := by
    cases hlookup : entries.lookup name with
    | none =>
      rw [Slot.of, hlookup] at hq
      cases hq
      rfl
    | some w =>
      rw [Slot.of, hlookup] at hq
      simp only [readSlot, Option.map_map, Option.map_eq_some_iff] at hq
      obtain ⟨y, -, rfl⟩ := hq
      exact h.lens.set_set x y p
  refine ⟨p, ?_, set x p, hnew, ?_⟩
  · rw [hsame front hfront]
    exact hp
  · rw [hsame back hback, ← hset, foldlM_readSlot_apart hapart, hr]
    rfl

end Stands

/-! ## Wherever a part may stand -/

/-- The entries of what stands in a tree, if anything does; what is no table has none. -/
def laid (v? : Option Node) : List (String × Node) :=
  (v?.getD .null).entries

/-- A part that stays as it was at first where nothing stands. -/
def readOr (slots : List (Slot σ)) (start : σ) (c : Conversion) : Option Node → Option σ
  | none => some start
  | some v => readPart slots start c v

/-- What is kept of a part once its entries are laid out: nothing of a list, which has none. -/
def kept (v? : Option Node) (start r : σ) : σ :=
  if v?.any Node.isList then start else r

section Anywhere

variable {slots : List (Slot σ)} {start r : σ} {v? : Option Node}

theorem readPart_nil : readPart slots start c (.table []) = some start := by
  have hnone : ∀ s : List (Slot σ), (s.map fun slot => (slot, (none : Option Node))).foldlM (readSlot c) start =
      some start := by
    intro s
    induction s with
    | nil => rfl
    | cons slot s ih => exact ih
  simpa [readPart] using hnone slots

theorem readPart_kept (hread : readOr slots start c v? = some r) :
    readPart slots start c (.table (laid v?)) = some (kept v? start r) := by
  rcases v? with _ | v
  · cases hread
    exact readPart_nil
  · cases v with
    | table entries => exact hread
    | list items => exact readPart_nil
    | null => cases hread
    | bool b => cases hread
    | int n => cases hread
    | real x => cases hread
    | text s => cases hread

variable {name : String} {kind : Conversion → Node → Option α} {get : σ → α}
  (h : Stands slots name kind get set) (hread : readOr slots start c v? = some r)

include h hread

/-- An entry that is set wherever a part may stand is read into its place. -/
theorem Stands.readPart_laid {v : Node} {x : α} (hv : kind c v = some x) :
    readPart slots start c (.table (setEntry name v (laid v?))) = some (set x (kept v? start r)) :=
  h.readPart_setEntry (readPart_kept hread) hv

/-- What is read for a field that is a part itself. -/
theorem Stands.readOr_lookup {slots' : List (Slot α)} {start' : α} (hkind : kind = readPart slots' start')
    (hstart : get start = start') :
    readOr slots' start' c ((laid v?).lookup name) = some (get (kept v? start r)) := by
  have hget := h.get_of_readPart (readPart_kept hread)
  cases hlookup : (laid v?).lookup name with
  | none =>
    rw [hlookup] at hget
    rw [readOr, hget, hstart]
  | some v =>
    rw [hlookup, hkind] at hget
    exact hget

end Anywhere

end Slots

/-! ## The parts of the settings -/

/-- A field stands at its place if the other fields have other names and places of their own. -/
theorem stands_of {σ α : Type} {slots : List (Slot σ)} {name : String} {kind : Conversion → Node → Option α}
    {get : σ → α} {set : α → σ → σ} (front : List (Slot σ)) {back : List (Slot σ)}
    (hslots : slots = front ++ Slot.of name kind set :: back)
    (hlens : Lens get set) (hothers : ∀ slot ∈ front ++ back, slot.name ≠ name ∧ slot.Apart set) :
    Stands slots name kind get set :=
  ⟨hlens, front, back, hslots, List.forall_mem_append.1 hothers⟩

theorem stands_server :
    Stands parts "server" (readPart serverSlots {}) Settings.server fun v p => { p with server := v } :=
  stands_of (parts.take 0) rfl ⟨fun _ _ => rfl, fun _ _ _ => rfl, fun _ => rfl⟩ fun slot hmem => by
    fin_cases hmem <;> exact ⟨by decide, Slot.apart_of fun _ _ _ => rfl⟩

theorem stands_indexer :
    Stands parts "indexer" (readPart indexSlots defaultIndices) Settings.indices fun v p => { p with indices := v } :=
  stands_of (parts.take 1) rfl ⟨fun _ _ => rfl, fun _ _ _ => rfl, fun _ => rfl⟩ fun slot hmem => by
    fin_cases hmem <;> exact ⟨by decide, Slot.apart_of fun _ _ _ => rfl⟩

theorem stands_logging :
    Stands parts "logging" (readPart loggingSlots {}) Settings.logging fun v p => { p with logging := v } :=
  stands_of (parts.take 2) rfl ⟨fun _ _ => rfl, fun _ _ _ => rfl, fun _ => rfl⟩ fun slot hmem => by
    fin_cases hmem <;> exact ⟨by decide, Slot.apart_of fun _ _ _ => rfl⟩

theorem stands_bindAddress :
    Stands serverSlots "bind_address" Conversion.text Server.bindAddress fun v p => { p with bindAddress := v } :=
  stands_of (serverSlots.take 0) rfl ⟨fun _ _ => rfl, fun _ _ _ => rfl, fun _ => rfl⟩ fun slot hmem => by
    fin_cases hmem <;> exact ⟨by decide, Slot.apart_of fun _ _ _ => rfl⟩

theorem stands_basicAuth :
    Stands serverSlots "basic_auth" (readPart basicAuthSlots {}) Server.basicAuth fun v p => { p with basicAuth := v } :=
  stands_of (serverSlots.take 5) rfl ⟨fun _ _ => rfl, fun _ _ _ => rfl, fun _ => rfl⟩ fun slot hmem => by
    fin_cases hmem <;> exact ⟨by decide, Slot.apart_of fun _ _ _ => rfl⟩

theorem stands_username :
    Stands basicAuthSlots "username" Conversion.text BasicAuth.username fun v p => { p with username := v } :=
  stands_of (basicAuthSlots.take 1) rfl ⟨fun _ _ => rfl, fun _ _ _ => rfl, fun _ => rfl⟩ fun slot hmem => by
    fin_cases hmem <;> exact ⟨by decide, Slot.apart_of fun _ _ _ => rfl⟩

theorem stands_password :
    Stands basicAuthSlots "password" Conversion.text BasicAuth.password fun v p => { p with password := v } :=
  stands_of (basicAuthSlots.take 2) rfl ⟨fun _ _ => rfl, fun _ _ _ => rfl, fun _ => rfl⟩ fun slot hmem => by
    fin_cases hmem <;> exact ⟨by decide, Slot.apart_of fun _ _ _ => rfl⟩

theorem stands_indexMetrics :
    Stands indexSlots "index_metrics" Conversion.text Ingest.Indices.metrics fun v p => { p with metrics := v } :=
  stands_of (indexSlots.take 0) rfl ⟨fun _ _ => rfl, fun _ _ _ => rfl, fun _ => rfl⟩ fun slot hmem => by
    fin_cases hmem
    exact ⟨by decide, Slot.apart_of fun _ _ _ => rfl⟩

theorem stands_indexLogs :
    Stands indexSlots "index_logs" Conversion.text Ingest.Indices.logs fun v p => { p with logs := v } :=
  stands_of (indexSlots.take 1) rfl ⟨fun _ _ => rfl, fun _ _ _ => rfl, fun _ => rfl⟩ fun slot hmem => by
    fin_cases hmem
    exact ⟨by decide, Slot.apart_of fun _ _ _ => rfl⟩

theorem stands_level :
    Stands loggingSlots "level" Conversion.text Logging.level fun v p => { p with level := v } :=
  stands_of (loggingSlots.take 0) rfl ⟨fun _ _ => rfl, fun _ _ _ => rfl, fun _ => rfl⟩ fun slot hmem => by
    fin_cases hmem <;> exact ⟨by decide, Slot.apart_of fun _ _ _ => rfl⟩

end TelemetryGateway.Settings
