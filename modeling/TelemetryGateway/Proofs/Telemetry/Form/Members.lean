import Mathlib
import TelemetryGateway.Telemetry.Form.Kind

/-!
# How a message takes its members

Members of an object may come in any order: each of them sets a place of its own, and what decides whether a member is
accepted is which fields have been given, and not when. Faults are another matter, since the first one counts, so
readings are compared by what comes of them and not by why nothing does.

## Main definitions

- `Schema.Orderly`: messages whose fields have names and places of their own
- `outcome`: the message after members, if it comes to one
- `positional`: the message after the items of an array

## Main statements

- `outcome_perm`: members in any order
- `outcome_twice`: a field that is given twice
- `outcome_replace`, `positional_replace`, `list_replace`: values that are read alike
-/

namespace TelemetryGateway.Telemetry.Form

open TelemetryGateway.Json

/-! ## What comes of a reading -/

theorem toOption_map {ε α β : Type} (r : Except ε α) (f : α → β) : (r.map f).toOption = r.toOption.map f := by
  cases r <;> rfl

theorem toOption_bind {ε α β : Type} (r : Except ε α) (f : α → Except ε β) :
    (r >>= f).toOption = r.toOption.bind fun a => (f a).toOption := by
  cases r <;> rfl

theorem toOption_eq_some_iff {ε α : Type} {r : Except ε α} {a : α} : r.toOption = some a ↔ r = .ok a := by
  cases r <;> simp [Except.toOption]

variable {σ : Type} {schema : Schema σ}

/-! ## Fields with names and places of their own -/

/-- Two fields that can be set in either order. -/
def Slot.Commute (s t : Slot σ) : Prop :=
  ∀ v w change change', s.read v = .ok change → t.read w = .ok change' →
    ∀ m, change (change' m) = change' (change m)

instance : Std.Symm (@Slot.Commute σ) where
  symm _ _ h v w _ _ hread hread' m := (h w v _ _ hread' hread m).symm

/-- Fields in different places can be set in either order. -/
theorem Slot.commute_of {α β : Type} {name name' : String} {kind : Read α} {kind' : Read β} {set : α → σ → σ}
    {set' : β → σ → σ} (hset : ∀ v w m, set v (set' w m) = set' w (set v m)) :
    (Slot.of name kind set).Commute (Slot.of name' kind' set') := by
  intro v w change change' hread hread' m
  simp only [Slot.of] at hread hread'
  cases hv : kind v with
  | error e => simp [hv, Except.map] at hread
  | ok x =>
    cases hw : kind' w with
    | error e => simp [hw, Except.map] at hread'
    | ok y =>
      simp only [hv, Except.map, Except.ok.injEq] at hread
      simp only [hw, Except.map, Except.ok.injEq] at hread'
      rw [← hread, ← hread', hset]

/-- Fields with names and places of their own. -/
structure Schema.Orderly (schema : Schema σ) : Prop where
  unique : ∀ s ∈ schema, ∀ t ∈ schema, ∀ name, s.spells name = true → t.spells name = true → s = t
  independent : schema.Pairwise Slot.Commute

/-- A field goes by its own name. -/
theorem Slot.spells_name (s : Slot σ) : s.spells s.name = true := by
  simp [Slot.spells]

theorem Schema.Orderly.name_injective (h : schema.Orderly) {s t : Slot σ} (hs : s ∈ schema) (ht : t ∈ schema)
    (hname : s.name = t.name) : s = t :=
  h.unique s hs t ht t.name (hname ▸ s.spells_name) t.spells_name

/-- A field is found by every name that it goes by, where no other field goes by the same. -/
theorem find?_of_spells
    (hunique : ∀ s ∈ schema, ∀ t ∈ schema, ∀ name, s.spells name = true → t.spells name = true → s = t)
    {slot : Slot σ} (hslot : slot ∈ schema) {name : String} (hspells : slot.spells name = true) :
    schema.find? (·.spells name) = some slot := by
  cases hfind : schema.find? (·.spells name) with
  | none => exact absurd hspells (by simpa using List.find?_eq_none.1 hfind slot hslot)
  | some slot' =>
    have hspells' := List.find?_some hfind
    rw [hunique _ (List.mem_of_find?_eq_some hfind) _ hslot name hspells' hspells]

/-! ## Members -/

/-- The message after members, behind those that have given the fields of `names`. -/
def outcome (schema : Schema σ) (names : List String) (m : σ) (members : List Member) : Option σ :=
  (members.foldlM (readMember schema) (names, m)).toOption.map (·.2)

theorem message_object [Inhabited σ] (schema : Schema σ) (members : List Member) :
    (message schema (.object members)).toOption = outcome schema [] default members :=
  toOption_map _ _

theorem outcome_cons (names : List String) (m : σ) (member : Member) (members : List Member) :
    outcome schema names m (member :: members) =
      (readMember schema (names, m) member).toOption.bind fun draft => outcome schema draft.1 draft.2 members := by
  rw [outcome, List.foldlM_cons, toOption_bind, Option.map_bind]
  rfl

/-- A name that is no text. -/
theorem outcome_nameless (names : List String) (m : σ) (v : Tree) (members : List Member) :
    outcome schema names m ((none, v) :: members) = none := by
  rw [outcome_cons]
  rfl

/-- A name of no field. -/
theorem outcome_unknown {name : String} (h : schema.find? (·.spells name) = none) (names : List String) (m : σ)
    (v : Tree) (members : List Member) :
    outcome schema names m ((some name, v) :: members) = outcome schema names m members := by
  rw [outcome_cons]
  simp only [readMember, h]
  rfl

/-- A name of a field. -/
theorem outcome_known {name : String} {slot : Slot σ} (h : schema.find? (·.spells name) = some slot)
    (names : List String) (m : σ) (v : Tree) (members : List Member) :
    outcome schema names m ((some name, v) :: members) =
      if slot.name ∈ names then none
      else (slot.read v).toOption.bind fun change => outcome schema (slot.name :: names) (change m) members := by
  rw [outcome_cons]
  simp only [readMember, h]
  split
  · rfl
  · rw [toOption_map, Option.bind_map]
    rfl

/-- Only which fields have been given matters, and not in which order. -/
theorem outcome_names {names names' : List String} (h : ∀ n, n ∈ names ↔ n ∈ names') (m : σ)
    (members : List Member) : outcome schema names m members = outcome schema names' m members := by
  induction members generalizing names names' m with
  | nil => rfl
  | cons member members ih =>
    obtain ⟨name?, v⟩ := member
    cases name? with
    | none => rw [outcome_nameless, outcome_nameless]
    | some name =>
      cases hfind : schema.find? (·.spells name) with
      | none => rw [outcome_unknown hfind, outcome_unknown hfind, ih h]
      | some slot =>
        have hnames : ∀ n, n ∈ slot.name :: names ↔ n ∈ slot.name :: names' := by
          intro n
          rw [List.mem_cons, List.mem_cons, h n]
        rw [outcome_known hfind, outcome_known hfind]
        simp only [h slot.name, ih hnames]

/-- Members behind others, which say the same wherever they stand. -/
theorem outcome_behind {members members' : List Member}
    (h : ∀ names m, outcome schema names m members = outcome schema names m members') (front : List Member)
    (names : List String) (m : σ) :
    outcome schema names m (front ++ members) = outcome schema names m (front ++ members') := by
  induction front generalizing names m with
  | nil => exact h names m
  | cons member front ih => simp only [List.cons_append, outcome_cons, ih]

/-- A field that is given twice in a row. -/
theorem outcome_known_known {name name' : String} {slot : Slot σ} (h : schema.find? (·.spells name) = some slot)
    (h' : schema.find? (·.spells name') = some slot) (names : List String) (m : σ) (v w : Tree)
    (members : List Member) : outcome schema names m ((some name, v) :: (some name', w) :: members) = none := by
  have htwice : slot.name ∈ slot.name :: names := List.mem_cons_self
  rw [outcome_known h]
  simp only [outcome_known h', if_pos htwice, Option.bind_fun_none, ite_self]

/-- Two members that name different fields, in either order. -/
theorem outcome_swap_known (h : schema.Orderly) {name name' : String} {s t : Slot σ}
    (hs : schema.find? (·.spells name) = some s) (ht : schema.find? (·.spells name') = some t) (hne : s ≠ t)
    (names : List String) (m : σ) (v w : Tree) (members : List Member) :
    outcome schema names m ((some name, v) :: (some name', w) :: members) =
      outcome schema names m ((some name', w) :: (some name, v) :: members) := by
  have hmem := List.mem_of_find?_eq_some hs
  have hmem' := List.mem_of_find?_eq_some ht
  have hnames : s.name ≠ t.name := fun hname => hne (h.name_injective hmem hmem' hname)
  simp only [outcome_known hs, outcome_known ht, List.mem_cons, hnames, hnames.symm, false_or]
  by_cases hgiven : s.name ∈ names
  · simp only [if_pos hgiven, Option.bind_fun_none, ite_self]
  by_cases hgiven' : t.name ∈ names
  · simp only [if_pos hgiven', Option.bind_fun_none, ite_self]
  simp only [if_neg hgiven, if_neg hgiven']
  cases hread : s.read v with
  | error e => simp [Except.toOption]
  | ok change =>
    cases hread' : t.read w with
    | error e => simp [Except.toOption]
    | ok change' =>
      have hcomm : change' (change m) = change (change' m) :=
        (h.independent.forall hmem hmem' hne v w change change' hread hread' m).symm
      have hswap : ∀ n, n ∈ t.name :: s.name :: names ↔ n ∈ s.name :: t.name :: names :=
        fun n => (List.Perm.swap s.name t.name names).mem_iff
      show outcome schema (t.name :: s.name :: names) (change' (change m)) members =
        outcome schema (s.name :: t.name :: names) (change (change' m)) members
      rw [hcomm, outcome_names hswap]

/-- Two members in either order. -/
theorem outcome_swap (h : schema.Orderly) (a b : Member) (names : List String) (m : σ) (members : List Member) :
    outcome schema names m (a :: b :: members) = outcome schema names m (b :: a :: members) := by
  obtain ⟨name?, v⟩ := a
  obtain ⟨name?', w⟩ := b
  cases name? with
  | none =>
    rw [outcome_nameless, outcome_cons]
    simp only [outcome_nameless, Option.bind_fun_none]
  | some name =>
    cases name?' with
    | none =>
      rw [outcome_nameless, outcome_cons]
      simp only [outcome_nameless, Option.bind_fun_none]
    | some name' =>
      cases hfind : schema.find? (·.spells name) with
      | none =>
        rw [outcome_unknown hfind, outcome_cons, outcome_cons]
        simp only [outcome_unknown hfind]
      | some s =>
        cases hfind' : schema.find? (·.spells name') with
        | none =>
          rw [outcome_unknown hfind', outcome_cons, outcome_cons]
          simp only [outcome_unknown hfind']
        -- Either the names are of one field, which is given twice in both orders, or of two
        | some t =>
          by_cases hst : s = t
          · rw [← hst] at hfind'
            rw [outcome_known_known hfind hfind', outcome_known_known hfind' hfind]
          · exact outcome_swap_known h hfind hfind' hst names m v w members

/-- Members in any order. -/
theorem outcome_perm (h : schema.Orderly) {members members' : List Member} (hperm : members.Perm members')
    (names : List String) (m : σ) : outcome schema names m members = outcome schema names m members' := by
  induction hperm generalizing names m with
  | nil => rfl
  | cons member _ ih => simp only [outcome_cons, ih]
  | swap a b members => exact outcome_swap h b a names m members
  | trans _ _ ih ih' => exact (ih names m).trans (ih' names m)

/-- A field that is given twice, wherever that is. -/
theorem outcome_twice (h : schema.Orderly) {name name' : String} {slot : Slot σ}
    (hname : schema.find? (·.spells name) = some slot) (hname' : schema.find? (·.spells name') = some slot)
    (v w : Tree) (front middle back : List Member) (names : List String) (m : σ) :
    outcome schema names m (front ++ (some name, v) :: (middle ++ (some name', w) :: back)) = none := by
  have hperm : (front ++ (some name, v) :: (middle ++ (some name', w) :: back)).Perm
      ((some name, v) :: (some name', w) :: (front ++ (middle ++ back))) := by
    refine List.perm_middle.trans (List.Perm.cons _ ?_)
    rw [← List.append_assoc, ← List.append_assoc]
    exact List.perm_middle
  rw [outcome_perm h hperm, outcome_known_known hname hname']

/-- A member in the place of another one that names the same field and is read alike. -/
theorem outcome_replace {name name' : String} {slot : Slot σ} {v v' : Tree}
    (hname : schema.find? (·.spells name) = some slot) (hname' : schema.find? (·.spells name') = some slot)
    (hread : (slot.read v).toOption = (slot.read v').toOption) (front back : List Member) (names : List String)
    (m : σ) :
    outcome schema names m (front ++ (some name, v) :: back) =
      outcome schema names m (front ++ (some name', v') :: back) := by
  refine outcome_behind (fun names m => ?_) front names m
  rw [outcome_known hname, outcome_known hname', hread]

/-- A member with a name of no field comes and goes. -/
theorem outcome_skip {name : String} (h : schema.find? (·.spells name) = none) (v : Tree) (front back : List Member)
    (names : List String) (m : σ) :
    outcome schema names m (front ++ (some name, v) :: back) = outcome schema names m (front ++ back) :=
  outcome_behind (fun names m => outcome_unknown h names m v back) front names m

/-- A value that its field does not take. -/
theorem outcome_refused (h : schema.Orderly) {name : String} {slot : Slot σ} {v : Tree}
    (hname : schema.find? (·.spells name) = some slot) (hread : (slot.read v).toOption = none)
    (front back : List Member) (names : List String) (m : σ) :
    outcome schema names m (front ++ (some name, v) :: back) = none := by
  rw [outcome_perm h List.perm_middle, outcome_known hname, hread, Option.bind_none, ite_self]

/-! ## Items -/

/-- The message after the items of an array, for the fields that are left. -/
def positional (slots : Schema σ) (m : σ) (items : List Tree) : Option σ :=
  (items.foldlM readItem (slots, m)).toOption.map (·.2)

theorem message_array [Inhabited σ] (schema : Schema σ) (items : List Tree) :
    (message schema (.array items)).toOption = positional schema default items :=
  toOption_map _ _

theorem positional_cons (slot : Slot σ) (slots : Schema σ) (m : σ) (v : Tree) (items : List Tree) :
    positional (slot :: slots) m (v :: items) =
      (slot.read v).toOption.bind fun change => positional slots (change m) items := by
  rw [positional, List.foldlM_cons, toOption_bind, Option.map_bind]
  simp only [readItem, toOption_map, Option.bind_map]
  rfl

/-- An item in the place of another one that is read alike. -/
theorem positional_replace {slots : Schema σ} {v v' : Tree} {front : List Tree}
    (hread : ∀ slot, slots[front.length]? = some slot → (slot.read v).toOption = (slot.read v').toOption)
    (back : List Tree) (m : σ) :
    positional slots m (front ++ v :: back) = positional slots m (front ++ v' :: back) := by
  induction front generalizing slots m with
  | nil =>
    cases slots with
    | nil => rfl
    | cons slot slots =>
      rw [List.nil_append, List.nil_append, positional_cons, positional_cons, hread slot rfl]
  | cons w front ih =>
    cases slots with
    | nil => rfl
    | cons slot slots =>
      have hrest : ∀ slot, slots[front.length]? = some slot → (slot.read v).toOption = (slot.read v').toOption :=
        fun slot' hslot => hread slot' hslot
      rw [List.cons_append, List.cons_append, positional_cons, positional_cons]
      simp only [ih hrest]

/-- An item that its field does not take. -/
theorem positional_refused {slots : Schema σ} {v : Tree} {front : List Tree}
    (hread : ∀ slot, slots[front.length]? = some slot → (slot.read v).toOption = none) (back : List Tree) (m : σ) :
    positional slots m (front ++ v :: back) = none := by
  induction front generalizing slots m with
  | nil =>
    cases slots with
    | nil => rfl
    | cons slot slots => rw [List.nil_append, positional_cons, hread slot rfl, Option.bind_none]
  | cons w front ih =>
    cases slots with
    | nil => rfl
    | cons slot slots =>
      have hrest : ∀ slot, slots[front.length]? = some slot → (slot.read v).toOption = none :=
        fun slot' hslot => hread slot' hslot
      rw [List.cons_append, positional_cons]
      simp only [ih hrest, Option.bind_fun_none]

/-! ## Lists -/

theorem list_array_cons {α : Type} (kind : Read α) (v : Tree) (items : List Tree) :
    (list kind (.array (v :: items))).toOption =
      (kind v).toOption.bind fun x => (list kind (.array items)).toOption.map (x :: ·) := by
  simp only [list, List.mapM_cons]
  rw [toOption_bind]
  congr 1
  funext x
  rw [toOption_bind]
  cases items.mapM kind <;> rfl

/-- An item in the place of another one that is read alike. -/
theorem list_replace {α : Type} {kind : Read α} {v v' : Tree} (hread : (kind v).toOption = (kind v').toOption)
    (front back : List Tree) :
    (list kind (.array (front ++ v :: back))).toOption = (list kind (.array (front ++ v' :: back))).toOption := by
  induction front with
  | nil => rw [List.nil_append, List.nil_append, list_array_cons, list_array_cons, hread]
  | cons w front ih => rw [List.cons_append, List.cons_append, list_array_cons, list_array_cons, ih]

/-- An item that is not taken. -/
theorem list_refused {α : Type} {kind : Read α} {v : Tree} (hread : (kind v).toOption = none)
    (front back : List Tree) :
    (list kind (.array (front ++ v :: back))).toOption = none := by
  induction front with
  | nil => rw [List.nil_append, list_array_cons, hread, Option.bind_none]
  | cons w front ih =>
    rw [List.cons_append, list_array_cons, ih]
    simp only [Option.map_none, Option.bind_fun_none]

end TelemetryGateway.Telemetry.Form
