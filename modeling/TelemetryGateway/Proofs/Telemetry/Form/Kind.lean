import Mathlib
import TelemetryGateway.Proofs.Json.Value
import TelemetryGateway.Proofs.Telemetry.Attributes
import TelemetryGateway.Proofs.Telemetry.Vocabulary
import TelemetryGateway.Proofs.Text.Base64
import TelemetryGateway.Telemetry.Form.Message

/-!
# Field values in JSON read back

Each kind of field reads the value that is written for it, whatever the value is. For single-precision numbers
that is a matter of their decimal text, and assumed of the numbers at hand.

## Main definitions

- `ReadsBack`: the decimal text of a number is read as the number
- `Gives`: members that take one message to another

## Main statements

- `uint32_natural32`, `int64_toInt`, `term_toJson`, …: one lemma for each kind
- `optional_optionalValue`, `list_array`: values that may be absent, and lists
- `message_of_gives`: a message with all its fields
-/

namespace TelemetryGateway.Telemetry

open TelemetryGateway.Json
open TelemetryGateway.Number (Single)
open TelemetryGateway.Text

namespace Form

/-! ## Integers -/

theorem tree_int (n : Int) : (Value.int n).tree = .number (.ofInt n) := by
  rw [Value.tree]

theorem uint32_natural32 (n : UInt32) : uint32 (natural32 n).tree = .ok n := by
  have hlt := n.toNat_lt
  have hint : (Numeral.ofInt n.toNat).int? = some (n.toNat : Int) :=
    Numeral.int?_ofInt (by simp only [Integer.minInt64]; omega) (by simp only [Integer.maxUInt64]; omega)
  have hrange : (0 : Int) ≤ n.toNat ∧ (n.toNat : Int) < 0x100000000 := by omega
  simp only [natural32, tree_int, uint32, hint, if_pos hrange, Int.toNat_natCast, UInt32.ofNat_toNat]

theorem uint64_natural64 (n : UInt64) : uint64 (natural64 n).tree = .ok n := by
  have hlt := n.toNat_lt
  have hint : (Numeral.ofInt n.toNat).int? = some (n.toNat : Int) :=
    Numeral.int?_ofInt (by simp only [Integer.minInt64]; omega) (by simp only [Integer.maxUInt64]; omega)
  have hrange : (0 : Int) ≤ n.toNat := by omega
  simp only [natural64, tree_int, uint64, hint, if_pos hrange, Int.toNat_natCast, UInt64.ofNat_toNat]

theorem int64_toInt (n : Int64) : int64 (Value.int n.toInt).tree = .ok n := by
  have hmin := n.le_toInt
  have hmax := n.toInt_lt
  have hint : (Numeral.ofInt n.toInt).int? = some n.toInt :=
    Numeral.int?_ofInt (by simp only [Integer.minInt64]; omega) (by simp only [Integer.maxUInt64]; omega)
  have hrange : n.toInt ≤ Integer.maxInt64 := by simp only [Integer.maxInt64]; omega
  simp only [tree_int, int64, hint, if_pos hrange, Int64.ofInt_toInt]

/-! ## Terms -/

theorem term_toJson {v : Vocabulary} (hnodup : v.names.Nodup) (t : Term v) :
    term v t.toJson.tree = .ok t := by
  cases hname : t.name? with
  -- A code with a name is written as the name
  | some name =>
    simp only [Term.toJson, hname, Value.tree, term, Term.ofName?_of_name? hnodup hname]
  -- Any other code is written as a number
  | none =>
    have hmin := t.code.le_toInt
    have hmax := t.code.toInt_lt
    have hint : (Numeral.ofInt t.code.toInt).int? = some t.code.toInt :=
      Numeral.int?_ofInt (by simp only [Integer.minInt64]; omega)
        (by simp only [Integer.maxUInt64]; omega)
    have hrange : -0x80000000 ≤ t.code.toInt ∧ t.code.toInt < 0x80000000 := by omega
    simp only [Term.toJson, hname, Value.tree, term, hint, if_pos hrange, Int32.ofInt_toInt]

/-! ## Byte strings, texts and single-precision numbers -/

theorem bytes_binary (b : List UInt8) : bytes (binary b).tree = .ok b := by
  simp only [binary, Value.tree, bytes, Base64.decode_encode]

theorem text_string (s : String) : text (Value.string s).tree = .ok s := by
  simp only [Value.tree, text]

/-- The decimal text of a finite number is read as the number. -/
def ReadsBack (x : Single) : Prop :=
  x.finite = true ∧ single (Json.read (utf8 x.json)).tree = .ok x

instance (x : Single) : Decidable (ReadsBack x) :=
  inferInstanceAs (Decidable (_ ∧ _))

theorem single_single {x : Single} (h : ReadsBack x) : single (Value.single x).tree = .ok x := by
  rw [Value.tree, if_pos h.1, h.2]

/-! ## Values that may be absent, and lists -/

/-- A value that is present is not written as one that is absent. -/
theorem optional_optionalValue {α : Type} {kind : Read α} {value : α → Value} {o : Option α}
    (hread : ∀ x ∈ o, kind (value x).tree = .ok x) (hnull : ∀ x ∈ o, (value x).tree ≠ .null) :
    optional kind (optionalValue value o).tree = .ok o := by
  cases o with
  | none => simp only [optionalValue, Value.tree, optional]
  | some x =>
    have hx := hread x rfl
    have hne := hnull x rfl
    simp only [optionalValue]
    cases htree : (value x).tree <;> simp_all [optional, Except.map]

theorem list_array {α : Type} {kind : Read α} {vs : List Value} {xs : List α}
    (h : List.Forall₂ (fun v x => kind v.tree = .ok x) vs xs) : list kind (Value.array vs).tree = .ok xs := by
  have hmap : (vs.map Value.tree).mapM kind = .ok xs := by
    induction h with
    | nil => rfl
    | cons hx _ ih =>
      rw [List.map_cons, List.mapM_cons, hx, ih]
      rfl
  rw [Value.tree, list, Value.itemTrees_eq_map, hmap]

/-- A map reads its entries in any order. -/
theorem attributes_entriesToJson {a : Attributes} {order : List (String × String)}
    (hperm : order.Perm a.entries) : attributes (entriesToJson order).tree = .ok a := by
  -- Reading the members is setting them one after the other
  have hfold (entries : List (String × String)) (b : Attributes) :
      (entries.map fun e => (some e.1, Tree.string e.2)).foldlM readEntry b =
        .ok (entries.foldl (fun a e => a.insert e.1 e.2) b) := by
    induction entries generalizing b with
    | nil => rfl
    | cons e entries ih =>
      rw [List.map_cons, List.foldlM_cons, List.foldl_cons, ← ih]
      rfl
  have hmembers : Value.memberTrees (order.map fun e => (e.1, Value.string e.2)) =
      order.map fun e => (some e.1, Tree.string e.2) := by
    rw [Value.memberTrees_eq_map, List.map_map]
    exact List.map_congr_left fun e _ => by simp only [Function.comp_apply, Value.tree]
  rw [entriesToJson, Value.tree, hmembers, attributes, hfold]
  exact congrArg Except.ok (Attributes.ofList_perm hperm)

/-! ## Messages -/

/-- Members under the names of all fields, in their order, that take one message to another. -/
inductive Gives {σ : Type} : Schema σ → List (String × Value) → σ → σ → Prop
  | nil (m : σ) : Gives [] [] m m
  | cons {slot : Slot σ} {schema : Schema σ} {v : Value} {members : List (String × Value)}
      {change : σ → σ} {m m' : σ} (hread : slot.read v.tree = .ok change)
      (hrest : Gives schema members (change m) m') :
      Gives (slot :: schema) ((slot.name, v) :: members) m m'

/-- No field is spelled like a later one. -/
def Distinct {σ : Type} (schema : Schema σ) : Prop :=
  schema.Pairwise fun a b => a.spells b.name = false

instance {σ : Type} (schema : Schema σ) : Decidable (Distinct schema) :=
  inferInstanceAs (Decidable (schema.Pairwise _))

theorem read_of {σ α : Type} {name : String} {kind : Read α} {set : α → σ → σ} {t : Tree} {x : α}
    (h : kind t = .ok x) : (Slot.of name kind set).read t = .ok (set x) := by
  simp only [Slot.of, h, Except.map]

/-- The name of a field finds the field behind others that are spelled differently. -/
theorem find?_name {σ : Type} {front rest : Schema σ} {slot : Slot σ}
    (hfront : ∀ a ∈ front, a.spells slot.name = false) :
    (front ++ slot :: rest).find? (·.spells slot.name) = some slot := by
  have hnone : front.find? (·.spells slot.name) = none := by
    rw [List.find?_eq_none]
    intro a ha
    simp [hfront a ha]
  rw [List.find?_append, hnone, Option.none_or]
  simp [Slot.spells]

/-- The members that are left are read behind those of the fields in front. The induction is on the
fields that are left. -/
theorem foldlM_of_gives {σ : Type} {schema front rest : Schema σ} {members : List (String × Value)}
    {m m' : σ} (hdistinct : Distinct schema) (hschema : schema = front ++ rest)
    (h : Gives rest members m m') :
    ((Value.memberTrees members).foldlM (readMember schema) ((front.map (·.name)).reverse, m)) =
      .ok ((schema.map (·.name)).reverse, m') := by
  induction h generalizing front with
  | nil m =>
    rw [hschema, List.append_nil]
    rfl
  | @cons slot rest v members change m m' hread _ ih =>
    have hfront : ∀ a ∈ front, a.spells slot.name = false := by
      rw [hschema] at hdistinct
      exact fun a ha => (List.pairwise_append.1 hdistinct).2.2 a ha slot List.mem_cons_self
    -- The field is not read yet, so its member is no repetition
    have hnew : slot.name ∉ (front.map (·.name)).reverse := by
      rw [List.mem_reverse]
      intro hmem
      obtain ⟨a, ha, hname⟩ := List.mem_map.1 hmem
      have hspells := hfront a ha
      simp [Slot.spells, hname] at hspells
    have hstep : readMember schema ((front.map (·.name)).reverse, m) (some slot.name, v.tree) =
        .ok (((front ++ [slot]).map (·.name)).reverse, change m) := by
      simp only [readMember, hschema, find?_name hfront, if_neg hnew, hread, Except.map]
      simp
    rw [Value.memberTrees, Value.memberTree, List.foldlM_cons, hstep]
    exact ih (by rw [hschema, List.append_assoc]; rfl)

/-- A message reads the members of all its fields. -/
theorem message_of_gives {σ : Type} [Inhabited σ] {schema : Schema σ} {members : List (String × Value)}
    {m : σ} (hdistinct : Distinct schema) (h : Gives schema members default m) :
    message schema (Value.object members).tree = .ok m := by
  have hfold := foldlM_of_gives hdistinct (List.nil_append schema).symm h
  rw [List.map_nil, List.reverse_nil] at hfold
  rw [Value.tree, message, hfold]
  rfl

end Form

end TelemetryGateway.Telemetry
