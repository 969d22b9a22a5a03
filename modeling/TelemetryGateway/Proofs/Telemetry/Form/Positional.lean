import Mathlib
import TelemetryGateway.Ingest.Acknowledgment
import TelemetryGateway.Proofs.Telemetry.Form.Rewriting

/-!
# Messages as arrays of their fields

A message may be given as an object, whose members have names, or as an array of its first fields in their order. Both
say the same: whatever the values are, an array is read as the object is that gives them by name, and what it leaves out
keeps its default. That holds of every message of the protocol and at every place where it may stand. An array of more
values than there are fields is never read.

## Main definitions

- `Keyed`: members that give the items of an array by name
- `MessageType.written`: the fields of a message with their values, as they are written
- `WritesInOrder`: schemas whose fields are written at their own places
- `FormsAgree`: what is said of a schema here
- `Path`: what surrounds a value at one place inside another

## Main statements

- `outcome_keyed`: members and items are taken alike
- `formsAgree_form`, `formsAgree_acknowledgment`: every message of the protocol
- `Path.read_eq`, `Path.refuse`: values inside others
- `forms_agree`: all of it, text by text
-/

namespace TelemetryGateway.Telemetry

open TelemetryGateway.Json (Tree Value Member Phrase.Spelled read_of_spelled)
open TelemetryGateway.Text

namespace Form

variable {σ : Type} {schema : Schema σ}

/-! ## One schema -/

/-- Members that give the first fields of a message the values of items, each by one of its names. -/
inductive Keyed : List String → List Tree → List Member → Prop
  | nil {fields : List String} : Keyed fields [] []
  | cons {field name : String} {fields : List String} {v : Tree} {items : List Tree} {members : List Member}
      (hname : name = field ∨ name = jsonName field) (hrest : Keyed fields items members) :
      Keyed (field :: fields) (v :: items) ((some name, v) :: members)

/-- The members say what the items say. The induction is on the fields that are left, none of which is given yet. -/
theorem outcome_keyed (hnamed : schema.Named) {rest : Schema σ} {items : List Tree} {members : List Member}
    (h : Keyed (rest.map (·.name)) items members) (hrest : ∀ slot ∈ rest, slot ∈ schema)
    (hnodup : (rest.map (·.name)).Nodup) {names : List String} (hnew : ∀ slot ∈ rest, slot.name ∉ names) (m : σ) :
    outcome schema names m members = positional rest m items := by
  generalize hfields : rest.map (·.name) = fields at h
  induction h generalizing rest names m with
  | nil => rfl
  | @cons field name fields v items members hname _ ih =>
    cases rest with
    | nil => cases hfields
    | cons slot rest =>
      obtain ⟨rfl, rfl⟩ := List.cons.inj hfields
      have hslot := hrest slot List.mem_cons_self
      have hfind : schema.find? (·.spells name) = some slot :=
        find?_of_spells hnamed.unique hslot ((hnamed.spells_iff hslot).2 hname)
      -- None of the fields behind this one has its name, so they are still to be given
      obtain ⟨hout, hnodup'⟩ : slot.name ∉ rest.map (·.name) ∧ (rest.map (·.name)).Nodup :=
        List.nodup_cons.1 hnodup
      have hnew' : ∀ slot' ∈ rest, slot'.name ∉ slot.name :: names := by
        intro slot' hmem
        have hne : slot'.name ≠ slot.name := by
          intro heq
          rw [← heq] at hout
          exact hout (List.mem_map_of_mem hmem)
        exact List.not_mem_cons_of_ne_of_not_mem hne (hnew slot' (List.mem_cons_of_mem _ hmem))
      rw [outcome_known hfind, if_neg (hnew slot List.mem_cons_self), positional_cons]
      congr 1
      funext change
      exact ih (fun slot' hmem => hrest slot' (List.mem_cons_of_mem _ hmem)) hnodup' hnew' (change m) rfl

/-- There is a field for every item. -/
theorem length_le_of_positional {slots : Schema σ} {items : List Tree} {m m' : σ}
    (h : positional slots m items = some m') : items.length ≤ slots.length := by
  induction items generalizing slots m with
  | nil => exact Nat.zero_le _
  | cons v items ih =>
    cases slots with
    | nil => cases h
    | cons slot slots =>
      rw [positional_cons] at h
      obtain ⟨change, -, hrest⟩ := Option.bind_eq_some_iff.1 h
      exact Nat.succ_le_succ (ih hrest)

/-- Fields that are written at places of their own, one after the other from a place on. -/
inductive WritesInOrder (written : σ → List (String × Value)) : Nat → Schema σ → Prop
  | nil {i : Nat} : WritesInOrder written i []
  | cons {i : Nat} {slot : Slot σ} {rest : Schema σ}
      (hslot : ∀ v change, slot.read v = .ok change → ∀ m, ∃ w, written (change m) = (written m).set i (slot.name, w))
      (hrest : WritesInOrder written (i + 1) rest) : WritesInOrder written i (slot :: rest)

theorem WritesInOrder.field {written : σ → List (String × Value)} {α : Type} {i : Nat} {name : String} {kind : Read α}
    {set : α → σ → σ} {rest : Schema σ} (hset : ∀ x m, ∃ w, written (set x m) = (written m).set i (name, w))
    (hrest : WritesInOrder written (i + 1) rest) : WritesInOrder written i (Slot.of name kind set :: rest) := by
  refine .cons (fun v change hread m => ?_) hrest
  simp only [Slot.of] at hread
  cases hv : kind v with
  | error e => simp [hv, Except.map] at hread
  | ok x =>
    simp only [hv, Except.map, Except.ok.injEq] at hread
    rw [← hread]
    exact hset x m

/-- Items change the fields they are for, and none behind them. -/
theorem WritesInOrder.getElem?_of_positional {written : σ → List (String × Value)} {slots : Schema σ} {i : Nat}
    (h : WritesInOrder written i slots) {items : List Tree} {m m' : σ} (hm : positional slots m items = some m')
    {j : Nat} (hj : i + items.length ≤ j) : (written m')[j]? = (written m)[j]? := by
  induction items generalizing slots i m with
  | nil =>
    cases hm
    rfl
  | cons v items ih =>
    cases h with
    | nil => cases hm
    | @cons _ slot rest hslot hrest =>
      rw [positional_cons] at hm
      obtain ⟨change, hread, hm⟩ := Option.bind_eq_some_iff.1 hm
      obtain ⟨w, hw⟩ := hslot v change (toOption_eq_some_iff.1 hread) m
      rw [List.length_cons] at hj
      rw [ih hrest hm (by omega), hw, List.getElem?_set_ne (by omega)]

/-- The two forms of a message say the same. -/
structure FormsAgree [Inhabited σ] (schema : Schema σ) (written : σ → List (String × Value)) : Prop where
  /-- An array is read as the object is that gives its items by name, in whatever order. -/
  same : ∀ {items : List Tree} {members members' : List Member}, Keyed (schema.map (·.name)) items members →
    members.Perm members' → ∀ m, message schema (.array items) = .ok m ↔ message schema (.object members') = .ok m
  /-- Fields behind the last item have their defaults. -/
  rest : ∀ {items : List Tree} {m : σ}, message schema (.array items) = .ok m →
    ∀ j, items.length ≤ j → (written m)[j]? = (written default)[j]?
  /-- There is a field for every item. -/
  short : ∀ {items : List Tree} {m : σ}, message schema (.array items) = .ok m → items.length ≤ schema.length

theorem formsAgree_of [Inhabited σ] {written : σ → List (String × Value)} (hnamed : schema.Named)
    (hindependent : schema.Pairwise Slot.Commute) (hwrites : WritesInOrder written 0 schema) :
    FormsAgree schema written where
  same := by
    intro items members members' hkeyed hperm m
    have hsame := outcome_keyed hnamed hkeyed (fun _ hslot => hslot) hnamed.nodup
      (fun _ _ => List.not_mem_nil) default
    rw [← toOption_eq_some_iff, ← toOption_eq_some_iff, message_array, message_object,
      ← outcome_perm ⟨hnamed.unique, hindependent⟩ hperm, hsame]
  rest := by
    intro items m hread j hj
    rw [← toOption_eq_some_iff, message_array] at hread
    exact hwrites.getElem?_of_positional hread (by omega)
  short := by
    intro items m hread
    rw [← toOption_eq_some_iff, message_array] at hread
    exact length_le_of_positional hread

end Form

open Form

/-! ## The messages of the protocol -/

/-- The members of an object. -/
def membersOf : Value → List (String × Value)
  | .object ms => ms
  | _ => []

/-- The fields of a message with their values, as they are written. -/
def MessageType.written : (t : MessageType) → t.Content → List (String × Value)
  | .packet, p => membersOf p.toJson
  | .client, c => membersOf c.toJson
  | .hardware, h => membersOf h.toJson
  | .metrics, b => membersOf b.toJson
  | .point, p => membersOf p.toJson
  | .cpu, c => membersOf c.toJson
  | .memory, m => membersOf m.toJson
  | .logs, b => membersOf b.toJson
  | .entry, e => membersOf e.toJson

theorem writesInOrder_written (t : MessageType) : WritesInOrder t.written 0 t.form := by
  cases t <;> (repeat refine .field (fun _ _ => ⟨_, rfl⟩) ?_) <;> exact .nil

theorem formsAgree_form (t : MessageType) : FormsAgree t.form t.written :=
  formsAgree_of t.named_form (independent_form t) (writesInOrder_written t)

theorem formsAgree_acknowledgment :
    FormsAgree Ingest.Acknowledgment.schema fun a => membersOf a.toJson := by
  refine formsAgree_of ⟨by decide +kernel, by decide +kernel⟩ ?_
    (.field (fun _ _ => ⟨_, rfl⟩) (.field (fun _ _ => ⟨_, rfl⟩) .nil))
  simp [Ingest.Acknowledgment.schema, Slot.commute_of]

/-! ## Messages inside others -/

/-- What surrounds a value at the place `q` inside one at the place `p`. -/
inductive Path : Place → Place → (Tree → Tree) → Prop
  | here {p : Place} : Path p p id
  | member {t : MessageType} {field name : String} {p q : Place} {wrap : Tree → Tree} {front back : List Member}
      (hwithin : Within t field p) (hname : name = field ∨ name = jsonName field) (h : Path p q wrap) :
      Path (.message t) q fun v => .object (front ++ (some name, wrap v) :: back)
  | position {t : MessageType} {field : String} {p q : Place} {wrap : Tree → Tree} {front back : List Tree}
      (hwithin : Within t field p) (hposition : t.fields[front.length]? = some field) (h : Path p q wrap) :
      Path (.message t) q fun v => .array (front ++ wrap v :: back)
  | item {t : MessageType} {q : Place} {wrap : Tree → Tree} {front back : List Tree} (h : Path (.message t) q wrap) :
      Path (.messages t) q fun v => .array (front ++ wrap v :: back)

namespace Path

variable {p q : Place} {wrap : Tree → Tree} {v v' : Tree}

theorem ne_null (h : Path p q wrap) (hv : v ≠ .null) : wrap v ≠ .null := by
  cases h with
  | here => exact hv
  | _ => exact Tree.noConfusion

/-- Values that are read alike are read alike inside others. The induction is on the way to them. -/
theorem read_eq (h : Path p q wrap) (hv : v ≠ .null) (hv' : v' ≠ .null)
    (hread : (q.read v).toOption = (q.read v').toOption) :
    (p.read (wrap v)).toOption = (p.read (wrap v')).toOption := by
  induction h with
  | here => exact hread
  | member hwithin hname h ih => exact hwithin.read_member hname (h.ne_null hv) (h.ne_null hv') (ih hread) _ _
  | position hwithin hposition h ih =>
    exact hwithin.read_position hposition (h.ne_null hv) (h.ne_null hv') (ih hread) _
  | item _ ih => exact list_replace (ih hread) _ _

/-- Nothing is read around a value that is not. -/
theorem refuse (h : Path p q wrap) (hv : v ≠ .null) (hread : (q.read v).toOption = none) :
    (p.read (wrap v)).toOption = none := by
  induction h with
  | here => exact hread
  | member hwithin hname h ih => exact hwithin.refuse_member hname (h.ne_null hv) (ih hread) _ _
  | position hwithin hposition h ih => exact hwithin.refuse_position hposition (h.ne_null hv) (ih hread) _
  | item _ ih => exact list_refused (ih hread) _ _

end Path

/-! ## Texts -/

/-- An acknowledgment is read as its tree is. -/
theorem toOption_ofJson_acknowledgment {text : List UInt8} {v : Tree} (h : Phrase.Spelled (.element v) text) :
    (Ingest.Acknowledgment.ofJson text).toOption = (message Ingest.Acknowledgment.schema v).toOption := by
  simp only [Ingest.Acknowledgment.ofJson, read_of_spelled h]
  cases message Ingest.Acknowledgment.schema v <;> rfl

/-- **Arrays and objects say the same.** Of every message of the protocol, an array of the first values is read as any
object that gives them by name, or neither is, with defaults for the fields behind them; an array of too many values is
not read. So it is at every place of a packet where a message may stand, and of an acknowledgment by itself. -/
theorem forms_agree :
    (∀ t : MessageType, FormsAgree t.form t.written) ∧
    (FormsAgree Ingest.Acknowledgment.schema fun a => membersOf a.toJson) ∧
    (∀ t wrap, Path (.message .packet) (.message t) wrap → ∀ items,
      (∀ members members', Keyed t.fields items members → members.Perm members' → ∀ text text',
        Phrase.Spelled (.element (wrap (.array items))) text →
        Phrase.Spelled (.element (wrap (.object members'))) text' →
        ∀ p, Packet.ofJson text = .ok p ↔ Packet.ofJson text' = .ok p) ∧
      (t.fields.length < items.length → ∀ text, Phrase.Spelled (.element (wrap (.array items))) text →
        ∀ p, Packet.ofJson text ≠ .ok p)) ∧
    (∀ items,
      (∀ members members', Keyed (Ingest.Acknowledgment.schema.map (·.name)) items members →
        members.Perm members' → ∀ text text', Phrase.Spelled (.element (.array items)) text →
        Phrase.Spelled (.element (.object members')) text' →
        ∀ a, Ingest.Acknowledgment.ofJson text = .ok a ↔ Ingest.Acknowledgment.ofJson text' = .ok a) ∧
      (Ingest.Acknowledgment.schema.length < items.length → ∀ text,
        Phrase.Spelled (.element (.array items)) text → ∀ a, Ingest.Acknowledgment.ofJson text ≠ .ok a)) := by
  refine ⟨formsAgree_form, formsAgree_acknowledgment, fun t wrap hpath items => ⟨?_, ?_⟩, fun items => ⟨?_, ?_⟩⟩
  -- Both forms are read alike where they stand, and so around them
  · intro members members' hkeyed hperm text text' htext htext' p
    have hsame : ((Place.message t).read (.array items)).toOption =
        ((Place.message t).read (.object members')).toOption := by
      apply Option.ext
      intro m
      rw [toOption_eq_some_iff, toOption_eq_some_iff]
      exact (formsAgree_form t).same hkeyed hperm m
    rw [← toOption_eq_some_iff, ← toOption_eq_some_iff, Packet.toOption_ofJson htext, Packet.toOption_ofJson htext',
      hpath.read_eq Tree.noConfusion Tree.noConfusion hsame]
  -- A message that is not read is not read around it either
  · intro hlong text htext p hp
    have hrefused : ((Place.message t).read (.array items)).toOption = none := by
      rw [Option.eq_none_iff_forall_ne_some]
      intro m hm
      have hshort := (formsAgree_form t).short (toOption_eq_some_iff.1 hm)
      rw [MessageType.fields, List.length_map] at hlong
      omega
    rw [← toOption_eq_some_iff, Packet.toOption_ofJson htext, hpath.refuse Tree.noConfusion hrefused] at hp
    cases hp
  · intro members members' hkeyed hperm text text' htext htext' a
    rw [← toOption_eq_some_iff, ← toOption_eq_some_iff, toOption_ofJson_acknowledgment htext,
      toOption_ofJson_acknowledgment htext', toOption_eq_some_iff, toOption_eq_some_iff]
    exact formsAgree_acknowledgment.same hkeyed hperm a
  · intro hlong text htext a ha
    rw [← toOption_eq_some_iff, toOption_ofJson_acknowledgment htext, toOption_eq_some_iff] at ha
    have hshort := formsAgree_acknowledgment.short ha
    omega

/-- A packet whose sender is an array of two fields. -/
def orderedForm : Value :=
  .object [("metadata", .array [.string "IOS", .null])]

/-- The same with the fields by name. -/
def keyedForm : Value :=
  .object [("metadata", .object [("installationId", .null), ("platform", .string "IOS")])]

/-- A packet of more values than fields. -/
def crowdedForm : Value :=
  .array [.int 7, .null, .null, .null, .null]

/-- A sender is read from an array, and no packet from one that is too long. -/
theorem forms_agree_ordered :
    Packet.ofJson (utf8 orderedForm.text) = .ok { metadata := some { platform := ⟨2⟩ } } ∧
      ∀ p, Packet.ofJson (utf8 crowdedForm.text) ≠ .ok p := by
  have hkeyed : Keyed MessageType.client.fields [.string "IOS", .null]
      [(some "platform", .string "IOS"), (some "installationId", .null)] :=
    .cons (.inl rfl) (.cons (.inr (by decide +kernel)) .nil)
  have hsender : Path (.message .packet) (.message .client) fun v => .object ([] ++ (some "metadata", v) :: []) :=
    .member .metadata (.inl rfl) .here
  have hread : Packet.ofJson (utf8 keyedForm.text) = .ok { metadata := some { platform := ⟨2⟩ } } := rfl
  obtain ⟨-, -, hforms, -⟩ := forms_agree
  have hsame := (hforms _ _ hsender _).1 _ _ hkeyed (.swap _ _ []) _ _ orderedForm.spelled_text keyedForm.spelled_text
  exact ⟨(hsame _).2 hread, (hforms .packet id .here _).2 (by decide) _ crowdedForm.spelled_text⟩

end TelemetryGateway.Telemetry
