import Mathlib
import TelemetryGateway.Proofs.Json.Value
import TelemetryGateway.Proofs.Telemetry.Form.Members
import TelemetryGateway.Proofs.Telemetry.Form.Spelling

/-!
# JSON texts that say the same

The JSON form of a packet can be rewritten in all its messages without a change of what is read: members may be
permuted, fields may go by either of their names, and members with other names may come and go, whatever their values
are. A message that gives a field twice is never read. A name that is no text is the one thing that is not passed
over.

## Main definitions

- `Place`: the places at which messages stand, with how they are read
- `Rewrites`: one change of a value
- `Repeats`: values in which a field is given twice

## Main statements

- `Rewrites.read_eq`: one change does not show in what is read
- `Packet.ofJson_rewritten`: nor do many, and no repetition is read
- `nameless_not_skipped`: a name that is no text
-/

namespace TelemetryGateway.Telemetry

namespace Form

open TelemetryGateway.Json

/-! ## Messages -/

/-- No two fields of a message have the same place. -/
theorem independent_form (t : MessageType) : t.form.Pairwise Slot.Commute := by
  cases t with
  | packet => simp [MessageType.form, packetSchema, Slot.commute_of]
  | client => simp [MessageType.form, clientSchema, Slot.commute_of]
  | hardware => simp [MessageType.form, hardwareSchema, Slot.commute_of]
  | metrics => simp [MessageType.form, metricsSchema]
  | point => simp [MessageType.form, pointSchema, Slot.commute_of]
  | cpu => simp [MessageType.form, cpuSchema, Slot.commute_of]
  | memory => simp [MessageType.form, memorySchema, Slot.commute_of]
  | logs => simp [MessageType.form, logsSchema]
  | entry => simp [MessageType.form, entrySchema, Slot.commute_of]

theorem orderly_form (t : MessageType) : t.form.Orderly :=
  ⟨t.named_form.unique, independent_form t⟩

/-! ## Places -/

/-- The places at which messages stand. -/
inductive Place where
  | message (t : MessageType)
  /-- A list of messages. -/
  | messages (t : MessageType)

/-- What is said at a place. -/
abbrev Place.Content : Place → Type
  | .message t => t.Content
  | .messages t => List t.Content

/-- What becomes of a value at a place. -/
def Place.read : (p : Place) → Read p.Content
  | .message t => Form.message t.form
  | .messages t => list (Form.message t.form)

/-- A field of a message that is such a place. -/
inductive Within : MessageType → String → Place → Prop
  | metadata : Within .packet "metadata" (.message .client)
  | metrics : Within .packet "metrics" (.message .metrics)
  | logs : Within .packet "logs" (.message .logs)
  | hardware : Within .client "device_hardware" (.message .hardware)
  | points : Within .metrics "points" (.messages .point)
  | cpu : Within .point "cpu" (.message .cpu)
  | memory : Within .point "memory" (.message .memory)
  | entries : Within .logs "entries" (.messages .entry)

/-- A field whose value is read like one at a place, unless it is null. -/
def Slot.Holds {σ α : Type} (slot : Slot σ) (read : Read α) : Prop :=
  ∃ wrap : α → σ → σ, ∀ v, v ≠ .null → (slot.read v).toOption = (read v).toOption.map wrap

theorem Slot.holds_optional {σ α : Type} (name : String) (kind : Read α) (set : Option α → σ → σ) :
    (Slot.of name (optional kind) set).Holds kind := by
  refine ⟨fun x => set (some x), fun v hv => ?_⟩
  have hoptional : optional kind v = (kind v).map some := by
    cases v with
    | null => exact absurd rfl hv
    | _ => rfl
  simp only [Slot.of, hoptional, toOption_map, Option.map_map]
  rfl

theorem Slot.holds_self {σ α : Type} (name : String) (kind : Read α) (set : α → σ → σ) :
    (Slot.of name kind set).Holds kind :=
  ⟨set, fun _ _ => toOption_map _ _⟩

/-- The field of a place is read like the place. -/
theorem Within.exists_slot {t : MessageType} {field : String} {p : Place} (h : Within t field p) :
    ∃ slot ∈ t.form, slot.name = field ∧ slot.Holds p.read := by
  cases h with
  | metadata => exact ⟨packetSchema[1], List.getElem_mem _, rfl, Slot.holds_optional ..⟩
  | metrics => exact ⟨packetSchema[2], List.getElem_mem _, rfl, Slot.holds_optional ..⟩
  | logs => exact ⟨packetSchema[3], List.getElem_mem _, rfl, Slot.holds_optional ..⟩
  | hardware => exact ⟨clientSchema[6], List.getElem_mem _, rfl, Slot.holds_optional ..⟩
  | points => exact ⟨metricsSchema[0], List.getElem_mem _, rfl, Slot.holds_self ..⟩
  | cpu => exact ⟨pointSchema[3], List.getElem_mem _, rfl, Slot.holds_optional ..⟩
  | memory => exact ⟨pointSchema[4], List.getElem_mem _, rfl, Slot.holds_optional ..⟩
  | entries => exact ⟨logsSchema[0], List.getElem_mem _, rfl, Slot.holds_self ..⟩

/-! ## Changes -/

/-- One change of a value at a place. -/
inductive Rewrites : Place → Tree → Tree → Prop
  /-- Members are permuted. -/
  | permute {t : MessageType} {members members' : List Member} (hperm : members.Perm members') :
      Rewrites (.message t) (.object members) (.object members')
  /-- A field goes by another of its two names. -/
  | respell {t : MessageType} {field name name' : String} {front back : List Member} {v : Tree}
      (hfield : field ∈ t.fields) (hname : name = field ∨ name = jsonName field)
      (hname' : name' = field ∨ name' = jsonName field) :
      Rewrites (.message t) (.object (front ++ (some name, v) :: back)) (.object (front ++ (some name', v) :: back))
  /-- A member with a name of no field is inserted. -/
  | insert {t : MessageType} {name : String} {front back : List Member} (v : Tree)
      (hunknown : ∀ field ∈ t.fields, name ≠ field ∧ name ≠ jsonName field) :
      Rewrites (.message t) (.object (front ++ back)) (.object (front ++ (some name, v) :: back))
  /-- Such a member is deleted. -/
  | delete {t : MessageType} {name : String} {front back : List Member} (v : Tree)
      (hunknown : ∀ field ∈ t.fields, name ≠ field ∧ name ≠ jsonName field) :
      Rewrites (.message t) (.object (front ++ (some name, v) :: back)) (.object (front ++ back))
  /-- A change inside a member. -/
  | member {t : MessageType} {field name : String} {p : Place} {front back : List Member} {v v' : Tree}
      (hwithin : Within t field p) (hname : name = field ∨ name = jsonName field) (h : Rewrites p v v') :
      Rewrites (.message t) (.object (front ++ (some name, v) :: back)) (.object (front ++ (some name, v') :: back))
  /-- A change inside a field of a message that is given as an array of its fields. -/
  | position {t : MessageType} {field : String} {p : Place} {front back : List Tree} {v v' : Tree}
      (hwithin : Within t field p) (hposition : t.fields[front.length]? = some field) (h : Rewrites p v v') :
      Rewrites (.message t) (.array (front ++ v :: back)) (.array (front ++ v' :: back))
  /-- A change inside an item of a list. -/
  | item {t : MessageType} {front back : List Tree} {v v' : Tree} (h : Rewrites (.message t) v v') :
      Rewrites (.messages t) (.array (front ++ v :: back)) (.array (front ++ v' :: back))

/-- A value at a place in which some message gives a field twice. -/
inductive Repeats : Place → Tree → Prop
  | twice {t : MessageType} {field name name' : String} {front middle back : List Member} {v v' : Tree}
      (hfield : field ∈ t.fields) (hname : name = field ∨ name = jsonName field)
      (hname' : name' = field ∨ name' = jsonName field) :
      Repeats (.message t) (.object (front ++ (some name, v) :: (middle ++ (some name', v') :: back)))
  | member {t : MessageType} {field name : String} {p : Place} {front back : List Member} {v : Tree}
      (hwithin : Within t field p) (hname : name = field ∨ name = jsonName field) (h : Repeats p v) :
      Repeats (.message t) (.object (front ++ (some name, v) :: back))
  | position {t : MessageType} {field : String} {p : Place} {front back : List Tree} {v : Tree}
      (hwithin : Within t field p) (hposition : t.fields[front.length]? = some field) (h : Repeats p v) :
      Repeats (.message t) (.array (front ++ v :: back))
  | item {t : MessageType} {front back : List Tree} {v : Tree} (h : Repeats (.message t) v) :
      Repeats (.messages t) (.array (front ++ v :: back))

/-! ## Fields by their names -/

/-- A field by one of its two names. -/
theorem exists_slot_of_field {t : MessageType} {field : String} (h : field ∈ t.fields) :
    ∃ slot ∈ t.form, slot.name = field ∧ ∀ name, name = field ∨ name = jsonName field →
      t.form.find? (·.spells name) = some slot := by
  obtain ⟨slot, hslot, rfl⟩ := List.mem_map.1 h
  exact ⟨slot, hslot, rfl, fun name hname => MessageType.find?_of_names hslot ((MessageType.names_iff h).2 hname)⟩

/-- A name of no field. -/
theorem find?_unknown {t : MessageType} {name : String}
    (h : ∀ field ∈ t.fields, name ≠ field ∧ name ≠ jsonName field) : t.form.find? (·.spells name) = none := by
  rw [List.find?_eq_none]
  intro slot hslot hspells
  have hfield : slot.name ∈ t.fields := List.mem_map_of_mem hslot
  rcases (t.named_form.spells_iff hslot).1 hspells with hname | hname
  · exact (h slot.name hfield).1 hname
  · exact (h slot.name hfield).2 hname

/-- The field of a place by one of its two names. -/
theorem Within.find? {t : MessageType} {field name : String} {p : Place} (h : Within t field p)
    (hname : name = field ∨ name = jsonName field) :
    ∃ slot, slot.Holds p.read ∧ t.form.find? (·.spells name) = some slot := by
  obtain ⟨slot, hslot, rfl, hholds⟩ := h.exists_slot
  have hfield : slot.name ∈ t.fields := List.mem_map_of_mem hslot
  exact ⟨slot, hholds, MessageType.find?_of_names hslot ((MessageType.names_iff hfield).2 hname)⟩

/-- The field of a place by its position. -/
theorem Within.position {t : MessageType} {field : String} {p : Place} (h : Within t field p) {k : Nat}
    (hk : t.fields[k]? = some field) {slot : Slot t.Content} (hslot : t.form[k]? = some slot) :
    slot.Holds p.read := by
  obtain ⟨slot', hslot', hname', hholds⟩ := h.exists_slot
  have hname : slot.name = field := by
    rw [MessageType.fields, List.getElem?_map, hslot] at hk
    exact Option.some.inj hk
  rwa [(orderly_form t).name_injective (List.mem_of_getElem? hslot) hslot' (hname.trans hname'.symm)]

/-- Values that a place reads alike are read alike by its field. -/
theorem Slot.Holds.read_eq {σ α : Type} {slot : Slot σ} {read : Read α} (h : slot.Holds read) {v v' : Tree}
    (hv : v ≠ .null) (hv' : v' ≠ .null) (hread : (read v).toOption = (read v').toOption) :
    (slot.read v).toOption = (slot.read v').toOption := by
  obtain ⟨wrap, hwrap⟩ := h
  rw [hwrap v hv, hwrap v' hv', hread]

theorem Slot.Holds.read_none {σ α : Type} {slot : Slot σ} {read : Read α} (h : slot.Holds read) {v : Tree}
    (hv : v ≠ .null) (hread : (read v).toOption = none) : (slot.read v).toOption = none := by
  obtain ⟨wrap, hwrap⟩ := h
  rw [hwrap v hv, hread, Option.map_none]

/-! ## Values inside a message -/

section Within

variable {t : MessageType} {field : String} {p : Place} {v v' : Tree}

/-- A member that is read alike does not show. -/
theorem Within.read_member (h : Within t field p) {name : String} (hname : name = field ∨ name = jsonName field)
    (hv : v ≠ .null) (hv' : v' ≠ .null) (hread : (p.read v).toOption = (p.read v').toOption)
    (front back : List Member) :
    ((Place.message t).read (.object (front ++ (some name, v) :: back))).toOption =
      ((Place.message t).read (.object (front ++ (some name, v') :: back))).toOption := by
  obtain ⟨slot, hholds, hfind⟩ := h.find? hname
  simp only [Place.read, message_object]
  exact outcome_replace hfind hfind (hholds.read_eq hv hv' hread) front back [] default

/-- An item that is read alike does not show. -/
theorem Within.read_position (h : Within t field p) {front : List Tree}
    (hposition : t.fields[front.length]? = some field) (hv : v ≠ .null) (hv' : v' ≠ .null)
    (hread : (p.read v).toOption = (p.read v').toOption) (back : List Tree) :
    ((Place.message t).read (.array (front ++ v :: back))).toOption =
      ((Place.message t).read (.array (front ++ v' :: back))).toOption := by
  simp only [Place.read, message_array]
  exact positional_replace (fun slot hslot => (h.position hposition hslot).read_eq hv hv' hread) back default

/-- No message is read with a member that is not. -/
theorem Within.refuse_member (h : Within t field p) {name : String} (hname : name = field ∨ name = jsonName field)
    (hv : v ≠ .null) (hread : (p.read v).toOption = none) (front back : List Member) :
    ((Place.message t).read (.object (front ++ (some name, v) :: back))).toOption = none := by
  obtain ⟨slot, hholds, hfind⟩ := h.find? hname
  simp only [Place.read, message_object]
  exact outcome_refused (orderly_form t) hfind (hholds.read_none hv hread) front back [] default

/-- No message is read with an item that is not. -/
theorem Within.refuse_position (h : Within t field p) {front : List Tree}
    (hposition : t.fields[front.length]? = some field) (hv : v ≠ .null) (hread : (p.read v).toOption = none)
    (back : List Tree) : ((Place.message t).read (.array (front ++ v :: back))).toOption = none := by
  simp only [Place.read, message_array]
  exact positional_refused (fun slot hslot => (h.position hposition hslot).read_none hv hread) back default

end Within

/-! ## What is read -/

/-- No place that is rewritten is null. -/
theorem Rewrites.ne_null {p : Place} {v v' : Tree} (h : Rewrites p v v') : v ≠ .null ∧ v' ≠ .null := by
  cases h <;> exact ⟨Tree.noConfusion, Tree.noConfusion⟩

theorem Repeats.ne_null {p : Place} {v : Tree} (h : Repeats p v) : v ≠ .null := by
  cases h <;> exact Tree.noConfusion

/-- One change does not show in what is read. The induction is on the way to the place of the change. -/
theorem Rewrites.read_eq {p : Place} {v v' : Tree} (h : Rewrites p v v') :
    (p.read v).toOption = (p.read v').toOption := by
  induction h with
  | @permute t members members' hperm =>
    simp only [Place.read, message_object]
    exact outcome_perm (orderly_form t) hperm [] default
  | respell hfield hname hname' =>
    obtain ⟨slot, -, -, hfind⟩ := exists_slot_of_field hfield
    simp only [Place.read, message_object]
    exact outcome_replace (hfind _ hname) (hfind _ hname') rfl _ _ [] default
  | insert v hunknown =>
    simp only [Place.read, message_object]
    exact (outcome_skip (find?_unknown hunknown) v _ _ [] default).symm
  | delete v hunknown =>
    simp only [Place.read, message_object]
    exact outcome_skip (find?_unknown hunknown) v _ _ [] default
  | member hwithin hname h ih => exact hwithin.read_member hname h.ne_null.1 h.ne_null.2 ih _ _
  | position hwithin hposition h ih => exact hwithin.read_position hposition h.ne_null.1 h.ne_null.2 ih _
  | item _ ih => exact list_replace ih _ _

/-- Nor do many changes. -/
theorem read_eq_of_rewrites {p : Place} {v v' : Tree} (h : Relation.ReflTransGen (Rewrites p) v v') :
    (p.read v).toOption = (p.read v').toOption := by
  induction h with
  | refl => rfl
  | tail _ hlast ih => exact ih.trans hlast.read_eq

/-- Nothing is read where a field is given twice. -/
theorem Repeats.read_none {p : Place} {v : Tree} (h : Repeats p v) : (p.read v).toOption = none := by
  induction h with
  | @twice t field name name' front middle back v v' hfield hname hname' =>
    obtain ⟨slot, -, -, hfind⟩ := exists_slot_of_field hfield
    simp only [Place.read, message_object]
    exact outcome_twice (orderly_form t) (hfind _ hname) (hfind _ hname') v v' front middle back [] default
  | member hwithin hname h ih => exact hwithin.refuse_member hname h.ne_null ih _ _
  | position hwithin hposition h ih => exact hwithin.refuse_position hposition h.ne_null ih _
  | item _ ih => exact list_refused ih _ _

end Form

open TelemetryGateway.Json
open TelemetryGateway.Text
open Form

/-- A text is read as its tree is. -/
theorem Packet.toOption_ofJson {text : List UInt8} {v : Tree} (h : Phrase.Spelled (.element v) text) :
    (Packet.ofJson text).toOption = ((Place.message .packet).read v).toOption := by
  have hmessage : (Place.message .packet).read v = message packetSchema v := rfl
  rw [Packet.ofJson, readPacket, read_of_spelled h, hmessage]
  cases message packetSchema v <;> rfl

/-- **Texts that say the same are read as the same packet.** However many members are permuted, respelled, inserted
or deleted, in whatever messages, the same packet is read, if any. A text in which a message gives a field twice is
not read. -/
theorem Packet.ofJson_rewritten :
    (∀ text text' v v', Phrase.Spelled (.element v) text → Phrase.Spelled (.element v') text' →
        Relation.ReflTransGen (Rewrites (.message .packet)) v v' →
        ∀ p, Packet.ofJson text = .ok p ↔ Packet.ofJson text' = .ok p) ∧
      ∀ text v, Phrase.Spelled (.element v) text → Repeats (.message .packet) v →
        ∀ p, Packet.ofJson text ≠ .ok p := by
  constructor
  · intro text text' v v' htext htext' h p
    rw [← toOption_eq_some_iff, ← toOption_eq_some_iff, toOption_ofJson htext, toOption_ofJson htext',
      read_eq_of_rewrites h]
  · intro text v htext h p hp
    rw [← toOption_eq_some_iff, toOption_ofJson htext, h.read_none] at hp
    cases hp

/-- A version behind a sender. -/
def plainForm : Value :=
  .object [("metadata", .object [("host_app_name", .string "x")]), ("schema_version", .int 7)]

/-- The same with the version in front, other names and members that packets do not have. -/
def scrambledForm : Value :=
  .object
    [ ("schemaVersion", .int 7),
      ("more", .array [.array [.object [("schema_version", .null)]]]),
      ("metadata", .object [("schema_version", .string ""), ("hostAppName", .string "x")]) ]

/-- A sender with one field by both of its names. -/
def repeatingForm : Value :=
  .object [("metadata", .object [("hostAppName", .string ""), ("tag", .null), ("host_app_name", .string "x")])]

/-- The version comes to the front and takes its other name, and a member that packets do not have comes between. Then
in the sender the name changes, and a member comes to the front that only packets have. -/
theorem rewrites_plainForm :
    Relation.ReflTransGen (Rewrites (.message .packet)) plainForm.tree scrambledForm.tree := by
  have hpermuted (version sender : Tree) : Rewrites (.message .packet)
      (.object [(some "metadata", sender), (some "schema_version", version)])
      (.object [(some "schema_version", version), (some "metadata", sender)]) :=
    .permute (.swap _ _ [])
  have hversion : "schema_version" ∈ MessageType.packet.fields := by decide +kernel
  have hrespelled (version sender : Tree) : Rewrites (.message .packet)
      (.object ([] ++ (some "schema_version", version) :: [(some "metadata", sender)]))
      (.object ([] ++ (some "schemaVersion", version) :: [(some "metadata", sender)])) :=
    .respell hversion (.inl rfl) (.inr (by decide +kernel))
  have hinserted (version more sender : Tree) : Rewrites (.message .packet)
      (.object ([(some "schemaVersion", version)] ++ [(some "metadata", sender)]))
      (.object ([(some "schemaVersion", version)] ++ (some "more", more) :: [(some "metadata", sender)])) :=
    .insert more (by decide +kernel)
  have hinside (version more : Tree) {v v' : Tree} (h : Rewrites (.message .client) v v') :
      Rewrites (.message .packet)
        (.object ([(some "schemaVersion", version), (some "more", more)] ++ (some "metadata", v) :: []))
        (.object ([(some "schemaVersion", version), (some "more", more)] ++ (some "metadata", v') :: [])) :=
    .member .metadata (.inl rfl) h
  have hname : "host_app_name" ∈ MessageType.client.fields := by decide +kernel
  have hrenamed (name : Tree) : Rewrites (.message .client) (.object ([] ++ (some "host_app_name", name) :: []))
      (.object ([] ++ (some "hostAppName", name) :: [])) :=
    .respell hname (.inl rfl) (.inr (by decide +kernel))
  have hextended (strange name : Tree) : Rewrites (.message .client) (.object ([] ++ [(some "hostAppName", name)]))
      (.object ([] ++ (some "schema_version", strange) :: [(some "hostAppName", name)])) :=
    .insert strange (by decide +kernel)
  have hpacket (version more sender : Tree) : Relation.ReflTransGen (Rewrites (.message .packet))
      (.object [(some "metadata", sender), (some "schema_version", version)])
      (.object [(some "schemaVersion", version), (some "more", more), (some "metadata", sender)]) :=
    .tail (.tail (.single (hpermuted version sender)) (hrespelled version sender)) (hinserted version more sender)
  exact .tail (.tail (hpacket _ _ _) (hinside _ _ (hrenamed _))) (hinside _ _ (hextended _ _))

/-- A packet is read from a text that is scrambled, and none from a text that repeats a field. -/
theorem ofJson_rewritten_scrambled :
    Relation.ReflTransGen (Rewrites (.message .packet)) plainForm.tree scrambledForm.tree ∧
      Packet.ofJson (utf8 scrambledForm.text) =
        .ok { schemaVersion := 7, metadata := some { hostAppName := "x" } } ∧
      Repeats (.message .packet) repeatingForm.tree ∧ ∀ p, Packet.ofJson (utf8 repeatingForm.text) ≠ .ok p := by
  have hplain : Packet.ofJson (utf8 plainForm.text) =
      .ok { schemaVersion := 7, metadata := some { hostAppName := "x" } } := rfl
  have hrepeats : Repeats (.message .packet) repeatingForm.tree := by
    have hfield : "host_app_name" ∈ MessageType.client.fields := by decide +kernel
    have hsender : Repeats (.message .client)
        (.object ([] ++ (some "hostAppName", .string "") ::
          ([(some "tag", .null)] ++ (some "host_app_name", .string "x") :: []))) :=
      .twice hfield (.inr (by decide +kernel)) (.inl rfl)
    have hpacket : Repeats (.message .packet) (.object ([] ++ (some "metadata", _) :: [])) :=
      .member .metadata (.inl rfl) hsender
    exact hpacket
  obtain ⟨hsame, hnone⟩ := Packet.ofJson_rewritten
  have hscrambled := hsame _ _ _ _ plainForm.spelled_text scrambledForm.spelled_text rewrites_plainForm
  exact ⟨rewrites_plainForm, (hscrambled _).1 hplain, hrepeats, hnone _ _ repeatingForm.spelled_text hrepeats⟩

/-- An object with one member. Its name is the first half of a surrogate pair, and no text. -/
def namelessText : List UInt8 :=
  [0x7B, 0x22, 0x5C, 0x75, 0x64, 0x38, 0x30, 0x30, 0x22, 0x3A, 0x30, 0x7D]

/-- A name that is no text is not passed over: nothing is read where a member of no field has one, and a packet is read
without this member. -/
theorem nameless_not_skipped :
    Phrase.Spelled (.element (.object [])) [0x7B, 0x7D] ∧
      Phrase.Spelled (.element (.object [(none, .number (.ofInt 0))])) namelessText ∧
      Packet.ofJson [0x7B, 0x7D] = .ok {} ∧ Packet.ofJson namelessText = .error .form := by
  have hnone : Blank [] := by simp [Blank]
  have hthirteen : Hex.value? 0x64 = some 13 := rfl
  have height : Hex.value? 0x38 = some 8 := rfl
  have hzero : Hex.value? 0x30 = some 0 := rfl
  -- The name is the first half of a surrogate pair, without the second
  have hname : Piece.Run [.unit 0xD800] [0x5C, 0x75, 0x64, 0x38, 0x30, 0x30] :=
    .cons (.unit hthirteen height hzero hzero) .nil
  have hvalue : Phrase.Spelled (.element (.number (.ofInt 0))) [0x30] := (Value.int 0).conforms.bare
  have hmember : Phrase.Spelled (.member (none, .number (.ofInt 0)))
      [0x22, 0x5C, 0x75, 0x64, 0x38, 0x30, 0x30, 0x22, 0x3A, 0x30] :=
    .member hnone hname hnone hvalue
  have hobject : Phrase.Spelled (.value (.object [(none, .number (.ofInt 0))])) namelessText :=
    .object (.lastMember hmember)
  exact ⟨(Phrase.Spelled.emptyObject hnone).bare, hobject.bare, rfl, rfl⟩

end TelemetryGateway.Telemetry
