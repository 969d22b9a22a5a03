import Mathlib
import TelemetryGateway.Proofs.Telemetry.Wire.Varint
import TelemetryGateway.Telemetry.Wire.Kind

/-!
# Fields as byte strings

The byte strings that stand for a field: a key and a payload, each in any of its spellings, or a whole group. A run of
such byte strings is read as the run of their fields, and nothing else is read at all. A message changes by one field
after the other, so what a byte string does to a message is told by its first field and the rest.

## Main definitions

- `Item.Spelled`: the byte strings of an item
- `Enclosed`: what may stand inside a group
- `Field.Spelled`, `Field.Runs`: the byte strings of a field and of a run of fields

## Main statements

- `Item.read_eq_some_iff`: one item at the front of a byte string
- `Field.readAll_eq_some_iff`: a run of fields
- `Schema.merge_append`: the first field of a message and the rest
-/

namespace TelemetryGateway.Telemetry.Wire

/-! ## The grammar -/

/-- The numbers that a field may have. -/
def IsNumber (number : Nat) : Prop :=
  0 < number ∧ number < 2 ^ 29

instance (number : Nat) : Decidable (IsNumber number) :=
  inferInstanceAs (Decidable (_ ∧ _))

/-- The bytes of a key: a number and one of the six kinds. -/
structure IsKey (bs : List UInt8) (number kind : Nat) : Prop where
  isNumber : IsNumber number
  kind_le : kind ≤ 5
  spells : Varint.Spells bs (8 * number + kind)

/-- The bytes of an item. Where the key does not tell the kind of the payload, any kind may stand in it. -/
inductive Item.Spelled (byLength : Nat → Bool) : List UInt8 → Item → Prop
  | varint {number n : Nat} {key bs : List UInt8} (hkey : IsKey key number 0) (hkind : byLength number = false)
      (hn : Varint.Spells bs n) : Spelled byLength (key ++ bs) (.field ⟨number, .varint n⟩)
  | fixed64 {number : Nat} {key content : List UInt8} (hkey : IsKey key number 1)
      (hkind : byLength number = false) (hlength : content.length = 8) :
      Spelled byLength (key ++ content) (.field ⟨number, .fixed64 content⟩)
  | bytes {number kind : Nat} {key count content : List UInt8} (hkey : IsKey key number kind)
      (hkind : byLength number = true ∨ kind = 2) (hcount : Varint.Spells count content.length) :
      Spelled byLength (key ++ (count ++ content)) (.field ⟨number, .bytes content⟩)
  | startGroup {number : Nat} {key : List UInt8} (hkey : IsKey key number 3) (hkind : byLength number = false) :
      Spelled byLength key (.startGroup number)
  | endGroup {number : Nat} {key : List UInt8} (hkey : IsKey key number 4) (hkind : byLength number = false) :
      Spelled byLength key (.endGroup number)
  | fixed32 {number : Nat} {key content : List UInt8} (hkey : IsKey key number 5)
      (hkind : byLength number = false) (hlength : content.length = 4) :
      Spelled byLength (key ++ content) (.field ⟨number, .fixed32 content⟩)

/-- What may stand inside a group: fields, and groups that nest no deeper than there is room. Every key in it tells the
kind of its payload. -/
inductive Enclosed : Nat → List UInt8 → Prop
  | nil {room : Nat} : Enclosed room []
  | field {room : Nat} {front rest : List UInt8} {f : Field}
      (hfield : Item.Spelled (fun _ => false) front (.field f)) (hrest : Enclosed (room + 1) rest) :
      Enclosed (room + 1) (front ++ rest)
  | group {room number : Nat} {start inner finish rest : List UInt8}
      (hstart : Item.Spelled (fun _ => false) start (.startGroup number)) (hinner : Enclosed room inner)
      (hfinish : Item.Spelled (fun _ => false) finish (.endGroup number)) (hrest : Enclosed (room + 1) rest) :
      Enclosed (room + 1) (start ++ (inner ++ (finish ++ rest)))

/-- The bytes of a field of a message, where an item may stand in fewer than so many groups. -/
inductive Field.Spelled (byLength : Nat → Bool) : Nat → List UInt8 → Field → Prop
  | plain {depth : Nat} {bs : List UInt8} {f : Field} (hfield : Item.Spelled byLength bs (.field f)) :
      Spelled byLength depth bs f
  | group {depth number : Nat} {start inner finish : List UInt8}
      (hstart : Item.Spelled byLength start (.startGroup number)) (hinner : Enclosed depth inner)
      (hfinish : Item.Spelled (fun _ => false) finish (.endGroup number)) :
      Spelled byLength (depth + 1) (start ++ (inner ++ finish)) ⟨number, .group⟩

/-- The bytes of a run of fields. -/
inductive Field.Runs (byLength : Nat → Bool) (depth : Nat) : List UInt8 → List Field → Prop
  | nil : Runs byLength depth [] []
  | cons {front rest : List UInt8} {f : Field} {fs : List Field} (hfirst : Field.Spelled byLength depth front f)
      (hrest : Runs byLength depth rest fs) : Runs byLength depth (front ++ rest) (f :: fs)

variable {byLength : Nat → Bool}

/-! ## One item -/

theorem splitExactly_append {n : Nat} {content : List UInt8} (h : content.length = n)
    (rest : List UInt8) : splitExactly n (content ++ rest) = some (content, rest) := by
  simp only [splitExactly, ← h, List.take_left, List.drop_left, if_true]

theorem splitExactly_eq_some_iff {n : Nat} {bs content rest : List UInt8} :
    splitExactly n bs = some (content, rest) ↔ bs = content ++ rest ∧ content.length = n := by
  constructor
  · intro h
    simp only [splitExactly, Option.ite_none_right_eq_some, Option.some.injEq, Prod.mk.injEq] at h
    obtain ⟨hlength, rfl, rfl⟩ := h
    exact ⟨(List.take_append_drop n bs).symm, hlength⟩
  · rintro ⟨rfl, hlength⟩
    exact splitExactly_append hlength rest

theorem IsKey.ne_nil {bs : List UInt8} {number kind : Nat} (h : IsKey bs number kind) : bs ≠ [] :=
  h.spells.ne_nil

/-- The key at the front is taken apart into its number and the kind of its payload. -/
theorem Item.read_key {key : List UInt8} {number kind : Nat} (hkey : IsKey key number kind) (rest : List UInt8) :
    Item.read byLength (key ++ rest) =
      match if byLength number then 2 else kind with
      | 0 => (Varint.decode rest).bind fun (n, rest) => some (.field ⟨number, .varint n⟩, rest)
      | 1 => (splitExactly 8 rest).bind fun (content, rest) =>
          some (.field ⟨number, .fixed64 content⟩, rest)
      | 2 => (Varint.decode rest).bind fun (length, rest) =>
          (splitExactly length rest).bind fun (content, rest) =>
            some (.field ⟨number, .bytes content⟩, rest)
      | 3 => some (.startGroup number, rest)
      | 4 => some (.endGroup number, rest)
      | 5 => (splitExactly 4 rest).bind fun (content, rest) =>
          some (.field ⟨number, .fixed32 content⟩, rest)
      | _ => none := by
  have hdecode := Varint.decode_of_spells hkey.spells rest
  obtain ⟨⟨hpos, hlt⟩, hkind, -⟩ := hkey
  have hquotient : (8 * number + kind) / 8 = number := by omega
  have hremainder : (8 * number + kind) % 8 = kind := by omega
  have hvalid : ¬ (0x100000000 ≤ 8 * number + kind ∨ number = 0 ∨ 5 < kind) := by omega
  unfold Item.read
  simp only [hdecode, bind, Option.bind_some, hquotient, hremainder]
  -- A number and a kind that may be written pass the check of the reader
  exact if_neg hvalid

/-- Nothing is read without a key. -/
theorem Item.exists_key_of_read {bs rest : List UInt8} {item : Item} (h : Item.read byLength bs = some (item, rest)) :
    ∃ key rest' number kind, bs = key ++ rest' ∧ IsKey key number kind := by
  unfold Item.read at h
  simp only [bind, Option.bind_eq_some_iff] at h
  obtain ⟨⟨n, rest'⟩, hdecode, h⟩ := h
  obtain ⟨key, hbytes, hspells⟩ := Varint.decode_eq_some_iff.1 hdecode
  split at h
  · cases h
  · next hvalid =>
    have hparts : 8 * (n / 8) + n % 8 = n := Nat.div_add_mod n 8
    exact ⟨key, rest', n / 8, n % 8, hbytes, ⟨by omega, by omega⟩, by omega, hparts.symm ▸ hspells⟩

theorem Item.read_of_spelled {bs : List UInt8} {item : Item} (h : Item.Spelled byLength bs item) (rest : List UInt8) :
    Item.read byLength (bs ++ rest) = some (item, rest) := by
  cases h with
  | varint hkey hkind hn =>
    rw [List.append_assoc, read_key hkey]
    simp only [hkind, Bool.false_eq_true, if_false, Varint.decode_of_spells hn, Option.bind_some]
  | fixed64 hkey hkind hlength =>
    rw [List.append_assoc, read_key hkey]
    simp only [hkind, Bool.false_eq_true, if_false, splitExactly_append hlength, Option.bind_some]
  | @bytes number kind key count content hkey hkind hcount =>
    have hkind' : (if byLength number then 2 else kind) = 2 := by
      rcases hkind with h | h <;> simp [h]
    rw [List.append_assoc, read_key hkey, hkind', List.append_assoc]
    simp only [Varint.decode_of_spells hcount, splitExactly_append rfl, Option.bind_some]
  | startGroup hkey hkind =>
    rw [read_key hkey]
    simp only [hkind, Bool.false_eq_true, if_false]
  | endGroup hkey hkind =>
    rw [read_key hkey]
    simp only [hkind, Bool.false_eq_true, if_false]
  | fixed32 hkey hkind hlength =>
    rw [List.append_assoc, read_key hkey]
    simp only [hkind, Bool.false_eq_true, if_false, splitExactly_append hlength, Option.bind_some]

/-- What is read is a spelling at the front. -/
theorem Item.read_eq_some_iff {bs rest : List UInt8} {item : Item} :
    Item.read byLength bs = some (item, rest) ↔ ∃ front, bs = front ++ rest ∧ Item.Spelled byLength front item := by
  constructor
  · intro h
    obtain ⟨key, after, number, kind, rfl, hkey⟩ := exists_key_of_read h
    rw [read_key hkey] at h
    have hcounted (hkind : byLength number = true ∨ kind = 2)
        (h : ((Varint.decode after).bind fun (length, rest) => (splitExactly length rest).bind fun (content, rest) =>
          some (Item.field ⟨number, .bytes content⟩, rest)) = some (item, rest)) :
        ∃ front, key ++ after = front ++ rest ∧ Item.Spelled byLength front item := by
      simp only [Option.bind_eq_some_iff, Prod.exists, Varint.decode_eq_some_iff, splitExactly_eq_some_iff,
        Option.some.injEq, Prod.mk.injEq] at h
      obtain ⟨_, _, ⟨count, rfl, hcount⟩, content, _, ⟨rfl, rfl⟩, rfl, rfl⟩ := h
      exact ⟨_, by simp only [List.append_assoc], .bytes hkey hkind hcount⟩
    cases hkind : byLength number with
    | true =>
      rw [hkind, if_pos rfl] at h
      exact hcounted (.inl hkind) h
    -- The key tells the kind, and behind the key stands what this kind asks for
    | false =>
      rw [hkind, if_neg Bool.false_ne_true] at h
      have hle := hkey.kind_le
      interval_cases kind
      · simp only [Option.bind_eq_some_iff, Prod.exists, Varint.decode_eq_some_iff, Option.some.injEq,
          Prod.mk.injEq] at h
        obtain ⟨n, _, ⟨bs, rfl, hn⟩, rfl, rfl⟩ := h
        exact ⟨_, by rw [List.append_assoc], .varint hkey hkind hn⟩
      · simp only [Option.bind_eq_some_iff, Prod.exists, splitExactly_eq_some_iff, Option.some.injEq,
          Prod.mk.injEq] at h
        obtain ⟨content, _, ⟨rfl, hlength⟩, rfl, rfl⟩ := h
        exact ⟨_, by rw [List.append_assoc], .fixed64 hkey hkind hlength⟩
      · exact hcounted (.inr rfl) h
      · cases h
        exact ⟨key, rfl, .startGroup hkey hkind⟩
      · cases h
        exact ⟨key, rfl, .endGroup hkey hkind⟩
      · simp only [Option.bind_eq_some_iff, Prod.exists, splitExactly_eq_some_iff, Option.some.injEq,
          Prod.mk.injEq] at h
        obtain ⟨content, _, ⟨rfl, hlength⟩, rfl, rfl⟩ := h
        exact ⟨_, by rw [List.append_assoc], .fixed32 hkey hkind hlength⟩
  · rintro ⟨front, rfl, h⟩
    exact read_of_spelled h rest

theorem Item.Spelled.ne_nil {bs : List UInt8} {item : Item} (h : Item.Spelled byLength bs item) : bs ≠ [] := by
  cases h <;> simp [IsKey.ne_nil ‹_›]

/-! ## A run of items -/

/-- The items of a byte string in so many open groups. -/
def Item.readFrom (byLength : Nat → Bool) (groups : Nat) (bs : List UInt8) : Option (List Item) :=
  Item.readWithin byLength bs.length groups bs []

theorem Item.readWithin_done (bound groups : Nat) (bs : List UInt8) (done : List Item) :
    Item.readWithin byLength bound groups bs done =
      (Item.readWithin byLength bound groups bs []).map (done.reverse ++ ·) := by
  induction bound generalizing groups bs done with
  | zero =>
    cases bs with
    | nil => simp [Item.readWithin]
    | cons b bs => rfl
  | succ bound ih =>
    cases bs with
    | nil => simp [Item.readWithin]
    | cons b bs =>
      simp only [Item.readWithin, bind]
      cases Item.read (fun number => groups == 0 && byLength number) (b :: bs) with
      | none => rfl
      | some pair =>
        obtain ⟨item, rest⟩ := pair
        simp only [Option.bind_some]
        rw [ih _ _ (item :: done), ih _ _ [item], Option.map_map]
        congr 1
        funext items
        simp

/-- Each item takes a byte at least, so a bound of the length is as good as any larger one. -/
theorem Item.readWithin_bound {bound groups : Nat} {bs : List UInt8} (h : bs.length ≤ bound) :
    Item.readWithin byLength bound groups bs [] = Item.readFrom byLength groups bs := by
  rw [Item.readFrom]
  generalize hlength : bs.length = length at h
  replace hlength := hlength.le
  induction length generalizing bound groups bs with
  | zero =>
    rw [List.length_eq_zero_iff.1 (Nat.le_zero.1 hlength)]
    cases bound <;> rfl
  | succ length ih =>
    cases bs with
    | nil => cases bound <;> rfl
    | cons b bs =>
      obtain ⟨bound, rfl⟩ := Nat.exists_eq_succ_of_ne_zero (show bound ≠ 0 by omega)
      simp only [Item.readWithin, bind]
      cases hread : Item.read (fun number => groups == 0 && byLength number) (b :: bs) with
      | none => rfl
      | some pair =>
        obtain ⟨item, rest⟩ := pair
        obtain ⟨front, hbytes, hspelled⟩ := Item.read_eq_some_iff.1 hread
        have hfront : 0 < front.length := List.length_pos_of_ne_nil hspelled.ne_nil
        have hwhole := congrArg List.length hbytes
        rw [List.length_append] at hwhole
        simp only [Option.bind_some]
        rw [Item.readWithin_done, ih (by omega) (by omega), ← Item.readWithin_done]

/-- The first item is read, and then the rest. -/
theorem Item.readFrom_append {groups : Nat} {bs : List UInt8} {item : Item}
    (h : Item.Spelled (fun number => groups == 0 && byLength number) bs item) (rest : List UInt8) :
    Item.readFrom byLength groups (bs ++ rest) =
      (Item.readFrom byLength (item.groupsAfter groups) rest).map (item :: ·) := by
  have hread := Item.read_of_spelled h rest
  obtain ⟨b, bs, rfl⟩ := List.exists_cons_of_ne_nil h.ne_nil
  rw [List.cons_append] at hread
  rw [Item.readFrom, List.cons_append, List.length_cons, Item.readWithin, hread]
  simp only [bind, Option.bind_some]
  rw [Item.readWithin_done, Item.readWithin_bound (by simp)]
  rfl

/-! ## A run of fields -/

namespace Field

/-- The fields of a byte string where some groups are open. -/
def readFrom (byLength : Nat → Bool) (depth : Nat) (groups : List Nat) (bs : List UInt8) : Option (List Field) :=
  (Item.readFrom byLength groups.length bs).bind (ofItems depth groups [])

theorem ofItems_done (depth : Nat) (groups : List Nat) (done : List Field) (items : List Item) :
    ofItems depth groups done items = (ofItems depth groups [] items).map (done.reverse ++ ·) := by
  induction items generalizing groups done with
  | nil => cases groups <;> simp [ofItems]
  | cons item items ih =>
    cases item with
    | field f =>
      cases groups with
      | nil =>
        simp only [ofItems]
        rw [ih [] (f :: done), ih [] [f], Option.map_map]
        simp [Function.comp_def]
      | cons n groups =>
        simp only [ofItems]
        split
        · exact ih _ done
        · rfl
    | startGroup n =>
      simp only [ofItems]
      split
      · exact ih _ done
      · rfl
    | endGroup n =>
      match groups with
      | [] => rfl
      | [m] =>
        simp only [ofItems]
        split
        · rw [ih [] (⟨n, .group⟩ :: done), ih [] [⟨n, .group⟩], Option.map_map]
          simp [Function.comp_def]
        · rfl
      | m :: m' :: outer =>
        simp only [ofItems]
        split
        · exact ih _ done
        · rfl

/-- The first item is read, and then the rest. -/
theorem readFrom_item {depth : Nat} {groups : List Nat} {bs : List UInt8} {item : Item}
    (h : Item.Spelled (fun number => groups.length == 0 && byLength number) bs item) (rest : List UInt8) :
    readFrom byLength depth groups (bs ++ rest) =
      (Item.readFrom byLength (item.groupsAfter groups.length) rest).bind fun items =>
        ofItems depth groups [] (item :: items) := by
  rw [readFrom, Item.readFrom_append h, Option.bind_map]
  rfl

/-- A field outside of groups. -/
theorem readFrom_field {depth : Nat} {bs : List UInt8} {f : Field} (h : Item.Spelled byLength bs (.field f))
    (rest : List UInt8) :
    readFrom byLength depth [] (bs ++ rest) = (readFrom byLength depth [] rest).map (f :: ·) := by
  rw [readFrom_item (by simpa using h), readFrom, Option.map_bind]
  congr 1
  funext items
  rw [ofItems, ofItems_done]
  rfl

/-- A field inside a group. -/
theorem readFrom_enclosedField {depth n : Nat} {groups : List Nat} {bs : List UInt8} {f : Field}
    (h : Item.Spelled (fun _ => false) bs (.field f)) (rest : List UInt8) :
    readFrom byLength depth (n :: groups) (bs ++ rest) =
      if groups.length + 1 < depth then readFrom byLength depth (n :: groups) rest else none := by
  rw [readFrom_item (by simpa using h)]
  simp only [ofItems, List.length_cons]
  split
  · rfl
  · exact Option.bind_fun_none _

theorem readFrom_startGroup {depth n : Nat} {groups : List Nat} {bs : List UInt8}
    (h : Item.Spelled (fun number => groups.length == 0 && byLength number) bs (.startGroup n)) (rest : List UInt8) :
    readFrom byLength depth groups (bs ++ rest) =
      if groups.length < depth then readFrom byLength depth (n :: groups) rest else none := by
  rw [readFrom_item h]
  simp only [ofItems]
  split
  · rfl
  · exact Option.bind_fun_none _

/-- The end of the only group that is open. -/
theorem readFrom_endGroup {depth n m : Nat} {bs : List UInt8} (h : Item.Spelled (fun _ => false) bs (.endGroup n))
    (rest : List UInt8) :
    readFrom byLength depth [m] (bs ++ rest) =
      if n = m then (readFrom byLength depth [] rest).map (⟨n, .group⟩ :: ·) else none := by
  rw [readFrom_item (by simpa using h)]
  simp only [ofItems]
  split
  · rw [readFrom, Option.map_bind]
    congr 1
    funext items
    rw [ofItems_done]
    rfl
  · exact Option.bind_fun_none _

/-- The end of a group inside another one. -/
theorem readFrom_enclosedEnd {depth n m m' : Nat} {groups : List Nat} {bs : List UInt8}
    (h : Item.Spelled (fun _ => false) bs (.endGroup n)) (rest : List UInt8) :
    readFrom byLength depth (m :: m' :: groups) (bs ++ rest) =
      if n = m then readFrom byLength depth (m' :: groups) rest else none := by
  rw [readFrom_item (by simpa using h)]
  simp only [ofItems]
  split
  · rfl
  · exact Option.bind_fun_none _

/-- What stands inside a group is skipped. The induction follows the grammar, and the room it has is what is left of
the depth. -/
theorem readFrom_enclosed {room : Nat} {inner : List UInt8} (h : Enclosed room inner) {depth n : Nat}
    {groups : List Nat} (hroom : groups.length + 1 + room ≤ depth) (rest : List UInt8) :
    readFrom byLength depth (n :: groups) (inner ++ rest) = readFrom byLength depth (n :: groups) rest := by
  induction h generalizing n groups rest with
  | nil => rfl
  | field hfield _ ih => rw [List.append_assoc, readFrom_enclosedField hfield, if_pos (by omega), ih hroom]
  | group hstart _ hfinish _ ihinner ihrest =>
    have hlength : (n :: groups).length = groups.length + 1 := List.length_cons
    rw [List.append_assoc, readFrom_startGroup (by simpa using hstart), if_pos (by omega), List.append_assoc,
      ihinner (by omega), List.append_assoc, readFrom_enclosedEnd hfinish, if_pos rfl, ihrest hroom]

/-- A field is read, and then the rest. -/
theorem readAll_append {depth : Nat} {bs : List UInt8} {f : Field} (h : Field.Spelled byLength depth bs f)
    (rest : List UInt8) : readAll byLength depth (bs ++ rest) = (readAll byLength depth rest).map (f :: ·) := by
  show readFrom byLength depth [] _ = (readFrom byLength depth [] rest).map _
  cases h with
  | plain hfield => exact readFrom_field hfield rest
  | group hstart hinner hfinish =>
    rw [List.append_assoc, readFrom_startGroup (by simpa using hstart), List.length_nil, if_pos (Nat.succ_pos _),
      List.append_assoc, readFrom_enclosed hinner (by simp [Nat.add_comm]), readFrom_endGroup hfinish, if_pos rfl]

theorem readAll_of_runs {depth : Nat} {bs : List UInt8} {fs : List Field} (h : Runs byLength depth bs fs) :
    readAll byLength depth bs = some fs := by
  induction h with
  | nil => rfl
  | cons hfirst _ ih => rw [readAll_append hfirst, ih, Option.map_some]

/-- Nothing is read without an item at the front. -/
theorem exists_item_of_readFrom {depth : Nat} {groups : List Nat} {bs : List UInt8} {fs : List Field}
    (hbytes : bs ≠ []) (h : readFrom byLength depth groups bs = some fs) :
    ∃ front item rest, bs = front ++ rest ∧
      Item.Spelled (fun number => groups.length == 0 && byLength number) front item := by
  obtain ⟨b, bs, rfl⟩ := List.exists_cons_of_ne_nil hbytes
  simp only [readFrom, Item.readFrom, List.length_cons, Item.readWithin, bind, Option.bind_eq_some_iff] at h
  obtain ⟨-, ⟨⟨item, rest⟩, hread, -⟩, -⟩ := h
  obtain ⟨front, hfront, hspelled⟩ := Item.read_eq_some_iff.1 hread
  exact ⟨front, item, rest, hfront, hspelled⟩

/-- Where bytes are read inside of groups, the innermost one has an end. The induction is on a bound of the length: the
rest behind a group inside is shorter than the whole. -/
theorem exists_enclosed_of_readFrom {depth : Nat} {bs : List UInt8} {fs : List Field} {n : Nat} {groups : List Nat}
    (h : readFrom byLength depth (n :: groups) bs = some fs) :
    ∃ inner finish rest, bs = inner ++ (finish ++ rest) ∧ Enclosed (depth - (groups.length + 1)) inner ∧
      Item.Spelled (fun _ => false) finish (.endGroup n) ∧
        readFrom byLength depth (n :: groups) (finish ++ rest) = some fs := by
  obtain ⟨bound, hbound⟩ : ∃ bound, bs.length ≤ bound := ⟨_, le_rfl⟩
  induction bound generalizing bs n groups with
  | zero =>
    rw [List.length_eq_zero_iff.1 (Nat.le_zero.1 hbound)] at h
    cases h
  | succ bound ih =>
    have hbytes : bs ≠ [] := by
      rintro rfl
      cases h
    obtain ⟨front, item, rest, rfl, hspelled⟩ := exists_item_of_readFrom hbytes h
    have hinside : Item.Spelled (fun _ => false) front item := by simpa using hspelled
    have hfront : 0 < front.length := List.length_pos_of_ne_nil hspelled.ne_nil
    rw [List.length_append] at hbound
    cases item with
    | field f =>
      rw [readFrom_enclosedField hinside, Option.ite_none_right_eq_some] at h
      obtain ⟨hroom, h⟩ := h
      obtain ⟨inner, finish, rest, rfl, hinner, hfinish, hend⟩ := ih h (by omega)
      obtain ⟨room, hdepth⟩ := Nat.exists_eq_succ_of_ne_zero (show depth - (groups.length + 1) ≠ 0 by omega)
      rw [hdepth] at hinner ⊢
      exact ⟨front ++ inner, finish, rest, by simp only [List.append_assoc], .field hinside hinner, hfinish, hend⟩
    | startGroup m =>
      rw [readFrom_startGroup hspelled, Option.ite_none_right_eq_some, List.length_cons] at h
      obtain ⟨hroom, h⟩ := h
      -- The group inside, with its end, and then what is left of the outer one
      obtain ⟨inner, finish, after, rfl, hinner, hfinish, hend⟩ := ih h (by omega)
      rw [readFrom_enclosedEnd hfinish, if_pos rfl] at hend
      rw [List.length_append, List.length_append] at hbound
      obtain ⟨inner', finish', rest', rfl, hinner', hfinish', hend'⟩ := ih hend (by omega)
      obtain ⟨room, hdepth⟩ := Nat.exists_eq_succ_of_ne_zero (show depth - (groups.length + 1) ≠ 0 by omega)
      have hroom' : depth - ((n :: groups).length + 1) = room := by
        rw [List.length_cons]
        omega
      rw [hdepth] at hinner' ⊢
      rw [hroom'] at hinner
      exact ⟨front ++ (inner ++ (finish ++ inner')), finish', rest', by simp only [List.append_assoc],
        .group hinside hinner hfinish hinner', hfinish', hend'⟩
    | endGroup m =>
      obtain rfl : m = n := by
        cases groups with
        | nil =>
          rw [readFrom_endGroup hinside, Option.ite_none_right_eq_some] at h
          exact h.1
        | cons n' groups =>
          rw [readFrom_enclosedEnd hinside, Option.ite_none_right_eq_some] at h
          exact h.1
      exact ⟨[], front, rest, rfl, .nil, hinside, h⟩

/-- Nothing is read without a field at the front. -/
theorem exists_spelled_of_readAll {depth : Nat} {bs : List UInt8} {fs : List Field} (hbytes : bs ≠ [])
    (h : readAll byLength depth bs = some fs) :
    ∃ front rest f, bs = front ++ rest ∧ Field.Spelled byLength depth front f := by
  change readFrom byLength depth [] bs = some fs at h
  obtain ⟨front, item, rest, rfl, hspelled⟩ := exists_item_of_readFrom hbytes h
  have houtside : Item.Spelled byLength front item := by simpa using hspelled
  cases item with
  | field f => exact ⟨front, rest, f, rfl, .plain houtside⟩
  | startGroup n =>
    rw [readFrom_startGroup hspelled, Option.ite_none_right_eq_some] at h
    obtain ⟨hroom, h⟩ := h
    obtain ⟨inner, finish, rest, rfl, hinner, hfinish, -⟩ := exists_enclosed_of_readFrom h
    obtain ⟨depth, rfl⟩ := Nat.exists_eq_succ_of_ne_zero (Nat.pos_iff_ne_zero.1 hroom)
    exact ⟨front ++ (inner ++ finish), rest, ⟨n, .group⟩, by simp only [List.append_assoc],
      .group houtside hinner hfinish⟩
  | endGroup n =>
    rw [readFrom_item hspelled] at h
    simp only [ofItems, Option.bind_fun_none] at h
    cases h

theorem Spelled.ne_nil {depth : Nat} {bs : List UInt8} {f : Field} (h : Field.Spelled byLength depth bs f) :
    bs ≠ [] := by
  cases h with
  | plain hfield => exact hfield.ne_nil
  | group hstart => exact List.append_ne_nil_of_left_ne_nil hstart.ne_nil _

/-- What is read is a run of fields. -/
theorem readAll_eq_some_iff {depth : Nat} {bs : List UInt8} {fs : List Field} :
    readAll byLength depth bs = some fs ↔ Runs byLength depth bs fs := by
  refine ⟨fun h => ?_, readAll_of_runs⟩
  obtain ⟨bound, hbound⟩ : ∃ bound, bs.length ≤ bound := ⟨_, le_rfl⟩
  induction bound generalizing bs fs with
  | zero =>
    rw [List.length_eq_zero_iff.1 (Nat.le_zero.1 hbound)] at h ⊢
    cases h
    exact .nil
  | succ bound ih =>
    by_cases hbytes : bs = []
    · rw [hbytes] at h ⊢
      cases h
      exact .nil
    · obtain ⟨front, rest, f, rfl, hfirst⟩ := exists_spelled_of_readAll hbytes h
      have hfront : 0 < front.length := List.length_pos_of_ne_nil hfirst.ne_nil
      rw [List.length_append] at hbound
      rw [readAll_append hfirst, Option.map_eq_some_iff] at h
      obtain ⟨fs, h, rfl⟩ := h
      exact .cons hfirst (ih h (by omega))

end Field

/-! ## Messages -/

namespace Schema

variable {σ : Type} (schema : Schema σ)

@[simp] theorem merge_nil (depth : Nat) (m : σ) : schema.merge depth [] m = some m :=
  rfl

/-- The first field changes the message, and then the rest does. -/
theorem merge_append {depth : Nat} {bs : List UInt8} {f : Field}
    (h : Field.Spelled schema.byLength depth bs f) (rest : List UInt8) (m : σ) :
    schema.merge depth (bs ++ rest) m = (schema.mergeField depth m f).bind (schema.merge depth rest) := by
  simp only [merge, Field.readAll_append h, Option.bind_map, Function.comp_def, List.foldlM_cons]
  exact Option.bind_comm ..

end Schema

end TelemetryGateway.Telemetry.Wire
