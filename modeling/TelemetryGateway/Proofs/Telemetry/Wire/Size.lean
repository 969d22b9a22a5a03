import Mathlib
import TelemetryGateway.Proofs.Telemetry.Wire.Message

/-!
# Counting bytes without writing them

The size of a message is computed by a recursion of its own, beside the one that writes it. The two agree: for
every number at the width of its groups, for values that are left out, and for messages in messages, where the width of
a count depends on the count itself. Both go through the context of a log entry, each in some order, and the
orders need not be the same.

## Main definitions

- `Kind.Counted`, `Slot.Counted`, `Schema.Counted`: the size is the count of the bytes that are written
- `LogEntry.Measured`, `LogBatch.Measured`, `Packet.Measured`: the sizes, with contexts in any order

## Main statements

- `Varint.length_encode`: numbers
- `Packet.Spelled.length_eq`: the size of a packet is the count of the bytes of any of its binary forms
- `Packet.length_encode`: the order of the keys is one of the orders
-/

namespace TelemetryGateway.Telemetry

open TelemetryGateway.Text (utf8)
open Wire

namespace Wire

/-! ## Sums -/

theorem totalSize_eq_sum {α : Type} (size : α → Nat) (as : List α) : totalSize size as = (as.map size).sum := by
  induction as with
  | nil => rfl
  | cons a as ih => simp [totalSize, ih]

/-- The parts of a byte string, each with its size. -/
theorem length_flatMap_eq_totalSize {α : Type} {write : α → List UInt8} {size : α → Nat} {as : List α}
    (h : ∀ a ∈ as, (write a).length = size a) : (as.flatMap write).length = totalSize size as := by
  rw [List.length_flatMap, totalSize_eq_sum, List.map_congr_left h]

/-- The order of the parts does not matter. -/
theorem totalSize_perm {α : Type} (size : α → Nat) {as as' : List α} (h : as.Perm as') :
    totalSize size as = totalSize size as' := by
  rw [totalSize_eq_sum, totalSize_eq_sum]
  exact (h.map size).sum_eq

/-! ## Numbers and fields -/

/-- The groups of a number are counted as they are written. -/
theorem Varint.length_encode (n : Nat) : (Varint.encode n).length = Varint.length n := by
  induction n using Varint.encode.induct with
  | case1 n hsmall => rw [Varint.encode, Varint.length, if_pos hsmall, if_pos hsmall, List.length_singleton]
  | case2 n hlarge ih =>
    rw [Varint.encode, Varint.length, if_neg hlarge, if_neg hlarge, List.length_cons, ih, Nat.add_comm]

theorem length_writeKey (number kind : Nat) : (writeKey number kind).length = keySize number kind :=
  Varint.length_encode _

theorem length_writeVarint (number n : Nat) :
    (writeVarint number n).length = keySize number 0 + Varint.length n := by
  rw [writeVarint, List.length_append, length_writeKey, Varint.length_encode]

theorem length_writeBytes (number : Nat) (content : List UInt8) :
    (writeBytes number content).length = bytesSize number content.length := by
  rw [writeBytes, List.length_append, List.length_append, length_writeKey, Varint.length_encode, bytesSize]

/-! ## Fields of a message -/

/-- The size of each value is the count of the bytes that are written for it. -/
def Kind.Counted {α : Type} (kind : Kind α) : Prop :=
  ∀ number v, (kind.write number v).length = kind.size number v

/-- The size of a field is the count of the bytes that are written for it, whatever the message. -/
def Slot.Counted {σ : Type} (slot : Slot σ) : Prop :=
  ∀ m, (slot.write m).length = slot.size m

/-- The size of each field is the count of the bytes that are written for it. -/
def Schema.Counted {σ : Type} (schema : Schema σ) : Prop :=
  ∀ slot ∈ schema, slot.Counted

namespace Schema

variable {σ α : Type} {schema : Schema σ}

theorem Counted.nil : Counted ([] : Schema σ) := by
  intro slot hslot
  cases hslot

theorem Counted.field {number : Nat} {kind : Kind α} {get : σ → α} {set : α → σ → σ} (hkind : kind.Counted)
    (hrest : schema.Counted) : Counted (Slot.of number kind get set :: schema) := by
  intro slot hslot
  rcases List.mem_cons.1 hslot with rfl | hslot
  · exact fun m => hkind number (get m)
  · exact hrest slot hslot

theorem Counted.take (h : schema.Counted) (n : Nat) : Counted (schema.take n) :=
  fun slot hslot => h slot (List.mem_of_mem_take hslot)

theorem Counted.drop (h : schema.Counted) (n : Nat) : Counted (schema.drop n) :=
  fun slot hslot => h slot (List.mem_of_mem_drop hslot)

/-- The bytes of a message are those of its fields, and so is their count. -/
theorem Counted.length_write (h : schema.Counted) (m : σ) : (schema.write m).length = schema.size m :=
  length_flatMap_eq_totalSize fun slot hslot => h slot hslot m

theorem size_append (schema part : Schema σ) (m : σ) :
    Schema.size (schema ++ part) m = schema.size m + part.size m := by
  simp only [Schema.size, totalSize_eq_sum, List.map_append, List.sum_append]

end Schema

/-! ## Kinds -/

namespace Kind

theorem counted_integer {α : Type} (toNat : α → Nat) (ofNat : Nat → α) : (integer toNat ofNat).Counted := by
  intro number v
  unfold integer
  by_cases hzero : toNat v = 0
  · simp [hzero]
  · simp [hzero, length_writeVarint]

theorem counted_single : single.Counted := by
  intro number x
  unfold single
  by_cases hzero : x.isZero = true
  · simp [hzero]
  · simp [hzero, length_writeKey, littleEndian]

theorem counted_bytes : bytes.Counted := by
  intro number b
  cases b with
  | nil => rfl
  | cons c cs => exact length_writeBytes number (c :: cs)

/-- The size of a text is the count of its bytes, not of its characters. -/
theorem length_utf8 (s : String) : (utf8 s).length = s.utf8ByteSize := by
  simp [utf8, String.toUTF8]

theorem counted_text : text.Counted := by
  intro number s
  by_cases hempty : s = ""
  · rw [hempty]
    rfl
  · simp [text, hempty, length_writeBytes, length_utf8]

theorem counted_optionalText : optionalText.Counted := by
  intro number s
  cases s with
  | none => rfl
  | some s => simp [optionalText, length_writeBytes, length_utf8]

/-- Packed numbers take four bytes each. -/
theorem counted_singles : singles.Counted := by
  intro number xs
  unfold singles
  by_cases hempty : xs.isEmpty = true
  · simp [hempty]
  · have hfour : (xs.flatMap fun x => littleEndian x.bits).length = 4 * xs.length := by
      simp [List.length_flatMap, littleEndian, Nat.mul_comm]
    simp [hempty, length_writeBytes, hfour]

theorem counted_message {τ : Type} [Inhabited τ] {schema : Schema τ} (h : schema.Counted) :
    (message schema).Counted := by
  intro number m
  cases m with
  | none => rfl
  | some m => simp only [message, length_writeBytes, h.length_write]

theorem counted_messages {τ : Type} [Inhabited τ] {schema : Schema τ} (h : schema.Counted) :
    (messages schema).Counted := by
  intro number ms
  apply length_flatMap_eq_totalSize
  intro m _
  rw [length_writeBytes, h.length_write]

theorem counted_pair : entrySchema.Counted :=
  .field counted_text <| .field counted_text .nil

/-- The entries of a map, in any order, take as many bytes as they are counted for, in any other. -/
theorem length_entries {number : Nat} {order order' : List (String × String)} (h : order.Perm order') :
    (order.flatMap fun e => writeBytes number (entrySchema.write e)).length =
      totalSize (fun e => bytesSize number (entrySchema.size e)) order' := by
  rw [← totalSize_perm _ h]
  apply length_flatMap_eq_totalSize
  intro e _
  rw [length_writeBytes, counted_pair.length_write]

theorem counted_attributes : attributes.Counted :=
  fun _ a => length_entries (List.Perm.refl a.entries)

end Kind

/-! ## The messages of a packet -/

theorem counted_hardware : hardwareSchema.Counted :=
  .field (Kind.counted_integer _ _) <| .field (Kind.counted_integer _ _) <| .field (Kind.counted_integer _ _) <|
    .field (Kind.counted_integer _ _) <| .field (Kind.counted_integer _ _) <| .field (Kind.counted_integer _ _) .nil

theorem counted_client : clientSchema.Counted :=
  .field (Kind.counted_integer _ _) <| .field Kind.counted_bytes <| .field Kind.counted_bytes <|
    .field (Kind.counted_integer _ _) <| .field Kind.counted_text <| .field Kind.counted_text <|
    .field (Kind.counted_message counted_hardware) .nil

theorem counted_cpu : cpuSchema.Counted :=
  .field Kind.counted_single <| .field Kind.counted_singles .nil

theorem counted_memory : memorySchema.Counted :=
  .field (Kind.counted_integer _ _) <| .field (Kind.counted_integer _ _) <| .field (Kind.counted_integer _ _) <|
    .field (Kind.counted_integer _ _) <| .field (Kind.counted_integer _ _) <| .field (Kind.counted_integer _ _) .nil

theorem counted_point : pointSchema.Counted :=
  .field (Kind.counted_integer _ _) <| .field (Kind.counted_integer _ _) <| .field Kind.counted_single <|
    .field (Kind.counted_message counted_cpu) <| .field (Kind.counted_message counted_memory) .nil

theorem counted_metrics : metricsSchema.Counted :=
  .field (Kind.counted_messages counted_point) .nil

theorem counted_entry : entrySchema.Counted :=
  .field (Kind.counted_integer _ _) <| .field (Kind.counted_integer _ _) <| .field (Kind.counted_integer _ _) <|
    .field Kind.counted_text <| .field Kind.counted_text <| .field Kind.counted_attributes <|
    .field Kind.counted_optionalText <| .field Kind.counted_text <| .field Kind.counted_text .nil

theorem counted_logs : logsSchema.Counted :=
  .field (Kind.counted_messages counted_entry) .nil

theorem counted_packet : packetSchema.Counted :=
  .field (Kind.counted_integer _ _) <| .field (Kind.counted_message counted_client) <|
    .field (Kind.counted_message counted_metrics) <| .field (Kind.counted_message counted_logs) .nil

end Wire

/-! ## Any order of contexts -/

/-- The size of a log entry, with the entries of its context counted in some order. -/
def LogEntry.Measured (e : LogEntry) (n : Nat) : Prop :=
  ∃ order : List (String × String), order.Perm e.context.entries ∧
    n = Schema.size (entrySchema.take 5) e +
      (totalSize (fun x => bytesSize 6 (Kind.entrySchema.size x)) order + Schema.size (entrySchema.drop 6) e)

/-- The size of log entries. -/
def LogBatch.Measured (b : LogBatch) (n : Nat) : Prop :=
  ∃ sizes : List Nat,
    List.Forall₂ (fun size e => LogEntry.Measured e size) sizes b.entries ∧ n = totalSize (bytesSize 1) sizes

/-- The size of a packet. -/
def Packet.Measured (p : Packet) (n : Nat) : Prop :=
  ∃ logs : Nat,
    (match p.logs with
      | none => logs = 0
      | some b => ∃ size, b.Measured size ∧ logs = bytesSize 4 size) ∧
    n = Schema.size (packetSchema.take 3) p + logs

/-- The order of the keys is one of the orders. -/
theorem LogEntry.measured_size (e : LogEntry) : e.Measured (entrySchema.size e) := by
  refine ⟨e.context.entries, .refl _, ?_⟩
  conv_lhs => rw [← List.take_append_drop 5 entrySchema, Schema.size_append]
  rfl

theorem LogBatch.measured_size (b : LogBatch) : b.Measured (logsSchema.size b) := by
  refine ⟨b.entries.map entrySchema.size, ?_, ?_⟩
  · rw [List.forall₂_map_left_iff, List.forall₂_same]
    exact fun e _ => e.measured_size
  · simp [logsSchema, Schema.size, Slot.of, Kind.messages, totalSize_eq_sum, Function.comp_def]

theorem Packet.measured_encodedLength (p : Packet) : p.Measured p.encodedLength := by
  refine ⟨Schema.size (packetSchema.drop 3) p, ?_, ?_⟩
  rotate_left
  · rw [Packet.encodedLength, ← Schema.size_append, List.take_append_drop]
  cases hlogs : p.logs with
  | none => simp [packetSchema, Schema.size, Slot.of, Kind.message, totalSize_eq_sum, hlogs]
  | some b =>
    refine ⟨logsSchema.size b, b.measured_size, ?_⟩
    simp [packetSchema, Schema.size, Slot.of, Kind.message, totalSize_eq_sum, hlogs]

/-- A log entry takes as many bytes in one order of its context as are counted for it in another. -/
theorem LogEntry.Spelled.length_eq {e : LogEntry} {bs : List UInt8} {n : Nat} (h : e.Spelled bs)
    (h' : e.Measured n) : bs.length = n := by
  obtain ⟨order, hperm, rfl⟩ := h
  obtain ⟨order', hperm', rfl⟩ := h'
  rw [List.length_append, List.length_append, (counted_entry.take 5).length_write,
    Kind.length_entries (hperm.trans hperm'.symm), (counted_entry.drop 6).length_write]

theorem LogBatch.Spelled.length_eq {b : LogBatch} {bs : List UInt8} {n : Nat} (h : b.Spelled bs)
    (h' : b.Measured n) : bs.length = n := by
  obtain ⟨contents, hcontents, rfl⟩ := h
  obtain ⟨sizes, hsizes, rfl⟩ := h'
  -- Entry by entry, the size is the length of the content
  have hlengths : contents.map List.length = sizes := by
    generalize b.entries = entries at hcontents hsizes
    induction hcontents generalizing sizes with
    | nil =>
      cases hsizes
      rfl
    | cons hcontent _ ih =>
      cases hsizes with
      | cons hsize hrest => rw [List.map_cons, hcontent.length_eq hsize, ih _ hrest]
  rw [length_flatMap_eq_totalSize fun content _ => length_writeBytes 1 content, ← hlengths, totalSize_eq_sum,
    totalSize_eq_sum, List.map_map]
  rfl

/-- **Counting and writing agree.** The size of a packet is the count of the bytes of each of its binary forms. -/
theorem Packet.Spelled.length_eq {p : Packet} {bs : List UInt8} {n : Nat} (h : p.Spelled bs)
    (h' : p.Measured n) : bs.length = n := by
  obtain ⟨logs, hlogs, rfl⟩ := h
  obtain ⟨size, hsize, rfl⟩ := h'
  rw [List.length_append, (counted_packet.take 3).length_write]
  cases hp : p.logs with
  | none =>
    simp only [hp] at hlogs hsize
    rw [hlogs, hsize, List.length_nil]
  | some b =>
    simp only [hp] at hlogs hsize
    obtain ⟨content, hcontent, rfl⟩ := hlogs
    obtain ⟨count, hcount, rfl⟩ := hsize
    rw [length_writeBytes, hcontent.length_eq hcount]

theorem Packet.length_encode (p : Packet) : p.encode.length = p.encodedLength :=
  p.spelled_encode.length_eq p.measured_encodedLength

end TelemetryGateway.Telemetry
