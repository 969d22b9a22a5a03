import Mathlib
import TelemetryGateway.Ingest.Validation
import TelemetryGateway.Proofs.Ingest.Identifier
import TelemetryGateway.Proofs.Telemetry.Attributes
import TelemetryGateway.Proofs.Telemetry.Wire.RoundTrip
import TelemetryGateway.Proofs.Telemetry.Wire.Size

/-!
# Which packets are valid

A packet is valid if it names its sender, its binary form is not too long, its two identifiers are identifiers, and
no log entry has too many attributes. A packet that is not is refused for the first of these rules that it breaks.
Greater bounds refuse fewer packets.

## Main definitions

- `LogEntry.keys`: the keys of the context of a log entry
- `Limits.Keeps`: a packet keeps all rules
- `Limits.Breaks`: a packet breaks a rule and none of those before it

## Main statements

- `Limits.keeps_or_breaks`: a packet keeps all rules or breaks a first one
- `validate_exact`: the verdict on every packet
- `tooLarge_exact`: the size that the verdict goes by
-/

namespace TelemetryGateway

open TelemetryGateway.Telemetry TelemetryGateway.Telemetry.Wire

/-- The keys of the context of a log entry. -/
def Telemetry.LogEntry.keys (e : LogEntry) : Finset String :=
  (e.context.entries.map (·.1)).toFinset

theorem Telemetry.LogEntry.card_keys (e : LogEntry) : e.keys.card = e.context.size := by
  rw [LogEntry.keys, List.toFinset_card_of_nodup e.context.nodup_keys, List.length_map]
  rfl

namespace Ingest

/-- A packet of a sender keeps all rules. -/
structure Limits.Keeps (limits : Limits) (p : Packet) (client : Client) : Prop where
  sender : p.metadata = some client
  size : p.encode.length ≤ limits.maxPacketBytes
  installation : IsIdentifier client.installationId
  journey : IsIdentifier client.journeyId
  contexts : ∀ entry ∈ p.logs.elim [] (·.entries), entry.keys.card ≤ limits.maxContextAttributes

/-- A packet breaks a rule and none of those before it. -/
inductive Limits.Breaks (limits : Limits) (p : Packet) : ValidationError → Prop
  | missingMetadata (hsender : p.metadata = none) : Breaks limits p .missingMetadata
  | packetTooLarge {client : Client} (hsender : p.metadata = some client)
      (hsize : limits.maxPacketBytes < p.encode.length) :
      Breaks limits p (.packetTooLarge p.encode.length limits.maxPacketBytes)
  | installation {client : Client} {e : IdentifierError} (hsender : p.metadata = some client)
      (hsize : p.encode.length ≤ limits.maxPacketBytes) (hmisfit : Misfit .installation client.installationId e) :
      Breaks limits p (.identifier e)
  | journey {client : Client} {e : IdentifierError} (hsender : p.metadata = some client)
      (hsize : p.encode.length ≤ limits.maxPacketBytes) (hinstallation : IsIdentifier client.installationId)
      (hmisfit : Misfit .journey client.journeyId e) : Breaks limits p (.identifier e)
  /-- The first of the log entries with too many attributes counts. -/
  | context {client : Client} {front back : List LogEntry} {entry : LogEntry} (hsender : p.metadata = some client)
      (hsize : p.encode.length ≤ limits.maxPacketBytes) (hinstallation : IsIdentifier client.installationId)
      (hjourney : IsIdentifier client.journeyId) (hentries : p.logs.elim [] (·.entries) = front ++ entry :: back)
      (hfront : ∀ e ∈ front, e.keys.card ≤ limits.maxContextAttributes)
      (hentry : limits.maxContextAttributes < entry.keys.card) :
      Breaks limits p (.tooManyContextAttributes entry.keys.card limits.maxContextAttributes)

/-! ## The first log entry with too many attributes -/

theorem exists_first_oversized (max : Nat) (entries : List LogEntry) :
    (∀ e ∈ entries, e.keys.card ≤ max) ∨
      ∃ front entry back, entries = front ++ entry :: back ∧ (∀ e ∈ front, e.keys.card ≤ max) ∧
        max < entry.keys.card := by
  induction entries with
  | nil => exact .inl fun e he => absurd he List.not_mem_nil
  | cons first rest ih =>
    by_cases hfirst : max < first.keys.card
    · exact .inr ⟨[], first, rest, rfl, fun e he => absurd he List.not_mem_nil, hfirst⟩
    -- The first entry is in front of whatever is found in the rest
    · rcases ih with hall | ⟨front, entry, back, rfl, hfront, hentry⟩
      · exact .inl (List.forall_mem_cons.2 ⟨Nat.not_lt.1 hfirst, hall⟩)
      · exact .inr ⟨first :: front, entry, back, rfl,
          List.forall_mem_cons.2 ⟨Nat.not_lt.1 hfirst, hfront⟩, hentry⟩

theorem firstOversized?_of_le {max : Nat} {entries : List LogEntry} (h : ∀ e ∈ entries, e.keys.card ≤ max) :
    firstOversized? max entries = none := by
  rw [firstOversized?, Option.map_eq_none_iff, List.find?_eq_none]
  intro e he
  rw [decide_eq_true_iff, ← e.card_keys]
  exact Nat.not_lt.2 (h e he)

theorem firstOversized?_append {max : Nat} {front back : List LogEntry} {entry : LogEntry}
    (hfront : ∀ e ∈ front, e.keys.card ≤ max) (hentry : max < entry.keys.card) :
    firstOversized? max (front ++ entry :: back) = some entry.keys.card := by
  induction front with
  | nil =>
    rw [entry.card_keys] at hentry ⊢
    simp [firstOversized?, hentry]
  | cons first front ih =>
    obtain ⟨hfirst, hfront⟩ := List.forall_mem_cons.1 hfront
    rw [first.card_keys, ← Nat.not_lt] at hfirst
    simpa [firstOversized?, hfirst] using ih hfront

/-! ## The verdict -/

/-- A packet keeps all rules or breaks a first one. The cases are those of the validation, in its order. -/
theorem Limits.keeps_or_breaks (limits : Limits) (p : Packet) :
    (∃ client, limits.Keeps p client) ∨ ∃ e, limits.Breaks p e := by
  cases hsender : p.metadata with
  | none => exact .inr ⟨_, .missingMetadata hsender⟩
  | some client =>
    by_cases hsize : p.encode.length ≤ limits.maxPacketBytes
    · rcases isIdentifier_or_misfit .installation client.installationId with hinstallation | ⟨e, hmisfit⟩
      · rcases isIdentifier_or_misfit .journey client.journeyId with hjourney | ⟨e, hmisfit⟩
        · rcases exists_first_oversized limits.maxContextAttributes (p.logs.elim [] (·.entries)) with
            hall | ⟨front, entry, back, hentries, hfront, hentry⟩
          · exact .inl ⟨client, hsender, hsize, hinstallation, hjourney, hall⟩
          · exact .inr ⟨_, .context hsender hsize hinstallation hjourney hentries hfront hentry⟩
        · exact .inr ⟨_, .journey hsender hsize hinstallation hmisfit⟩
      · exact .inr ⟨_, .installation hsender hsize hmisfit⟩
    · exact .inr ⟨_, .packetTooLarge hsender (Nat.not_le.1 hsize)⟩

theorem requireIdentifier_of_isIdentifier {bytes : List UInt8} (h : IsIdentifier bytes) (field : IdentifierField) :
    requireIdentifier field bytes = .ok () := by
  rw [requireIdentifier, checkIdentifier_of_isIdentifier h]
  rfl

theorem requireIdentifier_of_misfit {field : IdentifierField} {bytes : List UInt8} {e : IdentifierError}
    (h : Misfit field bytes e) : requireIdentifier field bytes = .error (.identifier e) := by
  rw [requireIdentifier, checkIdentifier_of_misfit h]
  rfl

/-- A packet with a sender that is not too long goes on to its identifiers. -/
theorem validate_of_size {limits : Limits} {p : Packet} {client : Client} (hsender : p.metadata = some client)
    (hsize : p.encode.length ≤ limits.maxPacketBytes) :
    validate limits p = (do
      requireIdentifier .installation client.installationId
      requireIdentifier .journey client.journeyId
      match firstOversized? limits.maxContextAttributes (p.logs.elim [] (·.entries)) with
      | some count => .error (.tooManyContextAttributes count limits.maxContextAttributes)
      | none => .ok client) := by
  rw [p.length_encode, ← Nat.not_lt] at hsize
  unfold validate
  rw [hsender, ← logEntries_eq]
  exact if_neg hsize

theorem validate_of_keeps {limits : Limits} {p : Packet} {client : Client} (h : limits.Keeps p client) :
    validate limits p = .ok client := by
  rw [validate_of_size h.sender h.size, requireIdentifier_of_isIdentifier h.installation,
    requireIdentifier_of_isIdentifier h.journey, firstOversized?_of_le h.contexts]
  rfl

theorem validate_of_breaks {limits : Limits} {p : Packet} {e : ValidationError} (h : limits.Breaks p e) :
    validate limits p = .error e := by
  cases h with
  | missingMetadata hsender => simp only [validate, hsender]
  | packetTooLarge hsender hsize =>
    rw [p.length_encode] at hsize ⊢
    simp only [validate, hsender, if_pos hsize]
  | installation hsender hsize hmisfit =>
    rw [validate_of_size hsender hsize, requireIdentifier_of_misfit hmisfit]
    rfl
  | journey hsender hsize hinstallation hmisfit =>
    rw [validate_of_size hsender hsize, requireIdentifier_of_isIdentifier hinstallation,
      requireIdentifier_of_misfit hmisfit]
    rfl
  | context hsender hsize hinstallation hjourney hentries hfront hentry =>
    rw [validate_of_size hsender hsize, requireIdentifier_of_isIdentifier hinstallation,
      requireIdentifier_of_isIdentifier hjourney, hentries, firstOversized?_append hfront hentry]
    rfl

theorem validate_eq_ok_iff {limits : Limits} {p : Packet} {client : Client} :
    validate limits p = .ok client ↔ limits.Keeps p client := by
  constructor
  · intro hok
    rcases limits.keeps_or_breaks p with ⟨client', h⟩ | ⟨e, h⟩
    · rw [validate_of_keeps h] at hok
      cases hok
      exact h
    · rw [validate_of_breaks h] at hok
      cases hok
  · exact validate_of_keeps

theorem validate_eq_error_iff {limits : Limits} {p : Packet} {e : ValidationError} :
    validate limits p = .error e ↔ limits.Breaks p e := by
  constructor
  · intro herror
    rcases limits.keeps_or_breaks p with ⟨client, h⟩ | ⟨e', h⟩
    · rw [validate_of_keeps h] at herror
      cases herror
    · rw [validate_of_breaks h] at herror
      cases herror
      exact h
  · exact validate_of_breaks

/-- Greater bounds refuse fewer packets. -/
theorem Limits.Keeps.mono {limits limits' : Limits} {p : Packet} {client : Client} (h : limits.Keeps p client)
    (hbytes : limits.maxPacketBytes ≤ limits'.maxPacketBytes)
    (hattributes : limits.maxContextAttributes ≤ limits'.maxContextAttributes) : limits'.Keeps p client where
  sender := h.sender
  size := h.size.trans hbytes
  installation := h.installation
  journey := h.journey
  contexts := fun entry hentry => (h.contexts entry hentry).trans hattributes

/-- **The verdict on every packet.** Zero stands for a bound of fifteen hundred bytes and of six attributes. A packet
is valid if it keeps all rules, and else refused for the first one that it breaks. Greater bounds accept whatever
lesser ones do. -/
theorem validate_exact (maxPacketBytes maxContextAttributes : Nat) (p : Packet) :
    (Limits.create maxPacketBytes maxContextAttributes =
        ⟨if maxPacketBytes = 0 then 1500 else maxPacketBytes,
          if maxContextAttributes = 0 then 6 else maxContextAttributes⟩) ∧
      (∀ client, validate (.create maxPacketBytes maxContextAttributes) p = .ok client ↔
        (Limits.create maxPacketBytes maxContextAttributes).Keeps p client) ∧
      (∀ e, validate (.create maxPacketBytes maxContextAttributes) p = .error e ↔
        (Limits.create maxPacketBytes maxContextAttributes).Breaks p e) ∧
      (∀ limits client,
        (Limits.create maxPacketBytes maxContextAttributes).maxPacketBytes ≤ limits.maxPacketBytes →
        (Limits.create maxPacketBytes maxContextAttributes).maxContextAttributes ≤ limits.maxContextAttributes →
        validate (.create maxPacketBytes maxContextAttributes) p = .ok client →
        validate limits p = .ok client) := by
  refine ⟨rfl, fun _ => validate_eq_ok_iff, fun _ => validate_eq_error_iff, ?_⟩
  intro limits client hbytes hattributes hok
  exact validate_of_keeps ((validate_eq_ok_iff.1 hok).mono hbytes hattributes)

/-- Sixteen bytes with the version and the variant of an identifier. -/
def sampleIdentifier : List UInt8 :=
  [1, 2, 3, 4, 5, 6, 0x7F, 8, 0xBF, 10, 11, 12, 13, 14, 15, 16]

/-- A sender whose two identifiers are the same. -/
def sampleClient : Client := { installationId := sampleIdentifier, journeyId := sampleIdentifier }

/-- A log entry with seven attributes. -/
def crowdedEntry : LogEntry where
  context := .ofList [("a", ""), ("b", ""), ("c", ""), ("d", ""), ("e", ""), ("f", ""), ("g", "")]

/-- A packet with a measurement and one log entry, which has seven attributes. -/
def crowdedPacket : Packet where
  metadata := some sampleClient
  metrics := some ⟨[{ clientTimestampMs := 5 }]⟩
  logs := some ⟨[crowdedEntry]⟩

theorem validate_exact_crowded :
    (validate (.create 0 7) crowdedPacket = .ok sampleClient ∧
        validate ⟨4096, 8⟩ crowdedPacket = .ok sampleClient) ∧
      validate (.create 0 0) crowdedPacket = .error (.tooManyContextAttributes 7 6) := by
  obtain ⟨-, hverdict, -, hmono⟩ := validate_exact 0 7 crowdedPacket
  obtain ⟨-, -, hrefusal, -⟩ := validate_exact 0 0 crowdedPacket
  have hidentifier : IsIdentifier sampleIdentifier := ⟨by decide, by decide, by decide⟩
  have hsize : crowdedPacket.encode.length ≤ 1500 := by decide +kernel
  have hok : validate (.create 0 7) crowdedPacket = .ok sampleClient :=
    (hverdict sampleClient).2 ⟨rfl, hsize, hidentifier, hidentifier, by decide +kernel⟩
  have hentries : crowdedPacket.logs.elim [] (·.entries) = [] ++ crowdedEntry :: [] := rfl
  have hcount : crowdedEntry.keys.card = 7 := by decide +kernel
  refine ⟨⟨hok, hmono _ _ (by decide) (by decide) hok⟩, ?_⟩
  rw [← hcount]
  apply (hrefusal _).2
  apply Limits.Breaks.context rfl hsize hidentifier hidentifier hentries
  · exact fun e he => absurd he List.not_mem_nil
  · rw [hcount]
    decide

/-! ## The size that counts -/

/-- **A packet is measured as it is written.** Its size is the count of the bytes of each of its binary forms, whatever
the orders in which contexts are counted and written; and a packet that names its sender is refused as too long if and
only if its binary form is longer than the bound. -/
theorem tooLarge_exact (p : Packet) :
    (p.Spelled p.encode ∧ p.Measured p.encodedLength) ∧
      (∀ bs n, p.Spelled bs → p.Measured n → bs.length = n) ∧
      (∀ limits, (∃ size max, validate limits p = .error (.packetTooLarge size max)) ↔
        p.metadata ≠ none ∧ limits.maxPacketBytes < p.encode.length) := by
  refine ⟨⟨p.spelled_encode, p.measured_encodedLength⟩, fun _ _ hbytes hsize => hbytes.length_eq hsize, ?_⟩
  intro limits
  constructor
  · rintro ⟨size, max, herror⟩
    cases validate_eq_error_iff.1 herror with
    | packetTooLarge hsender hsize => exact ⟨by simp [hsender], hsize⟩
  · rintro ⟨hsender, hsize⟩
    obtain ⟨client, hsender⟩ := Option.ne_none_iff_exists'.1 hsender
    exact ⟨_, _, validate_of_breaks (.packetTooLarge hsender hsize)⟩

/-- Two orders of one context: what is written in one of them takes the bytes that are counted in the other. -/
theorem tooLarge_exact_turned :
    (writeBytes 4 (writeBytes 1 sampleEntryTurned)).length = Packet.encodedLength { logs := some ⟨[sampleEntry]⟩ } := by
  have hlogs : LogBatch.Spelled ⟨[sampleEntry]⟩ (writeBytes 1 sampleEntryTurned) :=
    ⟨[sampleEntryTurned], .cons spelled_sampleEntryTurned .nil, (List.append_nil _).symm⟩
  obtain ⟨⟨-, hcount⟩, hexact, -⟩ := tooLarge_exact { logs := some ⟨[sampleEntry]⟩ }
  exact hexact _ _ ⟨_, ⟨_, hlogs, rfl⟩, rfl⟩ hcount

/-- A packet that does not name its sender is refused for that, however long it is. -/
theorem unnamed_not_tooLarge :
    ¬ ((∃ size max, validate (.create 1 0) { schemaVersion := 1 } = .error (.packetTooLarge size max)) ↔
      (Limits.create 1 0).maxPacketBytes < (Packet.encode { schemaVersion := 1 }).length) := by
  have hlong : (Limits.create 1 0).maxPacketBytes < (Packet.encode { schemaVersion := 1 }).length := by
    decide +kernel
  intro h
  obtain ⟨size, max, herror⟩ := h.2 hlong
  cases herror

end Ingest

end TelemetryGateway
