import Mathlib
import TelemetryGateway.Proofs.Number.Double
import TelemetryGateway.Settings.Completion

/-!
# Settings that can be used

Completion refuses settings for their flaws and fills in what was left open. What it fills in adds no flaw and leaves
nothing open, so settings that are complete stay as they are.

## Main definitions

- `Settings.Usable`: what is asked of settings
- `Settings.filled`: the settings with all defaults filled in, whatever flaws they have
- `Settings.Differs`: settings that differ in what may be filled in, and no more

## Main statements

- `bind_eq_ok_iff`, `bind_eq_error_iff`: a step that can fail, and one behind it
- `Settings.complete_eq_ok_iff`: the settings without a flaw, and how they are completed
- `Settings.complete_iff_usable`: the settings without a flaw are the usable ones
- `Settings.usable_exact`: which settings are completed, what completion changes, and what holds of the outcome
-/

namespace TelemetryGateway

section Steps

variable {ε α β : Type} {r : Except ε α} {f : α → Except ε β}

theorem bind_eq_ok_iff {b : β} : (r >>= f) = .ok b ↔ ∃ a, r = .ok a ∧ f a = .ok b := by
  cases r with
  | error e => simp [bind, Except.bind]
  | ok a => simp [bind, Except.bind]

theorem bind_eq_error_iff {e : ε} : (r >>= f) = .error e ↔ r = .error e ∨ ∃ a, r = .ok a ∧ f a = .error e := by
  cases r with
  | error e' => simp [bind, Except.bind]
  | ok a => simp [bind, Except.bind]

end Steps

namespace Settings

open TelemetryGateway.Net (Address Endpoint)

/-- All that is checked about settings, and all that is filled in. -/
theorem complete_eq_ok_iff {s s' : Settings} :
    s.complete = .ok s' ↔ ∃ rateLimit, s.server.rateLimit.complete = .ok rateLimit ∧ s.server.basicAuth.check = .ok () ∧
      checkIndices s.indices = .ok () ∧ s.server.checkPorts = .ok () ∧ (∃ e, s.server.httpEndpoint = .ok e) ∧
      s' = { s with
        server :=
          { s.server with
            rateLimit := rateLimit
            maxPacketBytes := orDefault s.server.maxPacketBytes Ingest.defaultMaxPacketBytes
            maxContextAttributes :=
              orDefault s.server.maxContextAttributes Ingest.defaultMaxContextAttributes } } := by
  simp only [complete, bind_eq_ok_iff, pure, Except.pure, Except.ok.injEq]
  constructor
  · rintro ⟨rateLimit, hrate, ⟨⟩, hauth, ⟨⟩, hindices, ⟨⟩, hports, e, hendpoint, rfl⟩
    exact ⟨rateLimit, hrate, hauth, hindices, hports, ⟨e, hendpoint⟩, rfl⟩
  · rintro ⟨rateLimit, hrate, hauth, hindices, hports, ⟨e, hendpoint⟩, rfl⟩
    exact ⟨rateLimit, hrate, (), hauth, (), hindices, (), hports, e, hendpoint, rfl⟩

/-- An endpoint is the address of the server with a port. -/
theorem Server.endpoint_eq_ok_iff {s : Server} {port : UInt16} {e : Endpoint} :
    s.endpoint port = .ok e ↔ Address.read? s.bindAddress = some e.address ∧ e.port = port := by
  unfold Server.endpoint Server.endpoint?
  cases haddress : Address.read? s.bindAddress with
  | none => simp
  | some a =>
    obtain ⟨address, p⟩ := e
    simp [eq_comm]

/-! ## The flaws -/

/-- Packets are limited to a number greater than zero, if they are limited at all. -/
def RateLimit.Usable (l : RateLimit) : Prop :=
  l.enabled = true → ∃ v, l.requestsPerSecond.value? = some v ∧ 0 < v

/-- What is asked of settings: a rate where packets are limited, a user name where senders are known, names for the
indices, two ports and an address. -/
structure Usable (s : Settings) : Prop where
  rate : s.server.rateLimit.Usable
  sender : s.server.basicAuth.enabled = true → s.server.basicAuth.username ≠ ""
  metrics : s.indices.metrics ≠ ""
  logs : s.indices.logs ≠ ""
  ports : s.server.httpPort ≠ s.server.grpcPort
  address : ∃ a, Address.read? s.server.bindAddress = some a

theorem BasicAuth.check_eq_ok_iff {a : BasicAuth} : a.check = .ok () ↔ (a.enabled = true → a.username ≠ "") := by
  rw [BasicAuth.check]
  cases a.enabled <;> by_cases h : a.username = "" <;> simp [h]

theorem checkIndices_eq_ok_iff {i : Ingest.Indices} : checkIndices i = .ok () ↔ i.metrics ≠ "" ∧ i.logs ≠ "" := by
  rw [checkIndices]
  by_cases hmetrics : i.metrics = "" <;> by_cases hlogs : i.logs = "" <;> simp [hmetrics, hlogs]

theorem Server.checkPorts_eq_ok_iff {s : Server} : s.checkPorts = .ok () ↔ s.httpPort ≠ s.grpcPort := by
  rw [Server.checkPorts]
  by_cases h : s.httpPort = s.grpcPort <;> simp [h]

theorem Server.exists_endpoint_iff {s : Server} (port : UInt16) :
    (∃ e, s.endpoint port = .ok e) ↔ ∃ a, Address.read? s.bindAddress = some a := by
  simp only [Server.endpoint_eq_ok_iff]
  exact ⟨fun ⟨e, haddress, _⟩ => ⟨e.address, haddress⟩, fun ⟨a, haddress⟩ => ⟨⟨a, port⟩, haddress, rfl⟩⟩

/-! ## What is filled in -/

/-- The limit with its burst, where packets are limited at all. -/
def RateLimit.filled (l : RateLimit) : RateLimit :=
  { l with burst := if l.enabled = true ∧ l.burst = 0 then burstOf l.requestsPerSecond else l.burst }

/-- The settings with all defaults filled in, whatever flaws they have. -/
def filled (s : Settings) : Settings :=
  { s with
    server :=
      { s.server with
        rateLimit := s.server.rateLimit.filled
        maxPacketBytes := orDefault s.server.maxPacketBytes Ingest.defaultMaxPacketBytes
        maxContextAttributes := orDefault s.server.maxContextAttributes Ingest.defaultMaxContextAttributes } }

theorem RateLimit.complete_eq_ok_iff {l l' : RateLimit} : l.complete = .ok l' ↔ l.Usable ∧ l' = l.filled := by
  rw [Usable, ← Number.Double.positive_finite_iff]
  obtain ⟨enabled, perSecond, burst⟩ := l
  cases enabled with
  | false => exact ⟨fun h => ⟨nofun, (Except.ok.inj h).symm⟩, fun h => congrArg Except.ok h.2.symm⟩
  | true =>
    cases hrate : perSecond.positive && perSecond.finite with
    | false => simp [RateLimit.complete, hrate]
    | true =>
      simp only [RateLimit.complete, RateLimit.filled, hrate, if_true, true_and, forall_const, Except.ok.injEq]
      exact eq_comm

/-- Settings are completed exactly if they are usable, by filling in the defaults. -/
theorem complete_iff_usable {s s' : Settings} : s.complete = .ok s' ↔ s.Usable ∧ s' = s.filled := by
  simp only [complete_eq_ok_iff, RateLimit.complete_eq_ok_iff, BasicAuth.check_eq_ok_iff, checkIndices_eq_ok_iff,
    Server.checkPorts_eq_ok_iff, Server.httpEndpoint, Server.exists_endpoint_iff]
  constructor
  · rintro ⟨_, ⟨hrate, rfl⟩, hsender, ⟨hmetrics, hlogs⟩, hports, haddress, rfl⟩
    exact ⟨⟨hrate, hsender, hmetrics, hlogs, hports, haddress⟩, rfl⟩
  · rintro ⟨h, rfl⟩
    exact ⟨_, ⟨h.rate, rfl⟩, h.sender, ⟨h.metrics, h.logs⟩, h.ports, h.address, rfl⟩

/-- What is filled in adds no flaw. -/
theorem Usable.filled {s : Settings} (h : s.Usable) : s.filled.Usable :=
  ⟨h.rate, h.sender, h.metrics, h.logs, h.ports, h.address⟩

theorem toNat_orDefault (n : UInt64) {fallback : Nat} (h : fallback < 2 ^ 64) :
    (orDefault n fallback).toNat = if n.toNat = 0 then fallback else n.toNat := by
  have hzero : n = 0 ↔ n.toNat = 0 := UInt64.toNat_inj.symm
  simp only [orDefault, hzero]
  split
  · rw [UInt64.toNat_ofNat', Nat.mod_eq_of_lt h]
  · rfl

theorem orDefault_pos (n : UInt64) {fallback : Nat} (hpos : 0 < fallback) (hlt : fallback < 2 ^ 64) :
    0 < orDefault n fallback := by
  rw [UInt64.lt_iff_toNat_lt, toNat_orDefault n hlt]
  show 0 < _
  split <;> omega

theorem orDefault_of_pos {n : UInt64} (h : 0 < n) (fallback : Nat) : orDefault n fallback = n :=
  if_neg (UInt64.pos_iff_ne_zero.1 h)

theorem toNat_burstOf (perSecond : Number.Double) :
    (burstOf perSecond).toNat = max (Number.Real.ceilUpTo 0xFFFFFFFF perSecond.bits) 1 := by
  have hle := Number.Real.ceilUpTo_le 0xFFFFFFFF perSecond.bits
  rw [burstOf, UInt32.toNat_ofNat', Nat.mod_eq_of_lt (by omega)]

theorem burstOf_pos (perSecond : Number.Double) : 0 < burstOf perSecond := by
  rw [UInt32.lt_iff_toNat_lt, toNat_burstOf]
  exact Nat.lt_of_lt_of_le Nat.one_pos (Nat.le_max_right ..)

theorem RateLimit.burst_filled_pos {l : RateLimit} (h : l.enabled = true) : 0 < l.filled.burst := by
  rw [RateLimit.filled]
  split
  · exact burstOf_pos _
  · next hset => exact UInt32.pos_iff_ne_zero.2 fun hzero => hset ⟨h, hzero⟩

theorem RateLimit.filled_filled (l : RateLimit) : l.filled.filled = l.filled := by
  -- Where a burst may be filled in, it is not zero any more
  have hset : ¬ (l.filled.enabled = true ∧ l.filled.burst = 0) := fun ⟨henabled, hzero⟩ =>
    UInt32.pos_iff_ne_zero.1 (RateLimit.burst_filled_pos (l := l) henabled) hzero
  conv_lhs => rw [RateLimit.filled, if_neg hset]

/-- Nothing is left open. -/
theorem filled_filled (s : Settings) : s.filled.filled = s.filled := by
  have hbytes := orDefault_pos s.server.maxPacketBytes (by decide : 0 < Ingest.defaultMaxPacketBytes) (by decide)
  have hattributes :=
    orDefault_pos s.server.maxContextAttributes (by decide : 0 < Ingest.defaultMaxContextAttributes) (by decide)
  simp only [filled, RateLimit.filled_filled, orDefault_of_pos hbytes, orDefault_of_pos hattributes]

/-- The second settings differ from the first ones in the burst, where packets are limited and it is zero, and in the
bounds on packets that are zero. The burst is the rate rounded up, at least one and at most what a burst can be. -/
structure Differs (s s' : Settings) : Prop where
  same : s' = { s with
    server :=
      { s.server with
        rateLimit := { s.server.rateLimit with burst := s'.server.rateLimit.burst }
        maxPacketBytes := s'.server.maxPacketBytes
        maxContextAttributes := s'.server.maxContextAttributes } }
  burst : if s.server.rateLimit.enabled = true ∧ s.server.rateLimit.burst = 0 then
      ∃ v, s.server.rateLimit.requestsPerSecond.value? = some v ∧
        s'.server.rateLimit.burst.toNat = max (min (2 ^ 32 - 1) ⌈v⌉₊) 1
    else s'.server.rateLimit.burst = s.server.rateLimit.burst
  packetBytes : s'.server.maxPacketBytes =
    if s.server.maxPacketBytes = 0 then .ofNat Ingest.defaultMaxPacketBytes else s.server.maxPacketBytes
  contextAttributes : s'.server.maxContextAttributes =
    if s.server.maxContextAttributes = 0 then .ofNat Ingest.defaultMaxContextAttributes
    else s.server.maxContextAttributes

theorem Usable.differs {s : Settings} (h : s.Usable) : Differs s s.filled where
  same := rfl
  burst := by
    show if _ then _ else (if _ then _ else _) = _
    split
    · next hopen =>
      obtain ⟨v, hvalue, -⟩ := h.rate hopen.1
      refine ⟨v, hvalue, ?_⟩
      show (RateLimit.filled _).burst.toNat = _
      rw [RateLimit.filled, if_pos hopen, toNat_burstOf, Number.Double.ceilUpTo_eq _ hvalue]
      rfl
    · rfl
  packetBytes := rfl
  contextAttributes := rfl

/-- Settings with a limit of two and a half packets a second that leave all else to the defaults. -/
def unsettled : Settings :=
  { server := { rateLimit := ⟨true, ⟨0x4004000000000000⟩, 0⟩, maxPacketBytes := 0, maxContextAttributes := 0 } }

theorem usable_unsettled : unsettled.Usable where
  rate := fun _ => (Number.Double.positive_finite_iff _).1 (by decide)
  sender := nofun
  metrics := by decide
  logs := by decide
  ports := by decide
  address := ⟨.v4 ⟨0, 0, 0, 0⟩, by decide +kernel⟩

/-- Settings are completed exactly if they are usable. Completion changes only what was left open, the outcome has an
endpoint for each transport and no bound of zero, and completing it again changes nothing. -/
theorem usable_exact (s : Settings) :
    ((∃ s', s.complete = .ok s') ↔ s.Usable) ∧ ∀ s', s.complete = .ok s' →
      Differs s s' ∧
      (∃ a, Address.read? s.server.bindAddress = some a ∧ s'.server.httpEndpoint = .ok ⟨a, s.server.httpPort⟩ ∧
        s'.server.grpcEndpoint = .ok ⟨a, s.server.grpcPort⟩) ∧
      0 < s'.server.maxPacketBytes ∧ 0 < s'.server.maxContextAttributes ∧
      (s'.server.rateLimit.enabled = true → 0 < s'.server.rateLimit.burst) ∧ s'.complete = .ok s' := by
  constructor
  · exact ⟨fun ⟨_, h⟩ => (complete_iff_usable.1 h).1, fun h => ⟨s.filled, complete_iff_usable.2 ⟨h, rfl⟩⟩⟩
  · intro s' h
    obtain ⟨husable, rfl⟩ := complete_iff_usable.1 h
    obtain ⟨a, haddress⟩ := husable.address
    have hendpoint (port : UInt16) : s.filled.server.endpoint port = .ok ⟨a, port⟩ :=
      Server.endpoint_eq_ok_iff.2 ⟨haddress, rfl⟩
    refine ⟨husable.differs, ⟨a, haddress, hendpoint _, hendpoint _⟩, ?_, ?_, ?_, ?_⟩
    · exact orDefault_pos _ (by decide) (by decide)
    · exact orDefault_pos _ (by decide) (by decide)
    · exact RateLimit.burst_filled_pos (l := s.server.rateLimit)
    · exact complete_iff_usable.2 ⟨husable.filled, (filled_filled s).symm⟩

/-- Two and a half packets a second make a burst of three, and the bounds are those that stand where nothing is said. -/
theorem usable_exact_unsettled :
    ∃ s', unsettled.complete = .ok s' ∧ s'.server.rateLimit.burst = 3 ∧ s'.server.maxPacketBytes = 1500 ∧
      s'.server.maxContextAttributes = 6 ∧ s'.complete = .ok s' := by
  obtain ⟨s', hcomplete⟩ := (usable_exact unsettled).1.2 usable_unsettled
  obtain ⟨hdiffers, -, -, -, -, hagain⟩ := (usable_exact unsettled).2 s' hcomplete
  refine ⟨s', hcomplete, ?_, hdiffers.packetBytes, hdiffers.contextAttributes, hagain⟩
  have hvalue : unsettled.server.rateLimit.requestsPerSecond.value? = some (5 / 2) := by
    have hsignificand : Number.binary64.significand (Number.Real.magnitude 0x4004000000000000) = 5 * 2 ^ 50 := rfl
    have hscale : Number.binary64.scale (Number.Real.magnitude 0x4004000000000000) = -51 := rfl
    rw [unsettled, Number.Double.value?, if_pos (by decide), if_neg (by decide), Number.Double.size, hsignificand,
      hscale]
    norm_num
  have hburst := hdiffers.burst
  rw [if_pos ⟨rfl, rfl⟩] at hburst
  obtain ⟨v, hv, hburst⟩ := hburst
  obtain rfl := Option.some.inj (hvalue.symm.trans hv)
  have hceil : ⌈(5 / 2 : ℚ)⌉₊ = 3 := by norm_num
  rw [← UInt32.toNat_inj, hburst, hceil]
  rfl

end Settings

end TelemetryGateway
