import Mathlib
import TelemetryGateway.Proofs.Net.Address

/-!
# Endpoints in text

An endpoint is read from an address, a colon and a port. An IPv6 address has colons of its own, so it stands in
brackets, where a zone may follow it.

## Main definitions

- `Endpoint.read?`: the endpoint that a text spells
- `Endpoint.probe`: where an endpoint is asked for on the machine that listens at it

## Main statements

- `Endpoint.read?_v4`, `Endpoint.read?_bracketed`: the text of an address, with brackets around that of an IPv6
  address, and the text of a port spell the endpoint of both
- `Endpoint.read?_unbracketed`: an IPv6 address without brackets and a port spell none
-/

namespace TelemetryGateway.Net

open TelemetryGateway.Text

/-- A colon and the digits of a port. -/
def readPort? : List Char → Option UInt16
  | ':' :: ds => ((Integer.digits? ds).filter (· ≤ 65535)).map UInt16.ofNat
  | _ => none

/-- Nothing, or a percent sign and the number of a zone. -/
def isZone : List Char → Bool
  | [] => true
  | '%' :: ds => (Integer.digits? ds).any (· < 2 ^ 32)
  | _ => false

namespace Endpoint

/-- The endpoint that a text spells. Zones are not kept. -/
def read? (s : String) : Option Endpoint :=
  match Quad.readFront? s.toList with
  | some (q, rest) => (readPort? rest).map fun port => ⟨.v4 q, port⟩
  | none =>
    match s.toList with
    | '[' :: cs =>
      let inside := cs.takeWhile (· ≠ ']')
      let address := inside.takeWhile (· ≠ '%')
      if isZone (inside.drop address.length) then
        match readSextet? address, readPort? (cs.drop (inside.length + 1)) with
        | some groups, some port => some ⟨.v6 groups, port⟩
        | _, _ => none
      else none
    | _ => none

/-- Where an endpoint is asked for on the machine that listens at it: all addresses of a family are asked for at its
loopback address. -/
def probe (e : Endpoint) : Endpoint :=
  if e.address.isUnspecified then { e with address := e.address.loopback } else e

end Endpoint

/-! ## Ports -/

theorem readPort?_toString (port : UInt16) : readPort? (':' :: (toString port.toNat).toList) = some port := by
  have hle : port.toNat ≤ 65535 := Nat.le_of_lt_succ port.toNat_lt
  rw [readPort?, Integer.digits?_toString, Option.filter_some_pos (by simpa using hle), Option.map_some,
    UInt16.ofNat_toNat]

/-- A port has no colon in it. -/
theorem readPort?_of_mem {cs : List Char} (h : ':' ∈ cs) : readPort? (':' :: cs) = none := by
  have hnone : Integer.digits? cs = none := by
    rw [Option.eq_none_iff_forall_ne_some]
    intro n hn
    exact absurd ((Integer.digits?_eq_some_iff.1 hn).2.1 ':' h) (by decide)
  simp [readPort?, hnone]

theorem readPort?_of_ne {c : Char} (h : c ≠ ':') (cs : List Char) : readPort? (c :: cs) = none := by
  simp [readPort?, h]

/-! ## An address and a port -/

namespace Endpoint

variable {s : String} (port : UInt16)

/-- The characters of an address, a colon and a port. -/
theorem toList_joined (s : String) :
    (s ++ ":" ++ toString port.toNat).toList = s.toList ++ ':' :: (toString port.toNat).toList := by
  simp

theorem read?_v4 {q : Quad} (h : Address.read? s = some (.v4 q)) :
    read? (s ++ ":" ++ toString port.toNat) = some ⟨.v4 q, port⟩ := by
  have hfront : Quad.readFront? (s ++ ":" ++ toString port.toNat).toList =
      some (q, ':' :: (toString port.toNat).toList) := by
    rw [toList_joined, Quad.readFront?_append (by decide) (by decide), Address.read?_eq_v4_iff.1 h]
    rfl
  rw [read?, hfront]
  simp only [readPort?_toString, Option.map_some]

/-- No IPv6 address begins with a bracket. -/
theorem ne_bracket_of_readSextet? {c : Char} {cs : List Char} {g : Vector UInt16 8}
    (h : readSextet? (c :: cs) = some g) : c ≠ '[' := by
  rintro rfl
  exact absurd ((passes_of_readSextet? h).isMark_of_mem '[' List.mem_cons_self) (by decide)

/-- A text that spells an IPv6 address and a port behind it spell no endpoint: the first colon does not end the
address, and without brackets no other does. -/
theorem read?_unbracketed {g : Vector UInt16 8} (h : Address.read? s = some (.v6 g)) :
    read? (s ++ ":" ++ toString port.toNat) = none := by
  obtain ⟨hv4, hv6⟩ := Address.read?_eq_v6_iff.1 h
  rw [read?, toList_joined, Quad.readFront?_append (by decide) (by decide)]
  cases hfront : Quad.readFront? s.toList with
  | some found =>
    -- The text begins with an IPv4 address, but goes on behind it
    obtain ⟨q, rest⟩ := found
    obtain _ | ⟨c, rest⟩ := rest
    · exact absurd hfront (hv4 q)
    · simp only [Option.map_some, Prod.map_fst, Prod.map_snd, id_eq, List.cons_append]
      by_cases hc : c = ':'
      · rw [hc, readPort?_of_mem (by simp)]
        rfl
      · rw [readPort?_of_ne hc]
        rfl
  | none =>
    cases hs : s.toList with
    | nil => rfl
    | cons c cs =>
      rw [hs] at hv6
      have hc := ne_bracket_of_readSextet? hv6
      simp [hc]

/-- Brackets end an IPv6 address. -/
theorem read?_bracketed {g : Vector UInt16 8} (h : Address.read? s = some (.v6 g)) :
    read? ("[" ++ s ++ "]" ++ ":" ++ toString port.toNat) = some ⟨.v6 g, port⟩ := by
  have hv6 := (Address.read?_eq_v6_iff.1 h).2
  have hmark := Address.isMark_of_read? h
  have hend (c : Char) (hc : isMark c = false) : ∀ d ∈ s.toList, decide (d ≠ c) = true := by
    rintro d hd
    refine decide_eq_true ?_
    rintro rfl
    rw [hmark d hd] at hc
    cases hc
  have htext : ("[" ++ s ++ "]" ++ ":" ++ toString port.toNat).toList =
      '[' :: (s.toList ++ ']' :: ':' :: (toString port.toNat).toList) := by
    simp
  have hfront : Quad.readFront? ('[' :: (s.toList ++ ']' :: ':' :: (toString port.toNat).toList)) = none := rfl
  have hinside : (s.toList ++ ']' :: ':' :: (toString port.toNat).toList).takeWhile (· ≠ ']') = s.toList := by
    rw [List.takeWhile_append_of_pos (hend ']' (by decide)), List.takeWhile_cons_of_neg (by decide), List.append_nil]
  have haddress : s.toList.takeWhile (· ≠ '%') = s.toList := List.takeWhile_eq_self_iff.2 (hend '%' (by decide))
  have hport : (s.toList ++ ']' :: ':' :: (toString port.toNat).toList).drop (s.toList.length + 1) =
      ':' :: (toString port.toNat).toList := by
    rw [List.drop_append, List.drop_of_length_le (by omega)]
    simp
  rw [read?, htext, hfront]
  simp only [hinside, haddress, hport, List.drop_length, isZone, if_true, hv6, readPort?_toString]

end Endpoint

end TelemetryGateway.Net
