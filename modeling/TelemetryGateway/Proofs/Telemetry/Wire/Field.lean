import Mathlib
import TelemetryGateway.Proofs.Telemetry.Wire.Framing

/-!
# Fields read back

A run of fields that are written one after the other is read back as these fields. Groups are left out:
packets do not write any.

## Main definitions

- `Payload.write`, `Field.write`: the bytes of a field
- `Payload.Sound`: what a field may carry so that it is read back

## Main statements

- `Field.readAll_write`: a run of fields is read back
- `ofLittleEndian_littleEndian`: words of four bytes
-/

namespace TelemetryGateway.Telemetry.Wire

/-- The bytes of a field. -/
def Payload.write (number : Nat) : Payload → List UInt8
  | .varint n => writeVarint number n
  | .fixed64 content => writeKey number 1 ++ content
  | .bytes content => writeBytes number content
  | .group => writeKey number 3 ++ writeKey number 4
  | .fixed32 content => writeKey number 5 ++ content

/-- What a field may carry so that it is read back. Where only bytes behind their count are read, nothing
else may stand. -/
def Payload.Sound (byLength : Bool) : Payload → Prop
  | .varint n => byLength = false ∧ n < 2 ^ 64
  | .fixed64 content => byLength = false ∧ content.length = 8
  | .bytes content => content.length < 2 ^ 64
  | .group => False
  | .fixed32 content => byLength = false ∧ content.length = 4

/-- The bytes of a field. -/
def Field.write (f : Field) : List UInt8 :=
  f.payload.write f.number

/-- The fields of a byte string that a message with these kinds of fields reads back. -/
def Field.Sound (byLength : Nat → Bool) (f : Field) : Prop :=
  IsNumber f.number ∧ f.payload.Sound (byLength f.number)

/-! ## Reading back -/

theorem isKey_writeKey {number kind : Nat} (hnumber : IsNumber number) (hkind : kind ≤ 5) :
    IsKey (writeKey number kind) number kind where
  isNumber := hnumber
  kind_le := hkind
  spells := by
    obtain ⟨-, hlt⟩ := hnumber
    exact Varint.spells_encode (by omega)

/-- The bytes of a field are one of its spellings. -/
theorem Field.Sound.spelled {byLength : Nat → Bool} {f : Field} (h : f.Sound byLength) :
    Item.Spelled byLength f.write (.field f) := by
  obtain ⟨number, payload⟩ := f
  obtain ⟨hnumber, hsound⟩ := h
  cases payload with
  | varint n =>
    obtain ⟨hkind, hn⟩ := hsound
    exact .varint (isKey_writeKey hnumber (by decide)) hkind (Varint.spells_encode hn)
  | fixed64 content =>
    obtain ⟨hkind, hlength⟩ := hsound
    exact .fixed64 (isKey_writeKey hnumber (by decide)) hkind hlength
  | bytes content =>
    have hwrite : Field.write ⟨number, .bytes content⟩ =
        writeKey number 2 ++ (Varint.encode content.length ++ content) := List.append_assoc ..
    rw [hwrite]
    exact .bytes (isKey_writeKey hnumber (by decide)) (.inr rfl) (Varint.spells_encode hsound)
  | group => exact hsound.elim
  | fixed32 content =>
    obtain ⟨hkind, hlength⟩ := hsound
    exact .fixed32 (isKey_writeKey hnumber (by decide)) hkind hlength

theorem spelled_writeBytes {byLength : Nat → Bool} {number : Nat} {content : List UInt8} (hnumber : IsNumber number)
    (hlength : content.length < 2 ^ 64) :
    Item.Spelled byLength (writeBytes number content) (.field ⟨number, .bytes content⟩) :=
  Field.Sound.spelled (f := ⟨number, .bytes content⟩) ⟨hnumber, hlength⟩

/-- A run of fields is read back. -/
theorem Field.readAll_write {byLength : Nat → Bool} {fs : List Field}
    (hsound : ∀ f ∈ fs, f.Sound byLength) (depth : Nat) :
    Field.readAll byLength depth (fs.flatMap Field.write) = some fs := by
  apply readAll_of_runs
  induction fs with
  | nil => exact .nil
  | cons f fs ih =>
    rw [List.flatMap_cons]
    exact .cons (.plain (hsound f List.mem_cons_self).spelled) (ih fun g hg => hsound g (List.mem_cons_of_mem _ hg))

/-! ## Words of four bytes -/

/-- One byte of a word, in its place: it has the eight bits there and no others. -/
private theorem getLsbD_byteAt (w : BitVec 32) (k : Nat) {i : Nat} (hi : i < 32) :
    (((w >>> k).setWidth 8).setWidth 32 <<< k).getLsbD i =
      (decide (k ≤ i ∧ i < k + 8) && w.getLsbD i) := by
  simp only [BitVec.getLsbD_shiftLeft, BitVec.getLsbD_setWidth, BitVec.getLsbD_ushiftRight]
  by_cases hlow : k ≤ i
  · have hplace : k + (i - k) = i := by omega
    have hbyte : (i - k < 8) = (i < k + 8) := propext (by omega)
    have hword : i - k < 32 := by omega
    simp [hi, hword, hplace, hbyte, hlow, Nat.not_lt.2 hlow]
  · simp [hlow, Nat.lt_of_not_le hlow]

/-- The four bytes of a word make up the word. -/
theorem ofLittleEndian_littleEndian (w : UInt32) : ofLittleEndian (littleEndian w) = some w := by
  simp only [littleEndian, ofLittleEndian, Option.some.injEq]
  apply UInt32.toBitVec_inj.1
  -- The lowest byte is in its place without a shift
  have hlowest : (w.toBitVec.setWidth 8).setWidth 32 =
      ((w.toBitVec >>> 0).setWidth 8).setWidth 32 <<< 0 := by
    rw [BitVec.ushiftRight_zero, BitVec.shiftLeft_zero]
  show (w.toBitVec.setWidth 8).setWidth 32 |||
    ((w.toBitVec >>> 8).setWidth 8).setWidth 32 <<< 8 |||
    ((w.toBitVec >>> 16).setWidth 8).setWidth 32 <<< 16 |||
    ((w.toBitVec >>> 24).setWidth 8).setWidth 32 <<< 24 = w.toBitVec
  rw [hlowest]
  apply BitVec.eq_of_getLsbD_eq
  intro i hi
  -- Every bit is in one of the four bytes
  have hplaces : (0 ≤ i ∧ i < 0 + 8) ∨ (8 ≤ i ∧ i < 8 + 8) ∨ (16 ≤ i ∧ i < 16 + 8) ∨
      (24 ≤ i ∧ i < 24 + 8) := by omega
  simp only [BitVec.getLsbD_or, getLsbD_byteAt _ _ hi, ← Bool.and_or_distrib_right,
    ← Bool.decide_or, or_assoc]
  rw [decide_eq_true hplaces, Bool.true_and]

end TelemetryGateway.Telemetry.Wire
