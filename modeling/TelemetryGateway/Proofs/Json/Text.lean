import Mathlib
import TelemetryGateway.Json.Reader
import TelemetryGateway.Json.Value
import TelemetryGateway.Proofs.Text.Octets

/-!
# Strings as they are written and read

What stands between the quotes of a string are pieces: bytes, short escapes and units of four digits. The reader keeps
the pieces of any string, and decides at its end what text they make up. A string that is written consists of pieces
that make up the string, with all escapes undone.

## Main definitions

- `Piece.Spelled`, `Piece.Run`: the bytes of a piece, and of a run of pieces
- `Piece.bytes`, `Piece.Whole`: the bytes that a piece stands for, if it needs no other beside it
- `Machine.feed`: the machine after several bytes

## Main statements

- `Machine.feed_run`: the pieces of a string are kept
- `Piece.text?_of_bytes`: pieces make up the text whose bytes they are
- `exists_run_escaped`: the pieces of a string that is written
-/

namespace TelemetryGateway.Json

open TelemetryGateway.Text

/-! ## Pieces -/

namespace Piece

/-- The bytes of a piece inside a string. Quotes, backslashes and controls do not stand for themselves. -/
inductive Spelled : Piece → List UInt8 → Prop
  | plain {b : UInt8} (hquote : b ≠ 0x22) (hescape : b ≠ 0x5C) (hprintable : ¬ b < 0x20) : Spelled (.byte b) [b]
  | short {b c : UInt8} (hshort : shortEscape? b = some c) : Spelled (.byte c) [0x5C, b]
  | unit {d₁ d₂ d₃ d₄ : UInt8} {v₁ v₂ v₃ v₄ : Nat} (h₁ : Hex.value? d₁ = some v₁) (h₂ : Hex.value? d₂ = some v₂)
      (h₃ : Hex.value? d₃ = some v₃) (h₄ : Hex.value? d₄ = some v₄) :
      Spelled (.unit (((v₁ * 16 + v₂) * 16 + v₃) * 16 + v₄)) [0x5C, 0x75, d₁, d₂, d₃, d₄]

/-- The bytes of pieces, one after the other. -/
inductive Run : List Piece → List UInt8 → Prop
  | nil : Run [] []
  | cons {p : Piece} {ps : List Piece} {bs cs : List UInt8} (hfirst : p.Spelled bs) (hrest : Run ps cs) :
      Run (p :: ps) (bs ++ cs)

theorem Run.append {ps qs : List Piece} {bs cs : List UInt8} (h : Run ps bs) (h' : Run qs cs) :
    Run (ps ++ qs) (bs ++ cs) := by
  induction h with
  | nil => exact h'
  | cons hfirst _ ih =>
    rw [List.append_assoc]
    exact .cons hfirst ih

/-- The bytes that a piece stands for. -/
def bytes : Piece → List UInt8
  | .byte b => [b]
  | .unit u => encode u

/-- The piece is no half of a surrogate pair. -/
def Whole : Piece → Prop
  | .byte _ => True
  | .unit u => leads u = false ∧ trails u = false

/-- Pieces that need none beside them are joined as they are. The induction follows the reader, which
takes them in reverse order. -/
theorem join_of_whole {ps : List Piece} (h : ∀ p ∈ ps, p.Whole) (tail : List UInt8) :
    join ps tail = some (ps.reverse.flatMap bytes ++ tail) := by
  induction ps generalizing tail with
  | nil => rfl
  | cons p ps ih =>
    have hrest := ih fun q hq => h q (List.mem_cons_of_mem _ hq)
    have hp := h p List.mem_cons_self
    cases p with
    | byte b =>
      rw [join, hrest]
      simp [bytes]
    -- A unit looks at the piece before it, but only if it is a trailing surrogate
    | unit u =>
      obtain ⟨hleads, htrails⟩ := hp
      have hencode : join ps (encode u ++ tail) =
          some ((Piece.unit u :: ps).reverse.flatMap bytes ++ tail) := by
        rw [hrest]
        simp [bytes]
      cases ps with
      | nil => simp [join, hleads, htrails, bytes]
      | cons q ps =>
        cases q with
        | byte b => simpa [join, hleads, htrails] using hencode
        | unit v => simpa [join, hleads, htrails] using hencode

/-- Pieces make up the text whose bytes they are. -/
theorem text?_of_bytes {ps : List Piece} {s : String} (hwhole : ∀ p ∈ ps, p.Whole)
    (hbytes : ps.reverse.flatMap bytes = utf8 s) : text? ps = some s := by
  rw [text?, join_of_whole hwhole, List.append_nil, hbytes, Option.bind_some, ofUtf8?_utf8]

end Piece

/-! ## Feeding the reader -/

namespace Machine

/-- The machine after several bytes. -/
def feed (m : Machine) (bs : List UInt8) : Machine :=
  bs.foldl step m

theorem feed_append (m : Machine) (bs cs : List UInt8) : m.feed (bs ++ cs) = (m.feed bs).feed cs :=
  List.foldl_append

theorem feed_cons (m : Machine) (b : UInt8) (bs : List UInt8) : m.feed (b :: bs) = (m.step b).feed bs :=
  rfl

/-- The machine inside a string. -/
def inside (stack : List Frame) (isName : Bool) (pieces : List Piece) : Machine :=
  ⟨stack, .inString isName pieces .none⟩

variable {stack : List Frame} {isName : Bool} {pieces : List Piece}

/-- A piece is kept. -/
theorem feed_piece {p : Piece} {bs : List UInt8} (h : p.Spelled bs) :
    (inside stack isName pieces).feed bs = inside stack isName (p :: pieces) := by
  cases h with
  | @plain b hquote hescape hprintable =>
    have hquote' : (b == 0x22) = false := beq_false_of_ne hquote
    have hescape' : (b == 0x5C) = false := beq_false_of_ne hescape
    simp only [feed, List.foldl_cons, List.foldl_nil, inside, step, stepPlain, stepString, hquote', hescape',
      if_neg hprintable]
    rfl
  | @short b c hshort =>
    have hne : (b == 0x75) = false := by
      apply beq_false_of_ne
      rintro rfl
      cases hshort
    simp [feed, inside, step, stepPlain, stepString, hshort, hne]
  | unit h₁ h₂ h₃ h₄ => simp [feed, inside, step, stepPlain, stepString, h₁, h₂, h₃, h₄]

/-- The pieces of a string are kept, the last one first. -/
theorem feed_run {ps : List Piece} {bs : List UInt8} (h : Piece.Run ps bs) :
    (inside stack isName pieces).feed bs = inside stack isName (ps.reverse ++ pieces) := by
  induction h generalizing pieces with
  | nil => rfl
  | cons hfirst _ ih =>
    rw [feed_append, feed_piece hfirst, ih]
    simp

end Machine

/-! ## Characters and their escapes -/

/-- Bytes inside a string that say other bytes. -/
def Says (bs content : List UInt8) : Prop :=
  ∃ ps : List Piece, Piece.Run ps bs ∧ (∀ p ∈ ps, p.Whole) ∧ ps.flatMap Piece.bytes = content

theorem Says.nil : Says [] [] :=
  ⟨[], .nil, by simp, rfl⟩

theorem Says.append {bs cs content content' : List UInt8} (h : Says bs content) (h' : Says cs content') :
    Says (bs ++ cs) (content ++ content') := by
  obtain ⟨ps, hrun, hwhole, hbytes⟩ := h
  obtain ⟨qs, hrun', hwhole', hbytes'⟩ := h'
  refine ⟨ps ++ qs, hrun.append hrun', fun p hp => (List.mem_append.1 hp).elim (hwhole p) (hwhole' p), ?_⟩
  rw [List.flatMap_append, hbytes, hbytes']

/-- A single piece that needs no other beside it. -/
theorem Says.piece {p : Piece} {bs : List UInt8} (h : p.Spelled bs) (hwhole : p.Whole) : Says bs p.bytes := by
  have hrun := Piece.Run.cons h .nil
  rw [List.append_nil] at hrun
  refine ⟨[p], hrun, fun q hq => ?_, by simp⟩
  rw [List.mem_singleton.1 hq]
  exact hwhole

theorem says_plain {bs : List UInt8} (h : ∀ b ∈ bs, b ≠ 0x22 ∧ b ≠ 0x5C ∧ ¬ b < 0x20) : Says bs bs := by
  induction bs with
  | nil => exact Says.nil
  | cons b bs ih =>
    obtain ⟨hquote, hescape, hprintable⟩ := h b List.mem_cons_self
    exact (Says.piece (.plain hquote hescape hprintable) trivial).append
      (ih fun c hc => h c (List.mem_cons_of_mem _ hc))

/-- A short escape. -/
theorem says_short {b c : UInt8} (hshort : shortEscape? b = some c) : Says [0x5C, b] [c] :=
  Says.piece (.short hshort) trivial

/-- A long escape of a number below thirty-two. -/
theorem says_unit {n : Nat} (hn : n < 0x20) {high low : UInt8} (hhigh : Hex.value? high = some (n / 16))
    (hlow : Hex.value? low = some (n % 16)) :
    Says [0x5C, 0x75, 0x30, 0x30, high, low] (Piece.encode n) := by
  have hzero : Hex.value? 0x30 = some 0 := rfl
  have hvalue : ((0 * 16 + 0) * 16 + n / 16) * 16 + n % 16 = n := by omega
  have hunit := Piece.Spelled.unit hzero hzero hhigh hlow
  rw [hvalue] at hunit
  refine Says.piece hunit ?_
  simp only [Piece.Whole, Piece.leads, Piece.trails, Bool.and_eq_false_iff, decide_eq_false_iff_not]
  omega

theorem value?_controlDigits : ∀ n < 0x20,
    Hex.value? (UInt8.ofNat (Nat.digitChar (n / 16)).toNat) = some (n / 16) ∧
      Hex.value? (UInt8.ofNat (Nat.digitChar (n % 16)).toNat) = some (n % 16) ∧
      (Nat.digitChar (n / 16)).toNat < 128 ∧ (Nat.digitChar (n % 16)).toNat < 128 := by
  decide

/-- The bytes of a character that needs no escape are neither quotes nor backslashes nor controls. -/
theorem says_char {c : Char} (hquote : c ≠ '"') (hescape : c ≠ '\\') (hprintable : 0x20 ≤ c.toNat) :
    Says (String.utf8EncodeChar c) (String.utf8EncodeChar c) := by
  apply says_plain
  intro b hb
  rcases Nat.lt_or_ge c.toNat 128 with hascii | hwide
  -- One byte, which is the character
  · rw [octet_ascii hascii, List.mem_singleton] at hb
    have hb' : b.toNat = c.toNat := by rw [hb, UInt8.toNat_ofNat', Nat.mod_eq_of_lt (by omega)]
    refine ⟨fun h => hquote (Char.toNat_inj.1 ?_), fun h => hescape (Char.toNat_inj.1 ?_), ?_⟩
    · rw [← hb', h]
      rfl
    · rw [← hb', h]
      rfl
    · rw [UInt8.lt_iff_toNat_lt, hb']
      exact Nat.not_lt.2 hprintable
  -- Bytes from 128 on, above everything that is special
  · have hle := le_of_mem_octet hwide hb
    refine ⟨fun h => ?_, fun h => ?_, ?_⟩
    · rw [h] at hle
      exact absurd hle (by decide)
    · rw [h] at hle
      exact absurd hle (by decide)
    · rw [UInt8.lt_iff_toNat_lt]
      exact Nat.not_lt.2 (le_trans (by decide) hle)

/-- A character, escaped or not, says its bytes. -/
theorem says_escapeChar (c : Char) : Says (octets (escapeChar c)) (String.utf8EncodeChar c) := by
  -- A short escape is a backslash and one more character
  have hshort {d : Char} {n : Nat} (hd : d.toNat < 128) (hc : c.toNat = n) (hn : n < 128)
      (h : shortEscape? (UInt8.ofNat d.toNat) = some (UInt8.ofNat n)) :
      Says (octets ['\\', d]) (String.utf8EncodeChar c) := by
    rw [octets_cons_ascii (by decide), octets_cons_ascii hd, octet_ascii (hc ▸ hn), hc]
    exact says_short h
  simp only [escapeChar]
  split
  · next h => exact hshort (by decide) (congrArg Char.toNat h) (by decide) rfl
  split
  · next h => exact hshort (by decide) (congrArg Char.toNat h) (by decide) rfl
  split
  · next hquote hescape hprintable =>
    rw [octets_cons, octets_nil, List.append_nil]
    exact says_char hquote hescape hprintable
  split
  · next h => exact hshort (by decide) h (by decide) rfl
  split
  · next h => exact hshort (by decide) h (by decide) rfl
  split
  · next h => exact hshort (by decide) h (by decide) rfl
  split
  · next h => exact hshort (by decide) h (by decide) rfl
  split
  · next h => exact hshort (by decide) h (by decide) rfl
  -- The control characters without a short escape
  · next hcontrol _ _ _ _ _ =>
    have hlt : c.toNat < 0x20 := Nat.not_le.1 hcontrol
    obtain ⟨hhigh, hlow, hascii, hascii'⟩ := value?_controlDigits c.toNat hlt
    have hbytes : octets (['\\', 'u', '0', '0'] ++ controlDigits c.toNat) =
        [0x5C, 0x75, 0x30, 0x30, UInt8.ofNat (Nat.digitChar (c.toNat / 16)).toNat,
          UInt8.ofNat (Nat.digitChar (c.toNat % 16)).toNat] := by
      rw [octets_append, controlDigits, octets_cons_ascii hascii, octets_cons_ascii hascii']
      rfl
    have hencode : Piece.encode c.toNat = String.utf8EncodeChar c := by
      rw [Piece.encode, Char.ofNat_toNat, utf8_eq_octets]
      simp [octets]
    rw [hbytes, ← hencode]
    exact says_unit hlt hhigh hlow

/-- The characters of a string, escaped where need be, say its bytes. -/
theorem says_escaped (cs : List Char) : Says (octets (cs.flatMap escapeChar)) (octets cs) := by
  induction cs with
  | nil => exact Says.nil
  | cons c cs ih =>
    rw [List.flatMap_cons, octets_append, octets_cons]
    exact (says_escapeChar c).append ih

/-- The pieces of a string that is written make up the string. -/
theorem exists_run_escaped (s : String) :
    ∃ ps, Piece.Run ps (octets (s.toList.flatMap escapeChar)) ∧ Piece.text? ps.reverse = some s := by
  obtain ⟨ps, hrun, hwhole, hbytes⟩ := says_escaped s.toList
  refine ⟨ps, hrun, Piece.text?_of_bytes (fun p hp => hwhole p (List.mem_reverse.1 hp)) ?_⟩
  rw [List.reverse_reverse, hbytes, utf8_eq_octets]

end TelemetryGateway.Json
