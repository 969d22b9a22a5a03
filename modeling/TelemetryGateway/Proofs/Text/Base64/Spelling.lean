import Mathlib
import TelemetryGateway.Proofs.Text.Base64
import TelemetryGateway.Proofs.Text.Bits

/-!
# The spelling of byte strings in base64

The bits of a byte string are written in a row and cut into digits of six bits. Each digit has a letter. Zero bits
fill up the last digit, two for each padding character, and there are at most two of these.

Reading follows this rule to the letter. A text is refused for one of four flaws: it has a foreign character, padding
that is not at its end, an incomplete group, or spare bits that are not zero.

## Main definitions

- `Spells`: the text of a byte string, by its bits
- `Flawed`: what is wrong with a text

## Main statements

- `spells_iff`: the rule and the groups of three bytes give the same text
- `flawed_or_spells`: a text without a flaw spells a byte string
- `decode_eq_some_iff`, `decode_eq_none_iff`: the texts that are read, and those that are refused
-/

namespace TelemetryGateway.Text.Base64

/-! ## Digits and their letters -/

/-- The alphabet, in the order of the digits. -/
def letters : List Char :=
  "ABCDEFGHIJKLMNOPQRSTUVWXYZabcdefghijklmnopqrstuvwxyz0123456789+/".toList

theorem length_letters : letters.length = 64 := by decide +kernel

/-- The letter of a digit. -/
def letter (n : Fin 64) : Char :=
  letters.get (n.cast length_letters.symm)

theorem letter_eq_digit : ∀ n : Fin 64, letter n = digit n := by
  decide +kernel

theorem letter_ofNat (n : Nat) : letter (Fin.ofNat 64 n) = digit (n % 64) :=
  letter_eq_digit _

theorem letter_injective : Function.Injective letter := by
  intro m n h
  rw [letter_eq_digit, letter_eq_digit] at h
  have hvalue := value?_digit m m.isLt
  rw [h, value?_digit n n.isLt] at hvalue
  exact Fin.ext (Option.some.inj hvalue).symm

theorem letter_ne_padding (n : Fin 64) : letter n ≠ '=' :=
  letter_eq_digit n ▸ digit_ne_padding n n.isLt

theorem mem_letters_iff {c : Char} : c ∈ letters ↔ ∃ n, letter n = c := by
  rw [List.mem_iff_get]
  constructor
  · rintro ⟨n, rfl⟩
    exact ⟨n.cast length_letters, rfl⟩
  · rintro ⟨n, rfl⟩
    exact ⟨n.cast length_letters.symm, rfl⟩

/-- The six bits of a digit. -/
def digitBits (n : Fin 64) : List Bool := bits 6 n

/-- The eight bits of a byte. -/
def byteBits (b : UInt8) : List Bool := bits 8 b.toNat

@[simp] theorem length_digitBits (n : Fin 64) : (digitBits n).length = 6 := length_bits 6 n

@[simp] theorem length_byteBits (b : UInt8) : (byteBits b).length = 8 := length_bits 8 b.toNat

theorem digitBits_ofNat (n : Nat) : digitBits (Fin.ofNat 64 n) = bits 6 n :=
  bits_mod 6 n

theorem digitBits_injective : Function.Injective digitBits := fun m n h =>
  Fin.ext (bits_injOn m.isLt n.isLt h)

theorem exists_byteBits {l : List Bool} (h : l.length = 8) : ∃ b, byteBits b = l := by
  obtain ⟨n, hn, hbits⟩ := exists_bits l
  rw [h] at hn hbits
  exact ⟨UInt8.ofNat n, by rw [byteBits, UInt8.toNat_ofNat', Nat.mod_eq_of_lt hn, hbits]⟩

/-! ## The rule -/

/-- Digits with padding behind them. -/
def padded (digits : List (Fin 64)) (padding : Nat) : List Char :=
  digits.map letter ++ List.replicate padding '='

/-- The text of a byte string: the bits of its digits are those of the bytes, and two zeros for each padding character,
of which there are at most two. -/
inductive Spells : List Char → List UInt8 → Prop
  | intro {digits : List (Fin 64)} {padding : Nat} {bs : List UInt8} (hpadding : padding ≤ 2)
      (hbits : digits.flatMap digitBits = bs.flatMap byteBits ++ List.replicate (2 * padding) false) :
      Spells (padded digits padding) bs

/-- Neither a letter nor padding. -/
def Foreign (c : Char) : Prop := c ∉ letters ∧ c ≠ '='

/-- What is wrong with a text. -/
inductive Flawed : List Char → Prop
  | foreign {cs : List Char} {c : Char} (hmem : c ∈ cs) (hforeign : Foreign c) : Flawed cs
  /-- Padding with something behind it. -/
  | misplaced {front back : List Char} {c : Char} (hc : c ≠ '=') : Flawed (front ++ '=' :: c :: back)
  /-- The digits and the padding are not groups of four, or there is too much padding. -/
  | incomplete {digits : List (Fin 64)} {padding : Nat} (hgroups : ¬ (padding ≤ 2 ∧ 4 ∣ digits.length + padding)) :
      Flawed (padded digits padding)
  /-- The bits that the padding leaves over are not zero. -/
  | spareBits {digits : List (Fin 64)} {padding : Nat}
      (hbits : ¬ List.replicate (2 * padding) false <:+ digits.flatMap digitBits) : Flawed (padded digits padding)

/-- The digits and the padding of a text are told apart. -/
theorem padded_inj {digits digits' : List (Fin 64)} {padding padding' : Nat}
    (h : padded digits padding = padded digits' padding') : digits = digits' ∧ padding = padding' := by
  have hcount (ds : List (Fin 64)) (k : Nat) : (padded ds k).count '=' = k := by
    have hletters : (ds.map letter).count '=' = 0 := by
      rw [List.count_eq_zero, List.mem_map]
      rintro ⟨n, -, hn⟩
      exact letter_ne_padding n hn
    rw [padded, List.count_append, hletters, List.count_replicate_self, Nat.zero_add]
  have hpadding : padding = padding' := by rw [← hcount digits padding, h, hcount]
  subst hpadding
  exact ⟨letter_injective.list_map (List.append_cancel_right h), rfl⟩

/-- A digit has six bits and a byte eight. -/
theorem count_bits {digits : List (Fin 64)} {padding : Nat} {bs : List UInt8}
    (h : digits.flatMap digitBits = bs.flatMap byteBits ++ List.replicate (2 * padding) false) :
    6 * digits.length = 8 * bs.length + 2 * padding := by
  have hlength := congrArg List.length h
  rwa [List.length_append, List.length_replicate, length_pieces length_digitBits, length_pieces length_byteBits]
    at hlength

/-- The rule leaves no choice. The numbers of bits tell how much padding there is. -/
theorem Spells.unique {cs cs' : List Char} {bs : List UInt8} (h : Spells cs bs) (h' : Spells cs' bs) : cs = cs' := by
  obtain @⟨digits, padding, _, hpadding, hbits⟩ := h
  obtain @⟨digits', padding', _, hpadding', hbits'⟩ := h'
  have hcount := count_bits hbits
  have hcount' := count_bits hbits'
  -- Two choices of padding differ by a multiple of three
  obtain rfl : padding = padding' := by omega
  rw [← hbits'] at hbits
  rw [flatMap_injective digitBits_injective length_digitBits (by decide) hbits]

/-! ## The groups of three bytes follow the rule -/

/-- The last digits of a number, the highest of them first. -/
def lastDigits : Nat → Nat → List (Fin 64)
  | 0, _ => []
  | k + 1, n => lastDigits k (n / 64) ++ [Fin.ofNat 64 n]

@[simp] theorem lastDigits_zero (n : Nat) : lastDigits 0 n = [] := rfl

@[simp] theorem letters_lastDigits (k n : Nat) :
    (lastDigits (k + 1) n).map letter = (lastDigits k (n / 64)).map letter ++ [digit (n % 64)] := by
  rw [lastDigits, List.map_append, List.map_singleton, letter_ofNat]

theorem lastDigits_bits (k n : Nat) : (lastDigits k n).flatMap digitBits = bits (6 * k) n := by
  induction k generalizing n with
  | zero => rfl
  | succ k ih =>
    rw [lastDigits, List.flatMap_append, ih, List.flatMap_singleton, digitBits_ofNat]
    exact (bits_add (6 * k) 6 n).symm

/-- One byte more. -/
theorem bits_byte (v m : Nat) (b : UInt8) : bits (v + 8) (m * 256 + b.toNat) = bits v m ++ byteBits b := by
  have hb := b.toNat_lt
  rw [bits_add, ← bits_mod 8, show (m * 256 + b.toNat) / 2 ^ 8 = m by omega,
    show (m * 256 + b.toNat) % 2 ^ 8 = b.toNat by omega, byteBits]

/-- The last group: one byte, with four bits to spare. -/
theorem spells_one {a : UInt8} {n : Nat} (hn : a.toNat * 16 = n) :
    Spells [digit (n / 64), digit (n % 64), '=', '='] [a] := by
  have ha := a.toNat_lt
  have hhigh : n / 64 % 64 = n / 64 := by omega
  have hbits : (lastDigits 2 n).flatMap digitBits = [a].flatMap byteBits ++ List.replicate (2 * 2) false := by
    rw [lastDigits_bits, ← hn, List.flatMap_singleton]
    exact bits_spare 8 4 a.toNat
  have htext : padded (lastDigits 2 n) 2 = [digit (n / 64), digit (n % 64), '=', '='] := by
    simp [padded, hhigh, Nat.div_div_eq_div_mul]
  exact htext ▸ .intro (by decide) hbits

/-- The last group: two bytes, with two bits to spare. -/
theorem spells_two {a b : UInt8} {n : Nat} (hn : (a.toNat * 256 + b.toNat) * 4 = n) :
    Spells [digit (n / 4096), digit (n / 64 % 64), digit (n % 64), '='] [a, b] := by
  have ha := a.toNat_lt
  have hb := b.toNat_lt
  have hhigh : n / 4096 % 64 = n / 4096 := by omega
  have hbits : (lastDigits 3 n).flatMap digitBits = [a, b].flatMap byteBits ++ List.replicate (2 * 1) false := by
    rw [lastDigits_bits, ← hn, List.flatMap_cons, List.flatMap_singleton, byteBits, ← bits_byte 8]
    exact bits_spare 16 2 _
  have htext : padded (lastDigits 3 n) 1 = [digit (n / 4096), digit (n / 64 % 64), digit (n % 64), '='] := by
    simp [padded, hhigh, Nat.div_div_eq_div_mul]
  exact htext ▸ .intro (by decide) hbits

/-- Three bytes in front of others are four digits in front of their text. -/
theorem Spells.cons {cs : List Char} {bs : List UInt8} (h : Spells cs bs) {a b c : UInt8} {n : Nat}
    (hn : (a.toNat * 256 + b.toNat) * 256 + c.toNat = n) :
    Spells (digit (n / 262144) :: digit (n / 4096 % 64) :: digit (n / 64 % 64) :: digit (n % 64) :: cs)
      (a :: b :: c :: bs) := by
  have ha := a.toNat_lt
  have hb := b.toNat_lt
  have hc := c.toNat_lt
  have hhigh : n / 262144 % 64 = n / 262144 := by omega
  obtain @⟨digits, padding, _, hpadding, hbits⟩ := h
  have hgroup : (lastDigits 4 n).flatMap digitBits = [a, b, c].flatMap byteBits := by
    rw [lastDigits_bits, ← hn, bits_byte 16, bits_byte 8, ← byteBits]
    simp
  have hrow : (lastDigits 4 n ++ digits).flatMap digitBits =
      ([a, b, c] ++ bs).flatMap byteBits ++ List.replicate (2 * padding) false := by
    rw [List.flatMap_append, hgroup, hbits, List.flatMap_append, List.append_assoc]
  have htext : padded (lastDigits 4 n ++ digits) padding =
      digit (n / 262144) :: digit (n / 4096 % 64) :: digit (n / 64 % 64) :: digit (n % 64) ::
        padded digits padding := by
    simp [padded, hhigh, Nat.div_div_eq_div_mul]
  exact htext ▸ .intro hpadding hrow

/-- The text in groups follows the rule. The induction is on the groups of three bytes. -/
theorem spells_encodeChars (bs : List UInt8) : Spells (encodeChars bs) bs := by
  induction bs using encodeChars.induct with
  | case1 =>
    have hempty : Spells (padded [] 0) [] := .intro (by decide) rfl
    exact hempty
  | case2 a => exact spells_one rfl
  | case3 a b => exact spells_two rfl
  | case4 a b c rest ih => exact ih.cons rfl

/-- The rule and the groups of three bytes give the same text. -/
theorem spells_iff {cs : List Char} {bs : List UInt8} : Spells cs bs ↔ cs = encodeChars bs :=
  ⟨fun h => h.unique (spells_encodeChars bs), fun h => h ▸ spells_encodeChars bs⟩

/-! ## The texts that are refused -/

theorem not_foreign_of_mem_padded {digits : List (Fin 64)} {padding : Nat} {c : Char} (h : c ∈ padded digits padding) :
    ¬ Foreign c := by
  rintro ⟨hletter, hpadding⟩
  rcases List.mem_append.1 h with hdigit | hrest
  · obtain ⟨n, -, hn⟩ := List.mem_map.1 hdigit
    exact hletter (mem_letters_iff.2 ⟨n, hn⟩)
  · exact hpadding (List.eq_of_mem_replicate hrest)

/-- Nothing but padding stands behind padding. The induction is on the digits in front of it. -/
theorem eq_padding_of_padded {digits : List (Fin 64)} {padding : Nat} {front back : List Char} {c : Char}
    (h : padded digits padding = front ++ '=' :: c :: back) : c = '=' := by
  induction digits generalizing front with
  | nil =>
    have hmem : c ∈ List.replicate padding '=' := by
      rw [show List.replicate padding '=' = front ++ '=' :: c :: back from h]
      simp
    exact List.eq_of_mem_replicate hmem
  | cons n digits ih =>
    have hcons : padded (n :: digits) padding = letter n :: padded digits padding := rfl
    rw [hcons] at h
    cases front with
    | nil => exact absurd (List.cons.inj h).1 (letter_ne_padding n)
    | cons d front => exact ih (List.cons.inj h).2

theorem Spells.not_flawed {cs : List Char} {bs : List UInt8} (h : Spells cs bs) : ¬ Flawed cs := by
  obtain @⟨digits, padding, _, hpadding, hbits⟩ := h
  intro hflawed
  generalize hcs : padded digits padding = cs at hflawed
  cases hflawed with
  | foreign hmem hforeign => exact not_foreign_of_mem_padded (hcs ▸ hmem) hforeign
  | misplaced hc => exact hc (eq_padding_of_padded hcs)
  -- The numbers of bits agree, and so four characters stand for three bytes
  | incomplete hgroups =>
    obtain ⟨rfl, rfl⟩ := padded_inj hcs
    have hcount := count_bits hbits
    exact hgroups ⟨hpadding, by omega⟩
  | spareBits hspare =>
    obtain ⟨rfl, rfl⟩ := padded_inj hcs
    exact hspare (hbits ▸ List.suffix_append _ _)

/-- Digits with padding behind them are all texts that have neither a foreign character nor padding elsewhere. -/
theorem padded_or_foreign_or_misplaced (cs : List Char) : (∃ digits padding, cs = padded digits padding) ∨
    (∃ c ∈ cs, Foreign c) ∨ ∃ front c back, c ≠ '=' ∧ cs = front ++ '=' :: c :: back := by
  induction cs with
  | nil => exact .inl ⟨[], 0, rfl⟩
  | cons c cs ih =>
    rcases ih with ⟨digits, padding, rfl⟩ | ⟨d, hd, hforeign⟩ | ⟨front, d, back, hd, rfl⟩
    · by_cases hpadding : c = '='
      -- Padding goes before padding, but not before a digit
      · subst hpadding
        cases digits with
        | nil => exact .inl ⟨[], padding + 1, rfl⟩
        | cons n digits => exact .inr (.inr ⟨[], letter n, padded digits padding, letter_ne_padding n, rfl⟩)
      · by_cases hletter : c ∈ letters
        · obtain ⟨n, rfl⟩ := mem_letters_iff.1 hletter
          exact .inl ⟨n :: digits, padding, rfl⟩
        · exact .inr (.inl ⟨c, List.mem_cons_self, hletter, hpadding⟩)
    · exact .inr (.inl ⟨d, List.mem_cons_of_mem c hd, hforeign⟩)
    · exact .inr (.inr ⟨c :: front, d, back, hd, rfl⟩)

/-- A text without a flaw spells a byte string. -/
theorem flawed_or_spells (cs : List Char) : Flawed cs ∨ ∃ bs, Spells cs bs := by
  rcases padded_or_foreign_or_misplaced cs with ⟨digits, padding, rfl⟩ | ⟨c, hc, hforeign⟩ | ⟨front, c, back, hc, rfl⟩
  · by_cases hgroups : padding ≤ 2 ∧ 4 ∣ digits.length + padding
    · by_cases hspare : List.replicate (2 * padding) false <:+ digits.flatMap digitBits
      -- What is in front of the spare bits is a row of bytes
      · obtain ⟨row, hrow⟩ := hspare
        obtain ⟨hpadding, k, hk⟩ := hgroups
        have hlength := congrArg List.length hrow
        rw [List.length_append, List.length_replicate, length_pieces length_digitBits] at hlength
        have hbytes : row.length = 8 * (3 * k - padding) := by omega
        obtain ⟨bs, rfl⟩ := exists_flatMap (fun _ => exists_byteBits) hbytes
        exact .inr ⟨bs, .intro hpadding hrow.symm⟩
      · exact .inl (.spareBits hspare)
    · exact .inl (.incomplete hgroups)
  · exact .inl (.foreign hc hforeign)
  · exact .inl (.misplaced hc)

/-- Blanks, and the two letters of the alphabet for URLs that differ, are foreign. -/
theorem foreign_of_blank_or_url {c : Char} (h : isBlank c = true ∨ c = '-' ∨ c = '_') : Foreign c := by
  have hletter : ∀ n : Fin 64, ¬ (isBlank (letter n) = true ∨ letter n = '-' ∨ letter n = '_') := by
    decide +kernel
  constructor
  · intro hmem
    obtain ⟨n, rfl⟩ := mem_letters_iff.1 hmem
    exact hletter n h
  · rintro rfl
    exact absurd h (by decide)

/-- A text is read as the byte string that it spells. -/
theorem decodeChars_eq_some_iff_spells {cs : List Char} {bs : List UInt8} :
    decodeChars cs = some bs ↔ Spells cs bs :=
  decodeChars_eq_some_iff.trans spells_iff.symm

/-- A text is refused if and only if it has a flaw. -/
theorem decodeChars_eq_none_iff {cs : List Char} : decodeChars cs = none ↔ Flawed cs := by
  rw [Option.eq_none_iff_forall_ne_some]
  constructor
  · intro hnone
    rcases flawed_or_spells cs with hflawed | ⟨bs, hbs⟩
    · exact hflawed
    · exact absurd (decodeChars_eq_some_iff_spells.2 hbs) (hnone bs)
  · intro hflawed bs hbs
    exact (decodeChars_eq_some_iff_spells.1 hbs).not_flawed hflawed

theorem decode_eq_some_iff {s : String} {bs : List UInt8} : decode s = some bs ↔ s = encode bs := by
  rw [decode, decodeChars_eq_some_iff, encode, ← String.toList_inj, String.toList_ofList]

theorem decode_eq_none_iff {s : String} : decode s = none ↔ Flawed s.toList :=
  decodeChars_eq_none_iff

end TelemetryGateway.Text.Base64
