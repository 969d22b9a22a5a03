import Mathlib
import TelemetryGateway.Proofs.Json.Numeral
import TelemetryGateway.Proofs.Json.Text

/-!
# JSON texts

The grammar of JSON, with the tree that a text stands for. A text of the grammar is read as its tree, from end to end
and however deep its containers nest. Numbers are the only values whose end is not seen at their last byte: the reader
is then still inside the number, and the next byte ends it.

## Main definitions

- `Phrase.Spelled`: the byte strings of a value, of an element, of items and of members
- `Machine.Ready`: a value may come next
- `Machine.Holds`: a value has been read, up to the end of a number

## Main statements

- `Phrase.Spelled.reads`: what the reader does with each phrase
- `read_of_spelled`: a text is read as its tree
-/

namespace TelemetryGateway.Json

open TelemetryGateway.Text

/-! ## The grammar -/

/-- Blanks and nothing else. -/
def Blank (bs : List UInt8) : Prop :=
  ∀ b ∈ bs, isBlankByte b = true

/-- The tree of a string, which is the text of its pieces if they make up any. -/
def Tree.ofText? : Option String → Tree
  | some s => .string s
  | none => .unreadable

/-- The parts of a text. Items and members are those of a container that has any. -/
inductive Phrase where
  | value (t : Tree)
  /-- A value with blanks around it. -/
  | element (t : Tree)
  | items (ts : List Tree)
  | member (m : Member)
  | members (ms : List Member)

/-- The byte strings of a phrase. -/
inductive Phrase.Spelled : Phrase → List UInt8 → Prop
  | null : Spelled (.value .null) [0x6E, 0x75, 0x6C, 0x6C]
  | isTrue : Spelled (.value (.bool true)) [0x74, 0x72, 0x75, 0x65]
  | isFalse : Spelled (.value (.bool false)) [0x66, 0x61, 0x6C, 0x73, 0x65]
  | number {n : Numeral} {cs : List Char} (hnumber : n.Spelled cs) : Spelled (.value (.number n)) (octets cs)
  | string {ps : List Piece} {bs : List UInt8} (hpieces : Piece.Run ps bs) :
      Spelled (.value (.ofText? (Piece.text? ps.reverse))) (0x22 :: (bs ++ [0x22]))
  | emptyArray {bs : List UInt8} (hblank : Blank bs) : Spelled (.value (.array [])) (0x5B :: (bs ++ [0x5D]))
  | array {ts : List Tree} {bs : List UInt8} (hitems : Spelled (.items ts) bs) :
      Spelled (.value (.array ts)) (0x5B :: (bs ++ [0x5D]))
  | emptyObject {bs : List UInt8} (hblank : Blank bs) : Spelled (.value (.object [])) (0x7B :: (bs ++ [0x7D]))
  | object {ms : List Member} {bs : List UInt8} (hmembers : Spelled (.members ms) bs) :
      Spelled (.value (.object ms)) (0x7B :: (bs ++ [0x7D]))
  | element {t : Tree} {before bs behind : List UInt8} (hbefore : Blank before) (hvalue : Spelled (.value t) bs)
      (hbehind : Blank behind) : Spelled (.element t) (before ++ (bs ++ behind))
  | lastItem {t : Tree} {bs : List UInt8} (hitem : Spelled (.element t) bs) : Spelled (.items [t]) bs
  | item {t : Tree} {ts : List Tree} {bs cs : List UInt8} (hitem : Spelled (.element t) bs)
      (hrest : Spelled (.items ts) cs) : Spelled (.items (t :: ts)) (bs ++ 0x2C :: cs)
  | member {t : Tree} {ps : List Piece} {before name behind bs : List UInt8} (hbefore : Blank before)
      (hname : Piece.Run ps name) (hbehind : Blank behind) (hvalue : Spelled (.element t) bs) :
      Spelled (.member (Piece.text? ps.reverse, t)) (before ++ 0x22 :: (name ++ 0x22 :: (behind ++ 0x3A :: bs)))
  | lastMember {m : Member} {bs : List UInt8} (hmember : Spelled (.member m) bs) : Spelled (.members [m]) bs
  | moreMembers {m : Member} {ms : List Member} {bs cs : List UInt8} (hmember : Spelled (.member m) bs)
      (hrest : Spelled (.members ms) cs) : Spelled (.members (m :: ms)) (bs ++ 0x2C :: cs)

/-- A value without blanks around it. -/
theorem Phrase.Spelled.bare {t : Tree} {bs : List UInt8} (h : Phrase.Spelled (.value t) bs) :
    Phrase.Spelled (.element t) bs := by
  have hnone : Blank [] := by simp [Blank]
  have helement := Phrase.Spelled.element hnone h hnone
  rwa [List.nil_append, List.append_nil] at helement

/-! ## Before and behind a value -/

namespace Machine

variable {stack : List Frame} {done : List Member} {m : Machine} {t : Tree} {b : UInt8} {bs : List UInt8}

/-- A value may come next. -/
inductive Ready (stack : List Frame) : Machine → Prop
  | value : Ready stack ⟨stack, .value⟩
  | firstItem : Ready stack ⟨stack, .firstItem⟩

/-- The first byte of a value is read in the same way wherever a value may come. -/
theorem Ready.step (h : Ready stack m) (hblank : isBlankByte b = false) (hclose : (b == 0x5D) = false) :
    m.step b = startValue ⟨stack, .value⟩ b := by
  cases h with
  | value =>
    simp only [Machine.step, stepPlain, hblank]
    rfl
  | firstItem =>
    simp only [Machine.step, stepPlain, hblank, hclose]
    rfl

/-- A value has been read: it is in its place, or it is a number that may end here. -/
inductive Holds (stack : List Frame) (t : Tree) : Machine → Prop
  | placed : Holds stack t (place stack t)
  | number (p : Partial) (hacceptable : p.acceptable = true) (htree : .number p.numeral = t) :
      Holds stack t ⟨stack, .inNumber p⟩

/-- Bytes that end a number: those that are no part of any. -/
theorem step?_delimiter {p : Partial} (hacceptable : p.acceptable = true) (hdigit : isDigitByte b = false)
    (hpoint : (b == 0x2E) = false) (hmark : (b == 0x65 || b == 0x45) = false) : p.step? b = none := by
  simp only [Partial.acceptable] at hacceptable
  split at hacceptable <;> simp_all [Partial.step?]

theorem place_step (stack : List Frame) (t : Tree) (b : UInt8) :
    (place stack t).step b = (place stack t).stepPlain b := by
  cases stack with
  | nil => rfl
  | cons frame rest => cases frame <;> rfl

/-- Behind a value, a byte that is no part of a number is read as if the value were in its place. -/
theorem Holds.step (h : Holds stack t m) (hdigit : isDigitByte b = false) (hpoint : (b == 0x2E) = false)
    (hmark : (b == 0x65 || b == 0x45) = false) : m.step b = (place stack t).stepPlain b := by
  cases h with
  | placed => exact place_step stack t b
  | number p hacceptable htree =>
    simp only [Machine.step, step?_delimiter hacceptable hdigit hpoint hmark, hacceptable, if_true, htree]

/-- At the end of the text a value is all there is. -/
theorem Holds.finish (h : Holds [] t m) : m.finish = ⟨t, true⟩ := by
  cases h with
  | placed => rfl
  | number p hacceptable htree => simp only [Machine.finish, hacceptable, if_true, htree]

/-- The reader inside an object, where the name of a member may come. -/
inductive AtName (stack : List Frame) (done : List Member) : Machine → Prop
  | firstName : AtName stack done ⟨.members done :: stack, .firstName⟩
  | name : AtName stack done ⟨.members done :: stack, .name⟩

/-! ## Blanks -/

theorem isBlankByte_iff : isBlankByte b = true ↔ b = 0x20 ∨ b = 0x09 ∨ b = 0x0A ∨ b = 0x0D := by
  simp only [isBlankByte, Bool.or_eq_true, beq_iff_eq, or_assoc]

/-- Where every blank leaves the machine as it is, so do many. -/
theorem feed_blank (h : ∀ b, isBlankByte b = true → m.step b = m) (hblank : Blank bs) : m.feed bs = m := by
  induction bs with
  | nil => rfl
  | cons b bs ih =>
    rw [feed_cons, h b (hblank b List.mem_cons_self)]
    exact ih fun c hc => hblank c (List.mem_cons_of_mem _ hc)

theorem Ready.feed_blank (h : Ready stack m) (hblank : Blank bs) : m.feed bs = m := by
  refine Machine.feed_blank (fun b hb => ?_) hblank
  cases h <;> simp only [Machine.step, stepPlain, hb, if_true]

theorem AtName.feed_blank (h : AtName stack done m) (hblank : Blank bs) : m.feed bs = m := by
  refine Machine.feed_blank (fun b hb => ?_) hblank
  cases h <;> simp only [Machine.step, stepPlain, hb, if_true]

theorem place_stepPlain_blank (stack : List Frame) (t : Tree) (hb : isBlankByte b = true) :
    (place stack t).stepPlain b = place stack t := by
  cases stack with
  | nil => simp only [place, stepPlain, hb, if_true]
  | cons frame rest => cases frame <;> simp only [place, stepPlain, stepBetween, hb, if_true]

/-- A blank behind a value leaves it in its place. -/
theorem Holds.feed_blank (h : Holds stack t m) (hblank : Blank bs) : Holds stack t (m.feed bs) := by
  induction bs generalizing m with
  | nil => exact h
  | cons b bs ih =>
    have hb := hblank b List.mem_cons_self
    have hstep : m.step b = place stack t := by
      rw [h.step, place_stepPlain_blank stack t hb]
      all_goals rcases isBlankByte_iff.1 hb with rfl | rfl | rfl | rfl <;> rfl
    rw [feed_cons, hstep]
    exact ih .placed fun c hc => hblank c (List.mem_cons_of_mem _ hc)

/-! ## Numbers -/

theorem feed_inNumber {n p : Partial} (h : n.run bs = some p) :
    feed ⟨stack, .inNumber n⟩ bs = ⟨stack, .inNumber p⟩ := by
  induction bs generalizing n with
  | nil =>
    cases h
    rfl
  | cons b bs ih =>
    cases hstep : n.step? b with
    | none => simp [Partial.run, hstep] at h
    | some q =>
      rw [Partial.run_cons hstep] at h
      rw [feed_cons, ← ih h]
      simp only [Machine.step, hstep]

/-- A digit starts a number, and nothing else does so in a value that has no sign. -/
theorem startValue_digit (stack : List Frame) {n : Partial} (h : Partial.start.step? b = some n) :
    isBlankByte b = false ∧ (b == 0x5D) = false ∧
      startValue ⟨stack, .value⟩ b = ⟨stack, .inNumber n⟩ := by
  have hdigit : isDigitByte b = true := by
    by_contra hno
    have hzero : (b == 0x30) = false := beq_false_of_ne fun hb => hno (hb ▸ rfl)
    simp [Partial.start, Partial.step?, hno, hzero] at h
  have hne (c : UInt8) (hc : isDigitByte c = false) : (b == c) = false :=
    beq_false_of_ne fun hb => by
      rw [hb, hc] at hdigit
      cases hdigit
  refine ⟨?_, hne 0x5D rfl, ?_⟩
  · simp only [isBlankByte, hne 0x20 rfl, hne 0x09 rfl, hne 0x0A rfl, hne 0x0D rfl, Bool.or_self]
  · simp only [startValue, hne 0x22 rfl, hne 0x5B rfl, hne 0x7B rfl, hne 0x74 rfl, hne 0x66 rfl,
      hne 0x6E rfl, hne 0x2D rfl, h, Bool.false_eq_true, if_false]

/-- A number is read wherever a value may come. -/
theorem Ready.feed_number (h : Ready stack m) {n : Numeral} {cs : List Char} (hnumber : n.Spelled cs) :
    Holds stack (.number n) (m.feed (octets cs)) := by
  obtain ⟨body, rfl, hbody⟩ := hnumber
  obtain ⟨p, hrun, hacceptable, hnumeral⟩ := hbody.run
  cases hnegative : n.negative with
  -- The sign is the first byte, and starts the number
  | true =>
    have hstart : m.step 0x2D = ⟨stack, .inNumber { Partial.start with negative := true }⟩ :=
      h.step rfl rfl
    rw [hnegative] at hrun
    rw [if_pos rfl, octets_cons_ascii (by decide)]
    show Holds stack (.number n) (feed (m.step 0x2D) (octets body))
    rw [hstart, feed_inNumber hrun]
    exact .number p hacceptable (congrArg Tree.number hnumeral)
  -- Without a sign the first byte is a digit; there is one, since no number is empty
  | false =>
    rw [hnegative] at hrun
    rw [if_neg Bool.false_ne_true]
    cases hbytes : octets body with
    | nil =>
      rw [hbytes] at hrun
      cases hrun
      cases hacceptable
    | cons b bs =>
      rw [hbytes] at hrun
      change Partial.start.run (b :: bs) = some p at hrun
      cases hstep : Partial.start.step? b with
      | none =>
        have hnone : Partial.start.run (b :: bs) = none := by simp [Partial.run, hstep]
        cases hnone.symm.trans hrun
      | some q =>
        obtain ⟨hblank, hclose, hstart⟩ := startValue_digit stack hstep
        rw [Partial.run_cons hstep] at hrun
        rw [feed_cons, h.step hblank hclose, hstart, feed_inNumber hrun]
        exact .number p hacceptable (congrArg Tree.number hnumeral)

/-! ## Strings -/

/-- A string as a value, behind its first quote. -/
theorem feed_string (stack : List Frame) {ps : List Piece} (h : Piece.Run ps bs) :
    (inside stack false []).feed (bs ++ [0x22]) = place stack (.ofText? (Piece.text? ps.reverse)) := by
  rw [feed_append, feed_run h, List.append_nil]
  show (inside stack false ps.reverse).endString false ps.reverse = _
  rw [endString, if_neg Bool.false_ne_true]
  cases Piece.text? ps.reverse <;> rfl

/-- A string as the name of a member, behind its first quote. -/
theorem feed_name (stack : List Frame) (done : List Member) {ps : List Piece} (h : Piece.Run ps bs) :
    (inside (.members done :: stack) true []).feed (bs ++ [0x22]) =
      ⟨.member done (Piece.text? ps.reverse) :: stack, .colon⟩ := by
  rw [feed_append, feed_run h, List.append_nil]
  rfl

end Machine

/-! ## Phrases -/

open Machine

/-- What the reader does with a phrase, wherever it may come. Items and members are followed by the end of their
container. -/
def Phrase.Reads : Phrase → List UInt8 → Prop
  | .value t, bs | .element t, bs => ∀ stack m, Ready stack m → Holds stack t (m.feed bs)
  | .items ts, bs => ∀ stack done m, Ready (.items done :: stack) m →
      m.feed (bs ++ [0x5D]) = place stack (.array (done.reverse ++ ts))
  | .member (name, t), bs => ∀ stack done m, AtName stack done m → Holds (.member done name :: stack) t (m.feed bs)
  | .members ms, bs => ∀ stack done m, AtName stack done m →
      m.feed (bs ++ [0x7D]) = place stack (.object (done.reverse ++ ms))

/-- A word is read by its first letter, and the others are compared with it. -/
theorem Machine.Ready.feed_word {stack : List Frame} {m : Machine} {t : Tree} {b : UInt8} {bs : List UInt8}
    (h : Ready stack m) (hblank : isBlankByte b = false) (hclose : (b == 0x5D) = false)
    (hword : startValue ⟨stack, .value⟩ b = ⟨stack, .inWord bs t⟩)
    (hend : feed ⟨stack, .inWord bs t⟩ bs = place stack t) : Holds stack t (m.feed (b :: bs)) := by
  rw [feed_cons, h.step hblank hclose, hword, hend]
  exact .placed

/-- Every phrase is read as what it stands for. The induction follows the grammar. -/
theorem Phrase.Spelled.reads {p : Phrase} {bs : List UInt8} (h : p.Spelled bs) : p.Reads bs := by
  induction h with
  | null => exact fun stack m hready => hready.feed_word rfl rfl rfl rfl
  | isTrue => exact fun stack m hready => hready.feed_word rfl rfl rfl rfl
  | isFalse => exact fun stack m hready => hready.feed_word rfl rfl rfl rfl
  | number hnumber => exact fun stack m hready => hready.feed_number hnumber
  | @string ps bs hpieces =>
    intro stack m hready
    have hquote : m.step 0x22 = inside stack false [] := hready.step rfl rfl
    rw [feed_cons, hquote, feed_string stack hpieces]
    exact .placed
  | @emptyArray bs hblank =>
    intro stack m hready
    have hopen : m.step 0x5B = ⟨.items [] :: stack, .firstItem⟩ := hready.step rfl rfl
    rw [feed_cons, hopen, feed_append, Ready.firstItem.feed_blank hblank]
    exact .placed
  | @array ts bs _ ih =>
    intro stack m hready
    have hopen : m.step 0x5B = ⟨.items [] :: stack, .firstItem⟩ := hready.step rfl rfl
    rw [feed_cons, hopen, ih stack [] _ .firstItem]
    exact .placed
  | @emptyObject bs hblank =>
    intro stack m hready
    have hopen : m.step 0x7B = ⟨.members [] :: stack, .firstName⟩ := hready.step rfl rfl
    rw [feed_cons, hopen, feed_append, AtName.firstName.feed_blank hblank]
    exact .placed
  | @object ms bs _ ih =>
    intro stack m hready
    have hopen : m.step 0x7B = ⟨.members [] :: stack, .firstName⟩ := hready.step rfl rfl
    rw [feed_cons, hopen, ih stack [] _ .firstName]
    exact .placed
  | element hbefore _ hbehind ih =>
    intro stack m hready
    rw [feed_append, hready.feed_blank hbefore, feed_append]
    exact (ih stack m hready).feed_blank hbehind
  -- The bracket closes the array, and ends a number where the item is one
  | @lastItem t bs _ ih =>
    intro stack done m hready
    have hend : (m.feed bs).step 0x5D = place stack (.array (t :: done).reverse) :=
      ((ih _ m hready).step rfl rfl rfl).trans rfl
    rw [feed_append]
    exact hend.trans (by rw [List.reverse_cons])
  -- The comma does the same for the items before it
  | @item t ts bs cs _ _ ih ihrest =>
    intro stack done m hready
    have hcomma : (m.feed bs).step 0x2C = ⟨.items (t :: done) :: stack, .value⟩ :=
      ((ih _ m hready).step rfl rfl rfl).trans rfl
    rw [List.append_assoc, feed_append, List.cons_append, feed_cons, hcomma, ihrest stack (t :: done) _ .value]
    simp
  | @member t ps before name behind bs hbefore hname hbehind _ ih =>
    intro stack done m hm
    have hquote : m.step 0x22 = inside (.members done :: stack) true [] := by cases hm <;> rfl
    have hcolon {b : UInt8} (hb : isBlankByte b = true) :
        step ⟨.member done (Piece.text? ps.reverse) :: stack, .colon⟩ b =
          ⟨.member done (Piece.text? ps.reverse) :: stack, .colon⟩ := by
      simp only [Machine.step, stepPlain, hb, if_true]
    have hbytes : name ++ 0x22 :: (behind ++ 0x3A :: bs) = (name ++ [0x22]) ++ (behind ++ 0x3A :: bs) := by simp
    rw [feed_append, hm.feed_blank hbefore, feed_cons, hquote, hbytes, feed_append, feed_name stack done hname,
      feed_append, Machine.feed_blank (fun b => hcolon) hbehind, feed_cons]
    exact ih _ _ .value
  -- The brace closes the object
  | @lastMember m bs _ ih =>
    intro stack done m' hm
    obtain ⟨name, t⟩ := m
    have hend : (m'.feed bs).step 0x7D = place stack (.object ((name, t) :: done).reverse) :=
      ((ih _ done m' hm).step rfl rfl rfl).trans rfl
    rw [feed_append]
    exact hend.trans (by rw [List.reverse_cons])
  | @moreMembers m ms bs cs _ _ ih ihrest =>
    intro stack done m' hm
    obtain ⟨name, t⟩ := m
    have hcomma : (m'.feed bs).step 0x2C = ⟨.members ((name, t) :: done) :: stack, .name⟩ :=
      ((ih _ done m' hm).step rfl rfl rfl).trans rfl
    rw [List.append_assoc, feed_append, List.cons_append, feed_cons, hcomma,
      ihrest stack ((name, t) :: done) _ .name]
    simp

/-- A text is read as its tree, from end to end. -/
theorem read_of_spelled {t : Tree} {bs : List UInt8} (h : Phrase.Spelled (.element t) bs) : read bs = ⟨t, true⟩ :=
  (h.reads [] Machine.start .value).finish

end TelemetryGateway.Json
