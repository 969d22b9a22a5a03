import Mathlib
import TelemetryGateway.Json.Value
import TelemetryGateway.Proofs.Json.Grammar

/-!
# JSON values read back

What is written for a value is a text of the grammar, so it is read back from end to end.

## Main definitions

- `Value.tree`: what the text of a value says

## Main statements

- `Value.conforms`: the characters of a value are those of its tree
- `Value.spelled_text`, `Value.read_text`: the text of a value
-/

namespace TelemetryGateway.Json

open TelemetryGateway.Number (Real.finite Real.json)
open TelemetryGateway.Text

/-! ## Trees of values -/

namespace Value

mutual

/-- What the text of a value says. -/
def tree (v : Value) : Tree :=
  match v with
  | .null => .null
  | .bool b => .bool b
  | .int n => .number (.ofInt n)
  | .single x => if x.finite then (read (utf8 x.json)).tree else .null
  | .double bits => if Real.finite bits then (read (utf8 (Real.json bits))).tree else .null
  | .string s => .string s
  | .array items => .array (itemTrees items)
  | .object members => .object (memberTrees members)
termination_by structural v

/-- The trees of items. -/
def itemTrees (items : List Value) : List Tree :=
  match items with
  | [] => []
  | v :: vs => tree v :: itemTrees vs
termination_by structural items

/-- The trees of members. -/
def memberTrees (members : List (String × Value)) : List Member :=
  match members with
  | [] => []
  | m :: ms => memberTree m :: memberTrees ms
termination_by structural members

/-- The tree of one member. -/
def memberTree (member : String × Value) : Member :=
  match member with
  | (name, v) => (some name, tree v)
termination_by structural member

end

theorem itemTrees_eq_map (items : List Value) : itemTrees items = items.map tree := by
  induction items with
  | nil => rfl
  | cons v vs ih => rw [itemTrees, ih, List.map_cons]

theorem memberTrees_eq_map (members : List (String × Value)) :
    memberTrees members = members.map fun m => (some m.1, m.2.tree) := by
  induction members with
  | nil => rfl
  | cons m ms ih =>
    obtain ⟨name, v⟩ := m
    rw [memberTrees, ih, List.map_cons, memberTree]

end Value

/-! ## Texts of values -/

namespace Value

/-- The characters of a value are those of its tree. -/
def Conforms (v : Value) : Prop :=
  Phrase.Spelled (.value v.tree) (octets v.chars)

theorem conforms_null : null.Conforms := by
  rw [Conforms, tree]
  exact .null

theorem conforms_bool (b : Bool) : (bool b).Conforms := by
  rw [Conforms, tree]
  cases b with
  | true => exact .isTrue
  | false => exact .isFalse

theorem conforms_string (s : String) : (string s).Conforms := by
  obtain ⟨ps, hrun, htext⟩ := exists_run_escaped s
  have hbytes : octets (string s).chars = 0x22 :: (octets (s.toList.flatMap escapeChar) ++ [0x22]) := by
    rw [chars, quote, List.cons_append, octets_cons_ascii (by decide), octets_append]
    rfl
  have hstring := Phrase.Spelled.string hrun
  rw [htext] at hstring
  rw [Conforms, tree, hbytes]
  exact hstring

/-- A number with a text of its own. -/
theorem conforms_spelled {v : Value} {s : String} {n : Numeral} (hchars : v.chars = s.toList)
    (htree : v.tree = (read (utf8 s)).tree) (h : n.Spelled s.toList) : v.Conforms := by
  have hnumber := Phrase.Spelled.number h
  rw [Conforms, htree, utf8_eq_octets, read_of_spelled hnumber.bare, hchars]
  exact hnumber

/-- A value that is written like null. -/
theorem conforms_of_null {v : Value} (hchars : v.chars = null.chars) (htree : v.tree = null.tree) : v.Conforms := by
  rw [Conforms, hchars, htree]
  exact conforms_null

theorem conforms_single (x : Number.Single) : (single x).Conforms := by
  by_cases hfinite : x.finite = true
  · obtain ⟨n, hspelled⟩ := exists_spelled_single x
    exact conforms_spelled (by rw [chars, if_pos hfinite]) (by rw [tree, if_pos hfinite]) hspelled
  · exact conforms_of_null (if_neg hfinite) (if_neg hfinite)

theorem conforms_double (bits : UInt64) : (double bits).Conforms := by
  by_cases hfinite : Real.finite bits = true
  · obtain ⟨n, hspelled⟩ := exists_spelled_double bits
    exact conforms_spelled (by rw [chars, if_pos hfinite]) (by rw [tree, if_pos hfinite]) hspelled
  · exact conforms_of_null (if_neg hfinite) (if_neg hfinite)

/-! ## Containers -/

theorem octets_separated (p q : List Char) (ps : List (List Char)) :
    octets (separated (p :: q :: ps)) = octets p ++ 0x2C :: octets (separated (q :: ps)) := by
  rw [separated, octets_append, octets_cons_ascii (by decide)]
  · rfl
  · exact List.cons_ne_nil q ps

theorem spelled_items {items : List Value} (hne : items ≠ []) (h : ∀ v ∈ items, v.Conforms) :
    Phrase.Spelled (.items (itemTrees items)) (octets (separated (itemChars items))) := by
  induction items with
  | nil => exact absurd rfl hne
  | cons v vs ih =>
    have hfirst := Phrase.Spelled.bare (h v List.mem_cons_self)
    cases vs with
    | nil => exact .lastItem hfirst
    | cons v' vs =>
      have hrest := ih (List.cons_ne_nil v' vs) fun w hw => h w (List.mem_cons_of_mem _ hw)
      rw [itemChars, itemChars, octets_separated]
      exact .item hfirst hrest

theorem spelled_member {v : Value} (h : v.Conforms) (name : String) :
    Phrase.Spelled (.member (memberTree (name, v))) (octets (nameChars (name, v))) := by
  obtain ⟨ps, hrun, htext⟩ := exists_run_escaped name
  have hnone : Blank [] := by simp [Blank]
  have hbytes : octets (nameChars (name, v)) =
      [] ++ 0x22 :: (octets (name.toList.flatMap escapeChar) ++ 0x22 :: ([] ++ 0x3A :: octets v.chars)) := by
    simp only [nameChars, quote, List.cons_append, List.append_assoc, octets_append, List.nil_append,
      octets_cons_ascii (show ('"' : Char).toNat < 128 by decide),
      octets_cons_ascii (show (':' : Char).toNat < 128 by decide)]
    rfl
  have hmember := Phrase.Spelled.member hnone hrun hnone h.bare
  rw [htext] at hmember
  rw [hbytes, memberTree]
  exact hmember

theorem spelled_members {members : List (String × Value)} (hne : members ≠ []) (h : ∀ e ∈ members, e.2.Conforms) :
    Phrase.Spelled (.members (memberTrees members)) (octets (separated (memberChars members))) := by
  induction members with
  | nil => exact absurd rfl hne
  | cons e es ih =>
    obtain ⟨name, v⟩ := e
    have hfirst := spelled_member (h (name, v) List.mem_cons_self) name
    cases es with
    | nil => exact .lastMember hfirst
    | cons e' es =>
      have hrest := ih (List.cons_ne_nil e' es) fun w hw => h w (List.mem_cons_of_mem _ hw)
      rw [memberChars, memberChars, octets_separated]
      exact .moreMembers hfirst hrest

theorem conforms_array {items : List Value} (h : ∀ v ∈ items, v.Conforms) : (array items).Conforms := by
  have hbytes : octets (array items).chars = 0x5B :: (octets (separated (itemChars items)) ++ [0x5D]) := by
    rw [chars, List.cons_append, octets_cons_ascii (by decide), octets_append]
    rfl
  rw [Conforms, tree, hbytes]
  cases items with
  | nil => exact .emptyArray (by simp [Blank, separated, itemChars])
  | cons v vs => exact .array (spelled_items (List.cons_ne_nil v vs) h)

theorem conforms_object {members : List (String × Value)} (h : ∀ e ∈ members, e.2.Conforms) :
    (object members).Conforms := by
  have hbytes : octets (object members).chars = 0x7B :: (octets (separated (memberChars members)) ++ [0x7D]) := by
    rw [chars, List.cons_append, octets_cons_ascii (by decide), octets_append]
    rfl
  rw [Conforms, tree, hbytes]
  cases members with
  | nil => exact .emptyObject (by simp [Blank, separated, memberChars])
  | cons e es => exact .object (spelled_members (List.cons_ne_nil e es) h)

/-! ## All values -/

mutual

/-- The characters of a value are those of its tree. The recursion follows the value. -/
theorem conforms (v : Value) : v.Conforms :=
  match v with
  | .null => conforms_null
  | .bool b => conforms_bool b
  | .int n => by
    rw [Conforms, tree, chars]
    exact .number (spelled_int n)
  | .single x => conforms_single x
  | .double bits => conforms_double bits
  | .string s => conforms_string s
  | .array items => conforms_array (conforms_items items)
  | .object members => conforms_object (conforms_members members)
termination_by structural v

theorem conforms_items (items : List Value) : ∀ v ∈ items, v.Conforms :=
  match items with
  | [] => fun _ h => absurd h List.not_mem_nil
  | v :: vs => List.forall_mem_cons.2 ⟨conforms v, conforms_items vs⟩
termination_by structural items

theorem conforms_members (members : List (String × Value)) : ∀ e ∈ members, e.2.Conforms :=
  match members with
  | [] => fun _ h => absurd h List.not_mem_nil
  | e :: es => List.forall_mem_cons.2 ⟨conforms_member e, conforms_members es⟩
termination_by structural members

theorem conforms_member (member : String × Value) : member.2.Conforms :=
  match member with
  | (_, v) => conforms v
termination_by structural member

end

/-- The text of a value is JSON and says the value. -/
theorem spelled_text (v : Value) : Phrase.Spelled (.element v.tree) (utf8 v.text) := by
  rw [text, utf8_ofList]
  exact v.conforms.bare

/-- So it is read back from end to end. -/
theorem read_text (v : Value) : read (utf8 v.text) = ⟨v.tree, true⟩ :=
  read_of_spelled v.spelled_text

end Value

end TelemetryGateway.Json
