import Mathlib
import TelemetryGateway.Access.Credentials
import TelemetryGateway.Proofs.Text.Base64
import TelemetryGateway.Proofs.Text.Octets

/-!
# Who gets in

A header value is accepted if it spells the expected user name, a colon and the expected password, and in no other
case. Base64 has one text for each byte string, so no second spelling is accepted. The first colon ends the user
name, so a password may hold colons and a user name may not: with a colon in the user name nobody gets in.

## Main definitions

- `Credentials.Opened`: the header values that are accepted
- `Credentials.Denied`: the others, with the cause that is told

## Main statements

- `splitAtColon_eq_some_iff`: where a byte string is split
- `Credentials.opened_or_denied`: every header value is accepted or refused
- `Credentials.check_exact`: the verdict on every header value
-/

namespace TelemetryGateway.Access

open TelemetryGateway.Text

/-! ## The first colon -/

/-- A byte string without a colon in front of one with a colon ahead is split behind the former. -/
theorem splitAtColon_append {front : List UInt8} (h : colon ∉ front) (rest : List UInt8) :
    splitAtColon (front ++ colon :: rest) = some (front, rest) := by
  have hpass : ∀ b ∈ front, (b != colon) = true := by
    intro b hb
    simp only [bne_iff_ne, ne_eq]
    rintro rfl
    exact h hb
  have hdrop : (front ++ colon :: rest).dropWhile (· != colon) = colon :: rest := by
    rw [List.dropWhile_append_of_pos hpass, List.dropWhile_cons_of_neg (by simp)]
  have htake : (front ++ colon :: rest).takeWhile (· != colon) = front := by
    rw [List.takeWhile_append_of_pos hpass, List.takeWhile_cons_of_neg (by simp), List.append_nil]
  simp only [splitAtColon, hdrop, htake]

/-- A byte string is either without a colon, or a first colon stands in it. -/
theorem exists_first_colon (bytes : List UInt8) :
    colon ∉ bytes ∨ ∃ front rest, bytes = front ++ colon :: rest ∧ colon ∉ front := by
  by_cases h : colon ∈ bytes
  · obtain ⟨front, rest, hbytes, hfront⟩ := List.eq_append_cons_of_mem h
    exact .inr ⟨front, rest, hbytes, hfront⟩
  · exact .inl h

theorem splitAtColon_eq_none_iff {bytes : List UInt8} : splitAtColon bytes = none ↔ colon ∉ bytes := by
  constructor
  · intro hnone
    rcases exists_first_colon bytes with hbytes | ⟨front, rest, rfl, hfront⟩
    · exact hbytes
    · rw [splitAtColon_append hfront] at hnone
      cases hnone
  · intro hbytes
    have hdrop : bytes.dropWhile (· != colon) = [] := by
      rw [List.dropWhile_eq_nil_iff]
      intro b hb
      simp only [bne_iff_ne, ne_eq]
      rintro rfl
      exact hbytes hb
    simp only [splitAtColon, hdrop]

/-- A byte string is split at its first colon. -/
theorem splitAtColon_eq_some_iff {bytes front rest : List UInt8} :
    splitAtColon bytes = some (front, rest) ↔ bytes = front ++ colon :: rest ∧ colon ∉ front := by
  constructor
  · intro hsome
    rcases exists_first_colon bytes with hbytes | ⟨front', rest', rfl, hfront'⟩
    · rw [splitAtColon_eq_none_iff.2 hbytes] at hsome
      cases hsome
    · rw [splitAtColon_append hfront'] at hsome
      cases hsome
      exact ⟨rfl, hfront'⟩
  · rintro ⟨rfl, hfront⟩
    exact splitAtColon_append hfront rest

/-- A colon is one byte, in a text and in its bytes. -/
theorem colon_mem_utf8_iff {s : String} : colon ∈ utf8 s ↔ ':' ∈ s.toList := by
  rw [utf8_eq_octets]
  exact mem_octets_iff (c := ':') (by decide)

/-- The bytes of a user name, a colon and a password. -/
theorem utf8_pair (username password : String) :
    utf8 (username ++ ":" ++ password) = utf8 username ++ colon :: utf8 password := by
  have hcolon : utf8 ":" = [colon] := by decide
  rw [utf8_append, utf8_append, hcolon, List.append_assoc]
  rfl

/-! ## Header values -/

/-- A header value starts with the scheme if and only if something follows the scheme. -/
theorem afterScheme?_eq_some_iff {header : String} {rest : List Char} :
    afterScheme? header = some rest ↔ header.toList = scheme ++ rest := by
  simp only [afterScheme?, Option.ite_none_right_eq_some, List.isPrefixOf_iff_prefix, Option.some.injEq]
  constructor
  · rintro ⟨⟨rest', hrest'⟩, rfl⟩
    rw [← hrest', List.drop_left]
  · intro hheader
    exact ⟨⟨rest, hheader.symm⟩, by rw [hheader, List.drop_left]⟩

theorem afterScheme?_eq_none_iff {header : String} : afterScheme? header = none ↔ ¬ scheme <+: header.toList := by
  simp only [afterScheme?, ite_eq_right_iff, reduceCtorEq, imp_false, List.isPrefixOf_iff_prefix]

namespace Credentials

/-- The header values that are accepted: the scheme and, between blanks, the base64 text of the user name, a colon
and the password, where the user name has no colon. -/
def Opened (c : Credentials) (header : Option String) : Prop :=
  ∃ rest, header = some (String.ofList (scheme ++ rest)) ∧
    trimChars rest = Base64.encodeChars (utf8 (c.username ++ ":" ++ c.password)) ∧ ':' ∉ c.username.toList

/-- The header values that are refused, each for the first cause that there is. -/
inductive Denied (c : Credentials) : Option String → Denial → Prop
  | missingHeader : Denied c none .missingHeader
  | invalidScheme {header : String} (hscheme : ¬ scheme <+: header.toList) : Denied c (some header) .invalidScheme
  /-- What follows the scheme is the text of no byte string. -/
  | invalidEncoding {header : String} {rest : List Char} (hheader : header.toList = scheme ++ rest)
      (htext : ∀ bytes, trimChars rest ≠ Base64.encodeChars bytes) : Denied c (some header) .invalidEncoding
  | malformedValue {header : String} {rest : List Char} {bytes : List UInt8}
      (hheader : header.toList = scheme ++ rest) (htext : trimChars rest = Base64.encodeChars bytes)
      (hcolon : colon ∉ bytes) : Denied c (some header) .malformedValue
  | invalidCredentials {header : String} {rest : List Char} {bytes : List UInt8}
      (hheader : header.toList = scheme ++ rest) (htext : trimChars rest = Base64.encodeChars bytes)
      (hcolon : colon ∈ bytes)
      (hother : ¬ (bytes = utf8 (c.username ++ ":" ++ c.password) ∧ ':' ∉ c.username.toList)) :
      Denied c (some header) .invalidCredentials

theorem accepts_iff {c : Credentials} {username password : List UInt8} :
    c.accepts username password = true ↔ username = utf8 c.username ∧ password = utf8 c.password := by
  simp only [accepts, Bool.and_eq_true, beq_iff_eq]

/-- The halves of a byte string are those expected if and only if the whole is, and the user name has no colon. -/
theorem accepts_split_iff {c : Credentials} {username password : List UInt8} (h : colon ∉ username) :
    c.accepts username password = true ↔
      username ++ colon :: password = utf8 (c.username ++ ":" ++ c.password) ∧ ':' ∉ c.username.toList := by
  rw [accepts_iff, utf8_pair, ← colon_mem_utf8_iff]
  constructor
  · rintro ⟨rfl, rfl⟩
    exact ⟨rfl, h⟩
  · rintro ⟨hwhole, hname⟩
    -- Both sides have their first colon behind the user name
    have hsplit := splitAtColon_append h password
    rw [hwhole, splitAtColon_append hname] at hsplit
    cases hsplit
    exact ⟨rfl, rfl⟩

/-- Every header value is accepted or refused. The cases are those of the check, in its order. -/
theorem opened_or_denied (c : Credentials) (header : Option String) :
    c.Opened header ∨ ∃ d, c.Denied header d := by
  cases header with
  | none => exact .inr ⟨_, .missingHeader⟩
  | some header =>
    cases hscheme : afterScheme? header with
    | none => exact .inr ⟨_, .invalidScheme (afterScheme?_eq_none_iff.1 hscheme)⟩
    | some rest =>
      have hheader := afterScheme?_eq_some_iff.1 hscheme
      by_cases htext : ∃ bytes, trimChars rest = Base64.encodeChars bytes
      · obtain ⟨bytes, hbytes⟩ := htext
        by_cases hcolon : colon ∈ bytes
        · by_cases hpair : bytes = utf8 (c.username ++ ":" ++ c.password) ∧ ':' ∉ c.username.toList
          · refine .inl ⟨rest, ?_, hpair.1 ▸ hbytes, hpair.2⟩
            rw [← hheader, String.ofList_toList]
          · exact .inr ⟨_, .invalidCredentials hheader hbytes hcolon hpair⟩
        · exact .inr ⟨_, .malformedValue hheader hbytes hcolon⟩
      · exact .inr ⟨_, .invalidEncoding hheader fun bytes hbytes => htext ⟨bytes, hbytes⟩⟩

theorem check_of_opened {c : Credentials} {header : Option String} (h : c.Opened header) :
    c.check header = .ok () := by
  obtain ⟨rest, rfl, htext, hname⟩ := h
  have hscheme : afterScheme? (String.ofList (scheme ++ rest)) = some rest :=
    afterScheme?_eq_some_iff.2 String.toList_ofList
  have hdecode := Base64.decodeChars_eq_some_iff.2 htext
  have hsplit : splitAtColon (utf8 (c.username ++ ":" ++ c.password)) = some (utf8 c.username, utf8 c.password) := by
    rw [utf8_pair]
    exact splitAtColon_append (mt colon_mem_utf8_iff.1 hname) _
  have haccepts : c.accepts (utf8 c.username) (utf8 c.password) = true := accepts_iff.2 ⟨rfl, rfl⟩
  simp only [check, hscheme, hdecode, hsplit, if_pos haccepts]

theorem check_of_denied {c : Credentials} {header : Option String} {d : Denial} (h : c.Denied header d) :
    c.check header = .error d := by
  cases h with
  | missingHeader => rfl
  | invalidScheme hscheme => simp only [check, afterScheme?_eq_none_iff.2 hscheme]
  | @invalidEncoding header rest hheader htext =>
    have hdecode : Base64.decodeChars (trimChars rest) = none := by
      rw [Option.eq_none_iff_forall_ne_some]
      intro bytes hbytes
      exact htext bytes (Base64.decodeChars_eq_some_iff.1 hbytes)
    simp only [check, afterScheme?_eq_some_iff.2 hheader, hdecode]
  | malformedValue hheader htext hcolon =>
    simp only [check, afterScheme?_eq_some_iff.2 hheader, Base64.decodeChars_eq_some_iff.2 htext,
      splitAtColon_eq_none_iff.2 hcolon]
  | @invalidCredentials header rest bytes hheader htext hcolon hother =>
    obtain ⟨username, password, rfl, hname⟩ := (exists_first_colon bytes).resolve_left (not_not.2 hcolon)
    have haccepts : ¬ c.accepts username password = true := fun h => hother ((accepts_split_iff hname).1 h)
    simp only [check, afterScheme?_eq_some_iff.2 hheader, Base64.decodeChars_eq_some_iff.2 htext,
      splitAtColon_append hname, if_neg haccepts]

/-- A header value made from a user name and a password is accepted if and only if both, with a colon between them,
are what the expected ones are, and the expected user name has no colon. -/
theorem opened_header_iff {c : Credentials} {username password : String} :
    c.Opened (some (header username password)) ↔
      username ++ ":" ++ password = c.username ++ ":" ++ c.password ∧ ':' ∉ c.username.toList := by
  have hmade : header username password =
      String.ofList (scheme ++ Base64.encodeChars (utf8 (username ++ ":" ++ password))) := rfl
  constructor
  · rintro ⟨rest, hheader, htext, hname⟩
    rw [hmade] at hheader
    have hrest := List.append_cancel_left (String.ofList_injective (Option.some.inj hheader))
    rw [← hrest, Base64.trimChars_encodeChars] at htext
    exact ⟨utf8_injective (Base64.encodeChars_injective htext), hname⟩
  · rintro ⟨hpair, hname⟩
    refine ⟨Base64.encodeChars (utf8 (username ++ ":" ++ password)), by rw [hmade], ?_, hname⟩
    rw [Base64.trimChars_encodeChars, hpair]

theorem check_eq_ok_iff {c : Credentials} {header : Option String} : c.check header = .ok () ↔ c.Opened header := by
  constructor
  · intro hok
    rcases c.opened_or_denied header with h | ⟨d, h⟩
    · exact h
    · rw [check_of_denied h] at hok
      cases hok
  · exact check_of_opened

theorem check_eq_error_iff {c : Credentials} {header : Option String} {d : Denial} :
    c.check header = .error d ↔ c.Denied header d := by
  constructor
  · intro herror
    rcases c.opened_or_denied header with h | ⟨d', h⟩
    · rw [check_of_opened h] at herror
      cases herror
    · rw [check_of_denied h] at herror
      cases herror
      exact h
  · exact check_of_denied

/-- With a colon in the expected user name nobody gets in. -/
theorem not_opened_of_colon {c : Credentials} (h : ':' ∈ c.username.toList) (header : Option String) :
    ¬ c.Opened header := by
  rintro ⟨-, -, -, hname⟩
  exact hname h

/-- **Only the right header value is accepted.** It is the scheme and, between blanks, the base64 text of the user
name, a colon and the password, and the user name has no colon; any other value is refused for the first cause that
there is. A header value that is made from a user name and a password is accepted if and only if these spell, with a
colon between them, what the expected ones spell. -/
theorem check_exact (c : Credentials) :
    (∀ header, c.check header = .ok () ↔ c.Opened header) ∧
      (∀ header d, c.check header = .error d ↔ c.Denied header d) ∧
      (':' ∉ c.username.toList →
        c.check (some (header c.username c.password)) = .ok () ∧
          ∀ username password, c.check (some (header username password)) = .ok () ↔
            username ++ ":" ++ password = c.username ++ ":" ++ c.password) := by
  refine ⟨fun _ => check_eq_ok_iff, fun _ _ => check_eq_error_iff, fun hname => ⟨?_, ?_⟩⟩
  · exact check_of_opened (opened_header_iff.2 ⟨rfl, hname⟩)
  · intro username password
    rw [check_eq_ok_iff, opened_header_iff]
    exact and_iff_left hname

/-- A password may hold colons: the header value does not tell where it begins. -/
theorem check_exact_colons :
    ':' ∉ "user".toList ∧
      check ⟨"user", "pa:ss:word"⟩ (some (header "user:pa" "ss:word")) = .ok () ∧
      check ⟨"user", "pa:ss:word"⟩ (some (header "user" "pa:ss")) ≠ .ok () := by
  have hname : ':' ∉ "user".toList := by decide
  obtain ⟨-, -, hmade⟩ := check_exact ⟨"user", "pa:ss:word"⟩
  exact ⟨hname, ((hmade hname).2 _ _).2 (by decide), fun h => absurd (((hmade hname).2 _ _).1 h) (by decide)⟩

end Credentials

end TelemetryGateway.Access
