import Mathlib
import TelemetryGateway.Http.Cors
import TelemetryGateway.Proofs.Settings.Completion

/-!
# Blanks around the entries of a policy

Settings name sites, methods and headers, and blanks around a name do not count, with one exception: the entry that
stands for all sites is looked for before blanks are taken away. With blanks around it, it is found only afterwards,
among the sites of a list, where it may not stand, and there is no policy.

## Main definitions

- `Padded`: a text with blanks around it
- `Settings.Cors.Padded`: settings with blanks around their entries

## Main statements

- `trim_padded`: blanks around a text are taken away
- `Policy.create_eq_ok_iff`: the policy of settings
- `Policy.create_eq_wildcard_iff`: where the entry for all sites stands in a list
- `Policy.ofSettings_padded`: what blanks around entries change
-/

namespace TelemetryGateway

open TelemetryGateway.Text (isBlank lowercase trim trimChars uppercase)

/-- A text with blanks around it. -/
def Padded (entry padded : String) : Prop :=
  ∃ front back : List Char, (∀ c ∈ front, isBlank c = true) ∧ (∀ c ∈ back, isBlank c = true) ∧
    padded.toList = front ++ entry.toList ++ back

/-- Settings with blanks around their entries. -/
structure Settings.Cors.Padded (s s' : Settings.Cors) : Prop where
  enabled : s'.enabled = s.enabled
  origins : List.Forall₂ TelemetryGateway.Padded s.allowedOrigins s'.allowedOrigins
  methods : List.Forall₂ TelemetryGateway.Padded s.allowedMethods s'.allowedMethods
  headers : List.Forall₂ TelemetryGateway.Padded s.allowedHeaders s'.allowedHeaders

/-! ## Blanks around a text -/

theorem Padded.refl (entry : String) : Padded entry entry :=
  ⟨[], [], by simp, by simp, by simp⟩

/-- Blanks in front of a text and behind it are taken away. -/
theorem trimChars_append {front back : List Char} (hfront : ∀ c ∈ front, isBlank c = true)
    (hback : ∀ c ∈ back, isBlank c = true) (cs : List Char) : trimChars (front ++ cs ++ back) = trimChars cs := by
  have hreverse : ∀ c ∈ back.reverse, isBlank c = true := fun c hc => hback c (List.mem_reverse.1 hc)
  rw [trimChars, trimChars, List.append_assoc, List.dropWhile_append_of_pos hfront, List.dropWhile_append]
  split
  -- Nothing but blanks
  · next hempty =>
    have hnothing : back.dropWhile isBlank = [] := List.dropWhile_eq_nil_iff.2 hback
    rw [hnothing, List.isEmpty_iff.1 hempty]
  · rw [List.reverse_append, List.dropWhile_append_of_pos hreverse]

theorem trim_padded {entry padded : String} (h : Padded entry padded) : trim padded = trim entry := by
  obtain ⟨front, back, hfront, hback, hpadded⟩ := h
  rw [trim, trim, hpadded, trimChars_append hfront hback]

theorem map_trim_padded {entries entries' : List String} (h : List.Forall₂ Padded entries entries') :
    entries'.map trim = entries.map trim := by
  induction h with
  | nil => rfl
  | cons hfirst _ ih => rw [List.map_cons, List.map_cons, trim_padded hfirst, ih]

namespace Http

/-- What is blank and holds nothing but stars holds nothing. -/
theorem eq_nil_of_blanks {cs : List Char} (hblank : ∀ c ∈ cs, isBlank c = true) (hstar : ∀ c ∈ cs, c = '*') :
    cs = [] := by
  rw [List.eq_nil_iff_forall_not_mem]
  intro c hc
  have h := hblank c hc
  rw [hstar c hc] at h
  exact absurd h (by decide)

/-- The entry for all sites has no blanks in it, so it is no other text with blanks around it. -/
theorem eq_wildcard_of_padded {entry : String} (h : Padded entry wildcard) : entry = wildcard := by
  obtain ⟨front, back, hfront, hback, hpadded⟩ := h
  have hstar : ∀ c ∈ front ++ entry.toList ++ back, c = '*' := by
    rw [← hpadded]
    exact fun c hc => List.mem_singleton.1 hc
  have hnofront : front = [] := eq_nil_of_blanks hfront fun c hc => hstar c (by simp [hc])
  have hnoback : back = [] := eq_nil_of_blanks hback fun c hc => hstar c (by simp [hc])
  rw [hnofront, hnoback, List.nil_append, List.append_nil] at hpadded
  exact String.toList_injective hpadded.symm

theorem wildcard_mem_of_padded {entries entries' : List String} (h : List.Forall₂ Padded entries entries')
    (hmem : wildcard ∈ entries') : wildcard ∈ entries := by
  induction h with
  | nil => exact hmem
  | cons hfirst _ ih =>
    rcases List.mem_cons.1 hmem with hhere | hthere
    · rw [← hhere] at hfirst
      rw [eq_wildcard_of_padded hfirst]
      exact List.mem_cons_self
    · exact List.mem_cons_of_mem _ (ih hthere)

/-! ## Reading lists of names -/

/-- A list of names is read name by name. -/
theorem mapM_eq_ok_iff {f : String → Except PolicyFlaw String} {name : String → String} {good : String → Prop}
    (hf : ∀ entry n, f entry = .ok n ↔ n = name entry ∧ good n) {entries names : List String} :
    entries.mapM f = .ok names ↔ names = entries.map name ∧ ∀ n ∈ names, good n := by
  induction entries generalizing names with
  | nil =>
    simp only [List.mapM_nil, List.map_nil, pure, Except.pure, Except.ok.injEq]
    constructor
    · rintro rfl
      simp
    · rintro ⟨rfl, -⟩
      rfl
  | cons entry entries ih =>
    simp only [List.mapM_cons, bind_eq_ok_iff, hf, ih, pure, Except.pure, Except.ok.injEq]
    constructor
    · rintro ⟨n, ⟨rfl, hgood⟩, ns, ⟨rfl, hall⟩, rfl⟩
      exact ⟨rfl, List.forall_mem_cons.2 ⟨hgood, hall⟩⟩
    · rintro ⟨rfl, hall⟩
      obtain ⟨hgood, hall⟩ := List.forall_mem_cons.1 hall
      exact ⟨_, ⟨rfl, hgood⟩, _, ⟨rfl, hall⟩, rfl⟩

/-- A list of names has no fault that none of the names has. -/
theorem mapM_ne_error {f : String → Except PolicyFlaw String} {flaw : PolicyFlaw}
    (hf : ∀ entry, f entry ≠ .error flaw) (entries : List String) : entries.mapM f ≠ .error flaw := by
  induction entries with
  | nil => simp [pure, Except.pure]
  | cons entry entries ih => simp [bind_eq_error_iff, hf, ih, pure, Except.pure]

section Names

variable (good : String → Prop) [DecidablePred good] {name n : String} {flaw flaw' : PolicyFlaw}

theorem ite_eq_ok_iff : (if good name then Except.ok name else .error flaw) = .ok n ↔ n = name ∧ good n := by
  by_cases hgood : good name
  · rw [if_pos hgood, Except.ok.injEq]
    constructor
    · rintro rfl
      exact ⟨rfl, hgood⟩
    · rintro ⟨rfl, -⟩
      rfl
  · rw [if_neg hgood]
    constructor
    · intro h
      cases h
    · rintro ⟨rfl, h⟩
      exact absurd h hgood

theorem ite_ne_error (h : flaw ≠ flaw') : (if good name then Except.ok name else .error flaw) ≠ .error flaw' := by
  split
  · simp
  · simpa using h

end Names

theorem readOrigin_eq_ok_iff (entry n : String) :
    readOrigin entry = .ok n ↔ n = trim entry ∧ n.toList.all isHeaderChar = true := by
  unfold readOrigin
  exact ite_eq_ok_iff (fun n => n.toList.all isHeaderChar = true)

theorem readMethod_eq_ok_iff (entry n : String) :
    readMethod entry = .ok n ↔ n = uppercase (trim entry) ∧ isToken n = true := by
  unfold readMethod
  exact ite_eq_ok_iff (fun n => isToken n = true)

theorem readHeader_eq_ok_iff (entry n : String) :
    readHeader entry = .ok n ↔ n = lowercase (trim entry) ∧ isToken n = true ∧ n.length ≤ maxHeaderName := by
  unfold readHeader
  exact ite_eq_ok_iff (fun n => isToken n = true ∧ n.length ≤ maxHeaderName)

theorem readOrigin_ne_wildcard (entry : String) : readOrigin entry ≠ .error .wildcardAmongOrigins := by
  unfold readOrigin
  exact ite_ne_error (fun n => n.toList.all isHeaderChar = true) (by simp)

theorem readMethod_ne_wildcard (entry : String) : readMethod entry ≠ .error .wildcardAmongOrigins := by
  unfold readMethod
  exact ite_ne_error (fun n => isToken n = true) (by simp)

theorem readHeader_ne_wildcard (entry : String) : readHeader entry ≠ .error .wildcardAmongOrigins := by
  unfold readHeader
  exact ite_ne_error (fun n => isToken n = true ∧ n.length ≤ maxHeaderName) (by simp)

/-! ## The sites of a list -/

/-- The sites that a list of entries allows. The entry for all of them counts as it stands, and blanks around the
others do not. -/
inductive Allows (entries : List String) : Origins → Prop
  | any (hall : entries = [] ∨ wildcard ∈ entries) : Allows entries .any
  | listed (hsome : entries ≠ []) (hbare : wildcard ∉ entries) (htrimmed : wildcard ∉ entries.map trim)
      (hgood : ∀ n ∈ entries.map trim, n.toList.all isHeaderChar = true) : Allows entries (.listed (entries.map trim))

theorem readOrigins_of_bare {entries : List String} (h : entries = [] ∨ wildcard ∈ entries) :
    readOrigins entries = .ok .any := by
  have htest : (entries.isEmpty || entries.contains wildcard) = true := by simpa using h
  rw [readOrigins, if_pos htest]

theorem readOrigins_of_not_bare {entries : List String} (hsome : entries ≠ []) (hbare : wildcard ∉ entries) :
    readOrigins entries = entries.mapM readOrigin >>= fun origins =>
      if origins.contains wildcard then .error .wildcardAmongOrigins else .ok (.listed origins) := by
  have htest : ¬ (entries.isEmpty || entries.contains wildcard) = true := by simpa using ⟨hsome, hbare⟩
  rw [readOrigins, if_neg htest]

theorem readOrigins_eq_ok_iff {entries : List String} {origins : Origins} :
    readOrigins entries = .ok origins ↔ Allows entries origins := by
  by_cases hall : entries = [] ∨ wildcard ∈ entries
  · rw [readOrigins_of_bare hall, Except.ok.injEq]
    constructor
    · rintro rfl
      exact .any hall
    · intro h
      cases h with
      | any _ => rfl
      | listed hsome hbare => exact absurd hall (not_or.2 ⟨hsome, hbare⟩)
  · obtain ⟨hsome, hbare⟩ := not_or.1 hall
    simp only [readOrigins_of_not_bare hsome hbare, bind_eq_ok_iff, mapM_eq_ok_iff readOrigin_eq_ok_iff]
    constructor
    · rintro ⟨origins, ⟨rfl, hgood⟩, hlisted⟩
      split at hlisted
      · cases hlisted
      · next htrimmed =>
        cases hlisted
        exact .listed hsome hbare (by simpa using htrimmed) hgood
    · intro h
      cases h with
      | any hall' => exact absurd hall' hall
      | listed _ _ htrimmed hgood =>
        exact ⟨_, ⟨rfl, hgood⟩, if_neg (by simpa using htrimmed)⟩

theorem readOrigins_eq_wildcard_iff {entries : List String} :
    readOrigins entries = .error .wildcardAmongOrigins ↔
      wildcard ∉ entries ∧ wildcard ∈ entries.map trim ∧
        ∀ n ∈ entries.map trim, n.toList.all isHeaderChar = true := by
  by_cases hall : entries = [] ∨ wildcard ∈ entries
  · rw [readOrigins_of_bare hall]
    constructor
    · intro h
      cases h
    · rintro ⟨hbare, htrimmed, -⟩
      rcases hall with rfl | hmem
      · cases htrimmed
      · exact absurd hmem hbare
  · obtain ⟨hsome, hbare⟩ := not_or.1 hall
    simp only [readOrigins_of_not_bare hsome hbare, bind_eq_error_iff, mapM_ne_error readOrigin_ne_wildcard,
      mapM_eq_ok_iff readOrigin_eq_ok_iff, false_or]
    constructor
    · rintro ⟨origins, ⟨rfl, hgood⟩, hwildcard⟩
      split at hwildcard
      · next htrimmed => exact ⟨hbare, by simpa using htrimmed, hgood⟩
      · cases hwildcard
    · rintro ⟨-, htrimmed, hgood⟩
      exact ⟨_, ⟨rfl, hgood⟩, if_pos (by simpa using htrimmed)⟩

/-- Blanks around entries change nothing, unless they stand around the entry for all sites. -/
theorem allows_padded_iff {entries entries' : List String} (h : List.Forall₂ Padded entries entries')
    {origins : Origins} :
    Allows entries' origins ↔ Allows entries origins ∧ ¬ (wildcard ∈ entries ∧ wildcard ∉ entries') := by
  have hnames := map_trim_padded h
  have hempty : entries' = [] ↔ entries = [] := by
    rw [← List.length_eq_zero_iff, ← h.length_eq, List.length_eq_zero_iff]
  have htrim : wildcard ∈ entries → wildcard ∈ entries'.map trim := by
    intro hmem
    rw [hnames]
    exact List.mem_map.2 ⟨wildcard, hmem, by decide⟩
  constructor
  · intro hallows
    cases hallows with
    | any hall =>
      rcases hall with hnone | hmem
      · have hnone' := hempty.1 hnone
        exact ⟨.any (.inl hnone'), fun hbad => by simp [hnone'] at hbad⟩
      · exact ⟨.any (.inr (wildcard_mem_of_padded h hmem)), fun hbad => hbad.2 hmem⟩
    | listed hsome hbare htrimmed hgood =>
      have hbare' : wildcard ∉ entries := mt htrim htrimmed
      rw [hnames] at htrimmed hgood ⊢
      exact ⟨.listed (mt hempty.2 hsome) hbare' htrimmed hgood, fun hbad => hbare' hbad.1⟩
  · rintro ⟨hallows, hkept⟩
    cases hallows with
    | any hall =>
      rcases hall with hnone | hmem
      · exact .any (.inl (hempty.2 hnone))
      · exact .any (.inr (by_contra fun hlost => hkept ⟨hmem, hlost⟩))
    | listed hsome hbare htrimmed hgood =>
      rw [← hnames] at htrimmed hgood ⊢
      exact .listed (mt hempty.1 hsome) (mt (wildcard_mem_of_padded h) hbare) htrimmed hgood

/-! ## The policy -/

/-- Names of a list or of its default, with blanks taken away. -/
theorem map_orElseList_padded {entries entries' : List String} (h : List.Forall₂ Padded entries entries')
    (fallback : List String) (f : String → String) :
    (orElseList entries' fallback).map (fun e => f (trim e)) = (orElseList entries fallback).map fun e => f (trim e) := by
  cases h with
  | nil => rfl
  | cons hfirst hrest =>
    have hnames := map_trim_padded (.cons hfirst hrest)
    simpa [orElseList, Function.comp_def] using congrArg (List.map f) hnames

namespace Policy

/-- The policy of settings: sites, methods and headers without the blanks around them. -/
theorem create_eq_ok_iff {s : Settings.Cors} {p : Policy} :
    create s = .ok p ↔ Allows s.allowedOrigins p.origins ∧
      (p.methods = (orElseList s.allowedMethods defaultMethods).map (fun e => uppercase (trim e)) ∧
        ∀ n ∈ p.methods, isToken n = true) ∧
      (p.headers = (orElseList s.allowedHeaders defaultHeaders).map (fun e => lowercase (trim e)) ∧
        ∀ n ∈ p.headers, isToken n = true ∧ n.length ≤ maxHeaderName) := by
  simp only [create, bind_eq_ok_iff, readOrigins_eq_ok_iff, mapM_eq_ok_iff readMethod_eq_ok_iff,
    mapM_eq_ok_iff readHeader_eq_ok_iff, pure, Except.pure, Except.ok.injEq]
  constructor
  · rintro ⟨origins, horigins, methods, hmethods, headers, hheaders, rfl⟩
    exact ⟨horigins, hmethods, hheaders⟩
  · rintro ⟨horigins, hmethods, hheaders⟩
    exact ⟨_, horigins, _, hmethods, _, hheaders, rfl⟩

/-- Only the sites of a list may hold the entry for all of them where it may not stand. -/
theorem create_eq_wildcard_iff {s : Settings.Cors} :
    create s = .error .wildcardAmongOrigins ↔ readOrigins s.allowedOrigins = .error .wildcardAmongOrigins := by
  simp [create, bind_eq_error_iff, mapM_ne_error readMethod_ne_wildcard, mapM_ne_error readHeader_ne_wildcard,
    pure, Except.pure]

theorem create_padded_iff {s s' : Settings.Cors} (h : s.Padded s') {p : Policy} :
    create s' = .ok p ↔ create s = .ok p ∧ ¬ (wildcard ∈ s.allowedOrigins ∧ wildcard ∉ s'.allowedOrigins) := by
  rw [create_eq_ok_iff, create_eq_ok_iff, allows_padded_iff h.origins, map_orElseList_padded h.methods,
    map_orElseList_padded h.headers]
  exact and_right_comm

theorem ofSettings_eq_some_iff {s : Settings.Cors} (h : s.enabled = true) {p : Policy} :
    ofSettings s = .ok (some p) ↔ create s = .ok p := by
  rw [ofSettings, if_pos h]
  cases create s <;> simp [Except.map]

theorem ofSettings_eq_error_iff {s : Settings.Cors} (h : s.enabled = true) {flaw : PolicyFlaw} :
    ofSettings s = .error flaw ↔ create s = .error flaw := by
  rw [ofSettings, if_pos h]
  cases create s <;> simp [Except.map]

/-- **What blanks around entries change.** Settings with blanks around their sites, methods and headers make the same
policy or none, as they do without, except that all sites are allowed only where the list is empty or has the entry
for all of them as it stands. With blanks around that entry there is no policy, although no entry of the list is at
fault. -/
theorem ofSettings_padded {s : Settings.Cors} (henabled : s.enabled = true) :
    (ofSettings s = .error .wildcardAmongOrigins ↔
        wildcard ∉ s.allowedOrigins ∧ wildcard ∈ s.allowedOrigins.map trim ∧
          ∀ n ∈ s.allowedOrigins.map trim, n.toList.all isHeaderChar = true) ∧
      (∀ s', s.Padded s' → ∀ p, ofSettings s' = .ok (some p) ↔
        ofSettings s = .ok (some p) ∧ ¬ (wildcard ∈ s.allowedOrigins ∧ wildcard ∉ s'.allowedOrigins)) ∧
      (∀ p, ofSettings s = .ok (some p) →
        (p.origins = .any ↔ s.allowedOrigins = [] ∨ wildcard ∈ s.allowedOrigins)) := by
  refine ⟨?_, ?_, ?_⟩
  · rw [ofSettings_eq_error_iff henabled, create_eq_wildcard_iff, readOrigins_eq_wildcard_iff]
  · intro s' h p
    rw [ofSettings_eq_some_iff henabled, ofSettings_eq_some_iff (h.enabled.trans henabled), create_padded_iff h]
  · intro p hp
    obtain ⟨hallows, -, -⟩ := create_eq_ok_iff.1 ((ofSettings_eq_some_iff henabled).1 hp)
    generalize p.origins = origins at hallows
    cases hallows with
    | any hall => simp [hall]
    | listed hsome hbare => simp [hsome, hbare]

/-- Two sites, of which the second stands for all of them. -/
def starred : Settings.Cors := { enabled := true, allowedOrigins := ["https://a.example", "*"] }

/-- The same sites, as they are split off `https://a.example, *` at the comma. -/
def starredBehindBlank : Settings.Cors := { enabled := true, allowedOrigins := ["https://a.example", " *"] }

theorem ofSettings_padded_star :
    (∃ p, ofSettings starred = .ok (some p) ∧ p.origins = .any) ∧
      ofSettings starredBehindBlank = .error .wildcardAmongOrigins ∧
      ∀ p, ofSettings starredBehindBlank ≠ .ok (some p) := by
  have henabled : starred.enabled = true ∧ starredBehindBlank.enabled = true := ⟨rfl, rfl⟩
  obtain ⟨-, hsame, hany⟩ := ofSettings_padded henabled.1
  obtain ⟨hlost, -, -⟩ := ofSettings_padded henabled.2
  have hpadded : starred.Padded starredBehindBlank :=
    ⟨rfl, .cons (.refl _) (.cons ⟨[' '], [], by simp; decide, by simp, rfl⟩ .nil), .nil, .nil⟩
  have hok : ofSettings starred = .ok (some ⟨.any, defaultMethods, defaultHeaders.map lowercase⟩) := by
    decide +kernel
  refine ⟨⟨_, hok, (hany _ hok).2 (.inr (by decide))⟩, hlost.2 (by decide +kernel), ?_⟩
  intro p hp
  exact ((hsame _ hpadded p).1 hp).2 (by decide)

end Policy

end Http

end TelemetryGateway
