import Mathlib
import TelemetryGateway.Metrics.Exposition

/-!
# What the page of metrics shows

Every sample of every metric stands on the page on a line of its own, with the name and the labels before the value.

## Main definitions

- `Shows`: a page has a line with a name and a value
- `books`: the counters of requests and the keys of the limiter, by the names on the page

## Main statements

- `exposition_shows`: every sample is on the page
- `exposition_shows_books`: the page shows the books
-/

namespace TelemetryGateway.Metrics

/-- A page has a line with a name and a value. -/
def Shows (page name value : String) : Prop :=
  ∃ before after, page = before ++ "\n" ++ (name ++ " " ++ value) ++ "\n" ++ after

/-- Where a separator starts and ends like the whole, so does every part. -/
theorem exists_intercalate_eq {sep lead trail s t part : String} {parts : List String} (hlead : sep = s ++ lead)
    (htrail : sep = trail ++ t) (h : part ∈ parts) :
    ∃ before after, lead ++ sep.intercalate parts ++ trail = before ++ (lead ++ part ++ trail) ++ after := by
  induction parts with
  | nil => cases h
  | cons first rest ih =>
    cases rest with
    | nil =>
      rw [List.mem_singleton] at h
      refine ⟨"", "", ?_⟩
      rw [h, String.intercalate_singleton, String.empty_append, String.append_empty]
    | cons second rest =>
      rw [String.intercalate_cons_cons]
      rcases List.mem_cons.1 h with heq | hrest
      · refine ⟨"", t ++ sep.intercalate (second :: rest) ++ trail, ?_⟩
        nth_rewrite 1 [htrail]
        rw [heq]
        simp only [String.append_assoc, String.empty_append]
      · obtain ⟨before, after, heq⟩ := ih hrest
        refine ⟨lead ++ first ++ s ++ before, after, ?_⟩
        calc lead ++ (first ++ sep ++ sep.intercalate (second :: rest)) ++ trail
            = lead ++ first ++ s ++ (lead ++ sep.intercalate (second :: rest) ++ trail) := by
              nth_rewrite 1 [hlead]
              simp only [String.append_assoc]
          _ = lead ++ first ++ s ++ before ++ (lead ++ part ++ trail) ++ after := by
              rw [heq]
              simp only [String.append_assoc]

/-- The lines of the samples come behind two others. -/
theorem intercalate_lines (f : Family) (h : f.samples ≠ []) :
    ∃ heading, "\n".intercalate f.lines =
      heading ++ ("\n" ++ "\n".intercalate (f.samples.map (Sample.line f.name))) := by
  have hne : f.samples.map (Sample.line f.name) ≠ [] := mt List.map_eq_nil_iff.1 h
  refine ⟨"# HELP " ++ f.name ++ " " ++ f.help ++ "\n" ++ ("# TYPE " ++ f.name ++ " " ++ f.kind.label), ?_⟩
  have hlines : f.lines = ("# HELP " ++ f.name ++ " " ++ f.help) :: ("# TYPE " ++ f.name ++ " " ++ f.kind.label) ::
      f.samples.map (Sample.line f.name) := rfl
  rw [hlines, String.intercalate_cons_cons, String.intercalate_cons_of_ne_nil hne]
  simp only [String.append_assoc]

/-- Every sample is on the page, under its name and its labels. -/
theorem exposition_shows {uptime : String} {c : Counters} {f : Family} {s : Sample} (hf : f ∈ families uptime c)
    (hs : s ∈ f.samples) : Shows (exposition uptime c) (f.name ++ s.suffix ++ labelsText s.labels) s.value := by
  have hblock : "\n".intercalate f.lines ∈ (families uptime c).map fun f => "\n".intercalate f.lines :=
    List.mem_map_of_mem hf
  have hline : s.line f.name ∈ f.samples.map (Sample.line f.name) := List.mem_map_of_mem hs
  have hblank : "\n\n" = "\n\n" ++ "" := by decide
  have hblank' : "\n\n" = "\n" ++ "\n" := by decide
  have hend : "\n" = "" ++ "\n" := by decide
  have hend' : "\n" = "\n" ++ "" := by decide
  obtain ⟨heading, hlines⟩ := intercalate_lines f (List.ne_nil_of_mem hs)
  obtain ⟨before, after, hpage⟩ := exists_intercalate_eq hblank hblank' hblock
  obtain ⟨before', after', hsamples⟩ := exists_intercalate_eq hend hend' hline
  refine ⟨before ++ heading ++ before', after' ++ after, ?_⟩
  calc exposition uptime c
      = before ++ ("" ++ "\n".intercalate f.lines ++ "\n") ++ after := by
        rw [← hpage, String.empty_append]
        rfl
    _ = before ++ heading ++
          ("\n" ++ "\n".intercalate (f.samples.map (Sample.line f.name)) ++ "\n") ++ after := by
        rw [hlines]
        simp only [String.append_assoc, String.empty_append]
    _ = before ++ heading ++ (before' ++ ("\n" ++ s.line f.name ++ "\n") ++ after') ++ after := by
        rw [hsamples]
    _ = before ++ heading ++ before' ++ "\n" ++
          (f.name ++ s.suffix ++ labelsText s.labels ++ " " ++ s.value) ++ "\n" ++ (after' ++ after) := by
        simp only [Sample.line, String.append_assoc]

/-- The counters of requests and the keys of the limiter, by the names on the page. -/
def books (c : Counters) : List (String × String) :=
  [ ("telegate_requests_total", toString c.total.toNat),
    ("telegate_requests_by_transport\x7btransport=\"http\"\x7d", toString c.http.toNat),
    ("telegate_requests_by_transport\x7btransport=\"grpc\"\x7d", toString c.grpc.toNat),
    ("telegate_requests_accepted", toString c.accepted.toNat),
    ("telegate_requests_rejected\x7breason=\"unauthorized\"\x7d", toString c.unauthorized.toNat),
    ("telegate_requests_rejected\x7breason=\"rate_limited\"\x7d", toString c.rateLimited.toNat),
    ("telegate_requests_rejected\x7breason=\"invalid\"\x7d", toString c.invalid.toNat),
    ("telegate_requests_rejected\x7breason=\"malformed\"\x7d", toString c.malformed.toNat),
    ("telegate_rate_limiter_keys", toString c.trackedKeys) ]

theorem Shows.named {page name name' value : String} (h : Shows page name value) (hname : name = name') :
    Shows page name' value := hname ▸ h

/-- The page shows the books. -/
theorem exposition_shows_books (uptime : String) (c : Counters) :
    ∀ entry ∈ books c, Shows (exposition uptime c) entry.1 entry.2 := by
  -- The entries are found on the page by the places of the metric and of the sample
  have hshows : ∀ (i j : Nat) {f : Family} {s : Sample}, (families uptime c)[i]? = some f →
      f.samples[j]? = some s →
        Shows (exposition uptime c) (f.name ++ s.suffix ++ labelsText s.labels) s.value := by
    intro i j f s hf hs
    exact exposition_shows (List.mem_of_getElem? hf) (List.mem_of_getElem? hs)
  intro entry hentry
  simp only [books, List.mem_cons, List.not_mem_nil, or_false] at hentry
  rcases hentry with rfl | rfl | rfl | rfl | rfl | rfl | rfl | rfl | rfl
  · have h := hshows 1 0 rfl rfl
    exact h.named (by dsimp only [plain]; decide)
  · have h := hshows 2 0 rfl rfl
    exact h.named (by dsimp only [Transport.label]; decide)
  · have h := hshows 2 1 rfl rfl
    exact h.named (by dsimp only [Transport.label]; decide)
  · have h := hshows 3 0 rfl rfl
    exact h.named (by dsimp only [plain]; decide)
  · have h := hshows 4 0 rfl rfl
    exact h.named (by dsimp only [Rejection.label]; decide)
  · have h := hshows 4 1 rfl rfl
    exact h.named (by dsimp only [Rejection.label]; decide)
  · have h := hshows 4 2 rfl rfl
    exact h.named (by dsimp only [Rejection.label]; decide)
  · have h := hshows 4 3 rfl rfl
    exact h.named (by dsimp only [Rejection.label]; decide)
  · have h := hshows 8 0 rfl rfl
    exact h.named (by dsimp only [plain]; decide)

end TelemetryGateway.Metrics
