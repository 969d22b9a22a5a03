import Mathlib
import TelemetryGateway.Metrics.Exposition

/-!
# The lines of the page of metrics

Split at the ends of its lines, the page is made of remarks, blank lines and samples. The samples are those of all
metrics in their order: each has a name with its labels and carries the counter that the name stands for.

## Main definitions

- `linesOf`, `sampleLines`: the lines of a page, and those that are samples
- `Figure`: what a sample carries
- `ledger`: what all samples carry, by the names on the page

## Main statements

- `linesOf_exposition`: the lines of the page, one by one
- `sampleLines_exposition`: the samples on the page are those of the ledger
-/

namespace TelemetryGateway.Metrics

/-- The lines of a page; what stands behind the last end of a line is one too. -/
def linesOf (page : String) : List String :=
  (page.toList.splitOn '\n').map String.ofList

/-- A line that is no remark, and not blank. -/
def isSample (line : String) : Bool :=
  match line.toList with
  | [] => false
  | c :: _ => c != '#'

def sampleLines (page : String) : List String :=
  (linesOf page).filter isSample

/-- What a sample carries: a number, or a time in microseconds that is told in seconds. -/
inductive Figure where
  | count (n : Nat)
  | seconds (micros : UInt64)
deriving DecidableEq

def Figure.text : Figure → String
  | .count n => toString n
  | .seconds micros => secondsText micros

/-- All samples by their names and labels, with what they carry. -/
def ledger (uptime : Nat) (c : Counters) : List (String × Figure) :=
  [ ("telegate_uptime_seconds", .count uptime),
    ("telegate_requests_total", .count c.total.toNat),
    ("telegate_requests_by_transport\x7btransport=\"http\"\x7d", .count c.http.toNat),
    ("telegate_requests_by_transport\x7btransport=\"grpc\"\x7d", .count c.grpc.toNat),
    ("telegate_requests_accepted", .count c.accepted.toNat),
    ("telegate_requests_rejected\x7breason=\"unauthorized\"\x7d", .count c.unauthorized.toNat),
    ("telegate_requests_rejected\x7breason=\"rate_limited\"\x7d", .count c.rateLimited.toNat),
    ("telegate_requests_rejected\x7breason=\"invalid\"\x7d", .count c.invalid.toNat),
    ("telegate_requests_rejected\x7breason=\"malformed\"\x7d", .count c.malformed.toNat),
    ("telegate_documents_enqueued", .count c.enqueued.toNat),
    ("telegate_indexing_failures", .count c.failures.toNat),
    ("telegate_request_duration_bucket\x7ble=\"0.001\"\x7d", .count c.under1ms.toNat),
    ("telegate_request_duration_bucket\x7ble=\"0.01\"\x7d", .count (c.under1ms + c.under10ms).toNat),
    ("telegate_request_duration_bucket\x7ble=\"0.1\"\x7d",
      .count (c.under1ms + c.under10ms + c.under100ms).toNat),
    ("telegate_request_duration_bucket\x7ble=\"1\"\x7d",
      .count (c.under1ms + c.under10ms + c.under100ms + c.under1s).toNat),
    ("telegate_request_duration_bucket\x7ble=\"+Inf\"\x7d", .count c.latencyCount.toNat),
    ("telegate_request_duration_sum", .seconds c.latencySum),
    ("telegate_request_duration_count", .count c.latencyCount.toNat),
    ("telegate_rate_limiter_keys", .count c.trackedKeys) ]

def entryLine (entry : String × Figure) : String :=
  entry.1 ++ " " ++ entry.2.text

/-! ## Texts of one line -/

/-- A text that ends no line. -/
def OneLine (text : String) : Prop := '\n' ∉ text.toList

namespace OneLine

instance (text : String) : Decidable (OneLine text) :=
  inferInstanceAs (Decidable (¬ '\n' ∈ text.toList))

/-- A text that is spelled out is looked at character by character. -/
theorem ofList {cs : List Char} (h : '\n' ∉ cs) : OneLine (String.ofList cs) := by
  rwa [OneLine, String.toList_ofList]

theorem append {s t : String} (hs : OneLine s) (ht : OneLine t) : OneLine (s ++ t) := by
  intro h
  rw [String.toList_append] at h
  exact (List.mem_append.1 h).elim hs ht

theorem natural (n : Nat) : OneLine (toString n) := by
  intro h
  rw [Nat.toString_eq_repr, Nat.toList_repr] at h
  exact absurd (Nat.isDigit_of_mem_toDigits (by decide) (by decide) h) (by decide)

/-- A number on a fixed count of places is made of digits and a point. -/
theorem onPlaces (x : Float) (places : Nat) : OneLine (Number.Real.onPlaces x places) := by
  have hdigit : ∀ k n, '\n' ∉ Number.zeros k ++ Number.digitsOf n := by
    intro k n h
    rcases List.mem_append.1 h with hzero | hdigit
    · exact absurd (List.eq_of_mem_replicate hzero) (by decide)
    · exact absurd (Nat.isDigit_of_mem_toDigits (by decide) (by decide) hdigit) (by decide)
  intro h
  rw [Number.Real.onPlaces, String.toList_ofList] at h
  rcases List.mem_append.1 h with hwhole | hplaces
  · exact hdigit _ _ (List.mem_of_mem_take hwhole)
  · rcases List.mem_cons.1 hplaces with hpoint | hplaces
    · exact absurd hpoint (by decide)
    · exact hdigit _ _ (List.mem_of_mem_drop hplaces)

theorem figure (f : Figure) : OneLine f.text := by
  cases f with
  | count n => exact natural n
  | seconds micros => exact onPlaces _ 6

end OneLine

/-! ## Splitting a page -/

/-- Lines that are put together are split again. -/
theorem linesOf_intercalate {ls : List String} (hne : ls ≠ []) (h : ∀ l ∈ ls, OneLine l) :
    linesOf ("\n".intercalate ls) = ls := by
  have hend : "\n".toList = ['\n'] := by decide
  have hlines : ∀ cs ∈ ls.map String.toList, '\n' ∉ cs := by
    intro cs hcs
    obtain ⟨l, hl, rfl⟩ := List.mem_map.1 hcs
    exact h l hl
  rw [linesOf, String.toList_intercalate, hend, List.splitOn_intercalate _ hlines (by simpa using hne), List.map_map]
  simp

/-- With a blank line between them, blocks of lines are lines with an empty one between the blocks. -/
theorem intercalate_blocks {blocks : List (List String)} (h : ∀ b ∈ blocks, b ≠ []) :
    "\n\n".intercalate (blocks.map "\n".intercalate) = "\n".intercalate ([""].intercalate blocks) := by
  have hblank : "\n\n" = "\n" ++ ("" ++ "\n") := by decide
  induction blocks with
  | nil => rfl
  | cons b rest ih =>
    obtain ⟨hb, hrest⟩ := List.forall_mem_cons.1 h
    cases rest with
    | nil => simp
    | cons b' rest =>
      have hne : [""].intercalate (b' :: rest) ≠ [] := by
        have hb' := hrest b' List.mem_cons_self
        cases rest with
        | nil => simpa using hb'
        | cons b'' rest => simp [List.intercalate_cons_cons]
      rw [List.map_cons, List.map_cons, String.intercalate_cons_cons, ← List.map_cons, ih hrest,
        List.intercalate_cons_cons, List.append_assoc, String.intercalate_append_of_ne_nil hb (by simp),
        List.singleton_append, String.intercalate_cons_of_ne_nil hne, hblank]
      simp only [String.append_assoc]

/-- The lines of metrics, with an empty one between two of them and at the end. -/
def Family.pageLines (fs : List Family) : List String :=
  [""].intercalate (fs.map Family.lines) ++ [""]

theorem exposition_eq (uptime : String) (c : Counters) :
    exposition uptime c = "\n".intercalate (Family.pageLines (families uptime c)) := by
  have hblocks : ∀ b ∈ (families uptime c).map Family.lines, b ≠ [] := by
    intro b hb
    obtain ⟨f, -, rfl⟩ := List.mem_map.1 hb
    exact List.cons_ne_nil _ _
  have hne : [""].intercalate ((families uptime c).map Family.lines) ≠ [] := by
    simp [families, List.intercalate_cons_cons]
  rw [Family.pageLines, String.intercalate_append_of_ne_nil hne (by simp), ← intercalate_blocks hblocks, List.map_map,
    String.intercalate_singleton, String.append_empty]
  rfl

/-! ## Remarks and samples -/

/-- What stands in the two lines above the samples. -/
def Family.remarks (f : Family) : List String :=
  ["# HELP " ++ f.name ++ " " ++ f.help, "# TYPE " ++ f.name ++ " " ++ f.kind.label]

/-- The name of a sample, with its labels. -/
def Sample.key (family : String) (s : Sample) : String :=
  family ++ s.suffix ++ labelsText s.labels

/-- The samples of metrics, by their names and labels. -/
def Family.entries (fs : List Family) : List (String × String) :=
  fs.flatMap fun f => f.samples.map fun s => (s.key f.name, s.value)

/-- Every sample of the page carries what the ledger says. -/
theorem entries_families (uptime : Nat) (c : Counters) :
    Family.entries (families (toString uptime) c) = (ledger uptime c).map fun e => (e.1, e.2.text) := by
  have hnames : (Family.entries (families (toString uptime) c)).map Prod.fst = (ledger uptime c).map Prod.fst := by
    -- Names do not depend on what is counted
    have hsame : (Family.entries (families (toString uptime) c)).map Prod.fst =
        (Family.entries (families "" {})).map Prod.fst := by
      simp only [Family.entries, families, plain, bucket, Sample.key, List.flatMap_cons, List.flatMap_nil, List.map_cons,
        List.map_nil, List.map_append]
    have hclosed : (Family.entries (families "" {})).map Prod.fst = (ledger 0 {}).map Prod.fst := by decide +kernel
    exact hsame.trans hclosed
  have hvalues : (Family.entries (families (toString uptime) c)).map Prod.snd =
      (ledger uptime c).map fun e => e.2.text := rfl
  rw [List.zip_of_prod hnames hvalues]
  rfl

theorem isSample_append {name rest : String} (h : name.toList.head? = some 't') : isSample (name ++ rest) = true := by
  obtain ⟨cs, hcs⟩ := List.head?_eq_some_iff.1 h
  rw [isSample, String.toList_append, hcs]
  rfl

theorem isSample_remark (rest : String) : isSample ("# " ++ rest) = false := by
  rw [isSample, String.toList_append]
  rfl

/-- Among the lines of a metric, the samples are those behind the remarks. -/
theorem filter_lines {f : Family} (h : f.name.toList.head? = some 't') :
    f.lines.filter isSample = f.samples.map (Sample.line f.name) := by
  have hremarks : f.remarks.filter isSample = [] := by
    have hhelp : isSample ("# HELP " ++ f.name ++ " " ++ f.help) = false := by
      rw [String.append_assoc, String.append_assoc]
      exact isSample_remark ("HELP " ++ (f.name ++ (" " ++ f.help)))
    have htype : isSample ("# TYPE " ++ f.name ++ " " ++ f.kind.label) = false := by
      rw [String.append_assoc, String.append_assoc]
      exact isSample_remark ("TYPE " ++ (f.name ++ (" " ++ f.kind.label)))
    simp [Family.remarks, hhelp, htype]
  have hsamples : (f.samples.map (Sample.line f.name)).filter isSample = f.samples.map (Sample.line f.name) := by
    refine List.filter_eq_self.2 fun l hl => ?_
    obtain ⟨s, -, rfl⟩ := List.mem_map.1 hl
    simp only [Sample.line, String.append_assoc]
    exact isSample_append h
  have hlines : f.lines = f.remarks ++ f.samples.map (Sample.line f.name) := rfl
  rw [hlines, List.filter_append, hremarks, hsamples, List.nil_append]

/-- Blank lines are no samples. -/
theorem filter_intercalate_blank (blocks : List (List String)) :
    ([""].intercalate blocks).filter isSample = blocks.flatMap (List.filter isSample) := by
  have hblank : isSample "" = false := by decide
  induction blocks with
  | nil => rfl
  | cons b rest ih =>
    cases rest with
    | nil => simp
    | cons b' rest =>
      rw [List.intercalate_cons_cons, List.filter_append, List.filter_append, ih]
      simp [hblank]

theorem mem_intercalate_blank {blocks : List (List String)} {l : String} (h : l ∈ [""].intercalate blocks) :
    l = "" ∨ ∃ b ∈ blocks, l ∈ b := by
  induction blocks with
  | nil => cases h
  | cons b rest ih =>
    cases rest with
    | nil => exact .inr ⟨b, List.mem_singleton_self b, by simpa using h⟩
    | cons b' rest =>
      rw [List.intercalate_cons_cons, List.append_assoc] at h
      rcases List.mem_append.1 h with hhere | hthere
      · exact .inr ⟨b, List.mem_cons_self, hhere⟩
      · rcases List.mem_append.1 hthere with hblank | hrest
        · exact .inl (List.mem_singleton.1 hblank)
        · obtain hblank | ⟨b'', hb'', hl⟩ := ih hrest
          · exact .inl hblank
          · exact .inr ⟨b'', List.mem_cons_of_mem b hb'', hl⟩

/-- All names of metrics start with the same letter. -/
theorem head?_name {uptime : String} {c : Counters} {f : Family} (hf : f ∈ families uptime c) :
    f.name.toList.head? = some 't' := by
  have hfirst : ∀ (a : Char) (cs : List Char), (String.ofList (a :: cs)).toList.head? = some a := by
    intro a cs
    rw [String.toList_ofList, List.head?_cons]
  simp only [families, List.mem_cons, List.not_mem_nil, or_false] at hf
  rcases hf with rfl | rfl | rfl | rfl | rfl | rfl | rfl | rfl | rfl <;> exact hfirst _ _

/-- No name of a metric ends a line, nor does what is said of it. -/
theorem oneLine_remarks {uptime : String} {c : Counters} {f : Family} (hf : f ∈ families uptime c) :
    ∀ l ∈ f.remarks, OneLine l := by
  have htexts : OneLine f.name ∧ OneLine f.help := by
    simp only [families, List.mem_cons, List.not_mem_nil, or_false] at hf
    rcases hf with rfl | rfl | rfl | rfl | rfl | rfl | rfl | rfl | rfl <;>
      exact ⟨.ofList (by decide), .ofList (by decide)⟩
  have hkind : OneLine f.kind.label := by cases f.kind <;> exact .ofList (by decide)
  obtain ⟨hname, hhelp⟩ := htexts
  have hblank : OneLine " " := .ofList (by decide)
  simp only [Family.remarks, List.forall_mem_cons, List.not_mem_nil, false_implies, implies_true, and_true]
  exact ⟨(((OneLine.ofList (by decide)).append hname).append hblank).append hhelp,
    (((OneLine.ofList (by decide)).append hname).append hblank).append hkind⟩

/-- No name of a sample ends a line, whatever its labels. -/
theorem oneLine_ledger {uptime : Nat} {c : Counters} : ∀ e ∈ ledger uptime c, OneLine e.1 := by
  simp only [ledger, List.forall_mem_cons, List.not_mem_nil, false_implies, implies_true, and_true]
  and_intros <;> exact .ofList (by decide)

/-- No line of a metric holds the end of another one. -/
theorem oneLine_of_mem {uptime : Nat} {c : Counters} {f : Family} (hf : f ∈ families (toString uptime) c) :
    ∀ l ∈ f.lines, OneLine l := by
  intro l hl
  have hlines : f.lines = f.remarks ++ f.samples.map (Sample.line f.name) := rfl
  rw [hlines] at hl
  rcases List.mem_append.1 hl with hremark | hsample
  · exact oneLine_remarks hf l hremark
  · obtain ⟨s, hs, rfl⟩ := List.mem_map.1 hsample
    have hentry : (s.key f.name, s.value) ∈ Family.entries (families (toString uptime) c) :=
      List.mem_flatMap.2 ⟨f, hf, List.mem_map.2 ⟨s, hs, rfl⟩⟩
    rw [entries_families] at hentry
    obtain ⟨e, he, heq⟩ := List.mem_map.1 hentry
    obtain ⟨hkey, hvalue⟩ := Prod.mk.inj heq
    show OneLine (s.key f.name ++ " " ++ s.value)
    rw [← hkey, ← hvalue]
    exact ((oneLine_ledger e he).append (.ofList (by decide))).append (.figure _)

/-- The lines of the page, one by one. -/
theorem linesOf_exposition (uptime : Nat) (c : Counters) :
    linesOf (exposition (toString uptime) c) = Family.pageLines (families (toString uptime) c) := by
  rw [exposition_eq, linesOf_intercalate (by simp [Family.pageLines])]
  intro l hl
  have hblank : OneLine "" := by decide
  rcases List.mem_append.1 hl with hmetric | hlast
  · obtain rfl | ⟨b, hb, hl⟩ := mem_intercalate_blank hmetric
    · exact hblank
    · obtain ⟨f, hf, rfl⟩ := List.mem_map.1 hb
      exact oneLine_of_mem hf l hl
  · rw [List.mem_singleton.1 hlast]
    exact hblank

/-- **The samples on the page** are those of the ledger, in its order and with nothing between them. -/
theorem sampleLines_exposition (uptime : Nat) (c : Counters) :
    sampleLines (exposition (toString uptime) c) = (ledger uptime c).map entryLine := by
  have hblank : isSample "" = false := by decide
  have hlines : ∀ f ∈ families (toString uptime) c, f.lines.filter isSample = f.samples.map (Sample.line f.name) :=
    fun f hf => filter_lines (head?_name hf)
  calc sampleLines (exposition (toString uptime) c)
      = ((families (toString uptime) c).map Family.lines).flatMap (List.filter isSample) := by
        rw [sampleLines, linesOf_exposition, Family.pageLines, List.filter_append, filter_intercalate_blank]
        simp [hblank]
    _ = (families (toString uptime) c).flatMap fun f => f.samples.map (Sample.line f.name) := by
        rw [List.flatMap_map]
        exact List.flatMap_congr hlines
    _ = (Family.entries (families (toString uptime) c)).map fun e => e.1 ++ " " ++ e.2 := by
        simp only [Family.entries, List.map_flatMap, List.map_map]
        rfl
    _ = (ledger uptime c).map entryLine := by
        rw [entries_families, List.map_map]
        rfl

end TelemetryGateway.Metrics
