import Mathlib
import TelemetryGateway.Proofs.Metrics.Conservation
import TelemetryGateway.Proofs.Text.Integer

/-!
# What the buckets of the histogram count

A bucket is labelled with a bound in seconds, and a histogram of this form says of each bucket how many requests took at
most that long. The classes of latencies that a bucket adds up end below the bound, so a request that took exactly as
long as the bound is missing from the bucket. Where there is no such request the bucket shows what its label says, and
otherwise it does not. The last bucket has no bound and holds all requests.

## Main definitions

- `LatencyClass.label`, `LatencyClass.bound?`: the label of a bucket and the seconds that it names
- `LatencyClass.below`, `LatencyClass.upTo`, `LatencyClass.meets`: latencies on the two sides of a bound, and on it
- `bucketLine`: the line of a bucket on the page

## Main statements

- `entry_mem_sampleLines`: a name stands on the page with its figure, and with no other
- `bucket_after`: what a bucket holds after recordings
- `buckets_exact`: what the page shows of a bucket, and when that is what its label says
-/

namespace TelemetryGateway.Metrics

/-! ## Bounds -/

/-- A latency in seconds. -/
def secondsOf (micros : UInt64) : ℚ :=
  micros.toNat / 1000000

namespace LatencyClass

/-- The label of the bucket that takes in a class and those below it. -/
def label : LatencyClass → String
  | under1ms => "0.001"
  | under10ms => "0.01"
  | under100ms => "0.1"
  | under1s => "1"
  | over1s => "+Inf"

/-- The seconds that the label names. -/
def bound? : LatencyClass → Option ℚ
  | under1ms => some 0.001
  | under10ms => some 0.01
  | under100ms => some 0.1
  | under1s => some 1
  | over1s => none

/-- Latencies below the bound of a bucket. -/
def below (l : LatencyClass) (micros : UInt64) : Bool :=
  l.bound?.all fun bound => secondsOf micros < bound

/-- Latencies of at most the bound: what the label of the bucket speaks of. -/
def upTo (l : LatencyClass) (micros : UInt64) : Bool :=
  l.bound?.all fun bound => secondsOf micros ≤ bound

/-- Latencies of exactly the bound. -/
def meets (l : LatencyClass) (micros : UInt64) : Bool :=
  l.bound? = some (secondsOf micros)

/-- A latency is below a bound if it has fewer microseconds. -/
theorem secondsOf_lt_iff (micros : UInt64) (bound : ℚ) (limit : Nat) (h : bound * 1000000 = limit) :
    secondsOf micros < bound ↔ micros.toNat < limit := by
  rw [secondsOf, div_lt_iff₀ (by norm_num), h, Nat.cast_lt]

/-- The classes of latencies that a bucket adds up are those below its bound. -/
theorem reaches_eq_below (l : LatencyClass) : l.reaches = l.below := by
  funext micros
  cases l with
  | under1ms =>
    have h := secondsOf_lt_iff micros 0.001 1000 (by norm_num)
    simp [reaches, below, bound?, h, UInt64.lt_iff_toNat_lt]
  | under10ms =>
    have h := secondsOf_lt_iff micros 0.01 10000 (by norm_num)
    simp [reaches, below, bound?, h, UInt64.lt_iff_toNat_lt]
  | under100ms =>
    have h := secondsOf_lt_iff micros 0.1 100000 (by norm_num)
    simp [reaches, below, bound?, h, UInt64.lt_iff_toNat_lt]
  | under1s =>
    have h := secondsOf_lt_iff micros 1 1000000 (by norm_num)
    simp [reaches, below, bound?, h, UInt64.lt_iff_toNat_lt]
  | over1s => rfl

/-- What takes at most as long as the bound either takes less or exactly as long. -/
theorem upTo_cases (l : LatencyClass) (micros : UInt64) :
    (if l.upTo micros then 1 else 0) = (if l.below micros then 1 else 0) + if l.meets micros then 1 else 0 := by
  rw [below, upTo, meets]
  cases l.bound? with
  | none => rfl
  | some bound =>
    simp only [Option.all_some, decide_eq_true_eq, Option.some.injEq]
    rcases lt_trichotomy (secondsOf micros) bound with hlt | heq | hgt
    · simp [hlt, hlt.le, hlt.ne']
    · simp [heq]
    · simp [hgt.not_gt, hgt.not_ge, hgt.ne]

end LatencyClass

/-! ## Names and figures on the page -/

/-- A name that holds no blank is what stands before the first one. -/
theorem takeWhile_name {name : String} (h : ' ' ∉ name.toList) (rest : String) :
    (name ++ " " ++ rest).toList.takeWhile (· != ' ') = name.toList := by
  have hname : ∀ c ∈ name.toList, (c != ' ') = true := fun c hc => bne_iff_ne.2 fun heq => h (heq ▸ hc)
  rw [String.append_assoc, String.toList_append, List.takeWhile_append_of_pos hname, String.toList_append]
  exact List.append_nil _

/-- Names that hold no blank are told apart from what stands behind them. -/
theorem line_inj {name name' rest rest' : String} (hname : ' ' ∉ name.toList) (hname' : ' ' ∉ name'.toList)
    (h : name ++ " " ++ rest = name' ++ " " ++ rest') : name = name' ∧ rest = rest' := by
  have heq : name = name' := by
    rw [← String.toList_inj, ← takeWhile_name hname rest, ← takeWhile_name hname' rest', h]
  subst heq
  exact ⟨rfl, (String.append_right_inj _).1 h⟩

theorem toString_inj {n m : Nat} : toString n = toString m ↔ n = m := by
  refine ⟨fun h => ?_, congrArg toString⟩
  have hdigits := Text.Integer.digits?_toString n
  rw [h, Text.Integer.digits?_toString] at hdigits
  exact (Option.some.inj hdigits).symm

/-- No name of a sample holds a blank, and none is that of two. -/
theorem ledger_names (uptime : Nat) (c : Counters) :
    (∀ e ∈ ledger uptime c, ' ' ∉ e.1.toList) ∧ ((ledger uptime c).map Prod.fst).Nodup := by
  have hsame : (ledger uptime c).map Prod.fst = (ledger 0 {}).map Prod.fst := rfl
  have hblank : ∀ name ∈ (ledger 0 {}).map Prod.fst, ' ' ∉ name.toList := by decide +kernel
  refine ⟨fun e he => hblank e.1 ?_, ?_⟩
  · rw [← hsame]
    exact List.mem_map_of_mem he
  · rw [hsame]
    decide +kernel

/-- A name stands on the page with its figure, and with no other. -/
theorem entry_mem_sampleLines {uptime : Nat} {c : Counters} {e : String × Figure} (he : e ∈ ledger uptime c)
    (text : String) : e.1 ++ " " ++ text ∈ sampleLines (exposition (toString uptime) c) ↔ text = e.2.text := by
  obtain ⟨hblank, hnodup⟩ := ledger_names uptime c
  rw [sampleLines_exposition, List.mem_map]
  constructor
  · rintro ⟨e', he', hline⟩
    obtain ⟨hname, htext⟩ := line_inj (hblank e' he') (hblank e he) hline
    rw [← htext, List.inj_on_of_nodup_map hnodup he' he hname]
  · rintro rfl
    exact ⟨e, he, rfl⟩

/-! ## Buckets -/

/-- The name of a bucket on the page. -/
def bucketName (l : LatencyClass) : String :=
  "telegate_request_duration_bucket\x7ble=\"" ++ l.label ++ "\"\x7d"

/-- The line of a bucket that shows a number. -/
def bucketLine (l : LatencyClass) (n : Nat) : String :=
  bucketName l ++ " " ++ toString n

/-- The buckets stand in the ledger. -/
theorem bucket_mem_ledger (uptime : Nat) (c : Counters) (l : LatencyClass) :
    (bucketName l, Figure.count (c.bucket l).toNat) ∈ ledger uptime c := by
  cases l with
  | under1ms => exact List.mem_of_getElem? (i := 11) rfl
  | under10ms => exact List.mem_of_getElem? (i := 12) rfl
  | under100ms => exact List.mem_of_getElem? (i := 13) rfl
  | under1s => exact List.mem_of_getElem? (i := 14) rfl
  | over1s => exact List.mem_of_getElem? (i := 15) rfl

/-- What the line of a bucket shows is what the bucket holds. -/
theorem bucketLine_mem_sampleLines (uptime : Nat) (c : Counters) (l : LatencyClass) (n : Nat) :
    bucketLine l n ∈ sampleLines (exposition (toString uptime) c) ↔ n = (c.bucket l).toNat := by
  have hline := entry_mem_sampleLines (bucket_mem_ledger uptime c l) (toString n)
  exact hline.trans toString_inj

/-- After recordings a bucket holds the requests below its bound, as long as the counters have not started again. -/
theorem toNat_bucket_after {xs : List Recording} (h : xs.countP Recording.isRequest < 2 ^ 64) (l : LatencyClass) :
    ((Counters.after {} xs).bucket l).toNat = xs.countP (Recording.took l.below) := by
  have hrequests : xs.countP (Recording.took l.below) ≤ xs.countP Recording.isRequest := by
    refine List.countP_mono_left fun x _ hx => ?_
    cases x with
    | request transport reason? micros => rfl
    | enqueued => exact hx
    | failure => exact hx
    | keys count => exact hx
  rw [bucket_after, l.reaches_eq_below, count, UInt64.toNat_ofNat', Nat.mod_eq_of_lt (hrequests.trans_lt h)]

/-- Requests of at most the bound are those below it and those on it. -/
theorem countP_upTo (l : LatencyClass) (xs : List Recording) :
    xs.countP (Recording.took l.upTo) = xs.countP (Recording.took l.below) + xs.countP (Recording.took l.meets) := by
  induction xs with
  | nil => rfl
  | cons x xs ih =>
    rw [List.countP_cons, List.countP_cons, List.countP_cons, ih]
    cases x with
    | request transport reason? micros =>
      have hcases := l.upTo_cases micros
      simp only [Recording.took]
      grind
    | enqueued => rfl
    | failure => rfl
    | keys count => rfl

/-- **What the buckets count.** After any recordings with fewer requests than a counter can hold, the line of a bucket
shows the number of requests that took less time than its bound. That is the number of those that took at most as long,
which is what the label says, if and only if no request took exactly as long as the bound. The bucket without a bound
shows the number of all requests. -/
theorem buckets_exact (xs : List Recording) (h : xs.countP Recording.isRequest < 2 ^ 64) (uptime : Nat) :
    let lines := sampleLines (exposition (toString uptime) (Counters.after {} xs))
    (∀ l n, bucketLine l n ∈ lines ↔ n = xs.countP (Recording.took l.below)) ∧
      (∀ l, bucketLine l (xs.countP (Recording.took l.upTo)) ∈ lines ↔ xs.countP (Recording.took l.meets) = 0) ∧
      ∀ n, bucketLine .over1s n ∈ lines ↔ n = xs.countP Recording.isRequest := by
  intro lines
  have hlines : ∀ l n, bucketLine l n ∈ lines ↔ n = xs.countP (Recording.took l.below) := by
    intro l n
    rw [← toNat_bucket_after h l]
    exact bucketLine_mem_sampleLines uptime _ l n
  have hall : Recording.took LatencyClass.over1s.below = Recording.isRequest := by
    funext x
    cases x <;> rfl
  refine ⟨hlines, fun l => ?_, fun n => ?_⟩
  · rw [hlines, countP_upTo]
    omega
  · rw [hlines, hall]

/-- Requests that took a microsecond less than a millisecond, a millisecond, and ten of them. -/
def boundaryRecordings : List Recording :=
  [ .request .http none 999, .request .grpc (some .invalid) 1000, .enqueued, .request .http none 10000 ]

/-- Two requests took at most a millisecond, and the bucket of a millisecond shows one. -/
theorem buckets_exact_boundary :
    let lines := sampleLines (exposition (toString 60) (Counters.after {} boundaryRecordings))
    boundaryRecordings.countP Recording.isRequest < 2 ^ 64 ∧
      boundaryRecordings.countP (Recording.took LatencyClass.under1ms.upTo) = 2 ∧
      bucketLine .under1ms 1 ∈ lines ∧ bucketLine .under1ms 2 ∉ lines ∧ bucketLine .over1s 3 ∈ lines := by
  intro lines
  have hcount : boundaryRecordings.countP Recording.isRequest < 2 ^ 64 := by decide
  have hbelow : boundaryRecordings.countP (Recording.took LatencyClass.under1ms.below) = 1 := by decide +kernel
  obtain ⟨hlines, -, hall⟩ := buckets_exact boundaryRecordings hcount 60
  refine ⟨hcount, by decide +kernel, (hlines _ _).2 hbelow.symm, fun h => ?_, (hall _).2 rfl⟩
  have heq := (hlines _ _).1 h
  rw [hbelow] at heq
  cases heq

end TelemetryGateway.Metrics
