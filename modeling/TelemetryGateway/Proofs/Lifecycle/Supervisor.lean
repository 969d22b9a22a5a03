import Mathlib
import TelemetryGateway.Lifecycle.Run

/-!
# The end of the process

Whatever comes first, a signal or the end of a transport, and in whatever order the transports end after that: the
process calls all transports to shut down as soon as the first thing has come, joins every one of them, closes the
indexer once when the last is joined, and keeps the first bad end as its fault.

## Main definitions

- `endsOf`: the ends of transports among some happenings
- `Happening.opening`: what the first happening is answered with before the call to shut down
- `faultOf`: the first bad end

## Main statements

- `Supervisor.run_stopping`: what is done once the call is made
- `Supervisor.run_first`: everything that is done from the first happening on
- `Supervisor.run_orderly`: the order of the shutdown
- `serve_exit`: the exit status of the server
-/

namespace TelemetryGateway.Lifecycle

/-- The end of a transport, if a happening is one. -/
def Happening.end? : Happening → Option TaskEnd
  | .signal => none
  | .ended e => some e

/-- The ends of transports among some happenings. -/
def endsOf (hs : List Happening) : List TaskEnd := hs.filterMap Happening.end?

@[simp] theorem endsOf_signal (hs : List Happening) : endsOf (.signal :: hs) = endsOf hs := rfl

@[simp] theorem endsOf_ended (e : TaskEnd) (hs : List Happening) : endsOf (.ended e :: hs) = e :: endsOf hs := rfl

theorem endsOf_cons (h : Happening) (hs : List Happening) : endsOf (h :: hs) = h.end?.toList ++ endsOf hs := by
  cases h <;> rfl

/-- The fault of the first bad end. -/
def faultOf (es : List TaskEnd) : Option String := es.findSome? TaskEnd.fault?

theorem faultOf_cons (e : TaskEnd) (es : List TaskEnd) : faultOf (e :: es) = e.fault?.or (faultOf es) := by
  rw [faultOf, List.findSome?_cons]
  cases e.fault? <;> rfl

theorem TaskEnd.fault?_eq_none_iff (e : TaskEnd) : e.fault? = none ↔ e = .completed := by
  cases e <;> simp [fault?]

/-- What the first happening is answered with before the call to shut down. -/
def Happening.opening : Happening → List Action
  | .signal => [.report .signalReceived]
  | .ended e => Supervisor.joining e

/-- The end that an action takes notice of. -/
def Action.joined? : Action → Option TaskEnd
  | .join e => some e
  | _ => none

namespace Supervisor

/-! ## Runs -/

/-- The close of the indexer, if that many transports of `n` have been joined. -/
def closingAt (n joined : Nat) : List Action := if joined = n then [.closeIndexer] else []

theorem closingAt_succ (n joined : Nat) : closingAt (n + 1) (joined + 1) = closingAt n joined := by
  simp [closingAt]

theorem closing_stopping (n : Nat) (fault : Option String) :
    (⟨n, true, fault⟩ : Supervisor).closing = closingAt n 0 := by
  cases n <;> rfl

/-- Once the call is made, a signal counts for nothing. -/
theorem run_signal (n : Nat) (fault : Option String) (hs : List Happening) :
    (⟨n, true, fault⟩ : Supervisor).run (.signal :: hs) = (⟨n, true, fault⟩ : Supervisor).run hs := by
  cases n with
  | zero => cases hs <;> rfl
  | succ n => rfl

/-- Once the call is made, an end is joined while there is one to come. -/
theorem run_ended (n : Nat) (fault : Option String) (e : TaskEnd) (hs : List Happening) :
    let next : Supervisor := ⟨n, true, fault.or e.fault?⟩
    (⟨n + 1, true, fault⟩ : Supervisor).run (.ended e :: hs) =
      ((next.run hs).1, joining e ++ (next.closing ++ (next.run hs).2)) := by
  intro next
  simp [run, isDone, step, joined, calling, next]

/-- From a state with `n` transports to come on, they are joined in the order in which they end, and the indexer is
closed behind the last one. -/
theorem run_stopping (n : Nat) (fault : Option String) {hs : List Happening} (hfits : (endsOf hs).length ≤ n) :
    let s : Supervisor := ⟨n, true, fault⟩
    (s.run hs).1 = ⟨n - (endsOf hs).length, true, fault.or (faultOf (endsOf hs))⟩ ∧
      s.closing ++ (s.run hs).2 = (endsOf hs).flatMap joining ++ closingAt n (endsOf hs).length := by
  induction hs generalizing n fault with
  | nil =>
    refine ⟨?_, ?_⟩
    · simp [run, endsOf, faultOf]
    · simp [run, endsOf, closing_stopping]
  | cons h hs ih =>
    cases h with
    | signal =>
      show (Supervisor.run _ _).1 = _ ∧ _ ++ (Supervisor.run _ _).2 = _
      rw [run_signal]
      exact ih n fault hfits
    | ended e =>
      -- There is room for the end, so the process is not done before it
      obtain ⟨m, rfl⟩ : ∃ m, n = m + 1 := Nat.exists_eq_succ_of_ne_zero (by rintro rfl; simp at hfits)
      obtain ⟨hlast, hactions⟩ := ih m (fault.or e.fault?) (by simpa using hfits)
      show (Supervisor.run _ _).1 = _ ∧ _ ++ (Supervisor.run _ _).2 = _
      rw [run_ended]
      refine ⟨?_, ?_⟩
      · simp [hlast, faultOf_cons, Option.or_assoc]
      · rw [hactions, closing_stopping]
        simp [closingAt]

/-- **From the first happening on.** It is answered, then the transports are called to shut down, and then the others
are joined in the order in which they end. -/
theorem run_first {n : Nat} {first : Happening} {rest : List Happening}
    (hfits : (endsOf (first :: rest)).length ≤ n) :
    ({ running := n } : Supervisor).run (first :: rest) =
      (⟨n - (endsOf (first :: rest)).length, true, faultOf (endsOf (first :: rest))⟩,
        first.opening ++
          .raiseFlag :: ((endsOf rest).flatMap joining ++ closingAt n (endsOf (first :: rest)).length)) := by
  cases first with
  | signal =>
    obtain ⟨hlast, hactions⟩ := run_stopping n none (show (endsOf rest).length ≤ n from hfits)
    simp [run, isDone, step, calling, Happening.opening, hlast, ← hactions]
  | ended e =>
    obtain ⟨m, rfl⟩ : ∃ m, n = m + 1 := Nat.exists_eq_succ_of_ne_zero (by rintro rfl; simp at hfits)
    obtain ⟨hlast, hactions⟩ := run_stopping m e.fault? (by simpa using hfits)
    simp [run, isDone, step, joined, calling, Happening.opening, hlast, closingAt_succ, ← hactions, faultOf_cons]

/-! ## What is among the actions -/

theorem filterMap_joining (e : TaskEnd) : (joining e).filterMap Action.joined? = [e] := rfl

theorem filterMap_flatMap_joining (es : List TaskEnd) : (es.flatMap joining).filterMap Action.joined? = es := by
  induction es with
  | nil => rfl
  | cons e es ih => rw [List.flatMap_cons, List.filterMap_append, ih, filterMap_joining, List.singleton_append]

theorem filterMap_opening (h : Happening) : h.opening.filterMap Action.joined? = h.end?.toList := by
  cases h <;> rfl

theorem filterMap_closingAt (n joined : Nat) : (closingAt n joined).filterMap Action.joined? = [] := by
  unfold closingAt
  split <;> rfl

/-- Joining is neither a call to shut down nor a close. -/
theorem notMem_flatMap_joining (es : List TaskEnd) :
    .raiseFlag ∉ es.flatMap joining ∧ .closeIndexer ∉ es.flatMap joining := by
  simp [joining]

theorem notMem_opening (h : Happening) : .raiseFlag ∉ h.opening ∧ .closeIndexer ∉ h.opening := by
  cases h <;> simp [Happening.opening, joining]

theorem raiseFlag_notMem_closingAt (n joined : Nat) : .raiseFlag ∉ closingAt n joined := by
  simp [closingAt]

/-! ## Faults -/

theorem faultOf_eq_some_iff {es : List TaskEnd} {m : String} :
    faultOf es = some m ↔
      ∃ before e after, es = before ++ e :: after ∧ (∀ x ∈ before, x = .completed) ∧ e.fault? = some m := by
  rw [faultOf, List.findSome?_eq_some_iff]
  simp only [TaskEnd.fault?_eq_none_iff]
  exact ⟨fun ⟨before, e, after, heq, hfault, hbefore⟩ => ⟨before, e, after, heq, hbefore, hfault⟩,
    fun ⟨before, e, after, heq, hbefore, hfault⟩ => ⟨before, e, after, heq, hfault, hbefore⟩⟩

theorem isSome_faultOf_iff {es : List TaskEnd} : (faultOf es).isSome ↔ ∃ e ∈ es, e ≠ .completed := by
  simp [faultOf, Option.isSome_iff_ne_none, TaskEnd.fault?_eq_none_iff]

/-- A fault that is there is kept. -/
theorem faultOf_append {es es' : List TaskEnd} {m : String} (h : faultOf es = some m) :
    faultOf (es ++ es') = some m := by
  rw [faultOf, List.findSome?_append]
  rw [faultOf] at h
  rw [h, Option.some_or]

/-- **The order of the shutdown.** Out of `n` transports some have ended, in any order and with any end, and a signal
may have come before, between or behind them. The transports are called to shut down once, after the first of these
things and before any other end is waited for. All ends are joined, each once, in their order. The indexer is closed
once, as the last thing, when all transports have been joined, and not before. The fault is that of the first bad end,
and there is one exactly if there is a bad end; whatever comes later does not change it. -/
theorem run_orderly {n : Nat} {first : Happening} {rest : List Happening}
    (hfits : (endsOf (first :: rest)).length ≤ n) :
    let ends := endsOf (first :: rest)
    let last := (({ running := n } : Supervisor).run (first :: rest)).1
    let actions := (({ running := n } : Supervisor).run (first :: rest)).2
    (∃ later, actions = first.opening ++ .raiseFlag :: later ∧ .raiseFlag ∉ first.opening ∧ .raiseFlag ∉ later ∧
        later.filterMap Action.joined? = endsOf rest) ∧
      actions.filterMap Action.joined? = ends ∧
      (ends.length < n → last.isDone = false ∧ .closeIndexer ∉ actions) ∧
      (ends.length = n → last.isDone = true ∧
        ∃ before, actions = before ++ [.closeIndexer] ∧ .closeIndexer ∉ before) ∧
      (∀ m, last.fault = some m ↔
        ∃ before e after, ends = before ++ e :: after ∧ (∀ x ∈ before, x = .completed) ∧ e.fault? = some m) ∧
      (last.fault.isSome ↔ ∃ e ∈ ends, e ≠ .completed) ∧
      ∀ earlier later m, rest = earlier ++ later →
        (({ running := n } : Supervisor).run (first :: earlier)).1.fault = some m → last.fault = some m := by
  intro ends last actions
  have hrun := run_first hfits
  have hlast : last = ⟨n - ends.length, true, faultOf ends⟩ := congrArg Prod.fst hrun
  have hactions : actions = first.opening ++ .raiseFlag :: ((endsOf rest).flatMap joining ++ closingAt n ends.length) :=
    congrArg Prod.snd hrun
  have hfault : last.fault = faultOf ends := congrArg fault hlast
  obtain ⟨hfreeOpening, hopenOpening⟩ := notMem_opening first
  obtain ⟨hfreeJoins, hopenJoins⟩ := notMem_flatMap_joining (endsOf rest)
  have hjoins : ((endsOf rest).flatMap joining ++ closingAt n ends.length).filterMap Action.joined? = endsOf rest := by
    rw [List.filterMap_append, filterMap_flatMap_joining, filterMap_closingAt, List.append_nil]
  -- All that is done before the indexer may be closed
  have hopen : .closeIndexer ∉ first.opening ++ .raiseFlag :: (endsOf rest).flatMap joining :=
    List.not_mem_append hopenOpening (List.not_mem_cons_of_ne_of_not_mem Action.noConfusion hopenJoins)
  refine ⟨⟨_, hactions, hfreeOpening, ?call, hjoins⟩, ?joins, fun hsome => ⟨?_, ?_⟩, fun hall => ⟨?_, ?_⟩, fun m => ?_,
    ?_, ?kept⟩
  case call => exact List.not_mem_append hfreeJoins (raiseFlag_notMem_closingAt n _)
  case joins =>
    rw [hactions, List.filterMap_append, filterMap_opening, List.filterMap_cons_none rfl, hjoins, ← endsOf_cons]
  · have hleft : n - ends.length ≠ 0 := by omega
    simp [hlast, isDone, hleft]
  · rw [hactions, closingAt, if_neg hsome.ne, List.append_nil]
    exact hopen
  · simp [hlast, isDone, hall]
  · refine ⟨_, ?_, hopen⟩
    rw [hactions, closingAt, if_pos hall, List.append_assoc, List.cons_append]
  · rw [hfault, faultOf_eq_some_iff]
  · rw [hfault, isSome_faultOf_iff]
  case kept =>
    rintro earlier later m rfl hearlier
    have hsplit : ends = endsOf (first :: earlier) ++ endsOf later := by
      show endsOf (first :: (earlier ++ later)) = _
      rw [← List.cons_append, endsOf, List.filterMap_append]
      rfl
    have hfitsEarlier : (endsOf (first :: earlier)).length ≤ n := by
      have hlength : ends.length ≤ n := hfits
      rw [hsplit, List.length_append] at hlength
      omega
    rw [run_first hfitsEarlier] at hearlier
    rw [hfault, hsplit]
    exact faultOf_append hearlier

/-- One of two transports fails before any signal. With that the other is called to shut down, and it panics; neither
that nor the signal in between changes the fault. -/
theorem run_orderly_failed :
    let first := Happening.ended (.failed "taken")
    let running := (({ running := 2 } : Supervisor).run [first, .signal])
    let done := (({ running := 2 } : Supervisor).run [first, .signal, .ended .panicked])
    (running.1.isDone = false ∧ .closeIndexer ∉ running.2 ∧ running.1.fault = some "taken") ∧
      done.1.isDone = true ∧ done.1.fault = some "taken" ∧
      done.2.filterMap Action.joined? = [.failed "taken", .panicked] ∧
      ∃ before, done.2 = before ++ [.closeIndexer] ∧ .closeIndexer ∉ before := by
  intro first running done
  have hrunning : (endsOf (first :: [.signal])).length ≤ 2 := by decide
  have hdone : (endsOf (first :: [.signal, .ended .panicked])).length ≤ 2 := by decide
  obtain ⟨-, -, hopen, -, hfault, -, -⟩ := run_orderly hrunning
  obtain ⟨-, hjoined, -, hclosed, -, -, hkept⟩ := run_orderly hdone
  obtain ⟨hgoes, hnoClose⟩ := hopen (by decide)
  obtain ⟨hends, hclose⟩ := hclosed rfl
  have hfirst := (hfault "taken").2 ⟨[], _, [], rfl, by simp, rfl⟩
  exact ⟨⟨hgoes, hnoClose, hfirst⟩, hends, hkept [.signal] [.ended .panicked] "taken" rfl hfirst, hjoined, hclose⟩

end Supervisor

/-! ## The server -/

/-- The ends of transports that could not start. -/
def failedStarts (startups : List Startup) : List TaskEnd := startups.filterMap Startup.ended

/-- The ends of those that could, when they are called to shut down. -/
def goodEnds (startups : List Startup) : List TaskEnd :=
  (startups.filter (·.ended.isNone)).map fun _ => .completed

/-- Each transport ends in one of the two ways. -/
theorem length_failedStarts_append (startups : List Startup) :
    (failedStarts startups ++ goodEnds startups).length = startups.length := by
  induction startups with
  | nil => rfl
  | cons s startups ih =>
    simp only [failedStarts, goodEnds, List.length_append, List.length_map] at ih ⊢
    cases h : s.ended with
    | none =>
      rw [List.filterMap_cons_none h, List.filter_cons_of_pos (by simp [h]), List.length_cons, List.length_cons]
      omega
    | some e =>
      rw [List.filterMap_cons_some h, List.filter_cons_of_neg (by simp [h]), List.length_cons, List.length_cons]
      omega

theorem endsOf_map_ended (es : List TaskEnd) : endsOf (es.map .ended) = es := by
  rw [endsOf, List.filterMap_map]
  exact List.filterMap_some

/-- Nothing happens to a server whose transports serve, until there is a signal. -/
theorem happenings_eq_nil {startups : List Startup} (hstarts : failedStarts startups = []) :
    happenings startups false = [] := by
  simp only [failedStarts] at hstarts
  simp [happenings, hstarts]

/-- Otherwise all transports end: first those that cannot start, then the others. -/
theorem exists_happenings_eq {startups : List Startup} {signalled : Bool}
    (h : failedStarts startups ≠ [] ∨ signalled = true) :
    ∃ first rest, happenings startups signalled = first :: rest ∧
      endsOf (first :: rest) = failedStarts startups ++ goodEnds startups := by
  have hgood : (startups.filter (·.ended.isNone)).map (fun _ => Happening.ended .completed) =
      (goodEnds startups).map .ended := by
    rw [goodEnds, List.map_map]
    rfl
  cases hfailed : failedStarts startups with
  | nil =>
    have hsignalled : signalled = true := h.resolve_left (not_not.2 hfailed)
    simp only [failedStarts] at hfailed
    refine ⟨.signal, (goodEnds startups).map .ended, ?_, ?_⟩
    · simp [happenings, hfailed, hsignalled, hgood]
    · rw [endsOf_signal, endsOf_map_ended, List.nil_append]
  | cons e es =>
    simp only [failedStarts] at hfailed
    refine ⟨.ended e, (es ++ goodEnds startups).map .ended, ?_, ?_⟩
    · simp [happenings, hfailed, hgood]
    · rw [endsOf_ended, endsOf_map_ended, List.cons_append]

/-- No transport ends well at its start. -/
theorem startHttp_ended_ne (cors : Settings.Cors) (address : String) (busy : Bool) :
    (startHttp cors address busy).ended ≠ some .completed := by
  unfold startHttp
  split
  · split <;> simp
  · split <;> simp

theorem startGrpc_ended_ne (address : String) (busy : Bool) : (startGrpc address busy).ended ≠ some .completed := by
  unfold startGrpc
  cases busy <;> simp

/-- So there is a bad end exactly if a transport could not start. -/
theorem exists_bad_end_iff {startups : List Startup} (hbad : ∀ s ∈ startups, s.ended ≠ some .completed) :
    (∃ e ∈ failedStarts startups ++ goodEnds startups, e ≠ .completed) ↔ failedStarts startups ≠ [] := by
  constructor
  · rintro ⟨e, he, hne⟩ hnone
    rw [hnone, List.nil_append, goodEnds, List.mem_map] at he
    obtain ⟨_, -, rfl⟩ := he
    exact hne rfl
  · intro hfailed
    obtain ⟨e, he⟩ := List.exists_mem_of_ne_nil _ hfailed
    obtain ⟨s, hs, hended⟩ := List.mem_filterMap.1 he
    exact ⟨e, List.mem_append_left _ he, fun heq => hbad s hs (heq ▸ hended)⟩

/-- **The exit status of the server.** While its transports serve, the server goes on until there is a signal, and
then it ends well. If a transport cannot start it ends badly, signal or not. -/
theorem serve_exit (around : Surroundings) (s : Settings) (filter : Log.Filter) (http grpc : String) :
    let startups :=
      [startHttp s.server.cors http (around.busy.contains .http), startGrpc grpc (around.busy.contains .grpc)]
    (serve around s filter http grpc).exit =
      if failedStarts startups = [] then if around.signalled then some 0 else none else some 1 := by
  intro startups
  let last := (({ running := 2 } : Supervisor).run (happenings startups around.signalled)).1
  show (if last.isDone then some (if last.fault.isSome then 1 else 0) else none) = _
  by_cases h : failedStarts startups ≠ [] ∨ around.signalled = true
  · obtain ⟨first, rest, hhappenings, hends⟩ := exists_happenings_eq h
    have hlength : (endsOf (first :: rest)).length = 2 := by
      rw [hends, length_failedStarts_append]
      rfl
    have hlast : last = ⟨0, true, faultOf (failedStarts startups ++ goodEnds startups)⟩ := by
      show (Supervisor.run _ (happenings _ _)).1 = _
      rw [hhappenings, Supervisor.run_first hlength.le, hlength, hends]
    have hdone : last.isDone = true := by
      rw [hlast]
      rfl
    have hfault : last.fault.isSome ↔ failedStarts startups ≠ [] := by
      rw [hlast, Supervisor.isSome_faultOf_iff]
      exact exists_bad_end_iff (by simp [startups, startHttp_ended_ne, startGrpc_ended_ne])
    rw [if_pos hdone]
    by_cases hfailed : failedStarts startups = []
    · have hsignalled : around.signalled = true := h.resolve_left (not_not.2 hfailed)
      rw [if_neg (mt hfault.1 (not_not.2 hfailed)), if_pos hfailed, if_pos hsignalled]
    · rw [if_pos (hfault.2 hfailed), if_neg hfailed]
  · obtain ⟨hfailed, hsignalled⟩ := not_or.1 h
    have hlast : last = { running := 2 } := by
      show (Supervisor.run _ (happenings _ _)).1 = _
      rw [Bool.eq_false_iff.2 hsignalled, happenings_eq_nil (not_not.1 hfailed)]
      rfl
    rw [if_pos (not_not.1 hfailed), if_neg hsignalled, hlast]
    rfl

end TelemetryGateway.Lifecycle
