import Mathlib
import TelemetryGateway.Lifecycle.Task

/-!
# Waiting for the call to shut down

A transport that waits has a look at the flag only if the flag has changed since the last look, and only when it has a
turn. It misses nothing by that: at each turn the wait is over exactly if the flag is set at that moment, or if nobody
is left to set it, whatever has come and gone between two turns.

## Main definitions

- `Resumes`: a turn, as the loop that a transport runs
- `latest`: the value of the flag, from what was sent
- `Watch`: a flag, and a transport that waits

## Main statements

- `resumes_iff`: the loop and `Waiter.poll`
- `Watch.flag_after`: the flag behind a history
- `Watch.UpToDate.step`: a transport that has seen the last change has seen that it was no call
- `Watch.wait_exact`: each turn of each history
-/

namespace TelemetryGateway.Lifecycle

/-! ## The loop -/

/-- A turn of a transport as the loop that it runs, from where it stands to where it stops: it takes the latest value
and is done if that is the call, or it awaits a change. There is one if it has not seen the latest version; if it has,
the wait fails where nobody is left to make a change. -/
inductive Resumes (f : Flag) : Waiter → Waiter → Prop where
  | called (h : f.value = true) : Resumes f .fresh .finished
  | notCalled {w : Waiter} (h : f.value = false) (next : Resumes f (.waiting f.version) w) : Resumes f .fresh w
  | changed {seen : Nat} {w : Waiter} (h : seen ≠ f.version) (next : Resumes f .fresh w) : Resumes f (.waiting seen) w
  | abandoned (h : f.abandoned = true) : Resumes f (.waiting f.version) .finished
  | pending (h : f.abandoned = false) : Resumes f (.waiting f.version) (.waiting f.version)
  | finished : Resumes f .finished .finished

theorem Resumes.poll_eq {f : Flag} {w w' : Waiter} (h : Resumes f w w') : w.poll f = w' := by
  induction h with
  | called h => simp [Waiter.poll, Waiter.look, h]
  | notCalled h _ ih =>
    rw [← ih]
    simp [Waiter.poll, Waiter.look, h]
  | changed h _ ih =>
    rw [← ih]
    simp [Waiter.poll, h]
  | abandoned h => simp [Waiter.poll, h]
  | pending h => simp [Waiter.poll, h]
  | finished => rfl

/-- A transport that has seen all changes stops at once. -/
theorem resumes_waiting (f : Flag) :
    Resumes f (.waiting f.version) (if f.abandoned then .finished else .waiting f.version) := by
  cases h : f.abandoned with
  | true => exact .abandoned h
  | false => exact .pending h

theorem resumes_look (f : Flag) : Resumes f .fresh (Waiter.look f) := by
  have hwaiting := resumes_waiting f
  cases h : f.value with
  | true =>
    rw [Waiter.look, h, Bool.true_or, if_pos rfl]
    exact .called h
  | false =>
    rw [Waiter.look, h, Bool.false_or]
    exact .notCalled h hwaiting

/-- Every turn of the loop comes to an end, in exactly one way. -/
theorem resumes_iff {f : Flag} {w w' : Waiter} : Resumes f w w' ↔ w' = w.poll f := by
  refine ⟨fun h => h.poll_eq.symm, ?_⟩
  rintro rfl
  cases w with
  | fresh => exact resumes_look f
  | waiting seen =>
    by_cases hseen : seen = f.version
    · subst hseen
      have hwaiting := resumes_waiting f
      simpa [Waiter.poll] using hwaiting
    · have hlook := Resumes.changed hseen (resumes_look f)
      simpa [Waiter.poll, hseen] using hlook
  | finished => exact .finished

/-! ## Histories -/

/-- The value that is sent at a moment. -/
def Moment.sent? : Moment → Option Bool
  | .update (.set v) => some v
  | _ => none

/-- The values that are sent while somebody is left to send them. -/
def sentValues (ms : List Moment) : List Bool :=
  (ms.takeWhile (· ≠ .update .abandon)).filterMap Moment.sent?

/-- The last value that was sent, or the one at the start. -/
def latest (initial : Bool) (ms : List Moment) : Bool :=
  (sentValues ms).getLastD initial

/-- Behind a history there is a call to be seen, or nobody left to make one. -/
def Called (initial : Bool) (ms : List Moment) : Prop :=
  latest initial ms = true ∨ .update .abandon ∈ ms

/-- What is sent later has no part in it if nobody is left to send it. -/
theorem sentValues_abandon (ms : List Moment) : sentValues (.update .abandon :: ms) = [] := rfl

theorem sentValues_cons {m : Moment} (h : m ≠ .update .abandon) (ms : List Moment) :
    sentValues (m :: ms) = m.sent?.toList ++ sentValues ms := by
  have hkept : (m :: ms).takeWhile (· ≠ .update .abandon) = m :: ms.takeWhile (· ≠ .update .abandon) :=
    List.takeWhile_cons_of_pos (by simpa using h)
  rw [sentValues, hkept, List.filterMap_cons]
  cases m.sent? <;> rfl

/-- A flag, and a transport that waits for it. -/
structure Watch where
  flag : Flag
  waiter : Waiter

namespace Watch

def start (initial : Bool) : Watch := ⟨{ value := initial }, .fresh⟩

def step (w : Watch) : Moment → Watch
  | .update u => { w with flag := w.flag.update u }
  | .turn => { w with waiter := w.waiter.poll w.flag }

def after (w : Watch) (ms : List Moment) : Watch := ms.foldl step w

/-- An abandoned flag stays as it is. -/
theorem flag_after_abandoned {w : Watch} (h : w.flag.abandoned = true) (ms : List Moment) :
    (w.after ms).flag = w.flag := by
  induction ms generalizing w with
  | nil => rfl
  | cons m ms ih =>
    have hstep : (w.step m).flag = w.flag := by
      obtain ⟨⟨value, version, abandoned⟩, waiter⟩ := w
      obtain rfl : abandoned = true := h
      cases m with
      | turn => rfl
      | update u => cases u <;> rfl
    have hrest := ih (w := w.step m) (by rw [hstep, h])
    exact hrest.trans hstep

/-- The flag holds the last value, and has counted all that were sent. -/
theorem flag_after_live {w : Watch} (h : w.flag.abandoned = false) (ms : List Moment) :
    (w.after ms).flag =
      ⟨(sentValues ms).getLastD w.flag.value, w.flag.version + (sentValues ms).length,
        decide (.update .abandon ∈ ms)⟩ := by
  induction ms generalizing w with
  | nil =>
    obtain ⟨⟨value, version, abandoned⟩, waiter⟩ := w
    obtain rfl : abandoned = false := h
    rfl
  | cons m ms ih =>
    by_cases hm : m = .update .abandon
    · subst hm
      have hrest := flag_after_abandoned (w := w.step (.update .abandon)) rfl ms
      refine hrest.trans ?_
      simp [sentValues_abandon, step, Flag.update]
    · have hlive : (w.step m).flag.abandoned = false := by
        cases m with
        | turn => exact h
        | update u =>
          cases u with
          | set v => simp [step, Flag.update, h]
          | abandon => exact absurd rfl hm
          | nothing => exact h
      refine (ih hlive).trans ?_
      rw [sentValues_cons hm]
      cases m with
      | turn => simp [step, Moment.sent?]
      | update u =>
        cases u with
        | set v =>
          simp only [step, Flag.update, Moment.sent?, h, Bool.false_eq_true, if_false, Option.toList_some,
            List.singleton_append, List.getLastD_cons, List.length_cons]
          simp [Nat.add_assoc, Nat.add_comm 1]
        | abandon => exact absurd rfl hm
        | nothing => simp [step, Flag.update, Moment.sent?]

/-- **The flag behind a history**: the last value that was sent, the count of them, and whether anybody is left. -/
theorem flag_after (initial : Bool) (ms : List Moment) :
    ((start initial).after ms).flag =
      ⟨latest initial ms, (sentValues ms).length, decide (.update .abandon ∈ ms)⟩ := by
  rw [flag_after_live rfl]
  simp [start, latest]

/-! ## What a transport knows -/

/-- What a transport has seen is not ahead of the flag; if it has seen the last change, then that was no call. -/
def UpToDate (w : Watch) : Prop :=
  ∀ seen, w.waiter = .waiting seen → seen ≤ w.flag.version ∧ (seen = w.flag.version → w.flag.value = false)

variable {w : Watch}

theorem upToDate_start (initial : Bool) : (start initial).UpToDate := by
  intro seen h
  cases h

/-- After a look, a transport waits only if it has seen that there is no call. -/
theorem upToDate_look (f : Flag) : UpToDate ⟨f, Waiter.look f⟩ := by
  intro seen hseen
  simp only [Waiter.look] at hseen
  split at hseen
  · cases hseen
  · next h =>
    obtain rfl : f.version = seen := Waiter.waiting.inj hseen
    exact ⟨le_refl _, fun _ => by simpa using (Bool.or_eq_false_iff.1 (Bool.not_eq_true _ ▸ h)).1⟩

theorem UpToDate.poll (h : w.UpToDate) : UpToDate ⟨w.flag, w.waiter.poll w.flag⟩ := by
  obtain ⟨f, waiter⟩ := w
  cases waiter with
  | fresh => exact upToDate_look f
  | waiting seen =>
    simp only [Waiter.poll]
    split
    · exact upToDate_look f
    · split
      · intro seen' hseen'
        cases hseen'
      · exact h
  | finished => exact h

/-- A change comes with a version that no transport has seen. -/
theorem UpToDate.update (h : w.UpToDate) (u : Update) : UpToDate ⟨w.flag.update u, w.waiter⟩ := by
  intro seen hseen
  obtain ⟨hle, hvalue⟩ := h seen hseen
  cases u with
  | set v =>
    simp only [Flag.update]
    split
    · exact ⟨hle, hvalue⟩
    · exact ⟨Nat.le_succ_of_le hle, fun heq => absurd heq (Nat.lt_succ_of_le hle).ne⟩
  | abandon => exact ⟨hle, hvalue⟩
  | nothing => exact ⟨hle, hvalue⟩

/-- **One moment**, whatever it is. -/
theorem UpToDate.step (h : w.UpToDate) (m : Moment) : (w.step m).UpToDate := by
  cases m with
  | update u => exact h.update u
  | turn => exact h.poll

/-- **A whole history.** -/
theorem UpToDate.after (h : w.UpToDate) (ms : List Moment) : (w.after ms).UpToDate := by
  induction ms generalizing w with
  | nil => exact h
  | cons m ms ih => exact ih (h.step m)

theorem look_eq_finished_iff (f : Flag) : Waiter.look f = .finished ↔ f.value = true ∨ f.abandoned = true := by
  rw [← Bool.or_eq_true]
  cases h : f.value || f.abandoned <;> simp [Waiter.look, h]

/-- A turn ends a wait that is not over exactly if there is a call to be seen, or nobody left to make one. -/
theorem UpToDate.poll_eq_finished_iff (h : w.UpToDate) (hwaits : w.waiter ≠ .finished) :
    w.waiter.poll w.flag = .finished ↔ w.flag.value = true ∨ w.flag.abandoned = true := by
  obtain ⟨f, waiter⟩ := w
  cases waiter with
  | fresh => exact look_eq_finished_iff f
  | waiting seen =>
    by_cases hseen : seen = f.version
    -- It has seen the last change, which was no call, so only the end of all senders is news
    · have hvalue : f.value = false := (h seen rfl).2 hseen
      simp [Waiter.poll, hseen, hvalue]
    · simpa [Waiter.poll, hseen] using look_eq_finished_iff f
  | finished => exact absurd rfl hwaits

variable (initial : Bool)

theorem poll_after_eq_finished_iff {ms : List Moment} (hwaits : ((start initial).after ms).waiter ≠ .finished) :
    ((start initial).after ms).waiter.poll ((start initial).after ms).flag = .finished ↔ Called initial ms := by
  rw [((upToDate_start initial).after ms).poll_eq_finished_iff hwaits, flag_after, decide_eq_true_eq, Called]

/-- A wait is over exactly if some turn found it called. -/
theorem waiter_after_eq_finished_iff (ms : List Moment) :
    ((start initial).after ms).waiter = .finished ↔ ∃ before, before ++ [.turn] <+: ms ∧ Called initial before := by
  induction ms using List.reverseRecOn with
  | nil => simp [after, start]
  | append_singleton ms m ih =>
    have hstep : (start initial).after (ms ++ [m]) = ((start initial).after ms).step m := List.foldl_append
    simp only [hstep, List.prefix_concat_iff, or_and_right, exists_or, ← ih]
    cases m with
    | update u =>
      -- An update is no turn
      simp [step]
    | turn =>
      have hlast : (∃ before, before ++ [.turn] = ms ++ [.turn] ∧ Called initial before) ↔ Called initial ms := by
        simp
      rw [hlast]
      show Waiter.poll _ _ = .finished ↔ _
      by_cases hover : ((start initial).after ms).waiter = .finished
      · simp [hover, Waiter.poll]
      · simp [hover, poll_after_eq_finished_iff initial hover]

/-- Where nobody calls and nobody goes, there is no call to be seen. -/
theorem not_called_of_calm {ms : List Moment}
    (hcalm : ∀ m ∈ ms, m = .turn ∨ m = .update .nothing ∨ m = .update (.set false)) : ¬ Called false ms := by
  rintro (hlatest | hdropped)
  · have hmem : latest false ms ∈ false :: sentValues ms := List.getLastD_mem_cons
    rw [hlatest] at hmem
    obtain ⟨m, hm, hsent⟩ := List.mem_filterMap.1 ((List.mem_cons.1 hmem).resolve_left Bool.noConfusion)
    obtain rfl | rfl | rfl := hcalm m ((List.takeWhile_sublist _).mem hm) <;> cases hsent
  · simpa using hcalm _ hdropped

end Watch

/-! ## Runs -/

namespace Startup

/-- What is answered later depends on flag and transport behind the moments before. -/
theorem turns_append (s : Startup) (w : Watch) (ms ns : List Moment) :
    s.turns w.flag w.waiter (ms ++ ns) =
      s.turns w.flag w.waiter ms ++ s.turns (w.after ms).flag (w.after ms).waiter ns := by
  induction ms generalizing w with
  | nil => rfl
  | cons m ms ih =>
    cases m with
    | update u => exact ih (w.step (.update u))
    | turn => exact congrArg (_ :: ·) (ih (w.step .turn))

theorem length_turns (s : Startup) (f : Flag) (w : Waiter) (ms : List Moment) :
    (s.turns f w ms).length = ms.count .turn := by
  induction ms generalizing f w with
  | nil => rfl
  | cons m ms ih =>
    cases m with
    | update u =>
      rw [List.count_cons_of_ne Moment.noConfusion]
      exact ih _ _
    | turn =>
      rw [List.count_cons_self]
      exact congrArg (· + 1) (ih _ _)

/-- The answer at a turn is whether the task has ended or its wait is over. -/
theorem turns_getElem? (s : Startup) (initial : Bool) (before rest : List Moment) :
    (s.turns { value := initial } .fresh (before ++ .turn :: rest))[before.count .turn]? =
      some (s.hasEnded (((Watch.start initial).after before).step .turn).waiter) := by
  have hsplit := turns_append s (Watch.start initial) before (.turn :: rest)
  simp only [Watch.start] at hsplit
  rw [hsplit, ← length_turns s { value := initial } .fresh before, List.getElem?_append_right (le_refl _), Nat.sub_self]
  rfl

end Startup

/-- A list of updates with a turn behind each is a history. -/
theorem watch_eq_turns (events : List Log.Event) (f : Flag) (w : Waiter) (us : List Update) :
    watch f w us = (⟨events, none⟩ : Startup).turns f w (us.flatMap fun u => [.update u, .turn]) := by
  induction us generalizing f w with
  | nil => rfl
  | cons u us ih =>
    simp only [watch, List.flatMap_cons, List.cons_append, List.nil_append, Startup.turns, Startup.hasEnded,
      Option.isSome_none, Bool.false_or, ih]

namespace Watch

/-- **The wait for the call.** Behind any history, a turn is a turn of the loop. It ends a wait that is not over
exactly if the last value that was sent is the call, or if nobody is left to send one; so a wait that goes on has
missed nothing, and one that is over was ended by the first turn that found it called. In particular it is over once
nobody is left, whatever updates have not been seen before that, and any number of updates that are no call leave it
as it is. This is what the program answers at each turn, and what it answers to a bare list of updates. -/
theorem wait_exact (initial : Bool) (events : List Log.Event) (before : List Moment) :
    let w := (start initial).after before
    let next := w.waiter.poll w.flag
    let serving : Startup := ⟨events, none⟩
    (∀ x, Resumes w.flag w.waiter x ↔ x = next) ∧
      (w.waiter ≠ .finished → (next = .finished ↔ latest initial before = true ∨ .update .abandon ∈ before)) ∧
      (next = .finished ↔ ∃ earlier, earlier ++ [.turn] <+: before ++ [.turn] ∧ Called initial earlier) ∧
      (next ≠ .finished → latest initial before = false ∧ .update .abandon ∉ before) ∧
      (.update .abandon ∈ before → next = .finished) ∧
      (initial = false → (∀ m ∈ before, m = .turn ∨ m = .update .nothing ∨ m = .update (.set false)) →
        next ≠ .finished) ∧
      (∀ rest, (serving.turns { value := initial } .fresh (before ++ .turn :: rest))[before.count .turn]? =
        some next.isFinished) ∧
      ∀ us, watchAll initial us =
        serving.turns { value := initial } .fresh (.turn :: us.flatMap fun u => [.update u, .turn]) := by
  intro w next serving
  have hafter : (start initial).after (before ++ [.turn]) = w.step .turn := List.foldl_append
  have hover : next = .finished ↔ ∃ earlier, earlier ++ [.turn] <+: before ++ [.turn] ∧ Called initial earlier := by
    rw [← waiter_after_eq_finished_iff, hafter]
    rfl
  have hcalled : Called initial before → next = .finished :=
    fun h => hover.2 ⟨before, List.prefix_refl _, h⟩
  refine ⟨fun x => resumes_iff, fun hwaits => poll_after_eq_finished_iff initial hwaits, hover, fun hgoes => ?_,
    fun hdropped => hcalled (.inr hdropped), ?_, fun rest => Startup.turns_getElem? serving initial before rest,
    fun us => ?_⟩
  · obtain ⟨hlatest, hdropped⟩ := not_or.1 (mt hcalled hgoes)
    exact ⟨Bool.not_eq_true _ ▸ hlatest, hdropped⟩
  · rintro rfl hcalm hnext
    obtain ⟨earlier, hprefix, hearlier⟩ := hover.1 hnext
    refine not_called_of_calm (fun m hm => ?_) hearlier
    have hmem : m ∈ before ++ [.turn] := hprefix.subset (List.mem_append_left _ hm)
    rcases List.mem_append.1 hmem with hmem | hmem
    · exact hcalm m hmem
    · exact .inl (List.mem_singleton.1 hmem)
  · show _ :: _ = _ :: _
    rw [watch_eq_turns events]
    rfl

/-- A transport goes on waiting through updates that are no call. The last one it has not seen when the last sender
goes, and then it is done. -/
theorem wait_exact_unseen :
    let calm : List Moment := [.turn, .update (.set false), .turn, .update .nothing, .update (.set false)]
    let w := (start false).after calm
    let w' := (start false).after (calm ++ [.update .abandon])
    w.waiter = .waiting 1 ∧ w.flag.version = 2 ∧ ¬ Resumes w.flag w.waiter .finished ∧ latest false calm = false ∧
      w'.waiter = .waiting 1 ∧ Resumes w'.flag w'.waiter .finished ∧
      (⟨[], none⟩ : Startup).turns { value := false } .fresh (calm ++ [.turn]) = [false, false, false] := by
  intro calm w w'
  obtain ⟨hresumes, -, -, hgoes, -, hcalm, -⟩ := wait_exact false [] calm
  obtain ⟨hresumes', hends, -, -, hdropped, -⟩ := wait_exact false [] (calm ++ [.update .abandon])
  have hwaits := hcalm rfl (by decide)
  have hcalled : Called false (calm ++ [.update .abandon]) := (hends (by decide)).1 (hdropped (by decide))
  refine ⟨rfl, rfl, fun h => hwaits ((hresumes _).1 h).symm, (hgoes hwaits).1, rfl, ?_, rfl⟩
  exact (hresumes' _).2 ((hends (by decide)).2 hcalled).symm

end Watch

end TelemetryGateway.Lifecycle
