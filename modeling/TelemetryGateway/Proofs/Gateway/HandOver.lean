import Mathlib
import TelemetryGateway.Gateway.Assembly
import TelemetryGateway.Proofs.Gateway.Isolation
import TelemetryGateway.Proofs.Gateway.Parity
import TelemetryGateway.Proofs.Metrics.Conservation

/-!
# Documents handed over

Documents are counted twice: by the sink that takes or refuses them, and by the gateway that hears of it. The sink may
be closed at any time, and more than once, while packets keep coming in. Senders hear nothing of it, and the two ledgers
agree all the time.

## Main definitions

- `documents`, `totalDocuments`: how many documents one packet and several packets come to
- `IndexerStats.book`: some documents more in a ledger
- `Gateway.Books`: the same documents more in both ledgers of a gateway
- `Turn`: a packet comes in, or the sink is closed
- `Gateway.afterTurns`, `Gateway.replies`, `Gateway.acknowledged`: a run, what is answered in it and which packets are
  acknowledged

## Main statements

- `Desk.foldl_offer_sink`: both ledgers are kept in the same way
- `Gateway.books_ingest`: one packet
- `Gateway.books_afterTurns`: a run without closing the sink, or with a sink that is closed before
- `Gateway.replies_eq`: closing the sink does not change what is answered
- `Gateway.ledgers_agree`: the two ledgers over a run
-/

namespace TelemetryGateway

open TelemetryGateway.Gateway (Moment Refusal Verdict)
open TelemetryGateway.Ingest
open TelemetryGateway.Metrics (Counters Transport)
open TelemetryGateway.Telemetry (Packet)

/-! ## Ledgers -/

namespace Ingest

/-- Some documents more in a ledger, taken or refused. -/
def IndexerStats.book (s : IndexerStats) (closed : Bool) (n : Nat) : IndexerStats :=
  if closed then { s with failed := s.failed + .ofNat n } else { s with added := s.added + .ofNat n }

/-- What counters say of documents. -/
def ledger (c : Counters) : IndexerStats := ⟨c.enqueued, c.failures⟩

/-- How many documents a packet comes to: one for each measurement and one for each log entry. -/
def documents (p : Packet) : Nat :=
  (p.metrics.elim [] (·.points)).length + (p.logs.elim [] (·.entries)).length

def totalDocuments (ps : List Packet) : Nat := (ps.map documents).sum

theorem totalDocuments_append (ps qs : List Packet) :
    totalDocuments (ps ++ qs) = totalDocuments ps + totalDocuments qs := by
  simp [totalDocuments]

namespace IndexerStats

variable (s : IndexerStats) (closed : Bool)

@[simp] theorem book_zero : s.book closed 0 = s := by
  cases closed <;> simp [book]

@[simp] theorem book_book (m n : Nat) : (s.book closed m).book closed n = s.book closed (m + n) := by
  cases closed <;> simp [book, UInt64.ofNat_add, UInt64.add_assoc]

end IndexerStats

/-- A sink and the gateway count a document in the same way. -/
theorem Desk.offer_sink (d : Desk Sink) (item : IndexItem) :
    (d.offer item).indexer = { d.indexer with stats := d.indexer.stats.book d.indexer.closed 1 } ∧
      ledger (d.offer item).counters = (ledger d.counters).book d.indexer.closed 1 := by
  have hadd : Indexer.add d.indexer item = d.indexer.add item := rfl
  simp only [offer, hadd, Sink.add]
  cases d.indexer.closed <;> simp [IndexerStats.book, ledger, Counters.recordEnqueued, Counters.recordFailure]

/-- A sink and the gateway count several documents in the same way. -/
theorem Desk.foldl_offer_sink (d : Desk Sink) (items : List IndexItem) :
    (items.foldl offer d).indexer = { d.indexer with stats := d.indexer.stats.book d.indexer.closed items.length } ∧
      ledger (items.foldl offer d).counters = (ledger d.counters).book d.indexer.closed items.length := by
  induction items generalizing d with
  | nil => simp
  | cons item items ih =>
    obtain ⟨hindexer, hcounters⟩ := d.offer_sink item
    obtain ⟨hindexer', hcounters'⟩ := ih (d.offer item)
    rw [List.foldl_cons, hindexer', hcounters', hindexer, hcounters, List.length_cons, Nat.add_comm items.length]
    simp

/-- All documents of a packet are due, unless it breaks a rule. -/
theorem length_due (limits : Limits) (indices : Indices) (p : Packet) :
    (due limits indices p).length = if (verdict limits p).isOk then documents p else 0 := by
  cases hvalid : validate limits p with
  | error e => simp [due, verdict, hvalid, Except.map, Except.isOk, Except.toBool]
  | ok client => simp [due, verdict, hvalid, documents, Except.map, Except.isOk, Except.toBool]

end Ingest

namespace Gateway

/-! ## One packet -/

section Packets

variable {ι : Type} [Indexer ι] (g : Gateway ι) (transport : Transport) (m : Moment) (p : Packet)

/-- What is answered depends on the limiter and the bounds on packets alone. -/
theorem ingest_answer :
    (g.ingest transport m p).answer =
      if (g.limiter.allow p.clientKey m.now).1 then (verdict g.limits p).mapError .invalid else .error .rateLimited :=
  (g.ingest_eq_record transport m p).1.trans (g.handle_eq transport m.now p).1

theorem ingest_limits : (g.ingest transport m p).gateway.limits = g.limits := by
  rw [(g.ingest_eq_record transport m p).2, record_eq, (g.handle_eq transport m.now p).2]
  simp only [apply_ite Gateway.limits]
  exact ite_self _

theorem ingest_limiter : (g.ingest transport m p).gateway.limiter = (g.limiter.allow p.clientKey m.now).2 :=
  (g.ingest_eq_handle transport m p).2.trans (g.handle_limiter transport m.now p)

end Packets

/-- The second gateway has so many documents more than the first one in both ledgers, on the side that the sink of the
first one puts them. -/
structure Books (n : Nat) (g g' : Gateway Sink) : Prop where
  closed : g'.indexer.closed = g.indexer.closed
  sink : g'.indexer.stats = g.indexer.stats.book g.indexer.closed n
  counters : ledger g'.counters = (ledger g.counters).book g.indexer.closed n

namespace Books

variable {m n : Nat} {g g' g'' : Gateway Sink}

theorem refl (g : Gateway Sink) : Books 0 g g := ⟨rfl, by simp, by simp⟩

theorem trans (h : Books m g g') (h' : Books n g' g'') : Books (m + n) g g'' where
  closed := h'.closed.trans h.closed
  sink := by rw [h'.sink, h.closed, h.sink, IndexerStats.book_book]
  counters := by rw [h'.counters, h.closed, h.counters, IndexerStats.book_book]

end Books

/-- Both ledgers of a gateway say the same. -/
def Agree (g : Gateway Sink) (s : IndexerStats) : Prop := g.indexer.stats = s ∧ ledger g.counters = s

/-- Ledgers that agree still do when the same documents are booked in both. -/
theorem Books.agree {n : Nat} {g g' : Gateway Sink} (h : Books n g g') {s : IndexerStats} (hagree : g.Agree s) :
    g'.Agree (s.book g.indexer.closed n) :=
  ⟨by rw [h.sink, hagree.1], by rw [h.counters, hagree.2]⟩

/-- To count an answer is not to count documents. -/
theorem books_record (g : Gateway Sink) (transport : Transport) (v : Verdict) (micros : UInt64) :
    Books 0 g (g.record transport v micros) := by
  obtain ⟨henqueued, hfailures, -⟩ := g.counters.recordOutcome_frame transport (reasonOf v) micros
  rw [record_eq]
  exact ⟨rfl, by simp, by simp [ledger, henqueued, hfailures]⟩

theorem books_charged (g : Gateway Sink) (now : Nat) (p : Packet) : Books 0 g (g.charged now p) :=
  ⟨rfl, by simp [charged], by simp [charged]⟩

theorem books_offered (g : Gateway Sink) (p : Packet) :
    Books (if (verdict g.limits p).isOk then documents p else 0) g (g.offered p) := by
  obtain ⟨hindexer, hledger⟩ := Desk.foldl_offer_sink ⟨g.indexer, g.counters, []⟩ (due g.limits g.indices p)
  rw [length_due] at hindexer hledger
  exact ⟨congrArg (·.closed) hindexer, congrArg (·.stats) hindexer, hledger⟩

theorem books_handle (g : Gateway Sink) (transport : Transport) (m : Moment) (p : Packet) :
    Books (if (g.handle transport m.now p).answer.isOk then documents p else 0) g
      (g.handle transport m.now p).gateway := by
  obtain ⟨hanswer, hgateway⟩ := g.handle_eq transport m.now p
  rw [hanswer, hgateway]
  cases (g.limiter.allow p.clientKey m.now).1 with
  | false => exact g.books_charged m.now p
  | true =>
    -- What the limiter lets through is acknowledged exactly if it breaks no rule
    have hok : ((verdict g.limits p).mapError Refusal.invalid).isOk = (verdict g.limits p).isOk := by
      cases verdict g.limits p <;> rfl
    have hbooks := (g.books_charged m.now p).trans ((g.charged m.now p).books_offered p)
    rw [Nat.zero_add] at hbooks
    simp only [if_true, hok]
    exact hbooks

/-- The documents of a packet are booked if the packet is acknowledged, and none otherwise. -/
theorem books_ingest (g : Gateway Sink) (transport : Transport) (m : Moment) (p : Packet) :
    Books (if (g.ingest transport m p).answer.isOk then documents p else 0) g (g.ingest transport m p).gateway := by
  obtain ⟨hanswer, hgateway⟩ := g.ingest_eq_record transport m p
  have hbooks := (g.books_handle transport m p).trans
    (books_record _ transport (g.handle transport m.now p).answer m.micros)
  rwa [Nat.add_zero, ← hgateway, ← hanswer] at hbooks

end Gateway

/-! ## Runs -/

/-- A packet comes in, or the sink is closed. -/
inductive Turn where
  | packet (a : Arrival)
  | close

def Turn.isPacket : Turn → Bool
  | .packet _ => true
  | .close => false

namespace Gateway

def takeTurn (g : Gateway Sink) : Turn → Gateway Sink
  | .packet a => (g.ingest a.transport a.moment a.packet).gateway
  | .close => { g with indexer := (Indexer.close g.indexer).1 }

/-- The gateway after a run. -/
def afterTurns (g : Gateway Sink) (ts : List Turn) : Gateway Sink := ts.foldl takeTurn g

/-- The packets of a run, with the answers to them. -/
def replies (g : Gateway Sink) : List Turn → List (Arrival × Verdict)
  | [] => []
  | .packet a :: ts => (a, (g.ingest a.transport a.moment a.packet).answer) :: (g.takeTurn (.packet a)).replies ts
  | .close :: ts => (g.takeTurn .close).replies ts

/-- The packets of a run that are acknowledged. -/
def acknowledged (g : Gateway Sink) (ts : List Turn) : List Packet :=
  ((g.replies ts).filter (·.2.isOk)).map (·.1.packet)

theorem replies_append (g : Gateway Sink) (ts us : List Turn) :
    g.replies (ts ++ us) = g.replies ts ++ (g.afterTurns ts).replies us := by
  induction ts generalizing g with
  | nil => rfl
  | cons t ts ih =>
    cases t with
    | packet a => exact congrArg _ (ih _)
    | close => exact ih _

theorem acknowledged_append (g : Gateway Sink) (ts us : List Turn) :
    g.acknowledged (ts ++ us) = g.acknowledged ts ++ (g.afterTurns ts).acknowledged us := by
  rw [acknowledged, replies_append, List.filter_append, List.map_append]
  rfl

theorem totalDocuments_acknowledged_packet (g : Gateway Sink) (a : Arrival) (ts : List Turn) :
    totalDocuments (g.acknowledged (.packet a :: ts)) =
      (if (g.ingest a.transport a.moment a.packet).answer.isOk then documents a.packet else 0) +
        totalDocuments ((g.takeTurn (.packet a)).acknowledged ts) := by
  simp only [acknowledged, replies, List.filter_cons]
  split <;> simp [totalDocuments]

/-- A closed sink can be closed again. -/
theorem books_close {g : Gateway Sink} (h : g.indexer.closed = true) : Books 0 g (g.takeTurn .close) :=
  ⟨h.symm, by simp [takeTurn, Indexer.close, Sink.close], by simp [takeTurn]⟩

/-- In a run without closing the sink, or with a sink that is closed before, the documents of all packets that are
acknowledged are booked on one side. -/
theorem books_afterTurns {g : Gateway Sink} {ts : List Turn} (h : g.indexer.closed = true ∨ Turn.close ∉ ts) :
    Books (totalDocuments (g.acknowledged ts)) g (g.afterTurns ts) := by
  induction ts generalizing g with
  | nil => exact Books.refl g
  | cons t ts ih =>
    cases t with
    | close =>
      -- The run has closed the sink, so the sink was closed before
      have hclosed : g.indexer.closed = true := h.resolve_right (not_not.2 List.mem_cons_self)
      have hclose := books_close hclosed
      have hrest := hclose.trans (ih (.inl (hclose.closed.trans hclosed)))
      rwa [Nat.zero_add] at hrest
    | packet a =>
      have hpacket : Books _ g (g.takeTurn (.packet a)) := g.books_ingest a.transport a.moment a.packet
      have hopen : (g.takeTurn (.packet a)).indexer.closed = true ∨ Turn.close ∉ ts := by
        rw [hpacket.closed]
        exact h.imp_right fun hmem hin => hmem (List.mem_cons_of_mem _ hin)
      rw [totalDocuments_acknowledged_packet]
      exact hpacket.trans (ih hopen)

/-- Closing the sink does not change what is answered: nothing that answers depend on is kept in the sink. -/
theorem replies_eq {g g' : Gateway Sink} (hlimits : g.limits = g'.limits) (hlimiter : g.limiter = g'.limiter)
    (ts : List Turn) : g.replies ts = g'.replies (ts.filter Turn.isPacket) := by
  induction ts generalizing g g' with
  | nil => rfl
  | cons t ts ih =>
    cases t with
    | close => exact ih (g := g.takeTurn .close) hlimits hlimiter
    | packet a =>
      have hanswer : (g.ingest a.transport a.moment a.packet).answer =
          (g'.ingest a.transport a.moment a.packet).answer := by
        rw [ingest_answer, ingest_answer, hlimits, hlimiter]
      -- Both limiters are charged for the packet, whatever the sinks do with its documents
      have hrest : (g.takeTurn (.packet a)).replies ts =
          (g'.takeTurn (.packet a)).replies (ts.filter Turn.isPacket) := by
        refine ih ?_ ?_
        · simp only [takeTurn, ingest_limits, hlimits]
        · simp only [takeTurn, ingest_limiter, hlimiter]
      show (a, _) :: _ = (a, _) :: _
      rw [hanswer, hrest]

/-! ## New gateways -/

/-- No document has been counted, neither by the sink nor by the gateway. -/
structure Fresh (g : Gateway Sink) : Prop where
  indexer : g.indexer = {}
  counters : ledger g.counters = {}

theorem fresh_ofSettings (s : Settings) : (Gateway.ofSettings s ({} : Sink)).Fresh := ⟨rfl, rfl⟩

section Fresh

variable {g : Gateway Sink} (hfresh : g.Fresh) {before : List Turn} (hopen : Turn.close ∉ before)

include hfresh hopen

/-- While the sink is not closed, all documents are taken. -/
theorem Fresh.agree_open : (g.afterTurns before).Agree ⟨.ofNat (totalDocuments (g.acknowledged before)), 0⟩ := by
  have hagree := (books_afterTurns (g := g) (.inr hopen)).agree ⟨congrArg (·.stats) hfresh.indexer, hfresh.counters⟩
  rw [hfresh.indexer] at hagree
  simpa [IndexerStats.book] using hagree

/-- Once the sink is closed, all documents are refused. -/
theorem Fresh.agree_closed (rest : List Turn) :
    ∃ late, g.acknowledged (before ++ .close :: rest) = g.acknowledged before ++ late ∧
      (g.afterTurns (before ++ .close :: rest)).Agree
        ⟨.ofNat (totalDocuments (g.acknowledged before)), .ofNat (totalDocuments late)⟩ := by
  -- The run up to the first closing finds the sink open, and the rest finds it closed
  have hclosed : ((g.afterTurns before).takeTurn .close).indexer.closed = true := rfl
  have hbooks : Books _ _ (((g.afterTurns before).takeTurn .close).afterTurns rest) := books_afterTurns (.inl hclosed)
  have hagree := hbooks.agree (hfresh.agree_open hopen)
  have hrun : g.afterTurns (before ++ .close :: rest) = ((g.afterTurns before).takeTurn .close).afterTurns rest :=
    List.foldl_append
  refine ⟨((g.afterTurns before).takeTurn .close).acknowledged rest,
    g.acknowledged_append before (.close :: rest), ?_⟩
  rw [hrun]
  simpa [IndexerStats.book, hclosed] using hagree

omit hopen in
/-- Both ledgers hold the documents of all packets that are acknowledged. -/
theorem Fresh.exists_agree (ts : List Turn) :
    ∃ s, (g.afterTurns ts).Agree s ∧ s.added + s.failed = .ofNat (totalDocuments (g.acknowledged ts)) := by
  by_cases hclose : Turn.close ∈ ts
  · obtain ⟨before, rest, rfl, hopen⟩ := List.eq_append_cons_of_mem hclose
    obtain ⟨late, hacknowledged, hagree⟩ := hfresh.agree_closed hopen rest
    refine ⟨_, hagree, ?_⟩
    rw [hacknowledged, totalDocuments_append, UInt64.ofNat_add]
  · exact ⟨_, hfresh.agree_open hclose, UInt64.add_zero _⟩

end Fresh

/-- **The two ledgers.** After every run of packets and of closing the sink, the sink and the gateway have counted the
same documents as taken and as refused, and together they are those of the packets that were acknowledged. Before the
sink is closed for the first time all of them are taken, and from then on all are refused. What is answered is the same
as if the sink had never been closed. -/
theorem ledgers_agree {g : Gateway Sink} (hfresh : g.Fresh) (ts : List Turn) :
    let g' := g.afterTurns ts
    (g'.indexer.stats.added = g'.counters.enqueued ∧ g'.indexer.stats.failed = g'.counters.failures ∧
        g'.indexer.stats.added + g'.indexer.stats.failed = .ofNat (totalDocuments (g.acknowledged ts))) ∧
      (.close ∉ ts → g'.indexer.stats = ⟨.ofNat (totalDocuments (g.acknowledged ts)), 0⟩) ∧
      (∀ before rest, ts = before ++ .close :: rest → .close ∉ before →
        ∃ late, g.acknowledged ts = g.acknowledged before ++ late ∧
          g'.indexer.stats.added = (g.afterTurns before).indexer.stats.added ∧
          g'.indexer.stats =
            ⟨.ofNat (totalDocuments (g.acknowledged before)), .ofNat (totalDocuments late)⟩) ∧
      g.replies ts = g.replies (ts.filter Turn.isPacket) := by
  refine ⟨?_, fun hopen => (hfresh.agree_open hopen).1, ?_, replies_eq rfl rfl ts⟩
  · obtain ⟨s, ⟨hsink, hcounters⟩, htotal⟩ := hfresh.exists_agree ts
    have hsame := hsink.trans hcounters.symm
    exact ⟨congrArg (·.added) hsame, congrArg (·.failed) hsame, hsink ▸ htotal⟩
  · rintro before rest rfl hopen
    obtain ⟨late, hacknowledged, hstats, -⟩ := hfresh.agree_closed hopen rest
    exact ⟨late, hacknowledged, by rw [hstats, (hfresh.agree_open hopen).1], hstats⟩

/-- A packet with a measurement and a log entry comes in before the sink is closed, and again after it is closed for the
second time. -/
theorem ledgers_agree_brief :
    let g := Gateway.ofSettings {} ({} : Sink)
    let a : Arrival := ⟨.http, ⟨0, 0⟩, briefPacket⟩
    let ts := [Turn.packet a, .close, .close, .packet a]
    g.Fresh ∧ (g.afterTurns ts).indexer.stats = ⟨2, 2⟩ ∧
      ledger (g.afterTurns ts).counters = ⟨2, 2⟩ ∧ totalDocuments (g.acknowledged ts) = 4 := by
  intro g a ts
  have hfresh : g.Fresh := fresh_ofSettings {}
  obtain ⟨⟨hadded, hfailed, -⟩, -, hclosed, -⟩ := ledgers_agree hfresh ts
  obtain ⟨late, hacknowledged, -, hstats⟩ := hclosed [.packet a] [.close, .packet a] rfl (by simp)
  have hbefore : totalDocuments (g.acknowledged [.packet a]) = 2 := by decide +kernel
  have htotal : totalDocuments (g.acknowledged ts) = 4 := by decide +kernel
  have hlate : totalDocuments late = 2 := by
    rw [hacknowledged, totalDocuments_append, hbefore] at htotal
    omega
  rw [hbefore, hlate] at hstats
  refine ⟨hfresh, hstats, ?_, htotal⟩
  rw [ledger, ← hadded, ← hfailed, hstats]
  rfl

end Gateway

end TelemetryGateway
