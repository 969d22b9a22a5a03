import Mathlib
import TelemetryGateway.Ingest.Dispatch

/-!
# What an indexer is offered

An indexer may take or refuse whatever it likes. What it is offered does not depend on that, and neither does
what the sender of a packet is told: the documents of a valid packet are offered one by one in their order, and
those of a packet that breaks a rule not at all. Only the counters tell what became of them.

## Main definitions

- `Observed`: an indexer that keeps what it was offered
- `due`: the documents that a packet is to be turned into
- `Desk.deliveries`: what each packet of a sequence is told, and what is offered for it

## Main statements

- `Desk.offer_observed`, `Desk.foldl_offer_observed`: one offer, and several
- `Desk.bare_after`: observation changes nothing
- `Desk.deliveries_exact`: a sequence of packets
-/

namespace TelemetryGateway.Ingest

open TelemetryGateway.Metrics (Counters)
open TelemetryGateway.Telemetry

/-! ## Observation -/

/-- A document that was offered, and the answer. -/
structure Offered where
  item : IndexItem
  answer : Except IndexerError Unit

/-- The document was taken. -/
def Offered.taken (o : Offered) : Bool :=
  match o.answer with
  | .ok _ => true
  | .error _ => false

/-- An indexer that answers like the one inside, and keeps what it was offered. -/
structure Observed (ι : Type) where
  inner : ι
  /-- The offers so far, the first one first. -/
  offers : List Offered := []

instance {ι : Type} [Indexer ι] : Indexer (Observed ι) where
  add o item :=
    let a := Indexer.add o.inner item
    { result := a.result
      indexer := ⟨a.indexer, o.offers ++ [⟨item, a.result⟩]⟩
      events := a.events }
  close o :=
    let (inner, events) := Indexer.close o.inner
    ({ o with inner := inner }, events)

/-- Counters after some offers: each is counted by its answer. -/
def countOffers (c : Counters) (offers : List Offered) : Counters :=
  { c with
    enqueued := c.enqueued + UInt64.ofNat (offers.countP (·.taken))
    failures := c.failures + UInt64.ofNat (offers.countP (!·.taken)) }

@[simp] theorem countOffers_nil (c : Counters) : countOffers c [] = c := by
  simp [countOffers]

theorem countOffers_append (c : Counters) (offers offers' : List Offered) :
    countOffers c (offers ++ offers') = countOffers (countOffers c offers) offers' := by
  simp only [countOffers, List.countP_append, UInt64.ofNat_add, UInt64.add_assoc]

namespace Desk

variable {ι : Type} [Indexer ι]

/-! ## One offer after another -/

/-- A document is offered once, and counted by the answer. -/
theorem offer_observed (d : Desk (Observed ι)) (item : IndexItem) :
    ∃ o : Offered, o.item = item ∧ (d.offer item).indexer.offers = d.indexer.offers ++ [o] ∧
      (d.offer item).counters = countOffers d.counters [o] := by
  refine ⟨⟨item, (Indexer.add d.indexer.inner item).result⟩, rfl, ?_⟩
  have hadd : Indexer.add d.indexer item =
      { result := (Indexer.add d.indexer.inner item).result
        indexer := ⟨(Indexer.add d.indexer.inner item).indexer,
          d.indexer.offers ++ [⟨item, (Indexer.add d.indexer.inner item).result⟩]⟩
        events := (Indexer.add d.indexer.inner item).events } := rfl
  simp only [offer, hadd]
  cases (Indexer.add d.indexer.inner item).result with
  | ok _ => exact ⟨rfl, by simp [countOffers, Offered.taken, Counters.recordEnqueued]⟩
  | error _ => exact ⟨rfl, by simp [countOffers, Offered.taken, Counters.recordFailure]⟩

/-- Documents are offered in their order, whatever becomes of those before. -/
theorem foldl_offer_observed (d : Desk (Observed ι)) (items : List IndexItem) :
    ∃ new : List Offered, new.map (·.item) = items ∧
      (items.foldl offer d).indexer.offers = d.indexer.offers ++ new ∧
      (items.foldl offer d).counters = countOffers d.counters new := by
  induction items generalizing d with
  | nil => exact ⟨[], rfl, (List.append_nil _).symm, (countOffers_nil _).symm⟩
  | cons item items ih =>
    obtain ⟨o, hitem, hoffers, hcounters⟩ := d.offer_observed item
    obtain ⟨new, hitems, hoffers', hcounters'⟩ := ih (d.offer item)
    refine ⟨o :: new, ?_, ?_, ?_⟩
    · rw [List.map_cons, hitem, hitems]
    · rw [List.foldl_cons, hoffers', hoffers, List.append_assoc, List.singleton_append]
    · rw [List.foldl_cons, hcounters', hcounters, ← countOffers_append, List.singleton_append]

/-- Offers change no counters but those of documents. -/
theorem foldl_offer_counters (d : Desk ι) (items : List IndexItem) :
    ∃ enqueued failures, (items.foldl offer d).counters =
      { d.counters with enqueued := enqueued, failures := failures } := by
  induction items generalizing d with
  | nil => exact ⟨_, _, rfl⟩
  | cons item items ih =>
    obtain ⟨enqueued, failures, hcounters⟩ := ih (d.offer item)
    refine ⟨enqueued, failures, ?_⟩
    rw [List.foldl_cons, hcounters]
    simp only [offer]
    split <;> rfl

/-- What an indexer does with offers does not depend on the counters. -/
theorem foldl_offer_indexer (d d' : Desk ι) (h : d.indexer = d'.indexer) (items : List IndexItem) :
    (items.foldl offer d).indexer = (items.foldl offer d').indexer := by
  induction items generalizing d d' with
  | nil => exact h
  | cons item items ih =>
    apply ih
    simp only [offer, h]
    split <;> rfl

end Desk

/-! ## One packet -/

/-- The documents that a packet is to be turned into: none if it breaks a rule, and otherwise one for each
measurement and then one for each log entry. -/
def due (limits : Limits) (indices : Indices) (p : Packet) : List IndexItem :=
  match validate limits p with
  | .error _ => []
  | .ok client =>
    (p.metrics.elim [] (·.points)).map (fun point => ⟨indices.metrics, metricDocument client point⟩) ++
      (p.logs.elim [] (·.entries)).map fun entry => ⟨indices.logs, logDocument client entry⟩

/-- What the sender of a packet is to be told. -/
def verdict (limits : Limits) (p : Packet) : Except ValidationError Acknowledgment :=
  (validate limits p).map fun _ => ⟨true, "Accepted"⟩

namespace Desk

variable {ι : Type} [Indexer ι] (limits : Limits) (indices : Indices)

theorem send_fst (d : Desk ι) (p : Packet) : (d.send limits indices p).1 = verdict limits p := by
  simp only [send, verdict]
  cases validate limits p <;> rfl

/-- A packet is the offers of the documents that are due. -/
theorem send_indexer_counters (d : Desk ι) (p : Packet) :
    (d.send limits indices p).2.indexer = ((due limits indices p).foldl offer d).indexer ∧
      (d.send limits indices p).2.counters = ((due limits indices p).foldl offer d).counters := by
  simp only [send, due, itemsOf, metricPoints_eq, logEntries_eq]
  cases validate limits p with
  | error e => exact ⟨rfl, rfl⟩
  | ok client => exact ⟨rfl, rfl⟩

/-! ## Many packets -/

/-- The desk after a sequence of packets. -/
def after (d : Desk ι) : List Packet → Desk ι
  | [] => d
  | p :: ps => (d.send limits indices p).2.after ps

/-- What is offered for a packet: the offers behind those that were there before. -/
def offersOf (d : Desk (Observed ι)) (p : Packet) : List Offered :=
  (d.send limits indices p).2.indexer.offers.drop d.indexer.offers.length

/-- The offers for a packet are the documents that are due, and each is counted. -/
theorem offersOf_spec (d : Desk (Observed ι)) (p : Packet) :
    (d.offersOf limits indices p).map (·.item) = due limits indices p ∧
      (d.send limits indices p).2.indexer.offers =
        d.indexer.offers ++ d.offersOf limits indices p ∧
      (d.send limits indices p).2.counters =
        countOffers d.counters (d.offersOf limits indices p) := by
  obtain ⟨hindexer, hcounters⟩ := d.send_indexer_counters limits indices p
  obtain ⟨new, hitems, hoffers, hcounted⟩ := d.foldl_offer_observed (due limits indices p)
  have hnew : d.offersOf limits indices p = new := by
    rw [offersOf, hindexer, hoffers, List.drop_left]
  rw [hnew, hindexer, hcounters]
  exact ⟨hitems, hoffers, hcounted⟩

/-- What each packet of a sequence is told, and what is offered for it. -/
def deliveries (d : Desk (Observed ι)) :
    List Packet → List (Except ValidationError Acknowledgment × List Offered)
  | [] => []
  | p :: ps =>
    ((d.send limits indices p).1, d.offersOf limits indices p) ::
      (d.send limits indices p).2.deliveries ps

variable (d : Desk (Observed ι)) (ps : List Packet)

theorem map_deliveries :
    (d.deliveries limits indices ps).map (fun x => (x.1, x.2.map (·.item))) =
      ps.map fun p => (verdict limits p, due limits indices p) := by
  induction ps generalizing d with
  | nil => rfl
  | cons p ps ih =>
    obtain ⟨hitems, -, -⟩ := d.offersOf_spec limits indices p
    rw [deliveries, List.map_cons, List.map_cons, ih, send_fst, hitems]

/-- Nothing is offered but what is offered for one of the packets. -/
theorem offers_after :
    (d.after limits indices ps).indexer.offers =
      d.indexer.offers ++ (d.deliveries limits indices ps).flatMap (·.2) := by
  induction ps generalizing d with
  | nil => exact (List.append_nil _).symm
  | cons p ps ih =>
    obtain ⟨-, hoffers, -⟩ := d.offersOf_spec limits indices p
    rw [deliveries, after, ih, List.flatMap_cons, hoffers, List.append_assoc]

theorem counters_after :
    (d.after limits indices ps).counters =
      countOffers d.counters ((d.deliveries limits indices ps).flatMap (·.2)) := by
  induction ps generalizing d with
  | nil => exact (countOffers_nil _).symm
  | cons p ps ih =>
    obtain ⟨-, -, hcounters⟩ := d.offersOf_spec limits indices p
    rw [deliveries, after, ih, List.flatMap_cons, hcounters, countOffers_append]

/-! ## Without observation -/

/-- The desk as it is when nobody observes the indexer. -/
def bare (d : Desk (Observed ι)) : Desk ι := ⟨d.indexer.inner, d.counters, d.events⟩

theorem bare_offer (item : IndexItem) : (d.offer item).bare = d.bare.offer item := by
  have hanswer : (Indexer.add d.indexer item).result = (Indexer.add d.indexer.inner item).result := rfl
  simp only [offer, bare, hanswer]
  cases (Indexer.add d.indexer.inner item).result <;> rfl

theorem bare_send (p : Packet) :
    (d.send limits indices p).2.bare = (d.bare.send limits indices p).2 := by
  simp only [send]
  cases validate limits p with
  | error e => rfl
  | ok client => exact (List.foldl_hom bare fun d item => (bare_offer d item).symm).symm

/-- Observation changes nothing. -/
theorem bare_after : (d.after limits indices ps).bare = d.bare.after limits indices ps := by
  induction ps generalizing d with
  | nil => rfl
  | cons p ps ih => rw [after, after, ih, bare_send]

/-! ## Delivery -/

/-- **Packets are delivered whole and in order, or not at all.** For each packet of a sequence exactly the
documents that are due are offered, each once and in order, whatever the indexer does with them. The sender is
told what the packet deserves, and nothing of the indexer. The counters grow by the offers that were taken and
by those that were refused. All of this holds of the indexer as it is without observation. -/
theorem deliveries_exact :
    (d.deliveries limits indices ps).map (fun x => (x.1, x.2.map (·.item))) =
        ps.map (fun p => (verdict limits p, due limits indices p)) ∧
      (d.after limits indices ps).indexer.offers =
        d.indexer.offers ++ (d.deliveries limits indices ps).flatMap (·.2) ∧
      (d.after limits indices ps).counters =
        countOffers d.counters ((d.deliveries limits indices ps).flatMap (·.2)) ∧
      (d.after limits indices ps).bare = d.bare.after limits indices ps :=
  ⟨d.map_deliveries limits indices ps, d.offers_after limits indices ps,
    d.counters_after limits indices ps, d.bare_after limits indices ps⟩

end Desk

/-- A packet with one measurement and one log entry. -/
def briefPacket : Packet where
  metadata := some
    { installationId := [0, 0, 0, 0, 0, 0, 0x70, 0, 0x80, 0, 0, 0, 0, 0, 0, 0]
      journeyId := [0, 0, 0, 0, 0, 0, 0x70, 0, 0x80, 0, 0, 0, 0, 0, 0, 1] }
  metrics := some ⟨[{ clientTimestampMs := 5 }]⟩
  logs := some ⟨[{ tag := "t" }]⟩

/-- The sink is closed and refuses the measurement; the log entry is offered all the same. The same packet without a
sender breaks a rule. -/
theorem Desk.deliveries_exact_closed :
    let d : Desk (Observed Sink) := ⟨⟨{ closed := true }, []⟩, {}, []⟩
    let ps := [briefPacket, { briefPacket with metadata := none }]
    (d.deliveries (.create 0 0) ⟨"metrics", "logs"⟩ ps).map (fun x => (x.1, x.2.map (·.item.index))) =
        [(.ok ⟨true, "Accepted"⟩, ["metrics", "logs"]), (.error .missingMetadata, [])] ∧
      (d.after (.create 0 0) ⟨"metrics", "logs"⟩ ps).indexer.offers.length = 2 ∧
      (d.after (.create 0 0) ⟨"metrics", "logs"⟩ ps).counters.failures = 2 := by
  intro d ps
  obtain ⟨hdeliveries, hoffers, hcounters, -⟩ := d.deliveries_exact (.create 0 0) ⟨"metrics", "logs"⟩ ps
  have hindices := congrArg (List.map fun x => (x.1, x.2.map (·.index))) hdeliveries
  simp only [List.map_map, Function.comp_def] at hindices
  refine ⟨hindices.trans (by decide +kernel), ?_, ?_⟩
  · rw [hoffers]
    decide +kernel
  · rw [hcounters]
    decide +kernel

end TelemetryGateway.Ingest
