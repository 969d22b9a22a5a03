import Mathlib
import TelemetryGateway.Admission.Limiter

/-!
# Visits to a limiter

What a limiter tells the visitors of one key is what a bucket of their own would tell them: the visits of
other keys are not seen in it. This holds of any arithmetic.

## Main definitions

- `Visit`: a key and an instant
- `Limiter.run`, `Limiter.after`: a sequence of visits
- `instantsOf`, `Limiter.answersTo`: the visits of one key, and what they are told
- `Limiter.tokensAt`, `Limiter.Charged`: the tokens of a key, and what a visit changes of them

## Main statements

- `KeyedLimiter.answersTo_eq`: the answers to a key are those of a bucket of its own
- `KeyedLimiter.trackedKeys_after`: there are as many buckets as keys that were seen
- `Limiter.charged_allow`: a visit costs one token of its key if it is let through, and nothing otherwise
-/

namespace TelemetryGateway.Admission

open Arithmetic (ofNat sub)

/-- A request to a limiter. -/
structure Visit where
  key : String
  now : Nat
deriving DecidableEq, Repr

/-- The key that a visit is counted under. -/
def Visit.bucketKey (v : Visit) : String := normalizeKey v.key

/-- The instants at which a key is visited. -/
def instantsOf (key : String) (vs : List Visit) : List Nat :=
  (vs.filter fun v => v.bucketKey = normalizeKey key).map (·.now)

theorem instantsOf_cons_eq {key : String} {v : Visit} (h : v.bucketKey = normalizeKey key)
    (vs : List Visit) : instantsOf key (v :: vs) = v.now :: instantsOf key vs := by
  simp [instantsOf, h]

theorem instantsOf_cons_ne {key : String} {v : Visit} (h : v.bucketKey ≠ normalizeKey key)
    (vs : List Visit) : instantsOf key (v :: vs) = instantsOf key vs := by
  simp [instantsOf, h]

namespace Limiter

variable {α : Type} [Arithmetic α]

/-- The limiter after a sequence of visits. -/
def after (l : Limiter α) : List Visit → Limiter α
  | [] => l
  | v :: vs => (l.allow v.key v.now).2.after vs

/-- What each visit of a sequence is told. -/
def run (l : Limiter α) : List Visit → List Bool
  | [] => []
  | v :: vs => (l.allow v.key v.now).1 :: (l.allow v.key v.now).2.run vs

/-- What the visits of a key are told. -/
def answersTo (l : Limiter α) (key : String) (vs : List Visit) : List Bool :=
  ((vs.zip (l.run vs)).filter fun e => e.1.bucketKey = normalizeKey key).map (·.2)

theorem answersTo_cons_eq (l : Limiter α) {key : String} {v : Visit}
    (h : v.bucketKey = normalizeKey key) (vs : List Visit) :
    l.answersTo key (v :: vs) =
      (l.allow v.key v.now).1 :: (l.allow v.key v.now).2.answersTo key vs := by
  simp [answersTo, run, h]

theorem answersTo_cons_ne (l : Limiter α) {key : String} {v : Visit}
    (h : v.bucketKey ≠ normalizeKey key) (vs : List Visit) :
    l.answersTo key (v :: vs) = (l.allow v.key v.now).2.answersTo key vs := by
  simp [answersTo, run, h]

end Limiter

/-! ## Lists of buckets -/

section Buckets

variable {β : Type}

/-- Setting the bucket of a key is seen under that key alone. -/
theorem lookup_setBucket (key k : String) (b : β) (l : List (String × β)) :
    (setBucket key b l).lookup k = if k = key then some b else l.lookup k := by
  induction l with
  | nil =>
    by_cases hk : k = key
    · simp [setBucket, hk]
    · have hbeq : (k == key) = false := beq_false_of_ne hk
      simp [setBucket, List.lookup, hk, hbeq]
  | cons e l ih =>
    obtain ⟨k', c⟩ := e
    by_cases hset : k' = key
    -- The bucket is set here, and what follows is as before
    · subst hset
      by_cases hk : k = k'
      · simp [setBucket, hk]
      · have hbeq : (k == k') = false := beq_false_of_ne hk
        simp [setBucket, List.lookup, hk, hbeq]
    -- The bucket is set further on
    · by_cases hk : k = k'
      · subst hk
        simp [setBucket, hset]
      · have hbeq : (k == k') = false := beq_false_of_ne hk
        simp [setBucket, hset, List.lookup, hbeq, ih]

theorem lookup_setBucket_self (key : String) (b : β) (l : List (String × β)) :
    (setBucket key b l).lookup key = some b := by
  rw [lookup_setBucket, if_pos rfl]

theorem lookup_setBucket_ne {key k : String} (h : k ≠ key) (b : β) (l : List (String × β)) :
    (setBucket key b l).lookup k = l.lookup k := by
  rw [lookup_setBucket, if_neg h]

/-- The keys stay in their order, and a new one comes last. -/
theorem map_fst_setBucket (key : String) (b : β) (l : List (String × β)) :
    (setBucket key b l).map (·.1) =
      if key ∈ l.map (·.1) then l.map (·.1) else l.map (·.1) ++ [key] := by
  induction l with
  | nil => rfl
  | cons e l ih =>
    obtain ⟨k, c⟩ := e
    by_cases hset : k = key
    · simp [setBucket, hset]
    · have hne : key ≠ k := Ne.symm hset
      by_cases hmem : key ∈ l.map (·.1)
      · rw [if_pos hmem] at ih
        simp only [setBucket, if_neg hset, List.map_cons, ih, List.mem_cons, hmem, or_true, if_true]
      · rw [if_neg hmem] at ih
        simp only [setBucket, if_neg hset, List.map_cons, ih, List.mem_cons, hmem, hne, or_false,
          if_false, List.cons_append]

theorem toFinset_setBucket (key : String) (b : β) (l : List (String × β)) :
    ((setBucket key b l).map (·.1)).toFinset = insert key (l.map (·.1)).toFinset := by
  rw [map_fst_setBucket]
  split
  · next hmem => rw [Finset.insert_eq_of_mem (List.mem_toFinset.2 hmem)]
  · rw [List.toFinset_append, List.toFinset_cons, List.toFinset_nil, Finset.union_comm]
    rfl

theorem nodup_setBucket {l : List (String × β)} (h : (l.map (·.1)).Nodup) (key : String) (b : β) :
    ((setBucket key b l).map (·.1)).Nodup := by
  rw [map_fst_setBucket]
  split
  · exact h
  · next hmem => exact List.Nodup.append h (List.nodup_singleton key) (by simpa using hmem)

end Buckets

/-! ## One visit -/

namespace KeyedLimiter

variable {α : Type} [Arithmetic α]

/-- A visit is answered by the bucket of its key. -/
theorem allow_fst (l : KeyedLimiter α) (v : Visit) :
    (l.allow v.key v.now).1 = ((l.bucketFor v.bucketKey v.now).acquire v.now).1 := rfl

theorem allow_snd (l : KeyedLimiter α) (v : Visit) :
    (l.allow v.key v.now).2 = { l with
      buckets := setBucket v.bucketKey ((l.bucketFor v.bucketKey v.now).acquire v.now).2 l.buckets } :=
  rfl

/-- After a visit the bucket of its key is the one that answered it. -/
theorem bucketFor_allow_self (l : KeyedLimiter α) (v : Visit) (t : Nat) :
    (l.allow v.key v.now).2.bucketFor v.bucketKey t =
      ((l.bucketFor v.bucketKey v.now).acquire v.now).2 := by
  rw [allow_snd]
  simp only [bucketFor, lookup_setBucket_self, Option.getD_some]

/-- A visit leaves the buckets of other keys alone, those included that are yet to come. -/
theorem bucketFor_allow_ne (l : KeyedLimiter α) {v : Visit} {key : String} (h : key ≠ v.bucketKey)
    (t : Nat) : (l.allow v.key v.now).2.bucketFor key t = l.bucketFor key t := by
  rw [allow_snd]
  simp only [bucketFor, lookup_setBucket_ne h]

/-! ## Many visits -/

/-- What the bucket of a key tells visitors at instants, when nobody else comes. -/
def ownReplies (l : KeyedLimiter α) (key : String) : List Nat → List (Reply α)
  | [] => []
  | t :: ts => (l.bucketFor key t).run ((t :: ts).map .acquire)

/-- Where the bucket of a key does not depend on the instant, it answers all the visits. -/
theorem ownReplies_eq_run {l : KeyedLimiter α} {key : String} {b : Bucket α}
    (h : ∀ t, l.bucketFor key t = b) (ts : List Nat) :
    l.ownReplies key ts = b.run (ts.map .acquire) := by
  cases ts with
  | nil => rfl
  | cons t ts => rw [ownReplies, h t]

/-- The answers to a key are those of a bucket of its own. -/
theorem answersTo_eq (l : KeyedLimiter α) (key : String) (vs : List Visit) :
    ((Limiter.keyed l).answersTo key vs).map .admitted =
      l.ownReplies (normalizeKey key) (instantsOf key vs) := by
  induction vs generalizing l with
  | nil => rfl
  | cons v vs ih =>
    have hstep : (Limiter.keyed l).allow v.key v.now =
        ((l.allow v.key v.now).1, .keyed (l.allow v.key v.now).2) := rfl
    by_cases hkey : v.bucketKey = normalizeKey key
    -- A visit of the key: from here on the bucket is there, and does not depend on the next instant
    · rw [Limiter.answersTo_cons_eq _ hkey, instantsOf_cons_eq hkey, hstep, List.map_cons, ih]
      have hown := l.bucketFor_allow_self v
      rw [hkey] at hown
      rw [ownReplies_eq_run hown, allow_fst, hkey]
      rfl
    -- A visit of another key leaves the bucket as it is, or as it will be made
    · rw [Limiter.answersTo_cons_ne _ hkey, instantsOf_cons_ne hkey, hstep, ih]
      cases instantsOf key vs with
      | nil => rfl
      | cons t ts => rw [ownReplies, ownReplies, l.bucketFor_allow_ne (Ne.symm hkey)]

/-- After any visits a key has one bucket at most, and the keys with a bucket are those seen so far. -/
theorem keys_after (l : KeyedLimiter α) (vs : List Visit) (h : (l.buckets.map (·.1)).Nodup) :
    ∃ l' : KeyedLimiter α, (Limiter.keyed l).after vs = .keyed l' ∧ (l'.buckets.map (·.1)).Nodup ∧
      (l'.buckets.map (·.1)).toFinset =
        (l.buckets.map (·.1)).toFinset ∪ (vs.map (·.bucketKey)).toFinset := by
  induction vs generalizing l with
  | nil => exact ⟨l, rfl, h, by simp⟩
  | cons v vs ih =>
    have hnodup : ((l.allow v.key v.now).2.buckets.map (·.1)).Nodup := by
      rw [allow_snd]
      exact nodup_setBucket h _ _
    obtain ⟨l', hafter, hnodup', hkeys⟩ := ih (l.allow v.key v.now).2 hnodup
    refine ⟨l', hafter, hnodup', ?_⟩
    rw [hkeys, allow_snd, toFinset_setBucket, List.map_cons, List.toFinset_cons, Finset.insert_union,
      Finset.union_insert]

/-- There are as many buckets as keys that were seen. -/
theorem trackedKeys_after (rate : Rate α) (burst : UInt32) (vs : List Visit) :
    ((Limiter.keyed (create rate burst)).after vs).trackedKeys =
      (vs.map (·.bucketKey)).toFinset.card := by
  obtain ⟨l', hafter, hnodup, hkeys⟩ := keys_after (create rate burst) vs List.nodup_nil
  have hlength : l'.buckets.length = (l'.buckets.map (·.1)).length := List.length_map .. |>.symm
  rw [hafter, Limiter.trackedKeys, hlength, ← List.toFinset_card_of_nodup hnodup, hkeys]
  simp [create]

end KeyedLimiter

/-! ## What a visit costs -/

namespace Bucket

variable {α : Type} [Arithmetic α]

/-- A bucket that is up to date stays as it is. -/
theorem refill_of_le {b : Bucket α} {now : Nat} (h : now ≤ b.lastRefill) : b.refill now = b :=
  if_pos (Nat.sub_eq_zero_of_le h)

/-- A token that is handed out is missing afterwards, and nothing else. -/
theorem available_acquire (b : Bucket α) (now : Nat) :
    ((b.acquire now).2.available now).1 =
      if (b.acquire now).1 then sub (b.available now).1 (ofNat 1) else (b.available now).1 := by
  have hclock : now ≤ (b.refill now).lastRefill := by
    rw [refill_lastRefill]
    exact Nat.le_max_right ..
  have hspent : ({ b.refill now with tokens := sub (b.refill now).tokens (ofNat 1) } : Bucket α).refill now =
      { b.refill now with tokens := sub (b.refill now).tokens (ofNat 1) } := refill_of_le hclock
  simp only [acquire, available]
  split
  · simp only [hspent, if_true]
  · simp only [refill_of_le hclock, Bool.false_eq_true, if_false]

end Bucket

namespace Limiter

variable {α : Type} [Arithmetic α]

/-- The bucket of a key, where the limiter has one. -/
def bucket? (l : Limiter α) (key : String) : Option (Bucket α) :=
  match l with
  | .disabled => none
  | .keyed k => k.buckets.lookup key

/-- The tokens of a key at an instant, where tokens are counted. -/
def tokensAt (l : Limiter α) (key : String) (now : Nat) : Option α :=
  match l with
  | .disabled => none
  | .keyed k => some ((k.bucketFor (normalizeKey key) now).available now).1

/-- Between two states of a limiter the tokens of a key at an instant are changed by a charge, and the buckets of all
other keys are left alone. -/
structure Charged (l l' : Limiter α) (key : String) (now : Nat) (charge : α → α) : Prop where
  own : l'.tokensAt key now = (l.tokensAt key now).map charge
  others : ∀ k ≠ normalizeKey key, l'.bucket? k = l.bucket? k

/-- A visit costs one token of its key if it is let through, and nothing otherwise. -/
theorem charged_allow (l : Limiter α) (key : String) (now : Nat) :
    l.Charged (l.allow key now).2 key now
      (if (l.allow key now).1 then fun tokens => sub tokens (ofNat 1) else id) := by
  cases l with
  | disabled => exact ⟨rfl, fun _ _ => rfl⟩
  | keyed k =>
    have hallow : (Limiter.keyed k).allow key now = ((k.allow key now).1, .keyed (k.allow key now).2) := rfl
    have hself := k.bucketFor_allow_self ⟨key, now⟩ now
    have hfst := k.allow_fst ⟨key, now⟩
    simp only [Visit.bucketKey] at hself hfst
    rw [hallow]
    constructor
    · simp only [tokensAt, hself, hfst, Bucket.available_acquire, Option.map_some]
      split <;> rfl
    · intro key' hne
      show (k.allow key now).2.buckets.lookup key' = k.buckets.lookup key'
      rw [k.allow_snd ⟨key, now⟩]
      exact lookup_setBucket_ne hne _ _

end Limiter

end TelemetryGateway.Admission
