import Clawdi.Lib.Linked
import Clawdi.SessionEvents.Canonical

namespace Clawdi.EventUpload
open List
open SessionEvents (EMPTY_EVENT_HEAD)

abbrev Encoded := Bytes

def advanceCanonicalEventHead (baseHead : Digest) (enc : Encoded) : Digest :=
  sha256 (baseHead.bytes ++ (sha256 enc).bytes)

def headAfter (baseHead : Digest) (evs : List Encoded) : Digest := evs.foldl advanceCanonicalEventHead baseHead

structure Plan where
  localHash : Digest
  eventCount : Nat
  finalEventHead : Digest

def Plan.Describes (plan : Plan) (evs : List Encoded) : Prop :=
  evs.length = plan.eventCount ∧ headAfter EMPTY_EVENT_HEAD evs = plan.finalEventHead

structure Limits where
  targetBytes : Nat
  maxBytes : Nat

structure EventChunk where
  startSeq : Nat
  count : Nat
  bytes : Bytes
  contentHash : Digest
  baseHead : Digest
  resultHead : Digest

def EventChunk.finalCount (chunk : EventChunk) : Nat := chunk.startSeq + chunk.count

structure Chunking where
  head : Digest
  baseHead : Digest
  chunkStart : Nat
  count : Nat
  bytes : Bytes

def Chunking.chunk (st : Chunking) : EventChunk where
  startSeq := st.chunkStart
  count := st.count
  bytes := st.bytes
  contentHash := sha256 st.bytes
  baseHead := st.baseHead
  resultHead := st.head

inductive Ending
  | complete
  | changed
  | tooLarge (seq sizeBytes : Nat)

def line (enc : Encoded) : Bytes := enc ++ [0x0a]

def chunkEventsFrom (plan : Plan) (limits : Limits) (startSeq : Nat) :
    Nat → Chunking → List Encoded → List EventChunk × Ending
  | seq, st, [] =>
    if seq = plan.eventCount ∧ st.head = plan.finalEventHead then
      (if st.count = 0 then [] else [st.chunk], .complete)
    else ([], .changed)
  | seq, st, enc :: evs =>
    let resultHead := advanceCanonicalEventHead st.head enc
    if seq < startSeq then
      chunkEventsFrom plan limits startSeq (seq + 1) { st with head := resultHead, baseHead := resultHead } evs
    else if limits.maxBytes < (line enc).length then ([], .tooLarge seq (line enc).length)
    else if st.count ≠ 0 ∧ limits.targetBytes < st.bytes.length + (line enc).length then
      let rest := chunkEventsFrom plan limits startSeq (seq + 1)
        { head := resultHead
          baseHead := st.head
          chunkStart := st.chunkStart + st.count
          count := 1
          bytes := line enc } evs
      (st.chunk :: rest.1, rest.2)
    else
      chunkEventsFrom plan limits startSeq (seq + 1)
        { st with
          head := resultHead
          count := st.count + 1
          bytes := st.bytes ++ line enc } evs

def chunkEvents (plan : Plan) (limits : Limits) (startSeq : Nat) (evs : List Encoded) : List EventChunk × Ending :=
  chunkEventsFrom plan limits startSeq 0
    { head := EMPTY_EVENT_HEAD
      baseHead := EMPTY_EVENT_HEAD
      chunkStart := startSeq
      count := 0
      bytes := [] } evs

def EventChunk.source (chunk : EventChunk) : Nat × Digest := (chunk.startSeq, chunk.baseHead)
def EventChunk.target (chunk : EventChunk) : Nat × Digest := (chunk.finalCount, chunk.resultHead)
def prefixHead (evs : List Encoded) (count : Nat) : Digest := headAfter EMPTY_EVENT_HEAD (evs.take count)

/-- The lines of the events from `start` on. -/
def linesOf (evs : List Encoded) (start count : Nat) : Bytes := ((evs.drop start).take count).flatMap line

structure EventChunk.Segment (evs : List Encoded) (chunk : EventChunk) : Prop where
  positive : 0 < chunk.count
  within : chunk.finalCount ≤ evs.length
  base : chunk.baseHead = prefixHead evs chunk.startSeq
  result : chunk.resultHead = prefixHead evs chunk.finalCount
  bytes : chunk.bytes = linesOf evs chunk.startSeq chunk.count
  hash : chunk.contentHash = sha256 chunk.bytes

structure Chunking.Reads (evs : List Encoded) (startSeq seq : Nat) (st : Chunking) : Prop where
  start : startSeq ≤ st.chunkStart
  place : st.chunkStart + st.count = max seq startSeq
  head : st.head = prefixHead evs seq
  base : st.baseHead = prefixHead evs (min seq st.chunkStart)
  bytes : st.bytes = linesOf evs st.chunkStart st.count

section
variable {evs rest : List Encoded} {enc : Encoded} {startSeq seq : Nat} {st : Chunking}

lemma prefixHead_succ (here : evs.drop seq = enc :: rest) :
    advanceCanonicalEventHead (prefixHead evs seq) enc = prefixHead evs (seq + 1) := by
  have taken : evs.take (seq + 1) = evs.take seq ++ [enc] := by
    rw [take_add, here]
    rfl
  unfold prefixHead headAfter
  rw [taken, foldl_append]
  rfl

lemma linesOf_succ {start count : Nat} (here : evs.drop (start + count) = enc :: rest) :
    linesOf evs start (count + 1) = linesOf evs start count ++ line enc := by
  have next : (evs.drop start).drop count = enc :: rest := by rw [drop_drop, here]
  unfold linesOf
  rw [take_add, flatMap_append, next]
  simp

lemma Chunking.Reads.skip (reads : st.Reads evs startSeq seq)
    (here : evs.drop seq = enc :: rest) (early : seq < startSeq) :
    { st with
      head := advanceCanonicalEventHead st.head enc
      baseHead := advanceCanonicalEventHead st.head enc }.Reads evs startSeq (seq + 1) := by
  have place := reads.place
  have start := reads.start
  have head : advanceCanonicalEventHead st.head enc = prefixHead evs (seq + 1) := by
    rw [reads.head]
    exact prefixHead_succ here
  have least : min (seq + 1) st.chunkStart = seq + 1 := by omega
  exact {
    start := start
    place := by
      show st.chunkStart + st.count = max (seq + 1) startSeq
      omega
    head := head
    base := by
      show advanceCanonicalEventHead st.head enc = _
      rw [least]
      exact head
    bytes := reads.bytes }

lemma Chunking.Reads.extend (reads : st.Reads evs startSeq seq)
    (here : evs.drop seq = enc :: rest) (late : startSeq ≤ seq) :
    { st with
      head := advanceCanonicalEventHead st.head enc
      count := st.count + 1
      bytes := st.bytes ++ line enc }.Reads evs startSeq (seq + 1) := by
  have place := reads.place
  have reached : st.chunkStart + st.count = seq := by omega
  have least : min (seq + 1) st.chunkStart = min seq st.chunkStart := by omega
  exact {
    start := reads.start
    place := by
      show st.chunkStart + (st.count + 1) = max (seq + 1) startSeq
      omega
    head := by
      show advanceCanonicalEventHead st.head enc = _
      rw [reads.head]
      exact prefixHead_succ here
    base := by
      show st.baseHead = _
      rw [least]
      exact reads.base
    bytes := by
      show st.bytes ++ line enc = _
      rw [reads.bytes, linesOf_succ (reached.symm ▸ here)] }

lemma Chunking.Reads.renew (reads : st.Reads evs startSeq seq)
    (here : evs.drop seq = enc :: rest) (late : startSeq ≤ seq) :
    Chunking.Reads evs startSeq (seq + 1)
      { head := advanceCanonicalEventHead st.head enc
        baseHead := st.head
        chunkStart := st.chunkStart + st.count
        count := 1
        bytes := line enc } := by
  have place := reads.place
  have reached : st.chunkStart + st.count = seq := by omega
  have least : min (seq + 1) seq = seq := by omega
  exact {
    start := by
      show startSeq ≤ st.chunkStart + st.count
      omega
    place := by
      show st.chunkStart + st.count + 1 = max (seq + 1) startSeq
      omega
    head := by
      show advanceCanonicalEventHead st.head enc = _
      rw [reads.head]
      exact prefixHead_succ here
    base := by
      show st.head = prefixHead evs (min (seq + 1) (st.chunkStart + st.count))
      rw [reached, least]
      exact reads.head
    bytes := by
      show line enc = linesOf evs (st.chunkStart + st.count) 1
      rw [reached]
      unfold linesOf
      rw [here]
      simp }

lemma Chunking.Reads.segment (reads : st.Reads evs startSeq seq) (some_event : st.count ≠ 0)
    (within : seq ≤ evs.length) (late : startSeq ≤ seq) : st.chunk.Segment evs := by
  have place := reads.place
  have reached : st.chunkStart + st.count = seq := by omega
  have least : min seq st.chunkStart = st.chunkStart := by omega
  exact {
    positive := Nat.pos_of_ne_zero some_event
    within := by
      show st.chunkStart + st.count ≤ evs.length
      omega
    base := by
      show st.baseHead = _
      rw [reads.base, least]
      rfl
    result := by
      show st.head = prefixHead evs (st.chunkStart + st.count)
      rw [reached]
      exact reads.head
    bytes := reads.bytes
    hash := rfl }

end

structure Chunked (plan : Plan) (evs : List Encoded) (startSeq start : Nat)
    (res : List EventChunk × Ending) : Prop where
  segments : ∀ chunk ∈ res.1, chunk.Segment evs
  complete : res.2 = .complete → plan.Describes evs ∧ (startSeq ≤ plan.eventCount →
    Linked EventChunk.source EventChunk.target (start, prefixHead evs start) res.1
      (plan.eventCount, plan.finalEventHead))

section
variable {plan : Plan} {limits : Limits} {evs rest : List Encoded} {startSeq seq : Nat}
  {st : Chunking}

lemma Chunking.Reads.ended (reads : st.Reads evs startSeq seq) (all : seq = evs.length) :
    Chunked plan evs startSeq st.chunkStart (chunkEventsFrom plan limits startSeq seq st []) := by
  have place := reads.place
  have start := reads.start
  unfold chunkEventsFrom
  by_cases whole : seq = plan.eventCount ∧ st.head = plan.finalEventHead
  · rw [if_pos whole]
    have described : plan.Describes evs := by
      refine ⟨all.symm.trans whole.1, ?_⟩
      rw [← whole.2, reads.head, all, prefixHead, take_length]
    by_cases none : st.count = 0
    · rw [if_pos none]
      refine ⟨by simp, fun _ => ⟨described, fun enough => ?_⟩⟩
      have here : st.chunkStart = seq := by omega
      rw [here, Linked.nil, ← reads.head, whole.1, whole.2]
    · rw [if_neg none]
      have late : startSeq ≤ seq := by omega
      have seg : st.chunk.Segment evs := reads.segment none (le_of_eq all) late
      have reached : st.chunkStart + st.count = seq := by omega
      constructor
      · intro chunk mem
        rw [mem_singleton.mp mem]
        exact seg
      · intro _
        refine ⟨described, fun _ => ⟨Prod.ext rfl seg.base, ?_⟩⟩
        exact Prod.ext (reached.trans whole.1) whole.2
  · rw [if_neg whole]
    exact ⟨by simp, fun complete => by cases complete⟩

lemma chunkEventsFrom_chunked (reads : st.Reads evs startSeq seq)
    (here : evs.drop seq = rest) (within : seq ≤ evs.length) : Chunked plan evs startSeq st.chunkStart
      (chunkEventsFrom plan limits startSeq seq st rest) := by
  induction rest generalizing seq st with
  | nil =>
    have all := drop_eq_nil_iff.mp here
    exact reads.ended (le_antisymm within all)
  | cons enc rest ih =>
    have next : evs.drop (seq + 1) = rest := by rw [← drop_drop, here]; rfl
    have more : seq + 1 ≤ evs.length := by
      have some_left : (evs.drop seq).length ≠ 0 := by simp [here]
      rw [length_drop] at some_left
      omega
    unfold chunkEventsFrom
    by_cases early : seq < startSeq
    · rw [if_pos early]
      exact ih (reads.skip here early) next more
    · have late : startSeq ≤ seq := Nat.le_of_not_lt early
      rw [if_neg early]
      by_cases large : limits.maxBytes < (line enc).length
      · rw [if_pos large]
        exact ⟨by simp, fun complete => by cases complete⟩
      · rw [if_neg large]
        by_cases full : st.count ≠ 0 ∧ limits.targetBytes < st.bytes.length + (line enc).length
        · rw [if_pos full]
          have rest := ih (reads.renew here late) next more
          have seg : st.chunk.Segment evs := reads.segment full.1 within late
          constructor
          · intro chunk mem
            rcases mem_cons.mp mem with rfl | later
            · exact seg
            · exact rest.segments chunk later
          · intro complete
            obtain ⟨described, linked⟩ := rest.complete complete
            refine ⟨described, fun enough => ⟨Prod.ext rfl seg.base, ?_⟩⟩
            have after : st.chunk.target =
                (st.chunkStart + st.count, prefixHead evs (st.chunkStart + st.count)) :=
              Prod.ext rfl seg.result
            rw [after]
            exact linked enough
        · rw [if_neg full]
          exact ih (reads.extend here late) next more

lemma chunkEvents_chunked (plan : Plan) (limits : Limits) (startSeq : Nat) (evs : List Encoded) :
    Chunked plan evs startSeq startSeq (chunkEvents plan limits startSeq evs) := by
  have init : Chunking.Reads evs startSeq 0
      { head := EMPTY_EVENT_HEAD, baseHead := EMPTY_EVENT_HEAD, chunkStart := startSeq, count := 0
        bytes := [] } := by
    constructor
    · exact le_refl startSeq
    · show startSeq + 0 = max 0 startSeq
      omega
    · rfl
    · show EMPTY_EVENT_HEAD = prefixHead evs (min 0 startSeq)
      rfl
    · simp [linesOf]
  exact chunkEventsFrom_chunked init rfl (Nat.zero_le _)

end
end Clawdi.EventUpload
