import Clawdi.EventUpload.Encoding

namespace Clawdi.EventUpload
open SessionEvents List Nat
section
variable {plan : Plan} {limits : Limits} {evs rest : List Encoded} {startSeq seq : Nat} {st : Chunking}

def Limits.Holds (limits : Limits) (bytes : Bytes) (count : Nat) : Prop :=
  bytes.length ≤ limits.maxBytes ∧ (bytes.length ≤ limits.targetBytes ∨ count = 1)

def Chunking.Sized (limits : Limits) (st : Chunking) : Prop :=
  limits.Holds st.bytes st.count ∧ (st.count = 0 → st.bytes = [])

lemma chunkEventsFrom_sized (order : limits.targetBytes ≤ limits.maxBytes) (sized : st.Sized limits) :
    ∀ chunk ∈ (chunkEventsFrom plan limits startSeq seq st rest).1, limits.Holds chunk.bytes chunk.count := by
  induction rest generalizing seq st with
  | nil =>
    unfold chunkEventsFrom
    intro chunk mem
    split at mem
    · split at mem
      · cases mem
      · rw [mem_singleton.mp mem]
        exact sized.1
    · cases mem
  | cons enc rest ih =>
    obtain ⟨⟨most, aim⟩, empty⟩ := sized
    unfold chunkEventsFrom
    split
    · exact ih ⟨⟨most, aim⟩, empty⟩
    split
    · simp
    rename_i fits
    split
    · intro chunk mem
      rcases mem_cons.mp mem with rfl | later
      · exact ⟨most, aim⟩
      · exact ih ⟨⟨by simpa using fits, .inr rfl⟩, by simp⟩ chunk later
    · rename_i open_
      apply ih
      rcases Nat.eq_zero_or_pos st.count with none | some_event
      · simp only [none, empty none]
        exact ⟨⟨by simpa using fits, .inr rfl⟩, by simp⟩
      · have room : st.bytes.length + (line enc).length ≤ limits.targetBytes := by
          by_contra full
          exact open_ ⟨by omega, by omega⟩
        refine ⟨⟨?_, .inl ?_⟩, by simp⟩
        · rw [length_append]
          omega
        · rw [length_append]
          exact room

def Fits (limits : Limits) (evs : List Encoded) (startSeq stop : Nat) : Prop :=
  ∀ seq, startSeq ≤ seq → seq < stop → ∀ enc, evs[seq]? = some enc → (line enc).length ≤ limits.maxBytes

def Ends (limits : Limits) (evs : List Encoded) (startSeq : Nat) : Ending → Prop
  | .complete => Fits limits evs startSeq evs.length
  | .tooLarge seq sizeBytes => startSeq ≤ seq ∧ Fits limits evs startSeq seq ∧
      limits.maxBytes < sizeBytes ∧ ∃ enc, evs[seq]? = some enc ∧ (line enc).length = sizeBytes
  | .changed => False

lemma chunkEventsFrom_ends (reads : st.Reads evs startSeq seq) (describes : plan.Describes evs)
    (here : evs.drop seq = rest) (within : seq ≤ evs.length) (fits : Fits limits evs startSeq seq) :
    Ends limits evs startSeq (chunkEventsFrom plan limits startSeq seq st rest).2 := by
  induction rest generalizing seq st with
  | nil =>
    have all : seq = evs.length := le_antisymm within (drop_eq_nil_iff.mp here)
    have head : st.head = plan.finalEventHead := by rw [reads.head, all, prefixHead, take_length, describes.2]
    unfold chunkEventsFrom
    rw [if_pos ⟨all.trans describes.1, head⟩]
    show Fits limits evs startSeq evs.length
    rw [← all]
    exact fits
  | cons enc rest ih =>
    have own : evs[seq]? = some enc := by
      rw [← List.head?_drop, here]
      rfl
    have next : evs.drop (seq + 1) = rest := by rw [← drop_drop, here]; rfl
    have more : seq + 1 ≤ evs.length := (List.getElem?_eq_some_iff.mp own).1
    have go (small : seq < startSeq ∨ (line enc).length ≤ limits.maxBytes) :
        Fits limits evs startSeq (seq + 1) := by
      intro alt late early hit isAt
      rcases lt_or_ge alt seq with pre | after
      · exact fits alt late pre hit isAt
      · obtain rfl : alt = seq := by omega
        rw [own] at isAt
        cases isAt
        exact small.resolve_left (by omega)
    unfold chunkEventsFrom
    split
    · rename_i early
      exact ih (reads.skip here early) next more (go (.inl early))
    rename_i late
    have late := Nat.le_of_not_lt late
    split
    · rename_i large
      exact ⟨late, fits, large, enc, own, rfl⟩
    rename_i small
    have fits := go (.inr (Nat.le_of_not_lt small))
    split
    · exact ih (reads.renew here late) next more fits
    · exact ih (reads.extend here late) next more fits

lemma Chunking.reads_start (evs : List Encoded) (startSeq : Nat) : Chunking.Reads evs startSeq 0
    { head := EMPTY_EVENT_HEAD, baseHead := EMPTY_EVENT_HEAD, chunkStart := startSeq, count := 0
      bytes := [] } where
  start := le_refl startSeq
  place := (zero_max startSeq).symm
  head := rfl
  base := by simp [prefixHead, headAfter]
  bytes := by simp [linesOf]

end

section
variable {adapter : EventAdapter} {evs : List SessionEvent}

lemma splitLinesFrom_line {pre enc rest} (oneLine : 0x0a ∉ enc ∧ 0x0d ∉ enc) :
    splitLinesFrom pre (enc ++ 0x0a :: rest) = (pre.reverse ++ enc) :: splitLines rest := by
  induction enc generalizing pre with
  | nil =>
    rw [nil_append, append_nil, splitLinesFrom]
    · rfl
  | cons byte enc ih =>
    simp only [mem_cons, not_or] at oneLine
    rw [cons_append, splitLinesFrom, ih ⟨oneLine.1.2, oneLine.2.2⟩, reverse_cons, append_assoc]
    · rfl
    all_goals grind

lemma splitLines_lines (evs : List SessionEvent) :
    splitLines ((evs.map SessionEvent.encoded).flatMap line) = evs.map SessionEvent.encoded := by
  induction evs with
  | nil => rfl
  | cons ev evs ih =>
    rw [map_cons, flatMap_cons, line, append_assoc, singleton_append, splitLines,
      splitLinesFrom_line (event_oneLine ev), ih]
    rfl

def Accepts (adapter : EventAdapter) (seq : Nat) (ev : SessionEvent) : Prop :=
  adapter.event ev.encoded = .ok ⟨seq, sha256 (canonicalJson ev.identity)⟩

lemma validateLine_encoded (parses : Parses adapter) {seq : Nat} {ev}
    (accepts : Accepts adapter seq ev) : validateLine adapter seq ev.encoded =
      .ok (ev.raw, ⟨seq, sha256 (canonicalJson ev.identity)⟩) := by
  have src := @raw_member ev "source" ev.source.value (by simp)
  have type : rawMember ev.raw "type" = .ok (.text ev.body.type) :=
    @raw_member ev "type" (.string ev.body.type) (by simp [textField])
  have content : ev.encoded ≠ [] := by simp [SessionEvent.encoded, SessionEvent.value, canonicalJson_object]
  have read : adapter.event ev.encoded = _ := accepts
  unfold validateLine
  rw [bind_eq_ok]
  refine ⟨(), raiseIf_eq_ok.mpr content, ?_⟩
  rw [event_read ev parses, read]
  rw [bind_eq_ok]
  refine ⟨(), raiseIf_eq_ok.mpr (not_not.mpr rfl), ?_⟩
  rw [bind_eq_ok]
  refine ⟨_, src, ?_⟩
  rw [bind_eq_ok]
  refine ⟨_, type, ?_⟩
  rw [bind_eq_ok]
  exact ⟨(), raiseIf_eq_ok.mpr (not_not.mpr (congrArg sha256 (identity_agrees ev).symm)), rfl⟩

lemma validateLines_encoded (parses : Parses adapter) {seq : Nat}
    (accepts : ∀ idx ev, evs[idx]? = some ev → Accepts adapter (seq + idx) ev) :
    ∃ checked, validateLines adapter seq (evs.map SessionEvent.encoded) = .ok checked ∧
      checked.map Prod.fst = evs.map SessionEvent.raw := by
  induction evs generalizing seq with
  | nil => exact ⟨[], rfl, rfl⟩
  | cons ev evs ih =>
    obtain ⟨checked, others, raws⟩ := @ih (seq + 1) fun idx later isAt => by
      rw [add_right_comm]
      exact accepts (idx + 1) later isAt
    refine ⟨(ev.raw, ⟨seq, sha256 (canonicalJson ev.identity)⟩) :: checked, ?_, congrArg (ev.raw :: ·) raws⟩
    rw [map_cons, validateLines, bind_eq_ok]
    refine ⟨_, validateLine_encoded parses (accepts 0 ev rfl), ?_⟩
    rw [bind_eq_ok]
    exact ⟨checked, others, rfl⟩

lemma prefixHead_add (evs : List Encoded) (start count : Nat) : prefixHead evs (start + count) =
    headAfter (prefixHead evs start) ((evs.drop start).take count) := by
  rw [prefixHead, take_add, headAfter, foldl_append]
  rfl

lemma segment_accepted (parses : Parses adapter)
    (accepts : ∀ idx ev, evs[idx]? = some ev → Accepts adapter idx ev) {chunk : EventChunk}
    (seg : chunk.Segment (evs.map SessionEvent.encoded)) :
    ∃ validated, validateEventChunk adapter chunk.bytes chunk.startSeq chunk.baseHead = .ok validated ∧
      validated.resultHeadHash = chunk.resultHead := by
  let part := (evs.drop chunk.startSeq).take chunk.count
  have partIs : ((evs.map SessionEvent.encoded).drop chunk.startSeq).take chunk.count =
      part.map SessionEvent.encoded := by rw [← map_drop, ← map_take]
  have bytes : chunk.bytes = (part.map SessionEvent.encoded).flatMap line := by rw [seg.bytes, linesOf, partIs]
  have long : part.length = chunk.count := by
    have within := seg.within
    rw [length_map, EventChunk.finalCount] at within
    rw [length_take, length_drop]
    omega
  obtain ⟨checked, valid, raws⟩ := @validateLines_encoded adapter part parses chunk.startSeq
    fun idx ev isAt => accepts _ ev (by
      rw [List.getElem?_take] at isAt
      split at isAt
      · rwa [List.getElem?_drop] at isAt
      · cases isAt)
  have terminated : ¬(chunk.bytes = [] ∨ chunk.bytes.getLast? ≠ some 0x0a) := by
    have positive := seg.positive
    obtain ⟨front, last, partEnds⟩ := eq_nil_or_concat part |>.resolve_left (by
      rintro none
      simp [none] at long
      omega)
    have ends : chunk.bytes = (front.map SessionEvent.encoded).flatMap line ++ last.encoded ++ [0x0a] := by
      rw [bytes, partEnds]
      simp [line]
    simp [ends]
  have lines : splitLines chunk.bytes = part.map SessionEvent.encoded := bytes ▸ splitLines_lines part
  have res : SessionEvents.advanceEventHead chunk.baseHead (checked.map Prod.fst) = chunk.resultHead := by
    rw [raws, head_agrees, seg.result, seg.base, EventChunk.finalCount, prefixHead_add, partIs,
      advanceEventHead, headAfter, foldl_map]
  refine ⟨⟨checked.map Prod.snd, checked.map Prod.fst, sha256 chunk.bytes, _⟩, ?_, res⟩
  rw [validateEventChunk, bind_eq_ok]
  refine ⟨(), raiseIf_eq_ok.mpr terminated, ?_⟩
  rw [bind_eq_ok]
  exact ⟨checked, lines ▸ valid, rfl⟩

end

/-- An upload tiles the events up to the planned head, within the limits and accepted by the server. -/
structure Uploaded (adapter : EventAdapter) (plan : Plan) (limits : Limits) (evs : List Encoded)
    (startSeq : Nat) (res : List EventChunk × Ending) : Prop where
  ends : Ends limits evs startSeq res.2
  tiled : res.2 = .complete → Linked EventChunk.source EventChunk.target (startSeq, prefixHead evs startSeq) res.1
      (plan.eventCount, plan.finalEventHead)
  chunks : ∀ chunk ∈ res.1, 0 < chunk.count ∧ limits.Holds chunk.bytes chunk.count ∧
    ∃ validated, validateEventChunk adapter chunk.bytes chunk.startSeq chunk.baseHead = .ok validated ∧
      validated.resultHeadHash = chunk.resultHead

theorem event_chunks_accepted {adapter : EventAdapter} {plan : Plan} {limits : Limits}
    {evs : List SessionEvent} {startSeq : Nat} (parses : Parses adapter)
    (accepts : ∀ idx ev, evs[idx]? = some ev → Accepts adapter idx ev)
    (describes : plan.Describes (evs.map SessionEvent.encoded)) (within : startSeq ≤ plan.eventCount)
    (order : limits.targetBytes ≤ limits.maxBytes) :
    Uploaded adapter plan limits (evs.map SessionEvent.encoded) startSeq
      (chunkEvents plan limits startSeq (evs.map SessionEvent.encoded)) := by
  have chunked := chunkEvents_chunked plan limits startSeq (evs.map SessionEvent.encoded)
  constructor
  · apply chunkEventsFrom_ends (Chunking.reads_start _ startSeq) describes rfl (zero_le _)
    intro seq _ early
    cases early
  · intro complete
    exact (chunked.complete complete).2 within
  · intro chunk mem
    have seg := chunked.segments chunk mem
    refine ⟨seg.positive, ?_, segment_accepted parses accepts seg⟩
    apply chunkEventsFrom_sized order ?_ chunk mem
    exact ⟨⟨zero_le _, .inl (zero_le _)⟩, fun _ => rfl⟩

def greetingPlan : Plan where
  localHash := EMPTY_EVENT_HEAD
  eventCount := 3
  finalEventHead := headAfter EMPTY_EVENT_HEAD (greetings.map SessionEvent.encoded)

lemma greetingPlan_describes : greetingPlan.Describes (greetings.map SessionEvent.encoded) := by exact ⟨rfl, rfl⟩

lemma type_encoded {a b : SessionEvent} (same : a.encoded = b.encoded) : a.body.type = b.body.type := by
  have raws := event_read a greetingAdapter_parses
  rw [same, event_read b greetingAdapter_parses] at raws
  have first := @raw_member a "type" (.string a.body.type) (by simp [textField])
  have second := @raw_member b "type" (.string b.body.type) (by simp [textField])
  rw [← Option.some.inj raws, second] at first
  exact (JsonValue.text.inj (Except.ok.inj first)).symm

lemma greeting_accepted : ∀ idx ev, greetings[idx]? = some ev → Accepts greetingAdapter idx ev := by
  have one : greeting.encoded ≠ thought.encoded := fun same => absurd (type_encoded same) (by decide)
  have two : greeting.encoded ≠ listing.encoded := fun same => absurd (type_encoded same) (by decide)
  have three : thought.encoded ≠ listing.encoded := fun same => absurd (type_encoded same) (by decide)
  intro idx ev isAt
  rcases idx with _ | _ | _ | idx
  iterate 3
    · cases isAt
      simp [Accepts, greetingAdapter, greetings, findIdx?_cons, one, two, three]
  · simp [greetings] at isAt

/-- The first event is skipped, and the second is flushed before the third. -/
theorem event_chunks_accepted_greeting :
    Uploaded greetingAdapter greetingPlan ⟨1, 1000⟩ (greetings.map SessionEvent.encoded) 1
      (chunkEvents greetingPlan ⟨1, 1000⟩ 1 (greetings.map SessionEvent.encoded)) :=
  event_chunks_accepted greetingAdapter_parses greeting_accepted greetingPlan_describes (by decide) (by simp)

end Clawdi.EventUpload
