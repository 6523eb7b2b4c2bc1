import Clawdi.Lib.Chunked
import Mathlib

namespace Clawdi.Noise
open List Option Bool
variable (data : List UInt8) {rest frame : List UInt8}

def packFrame : List UInt8 :=
  [UInt8.ofNat (data.length >>> 16), UInt8.ofNat (data.length >>> 8), UInt8.ofNat data.length] ++ data

def int24 (first snd third : UInt8) : ℕ := first.toNat <<< 16 ||| snd.toNat <<< 8 ||| third.toNat

def unpackFrame : Option (List UInt8 × List UInt8) :=
  match data with
  | first :: snd :: third :: rest =>
    let length := int24 first snd third
    if rest.length < length then none else some (rest.take length, rest.drop length)
  | _ => none

def noiseWaHeader : List UInt8 := [87, 65, 6, 3]

/-- Where the Noise header starts, behind the routing information if there is any. -/
def noiseOffset (buffer : List UInt8) : Option ℕ :=
  if buffer.take 2 = [69, 68] then
    if buffer.length < 7 then none
    else some (7 + int24 (buffer.getD 4 0) (buffer.getD 5 0) (buffer.getD 6 0))
  else some 0

inductive Intro where
  | incomplete
  | invalid
  | consumed (rest : List UInt8)
deriving DecidableEq

def consumeIntro (buffer : List UInt8) : Intro :=
  match noiseOffset buffer with
  | none => .incomplete
  | some offset =>
    let last := offset + noiseWaHeader.length
    if buffer.length < last then .incomplete
    else if (buffer.drop offset).take noiseWaHeader.length ≠ noiseWaHeader then .invalid
    else .consumed (buffer.drop last)

/-- `WhatsAppNoiseEmulatorSession`, with the frames that were dispatched so far. -/
structure NoiseSession where
  buffer : List UInt8
  introConsumed : Bool
  frames : List (List UInt8)

def NoiseSession.start : NoiseSession := ⟨[], false, []⟩
abbrev Dispatch := List (List UInt8) → Option (List (List UInt8))

/-- The loop of `handle_inbound`, at most `fuel` frames of it. -/
def dispatchFrames (dispatch : Dispatch) : ℕ → NoiseSession → NoiseSession × Option (List (List UInt8))
  | 0, s => (s, some [])
  | fuel + 1, s =>
    match unpackFrame s.buffer with
    | none => (s, some [])
    | some (frame, rest) =>
      -- the frame leaves the buffer before it is dispatched
      let s := { s with buffer := rest, frames := s.frames ++ [frame] }
      match dispatch s.frames with
      | none => (s, none)
      | some out =>
        match dispatchFrames dispatch fuel s with
        | (s, none) => (s, none)
        | (s, some later) => (s, some (out ++ later))

/-- `handle_inbound`: the session afterwards, and the answers or that the call raised. -/
def handleInbound (dispatch : Dispatch) (s : NoiseSession) (chunk : List UInt8) :
    NoiseSession × Option (List (List UInt8)) :=
  let s := { s with buffer := s.buffer ++ chunk }
  if s.introConsumed then dispatchFrames dispatch s.buffer.length s
  else
    match consumeIntro s.buffer with
    | .incomplete => (s, some [])
    | .invalid => (s, none)
    | .consumed rest => dispatchFrames dispatch rest.length { s with buffer := rest, introConsumed := true }

structure Received where
  session : NoiseSession
  unfed : List (List UInt8)
  raised : Bool

def receive (dispatch : Dispatch) : NoiseSession → List (List UInt8) → Received
  | s, [] => ⟨s, [], false⟩
  | s, chunk :: chunks =>
    match handleInbound dispatch s chunk with
    | (s, none) => ⟨s, chunks, true⟩
    | (s, some _) => receive dispatch s chunks

section

lemma int24_eq (a b c : UInt8) : int24 a b c = a.toNat * 65536 + b.toNat * 256 + c.toNat := by
  have hb := b.toNat_lt
  have hc := c.toNat_lt
  have low : b.toNat <<< 8 ||| c.toNat = b.toNat * 256 + c.toNat := by
    rw [Nat.shiftLeft_eq, Nat.mul_comm]
    exact (Nat.two_pow_add_eq_or_of_lt (i := 8) hc b.toNat).symm
  have bound : b.toNat * 256 + c.toNat < 2 ^ 16 := by omega
  unfold int24
  rw [Nat.or_assoc, low, Nat.shiftLeft_eq, Nat.mul_comm a.toNat,
    ← Nat.two_pow_add_eq_or_of_lt (i := 16) bound a.toNat]
  omega

lemma int24_packed {length : ℕ} (bound : length < 2 ^ 24) :
    int24 (UInt8.ofNat (length >>> 16)) (UInt8.ofNat (length >>> 8)) (UInt8.ofNat length) = length := by
  rw [int24_eq]
  simp only [UInt8.toNat_ofNat', Nat.shiftRight_eq_div_pow]
  omega

end

lemma unpackFrame_append {data} (more : List UInt8) (taken : unpackFrame data = some (frame, rest)) :
    unpackFrame (data ++ more) = some (frame, rest ++ more) := by
  match data with
  | [] => cases taken
  | [_] => cases taken
  | [_, _] => cases taken
  | first :: snd :: third :: body =>
    simp only [unpackFrame, cons_append] at taken ⊢
    by_cases short : body.length < int24 first snd third
    · rw [if_pos short] at taken
      cases taken
    · rw [if_neg short] at taken
      have enough : ¬(body ++ more).length < int24 first snd third := by
        rw [length_append]
        omega
      rw [if_neg enough, take_append_of_le_length (by omega), drop_append_of_le_length (by omega)]
      cases taken
      rfl

lemma unpackFrame_length {data} (taken : unpackFrame data = some (frame, rest)) : rest.length < data.length := by
  match data with
  | [] => cases taken
  | [_] => cases taken
  | [_, _] => cases taken
  | first :: snd :: third :: body =>
    simp only [unpackFrame] at taken
    split at taken
    · cases taken
    · cases taken
      simp only [length_drop, length_cons]
      omega

lemma unpackFrame_packFrame (bound : frame.length < 2 ^ 24) (rest : List UInt8) :
    unpackFrame (packFrame frame ++ rest) = some (frame, rest) := by
  simp only [packFrame, cons_append, nil_append, unpackFrame, int24_packed bound]
  have enough : ¬(frame ++ rest).length < frame.length := by
    rw [length_append]
    omega
  rw [if_neg enough, take_left', List.drop_left'] <;> rfl

section
variable {buffer : List UInt8} (more : List UInt8)

lemma noiseOffset_append {offset : ℕ} (long : 2 ≤ buffer.length)
    (known : noiseOffset buffer = some offset) : noiseOffset (buffer ++ more) = some offset := by
  unfold noiseOffset at known ⊢
  rw [take_append_of_le_length long]
  by_cases routed : buffer.take 2 = [69, 68]
  · rw [if_pos routed] at known ⊢
    by_cases short : buffer.length < 7
    · rw [if_pos short] at known
      cases known
    · rw [if_neg short] at known
      have enough : ¬(buffer ++ more).length < 7 := by
        rw [length_append]
        omega
      rw [if_neg enough, getD_append _ _ _ _ (by omega), getD_append _ _ _ _ (by omega),
        getD_append _ _ _ _ (by omega)]
      exact known
  · rw [if_neg routed] at known ⊢
    exact known

lemma consumeIntro_append : (consumeIntro buffer = .invalid → consumeIntro (buffer ++ more) = .invalid) ∧
      ∀ rest, consumeIntro buffer = .consumed rest → consumeIntro (buffer ++ more) = .consumed (rest ++ more) := by
  have four : noiseWaHeader.length = 4 := rfl
  unfold consumeIntro
  cases known : noiseOffset buffer with
  | none => exact ⟨by simp, by simp⟩
  | some offset =>
    by_cases short : buffer.length < offset + noiseWaHeader.length
    · simp only [if_pos short]
      exact ⟨by simp, by simp⟩
    · have enough : ¬(buffer ++ more).length < offset + noiseWaHeader.length := by
        rw [length_append]
        omega
      have header : ((buffer ++ more).drop offset).take noiseWaHeader.length =
          (buffer.drop offset).take noiseWaHeader.length := by
        rw [drop_append_of_le_length (by omega), take_append_of_le_length]
        rw [length_drop]
        omega
      rw [noiseOffset_append more (by omega) known]
      simp only [if_neg short, if_neg enough, header]
      by_cases wrong : (buffer.drop offset).take noiseWaHeader.length ≠ noiseWaHeader
      · simp only [if_pos wrong]
        exact ⟨fun _ => trivial, by simp⟩
      · simp only [if_neg wrong]
        refine ⟨by simp, ?_⟩
        intro rest same
        cases same
        rw [drop_append_of_le_length (by omega)]

lemma consumeIntro_length {rest} (taken : consumeIntro buffer = .consumed rest) : rest.length < buffer.length := by
  have four : noiseWaHeader.length = 4 := rfl
  unfold consumeIntro at taken
  cases known : noiseOffset buffer with
  | none =>
    rw [known] at taken
    cases taken
  | some offset =>
    simp only [known] at taken
    split at taken
    · cases taken
    · split at taken
      · cases taken
      · cases taken
        rw [length_drop]
        omega

/-- An intro: the Noise header, after the routing information if there is any. -/
inductive IsIntro : List UInt8 → Prop
  | plain : IsIntro noiseWaHeader
  | routed (a b : UInt8) (routing : List UInt8) (bound : routing.length < 2 ^ 24) :
      IsIntro ([69, 68, a, b] ++ packFrame routing ++ noiseWaHeader)

lemma consumeIntro_intro {intro} (isIntro : IsIntro intro) (rest : List UInt8) :
    consumeIntro (intro ++ rest) = .consumed rest := by
  have whole : consumeIntro intro = .consumed [] := by
    cases isIntro with
    | plain => decide
    | routed a b routing bound =>
      have offset : noiseOffset ([69, 68, a, b] ++ packFrame routing ++ noiseWaHeader) =
          some (7 + routing.length) := by
        have long : ¬([69, 68, a, b] ++ packFrame routing ++ noiseWaHeader).length < 7 := by
          simp only [packFrame, length_append, length_cons, length_nil]
          omega
        have prefixed : ([69, 68, a, b] ++ packFrame routing ++ noiseWaHeader).take 2 = [69, 68] := rfl
        rw [noiseOffset, if_pos prefixed, if_neg long]
        simp only [packFrame, cons_append, nil_append, getD_cons_succ, getD_cons_zero, int24_packed bound]
      have split : [69, 68, a, b] ++ packFrame routing ++ noiseWaHeader =
          ([69, 68, a, b] ++ packFrame routing) ++ noiseWaHeader := rfl
      have front : ([69, 68, a, b] ++ packFrame routing).length = 7 + routing.length := by
        simp only [packFrame, length_append, length_cons, length_nil]
        omega
      have size : ([69, 68, a, b] ++ packFrame routing ++ noiseWaHeader).length =
          7 + routing.length + noiseWaHeader.length := by
        rw [split, length_append, front]
      unfold consumeIntro
      simp only [offset, size]
      rw [split, List.drop_left' front, List.drop_of_length_le (Nat.le_of_eq size)]
      simp
  simpa using (consumeIntro_append rest).2 [] whole

end

section

structure NoiseProgress where
  introConsumed : Bool
  frames : List (List UInt8)
  stopped : Bool

def NoiseSession.progress (s : NoiseSession) (stopped : Bool) : NoiseProgress := ⟨s.introConsumed, s.frames, stopped⟩

variable {dispatch : Dispatch}

def noiseStep (dispatch : Dispatch) (p : NoiseProgress) (buffer : List UInt8) : Option (NoiseProgress × List UInt8) :=
  if p.stopped then none
  else if p.introConsumed then
    match unpackFrame buffer with
    | none => none
    | some (frame, rest) => some (⟨true, p.frames ++ [frame], (dispatch (p.frames ++ [frame])).isNone⟩, rest)
  else
    match consumeIntro buffer with
    | .consumed rest => some (⟨true, p.frames, false⟩, rest)
    | _ => none

lemma noiseStep_incremental (dispatch : Dispatch) : Chunked.Incremental (noiseStep dispatch) where
  extends_step := by
    intro p buffer more p' rest taken
    unfold noiseStep at taken ⊢
    by_cases stopped : p.stopped = true
    · rw [if_pos stopped] at taken
      cases taken
    · rw [if_neg stopped] at taken ⊢
      by_cases consumed : p.introConsumed = true
      · rw [if_pos consumed] at taken ⊢
        cases hit : unpackFrame buffer with
        | none =>
          rw [hit] at taken
          cases taken
        | some next =>
          rw [hit] at taken
          cases taken
          rw [unpackFrame_append more hit]
      · rw [if_neg consumed] at taken ⊢
        cases hit : consumeIntro buffer with
        | incomplete | invalid =>
          rw [hit] at taken
          cases taken
        | consumed rest =>
          rw [hit] at taken
          cases taken
          rw [(consumeIntro_append more).2 rest hit]
  shrinks := by
    intro p buffer p' rest taken
    unfold noiseStep at taken
    by_cases stopped : p.stopped = true
    · rw [if_pos stopped] at taken
      cases taken
    · rw [if_neg stopped] at taken
      by_cases consumed : p.introConsumed = true
      · rw [if_pos consumed] at taken
        cases hit : unpackFrame buffer with
        | none =>
          rw [hit] at taken
          cases taken
        | some next =>
          rw [hit] at taken
          cases taken
          exact unpackFrame_length hit
      · rw [if_neg consumed] at taken
        cases hit : consumeIntro buffer with
        | incomplete | invalid =>
          rw [hit] at taken
          cases taken
        | consumed rest =>
          rw [hit] at taken
          cases taken
          exact consumeIntro_length hit

variable {s : NoiseSession}

lemma dispatchFrames_consume (dispatch : Dispatch) (fuel : ℕ) (consumed : s.introConsumed = true) :
    let res := dispatchFrames dispatch fuel s
    Chunked.consume (noiseStep dispatch) fuel (s.progress false) s.buffer =
        (res.1.progress res.2.isNone, res.1.buffer) ∧
      res.1.introConsumed = true := by
  induction fuel generalizing s with
  | zero => exact ⟨rfl, consumed⟩
  | succ fuel ih =>
    have runs : (s.progress false).stopped = false := rfl
    have reading : (s.progress false).introConsumed = true := consumed
    cases hit : unpackFrame s.buffer with
    | none =>
      simp only [dispatchFrames, Chunked.consume, noiseStep, hit, runs, reading]
      exact ⟨rfl, consumed⟩
    | some next =>
      simp only [dispatchFrames, Chunked.consume, noiseStep, hit, runs, reading]
      cases ans : dispatch (s.frames ++ [next.1]) with
      | none =>
        have stuck : noiseStep dispatch ⟨true, s.frames ++ [next.1], true⟩ next.2 = none := rfl
        have last := Chunked.consume_stuck stuck fuel
        refine ⟨?_, consumed⟩
        simp only [NoiseSession.progress, consumed, ans, isNone_none]
        exact last
      | some out =>
        have rest := ih (s := { s with buffer := next.2, frames := s.frames ++ [next.1] }) consumed
        simp only [NoiseSession.progress, consumed, ans, isNone_some] at rest ⊢
        cases later : dispatchFrames dispatch fuel ⟨next.2, true, s.frames ++ [next.1]⟩ with
        | mk s' answers =>
          rw [later] at rest
          cases answers <;> exact rest

lemma handleInbound_drain (dispatch : Dispatch) (s : NoiseSession) (chunk : List UInt8) :
    let res := handleInbound dispatch s chunk
    ∃ stopped, Chunked.drain (noiseStep dispatch) (s.progress false) (s.buffer ++ chunk) =
        (res.1.progress stopped, res.1.buffer) ∧
      (res.2 = none ↔ stopped = true ∨
        res.1.introConsumed = false ∧ consumeIntro res.1.buffer = .invalid) := by
  obtain ⟨buffer, consumed, frames⟩ := s
  cases consumed with
  | true =>
    have reads := dispatchFrames_consume dispatch (buffer ++ chunk).length (s := ⟨buffer ++ chunk, true, frames⟩) rfl
    simp only [handleInbound, if_true]
    refine ⟨_, reads.1, ?_⟩
    rw [reads.2]
    simp [isNone_iff_eq_none]
  | false =>
    cases hit : consumeIntro (buffer ++ chunk) with
    | incomplete | invalid =>
      have stuck : noiseStep dispatch ⟨false, frames, false⟩ (buffer ++ chunk) = none := by simp [noiseStep, hit]
      simp only [handleInbound, hit, false_eq_true, if_false]
      exact ⟨false, Chunked.drain_stuck stuck, by simp⟩
    | consumed rest =>
      have taken : noiseStep dispatch ⟨false, frames, false⟩ (buffer ++ chunk) =
          some (⟨true, frames, false⟩, rest) := by
        simp [noiseStep, hit]
      have reads := dispatchFrames_consume dispatch rest.length (s := ⟨rest, true, frames⟩) rfl
      simp only [handleInbound, hit, false_eq_true, if_false]
      refine ⟨_, (Chunked.drain_step (noiseStep_incremental dispatch) taken).trans reads.1, ?_⟩
      rw [reads.2]
      simp [isNone_iff_eq_none]

def NoiseSession.Waiting (dispatch : Dispatch) (s : NoiseSession) : Prop :=
  noiseStep dispatch (s.progress false) s.buffer = none ∧
    ¬(s.introConsumed = false ∧ consumeIntro s.buffer = .invalid)

lemma waiting_start : NoiseSession.start.Waiting dispatch := by
  constructor
  · rfl
  · rintro ⟨_, invalid⟩
    exact absurd invalid (by decide)

lemma receive_drain (dispatch : Dispatch) (chunks : List (List UInt8)) (waits : s.Waiting dispatch) :
    let r := receive dispatch s chunks
    ∃ stopped, Chunked.drain (noiseStep dispatch) (s.progress false) (s.buffer ++ chunks.flatten) =
        (r.session.progress stopped, r.session.buffer ++ r.unfed.flatten) ∧
      (r.raised = true ↔ stopped = true ∨ r.session.introConsumed = false ∧
        consumeIntro (r.session.buffer ++ r.unfed.flatten) = .invalid) ∧
      (r.raised = false → r.unfed = []) := by
  induction chunks generalizing s with
  | nil =>
    refine ⟨false, ?_, ?_, fun _ => rfl⟩
    · simpa [receive] using Chunked.drain_stuck waits.1
    · simpa [receive] using waits.2
  | cons chunk chunks ih =>
    obtain ⟨stopped, reads, raises⟩ := handleInbound_drain dispatch s chunk
    have whole : Chunked.drain (noiseStep dispatch) (s.progress false) (s.buffer ++ (chunk :: chunks).flatten) =
          Chunked.drain (noiseStep dispatch) ((handleInbound dispatch s chunk).1.progress stopped)
            ((handleInbound dispatch s chunk).1.buffer ++ chunks.flatten) := by
      rw [flatten_cons, ← append_assoc, Chunked.drain_append (noiseStep_incremental dispatch), reads]
    have done : noiseStep dispatch ((handleInbound dispatch s chunk).1.progress stopped)
        (handleInbound dispatch s chunk).1.buffer = none := by
      have last := Chunked.drained (noiseStep_incremental dispatch) (s.progress false) (s.buffer ++ chunk)
      rwa [reads] at last
    cases outcome : handleInbound dispatch s chunk with
    | mk s' answers =>
      rw [outcome] at raises whole done
      cases answers with
      | none =>
        simp only [receive, outcome]
        dsimp only at raises whole
        rcases raises.mp rfl with isStopped | ⟨fresh, invalid⟩
        · subst isStopped
          have stuck : ∀ buffer, noiseStep dispatch (s'.progress true) buffer = none := fun _ => rfl
          refine ⟨true, whole.trans (Chunked.drain_stuck (stuck _)), by simp, by simp⟩
        · have later := (consumeIntro_append chunks.flatten).1 invalid
          have stuck : noiseStep dispatch (s'.progress stopped) (s'.buffer ++ chunks.flatten) =
              none := by
            simp [noiseStep, NoiseSession.progress, fresh, later]
          refine ⟨stopped, whole.trans (Chunked.drain_stuck stuck), ?_, by simp⟩
          simp [fresh, later]
      | some out =>
        have runs : ¬(stopped = true ∨ s'.introConsumed = false ∧
            consumeIntro s'.buffer = .invalid) := by
          intro raised
          exact absurd (raises.mpr raised) (by simp)
        obtain ⟨going, valid⟩ := not_or.mp runs
        have notStopped : stopped = false := by simpa using going
        subst notStopped
        have next := ih (s := s') ⟨done, valid⟩
        simp only [receive, outcome]
        rw [whole]
        exact next

lemma handleInbound_feed (total : ∀ frames, dispatch frames ≠ none) (s : NoiseSession)
    (chunk : List UInt8) : Chunked.feed (noiseStep dispatch) (s.progress false, s.buffer) chunk =
      ((handleInbound dispatch s chunk).1.progress false, (handleInbound dispatch s chunk).1.buffer) := by
  have never : ∀ fuel (p : NoiseProgress) buffer, p.stopped = false →
      (Chunked.consume (noiseStep dispatch) fuel p buffer).1.stopped = false := by
    intro fuel
    induction fuel with
    | zero =>
      intro p buffer runs
      exact runs
    | succ fuel ih =>
      intro p buffer runs
      unfold Chunked.consume
      cases taken : noiseStep dispatch p buffer with
      | none => exact runs
      | some next =>
        apply ih
        unfold noiseStep at taken
        rw [runs] at taken
        simp only [false_eq_true, if_false] at taken
        split at taken
        · split at taken
          · cases taken
          · cases taken
            exact isNone_eq_false_iff.mpr (isSome_iff_ne_none.mpr (total _))
        · split at taken
          · cases taken
            rfl
          · cases taken
  obtain ⟨stopped, reads, _⟩ := handleInbound_drain dispatch s chunk
  have notStopped : stopped = false := by
    have last := never (s.buffer ++ chunk).length (s.progress false) (s.buffer ++ chunk) rfl
    have same : (Chunked.drain (noiseStep dispatch) (s.progress false) (s.buffer ++ chunk)).1.stopped =
        stopped := by rw [reads]; rfl
    exact same.symm.trans last
  rw [notStopped] at reads
  exact reads

lemma foldl_handleInbound (total : ∀ frames, dispatch frames ≠ none) (s : NoiseSession)
    (chunks : List (List UInt8)) : let last := chunks.foldl (fun s chunk => (handleInbound dispatch s chunk).1) s
    chunks.foldl (Chunked.feed (noiseStep dispatch)) (s.progress false, s.buffer) =
      (last.progress false, last.buffer) := by
  induction chunks generalizing s with
  | nil => rfl
  | cons chunk chunks ih =>
    simp only [foldl_cons, handleInbound_feed total]
    exact ih _

lemma drain_frames (total : ∀ frames, dispatch frames ≠ none) {frames}
    (short : ∀ frame ∈ frames, frame.length < 2 ^ 24) (pre : List (List UInt8)) :
    Chunked.drain (noiseStep dispatch) ⟨true, pre, false⟩ (frames.map packFrame).flatten =
      (⟨true, pre ++ frames, false⟩, []) := by
  induction frames generalizing pre with
  | nil =>
    rw [append_nil]
    exact Chunked.drain_stuck rfl
  | cons frame frames ih =>
    have hit : unpackFrame (packFrame frame ++ (frames.map packFrame).flatten) =
        some (frame, (frames.map packFrame).flatten) :=
      unpackFrame_packFrame (short frame mem_cons_self) _
    have answered : (dispatch (pre ++ [frame])).isNone = false := by
      exact isNone_eq_false_iff.mpr (isSome_iff_ne_none.mpr (total _))
    have taken : noiseStep dispatch ⟨true, pre, false⟩ (packFrame frame ++ (frames.map packFrame).flatten) =
          some (⟨true, pre ++ [frame], false⟩, (frames.map packFrame).flatten) := by
      simp [noiseStep, hit, answered]
    rw [map_cons, flatten_cons, Chunked.drain_step (noiseStep_incremental dispatch) taken,
      ih (fun alt mem => short alt (mem_cons_of_mem _ mem)), append_assoc]
    rfl

lemma NoiseSession.ext_progress {t : NoiseSession} {stopped alt}
    (prog : s.progress stopped = t.progress alt) (buffer : s.buffer = t.buffer) : s = t := by
  cases s
  cases t
  simp only [NoiseSession.progress, NoiseProgress.mk.injEq] at prog
  simp only [NoiseSession.mk.injEq]
  exact ⟨buffer, prog.1, prog.2.1⟩

/-- How a byte stream is cut into chunks makes no difference to what is dispatched, buffered or raised. -/
theorem handle_inbound_chunking (dispatch : Dispatch) :
    (∀ first snd : List (List UInt8), first.flatten = snd.flatten → let a := receive dispatch .start first
      let b := receive dispatch .start snd
      a.session.introConsumed = b.session.introConsumed ∧ a.session.frames = b.session.frames ∧
        a.raised = b.raised ∧
        a.session.buffer ++ a.unfed.flatten = b.session.buffer ++ b.unfed.flatten ∧
        (a.raised = false → a.session = b.session ∧ a.unfed = [])) ∧
      ((∀ frames, dispatch frames ≠ none) →
        let read := fun chunks : List (List UInt8) =>
          chunks.foldl (fun s chunk => (handleInbound dispatch s chunk).1) .start
        (∀ first snd, first.flatten = snd.flatten → read first = read snd) ∧
          ∀ intro frames chunks, IsIntro intro → (∀ frame ∈ frames, frame.length < 2 ^ 24) →
            chunks.flatten = intro ++ (frames.map packFrame).flatten →
              read chunks = ⟨[], true, frames⟩) := by
  constructor
  · intro first snd same
    obtain ⟨stopped, reads, raises, all⟩ := receive_drain dispatch first waiting_start
    obtain ⟨stopped', reads', raises', all'⟩ := receive_drain dispatch snd waiting_start
    rw [same] at reads
    have both := reads.symm.trans reads'
    simp only [Prod.mk.injEq, NoiseSession.progress, NoiseProgress.mk.injEq] at both
    obtain ⟨⟨intro, frames, stops⟩, rest⟩ := both
    have raised : (receive dispatch .start first).raised =
        (receive dispatch .start snd).raised := by
      rw [Bool.eq_iff_iff, raises, raises', stops, intro, rest]
    refine ⟨intro, frames, raised, rest, ?_⟩
    intro quiet
    have none := all quiet
    have none' := all' (raised.symm.trans quiet)
    refine ⟨?_, none⟩
    rw [none, none'] at rest
    simp only [flatten_nil, append_nil] at rest
    have prog : (receive dispatch .start first).session.progress false =
        (receive dispatch .start snd).session.progress false := by
      simp only [NoiseSession.progress, intro, frames]
    exact NoiseSession.ext_progress prog rest
  · intro total
    have done : noiseStep dispatch (NoiseSession.start.progress false) [] = none := rfl
    have determined : ∀ chunks : List (List UInt8),
        Chunked.drain (noiseStep dispatch) (NoiseSession.start.progress false) chunks.flatten =
          ((chunks.foldl (fun s chunk => (handleInbound dispatch s chunk).1) .start).progress false,
            (chunks.foldl (fun s chunk => (handleInbound dispatch s chunk).1)
              NoiseSession.start).buffer) := by
      intro chunks
      rw [← foldl_handleInbound total .start chunks]
      exact (Chunked.feed_chunks (noiseStep_incremental dispatch)
        (NoiseSession.start.progress false, []) chunks done).symm
    constructor
    · intro first snd same
      have both := (determined first).symm.trans ((congrArg _ same).trans (determined snd))
      simp only [Prod.mk.injEq] at both
      exact NoiseSession.ext_progress both.1 both.2
    · intro intro frames chunks isIntro short stream
      have reads := determined chunks
      have taken : noiseStep dispatch (NoiseSession.start.progress false) (intro ++ (frames.map packFrame).flatten) =
            some (⟨true, [], false⟩, (frames.map packFrame).flatten) := by
        simp [noiseStep, NoiseSession.progress, NoiseSession.start, consumeIntro_intro isIntro]
      rw [stream, Chunked.drain_step (noiseStep_incremental dispatch) taken, drain_frames total short] at reads
      simp only [Prod.mk.injEq] at reads
      exact (NoiseSession.ext_progress (t := ⟨[], true, frames⟩) reads.1.symm reads.2.symm)

theorem handle_inbound_chunking_split :
    ((receive (fun _ => none) .start [[87], [65, 6, 3, 0], [0, 1, 9, 0]]).session.frames =
      (receive (fun _ => none) .start [[87, 65, 6, 3, 0, 0, 1, 9, 0]]).session.frames) ∧
    [[87, 65], [6, 3, 0, 0, 1], [9]].foldl
      (fun s chunk => (handleInbound (fun _ => some []) s chunk).1) .start = ⟨[], true, [[9]]⟩ :=
  ⟨((handle_inbound_chunking fun _ => none).1 _ _ (by decide)).2.1,
    ((handle_inbound_chunking fun _ => some []).2 (by simp)).2 noiseWaHeader [[9]] _ .plain (by decide) (by decide)⟩

end
end Clawdi.Noise
