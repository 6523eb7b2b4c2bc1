import Clawdi.DiscordGateway.World

namespace Clawdi.DiscordGateway
open List

structure StateGood (st : SessionState) (noted : List Recorded) : Prop where
  ascending : noted.Pairwise fun first snd => first.frame.s < snd.frame.s
  retained : ∃ dropped, noted.map Recorded.frame = dropped ++ st.frames ∧
    st.droppedThroughSequence = dropped.getLast?.map Frame.s ∧
    (dropped ≠ [] → st.frames ≠ [])
  traced : ∀ e ∈ st.messageCheckpoints, ∃ record ∈ noted, record.frame.s = e.1 ∧ record.checkpoint = some e.2

section
variable {st : SessionState} {records : List Recorded} {frame : Frame}
  {checkpoint : Option Checkpoint}

@[simp] lemma trim_last (st : SessionState) : st.trim.lastSequence = st.lastSequence := by
  unfold SessionState.trim
  split <;> rfl

@[simp] lemma trim_checkpoints (st : SessionState) : st.trim.messageCheckpoints = st.messageCheckpoints := by
  unfold SessionState.trim
  split <;> rfl

lemma trim_owner (st : SessionState) : st.trim.accountId = st.accountId ∧
    st.trim.botAgentLinkId = st.botAgentLinkId ∧ st.trim.identified = st.identified := by
  unfold SessionState.trim
  split <;> exact ⟨rfl, rfl, rfl⟩

variable (noted : Bool)

@[simp] lemma send_last : (st.send frame noted checkpoint).last = frame.s := by
  cases noted <;> simp [SessionState.send, SessionState.last]

lemma send_owner (st : SessionState) (frame : Frame) (checkpoint : Option Checkpoint)
    (noted : Bool) : (st.send frame noted checkpoint).accountId = st.accountId ∧
      (st.send frame noted checkpoint).botAgentLinkId = st.botAgentLinkId ∧
      (st.send frame noted checkpoint).identified = st.identified := by
  cases noted with
  | false => exact ⟨rfl, rfl, rfl⟩
  | true => exact trim_owner _

lemma mem_setCheckpoint {seq : Nat} {new} {checkpoints : List (Nat × Checkpoint)}
    {e : Nat × Checkpoint} (mem : e ∈ setCheckpoint seq new checkpoints) : e = (seq, new) ∨ e ∈ checkpoints := by
  unfold setCheckpoint at mem
  split at mem
  · obtain ⟨old, pre, same⟩ := mem_map.mp mem
    split at same
    · left
      exact same.symm
    · right
      exact same ▸ pre
  · rcases mem_append.mp mem with pre | added
    · right
      exact pre
    · left
      exact mem_singleton.mp added

lemma length_setCheckpoint (seq : Nat) (new : Checkpoint) (checkpoints : List (Nat × Checkpoint)) :
    (setCheckpoint seq new checkpoints).length ≤ checkpoints.length + 1 := by
  unfold setCheckpoint
  split <;> simp

lemma send_checkpoints_length : (st.send frame noted checkpoint).messageCheckpoints.length ≤
      st.messageCheckpoints.length + (if checkpoint.isSome then 1 else 0) := by
  cases noted with
  | false => simp [SessionState.send]
  | true =>
    cases checkpoint with
    | none => simp [SessionState.send]
    | some new => simpa [SessionState.send] using length_setCheckpoint frame.s new _

lemma StateGood.unrecorded (good : StateGood st records) : StateGood (st.send frame false checkpoint) records :=
  { good with }

lemma trim_frames (st : SessionState) {noted dropped} (split : noted = dropped ++ st.frames)
    (through : st.droppedThroughSequence = dropped.getLast?.map Frame.s) (kept : st.frames ≠ []) :
    ∃ dropped, noted = dropped ++ st.trim.frames ∧
      st.trim.droppedThroughSequence = dropped.getLast?.map Frame.s ∧ (dropped ≠ [] → st.trim.frames ≠ []) := by
  unfold SessionState.trim
  by_cases full : resumeBufferSize < st.frames.length
  · rw [if_pos full]
    let count := st.frames.length - resumeBufferSize
    have some_taken : st.frames.take count ≠ [] := by
      intro none_taken
      rcases take_eq_nil_iff.mp none_taken with zero | empty
      · omega
      · exact kept empty
    refine ⟨dropped ++ st.frames.take count, ?_, ?_, ?_⟩
    · rw [split, append_assoc, take_append_drop]
    · rw [List.getLast?_append_of_ne_nil _ some_taken]
    · intro _
      have length : (st.frames.drop count).length = resumeBufferSize := by
        rw [length_drop]
        omega
      intro empty
      change st.frames.drop count = [] at empty
      rw [empty] at length
      cases length
  · rw [if_neg full]
    exact ⟨dropped, split, through, fun _ => kept⟩

lemma StateGood.record (good : StateGood st records) (new : Recorded)
    (later : ∀ record ∈ records, record.frame.s < new.frame.s) :
    StateGood (st.send new.frame true new.checkpoint) (records ++ [new]) where
  ascending := by
    refine pairwise_append.mpr ⟨good.ascending, pairwise_singleton _ _, ?_⟩
    intro record pre last added
    rw [mem_singleton.mp added]
    exact later record pre
  retained := by
    obtain ⟨dropped, split, through, -⟩ := good.retained
    refine @trim_frames _ _ dropped ?_ through ?_
    · simp [split]
    · simp
  traced := by
    intro e mem
    simp only [SessionState.send, if_true, trim_checkpoints] at mem
    have old : e ∈ st.messageCheckpoints → ∃ record ∈ records ++ [new],
        record.frame.s = e.1 ∧ record.checkpoint = some e.2 := by
      intro pre
      obtain ⟨record, among, hit⟩ := good.traced e pre
      exact ⟨record, mem_append_left _ among, hit⟩
    cases carries : new.checkpoint with
    | none =>
      rw [carries] at mem
      exact old mem
    | some checkpoint =>
      rw [carries] at mem
      rcases mem_setCheckpoint mem with rfl | pre
      · exact ⟨new, mem_append_right _ (mem_singleton_self _), rfl, carries⟩
      · exact old pre

lemma StateGood.acknowledge (good : StateGood st records) (seq : Option Int) :
    StateGood (st.acknowledge seq) records :=
  { good with traced := fun e mem => good.traced e (mem_of_mem_filter mem) }

lemma StateGood.latest (good : StateGood st records) : ∀ record ∈ records, record.frame.s ≤ st.latestSequence := by
  intro record mem
  obtain ⟨dropped, split, -, kept⟩ := good.retained
  have some_frame : st.frames ≠ [] := by
    intro empty
    rw [empty, append_nil] at split
    have gone : dropped = [] := by
      by_contra some_dropped
      exact kept some_dropped empty
    rw [gone] at split
    exact ne_nil_of_mem mem (map_eq_nil_iff.mp split)
  have sorted : (dropped ++ st.frames).Pairwise fun first snd => first.s < snd.s := by
    rw [← split]
    exact pairwise_map.mpr good.ascending
  have listed : record.frame ∈ dropped ++ st.frames := split ▸ mem_map_of_mem mem
  have below : ∃ last ∈ st.frames, record.frame.s ≤ last.s := by
    rcases mem_append.mp listed with gone | held
    · obtain ⟨last, among⟩ := exists_mem_of_ne_nil _ some_frame
      have less := (pairwise_append.mp sorted).2.2 record.frame gone last among
      exact ⟨last, among, less.le⟩
    · exact ⟨record.frame, held, le_rfl⟩
  obtain ⟨last, among, less⟩ := below
  have bounded : last.s ≤ (st.frames.map Frame.s).max?.getD 0 := by
    have mem : last.s ∈ st.frames.map Frame.s := mem_map_of_mem among
    cases hit : (st.frames.map Frame.s).max? with
    | none =>
      rw [List.max?_eq_none_iff.mp hit] at mem
      cases mem
    | some top => exact (List.max?_eq_some_iff.mp hit).2 _ mem
  exact (less.trans bounded).trans (le_max_left _ _)

lemma accepts_dropped {seq : Int} (acc : st.accepts (some seq) = true)
    {dropped : Nat} (through : st.droppedThroughSequence = some dropped) : (dropped : Int) ≤ seq := by
  simp only [SessionState.accepts, through, Bool.and_eq_true] at acc
  exact of_decide_eq_true acc.2

lemma StateGood.replay (good : StateGood st records) {seq : Int}
    (acc : st.accepts (some seq) = true) : st.replay seq =
      (records.filter fun record => seq < (record.frame.s : Int)).map Recorded.frame := by
  obtain ⟨dropped, split, through, -⟩ := good.retained
  have sorted : (dropped ++ st.frames).Pairwise fun first snd => first.s < snd.s := by
    rw [← split]
    exact pairwise_map.mpr good.ascending
  have covered : dropped.filter (fun frame => seq < (frame.s : Int)) = [] := by
    rw [filter_eq_nil_iff]
    intro frame gone above
    have above : seq < (frame.s : Int) := of_decide_eq_true above
    cases last : dropped.getLast? with
    | none =>
      rw [List.getLast?_eq_none_iff.mp last] at gone
      cases gone
    | some newest =>
      rw [last] at through
      have reached := accepts_dropped acc through
      obtain ⟨front, rfl⟩ := List.getLast?_eq_some_iff.mp last
      have ordered := (pairwise_append.mp sorted).1
      rcases mem_append.mp gone with pre | here
      · have less := (pairwise_append.mp ordered).2.2 frame pre newest (mem_singleton_self _)
        omega
      · rw [mem_singleton.mp here] at above
        omega
  have whole : (records.map Recorded.frame).filter (fun frame => seq < (frame.s : Int)) =
      st.replay seq := by
    rw [split, filter_append, covered, nil_append]
    rfl
  rw [← whole, filter_map]
  rfl

end

open SessionEvents (JsonValue)

inductive Action
  | insert (tx : Nat) (msg : ChannelMessage)
  | commit (tx : Nat)
  | rollback (tx : Nat)
  | unpair (bid : Uuid)
  | pair (bind : ChannelBinding)
  | archiveLink (linkId : Uuid)
  | archiveAccount (acctId : Uuid)
  | wait (ms : Nat)
  | connect
  | identify (id : Nat) (agent : Agent)
  | resume (id : Nat) (agent : Agent) (sid : Option Nat) (seq : Option Int) (arrives : Bool)
  | claim (id : Nat) (free arrives : Bool)
  | settle (id : Nat) (auth : Authority) (done : Settled)
  | prepare (id : Nat) (ready : JsonObject) (auth : Authority)
      (channels : List (String × JsonObject))
  | write (id : Nat) (arrives : Bool)
  | heartbeat (id : Nat) (seq : Option Int) (done : Settled) (arrives : Bool)
  | fetch (id : Nat)
  | look (id : Nat) (auth : Authority)
  | proceed (id : Nat)
  | read (id : Nat) (proj : Option JsonObject) (auth : Authority)
  | postpone (id : Nat)
  | lease (id : Nat) (locked : Bool)
  | drop (id : Nat)

namespace World
variable (w : World)

def insert (tx : Nat) (msg : ChannelMessage) : World :=
  { w with
    inserting := w.inserting ++ [(tx, { msg with inboxSequence := w.nextSequence, deliveredAt := none })]
    nextSequence := w.nextSequence + 1 }

def commit (tx : Nat) : World :=
  { w with
    messages := w.messages ++ (w.inserting.filter fun e => e.1 = tx).map Prod.snd
    inserting := w.inserting.filter fun e => e.1 ≠ tx }

def pair (bind : ChannelBinding) : World :=
  let active := { bind with status := .active }
  { w with
    scopes :=
      { w.scopes with
        bindings := (w.scopes.bindings.filter fun alt => alt.id ≠ bind.id) ++ [active] } }

def archiveLink (linkId : Uuid) : World :=
  w.archiveBindings (fun bind => bind.botAgentLinkId = linkId)
    { w.scopes with
      links := w.scopes.links.map fun link =>
        if link.id = linkId then { link with status := .archived, archivedAt := some w.now }
        else link }

def archiveAccount (acctId : Uuid) : World :=
  w.archiveBindings (fun bind => bind.accountId = acctId)
    { w.scopes with
      accounts := w.scopes.accounts.map fun acct =>
        if acct.id = acctId then
          { acct with status := .archived, archivedAt := some w.now }
        else acct
      links := w.scopes.links.map fun link =>
        if link.accountId = acctId then
          { link with status := .archived, archivedAt := some w.now }
        else link }

variable (id sid : Nat) (arrives : Bool)

def resume (agent : Agent) (sid : Option Nat) (seq : Option Int) (arrives : Bool) : World :=
  match sid with
  | none => w.answerInvalid id arrives
  | some sid =>
    let reported := w.report sid seq
    if !w.scopes.agentActive agent then reported.answerInvalid id arrives
    else
      let connected := SessionStore.connect sid w.now w.store
      let st := w.states sid
      if !connected.1 then { reported with store := connected.2 }.answerInvalid id arrives
      else if st.accountId ≠ agent.accountId ∨ st.botAgentLinkId ≠ agent.botAgentLinkId then
        { reported with
          store := SessionStore.disconnect sid w.now connected.2 }.answerInvalid id arrives
      else
        { reported.setConnection id
            { w.connections id with agent, stage := .resuming sid seq } with
          store := connected.2 }

def write : World :=
  match (w.connections id).stage with
  | .replaying seq (frame :: rest) => w.replayFrame id sid seq frame rest arrives
  | .replaying _ [] => w.resumed id sid arrives
  | .starting (next :: writes) => w.dispatch id sid next true none (.starting writes) arrives
  | .starting [] => (w.setStage id (.listening [])).setState sid { w.states sid with identified := true }
  | .removing turn (next :: writes) page => w.dispatch id sid next true none (.removing turn writes page) arrives
  | .sending turn bid (next :: writes) page =>
    w.dispatch id sid next true (next.checkpoint.map fun _ => bid) (.sending turn bid writes page) arrives
  | .sending turn _ [] page => w.endTurn id sid turn true page
  | _ => w

/-- Once the lost guilds are told; a message of an untold channel waits for the provider read. -/
def proceed : World :=
  let conn := w.connections id
  match conn.stage with
  | .removing turn [] page =>
    let within := conn.projection.within turn.authority
    let w := w.setProjection id sid within
    let channelId := (gatewayScope turn.payload).2
    if authorized turn.payload turn.authority ∧ turn.payload.lifecycle = false ∧
        channelId.any (fun channelId => !within.knows channelId) then
      w.setStage id (.reading turn page)
    else
      w.setStage id (.deciding turn (channelId.bind fun channelId => within.channels.lookup channelId) page)
  | _ => w

end World

/-- Steps of the loop need a session, and locked rows wait for the dispatch that holds them. -/
def step (w : World) : Action → World
  | .insert tx msg => w.insert tx msg
  | .commit tx => w.commit tx
  | .rollback tx => { w with inserting := w.inserting.filter fun e => e.1 ≠ tx }
  | .unpair bid =>
    if w.sendsUnder fun _ held => held = bid then w
    else w.archiveBindings (fun bind => bind.id = bid) w.scopes
  | .pair bind => if w.sendsUnder fun _ held => held = bind.id then w else w.pair bind
  | .archiveLink linkId =>
    if w.sendsUnder fun conn _ => conn.agent.botAgentLinkId = linkId then w
    else w.archiveLink linkId
  | .archiveAccount acctId =>
    if w.sendsUnder fun conn _ => conn.agent.accountId = acctId then w
    else w.archiveAccount acctId
  | .wait ms => { w with now := w.now + ms }
  | .connect =>
    { w.setConnection w.nextConnection { Connection.closed with stage := .hello } with
      nextConnection := w.nextConnection + 1 }
  | .identify id agent =>
    match (w.connections id).stage with
    | .hello =>
      if w.scopes.agentActive agent then
        w.setConnection id { w.connections id with agent, stage := .identifying }
      else w.close id
    | _ => w
  | .resume id agent sid seq arrives =>
    match (w.connections id).stage with
    | .hello => w.resume id agent sid seq arrives
    | _ => w
  | .claim id free arrives =>
    match (w.connections id).stage with
    | .identifying => w.claimIdentify id free
    | .resuming sid seq => w.claimResume id sid seq free arrives
    | _ => w
  | .drop id =>
    match (w.connections id).stage with
    | .closed => w
    | .replaying _ [] => w
    | _ => w.close id
  | .settle id auth done =>
    match (w.connections id).stage, (w.connections id).sessionId with
    | .acknowledging seq, some sid => w.settle id sid seq auth done
    | _, _ => w
  | .prepare id ready auth channels =>
    match (w.connections id).stage with
    | .preparing => w.setStage id (.starting (startupWrites ready auth channels))
    | _ => w
  | .write id arrives =>
    match (w.connections id).sessionId with
    | some sid => w.write id sid arrives
    | none => w
  | .heartbeat id seq done arrives =>
    match (w.connections id).stage, (w.connections id).sessionId with
    | .preparing, some sid => w.heartbeat id sid seq done arrives
    | .listening [], some sid => w.heartbeat id sid seq done arrives
    | .reading _ _, some sid => w.heartbeat id sid seq done arrives
    | _, _ => w
  | .fetch id =>
    match (w.connections id).stage, (w.connections id).sessionId with
    | .listening [], some sid =>
      let held := (w.states sid).messageCheckpoints.length
      if held < resumeBufferSize then
        w.setStage id (.listening (dequeueGatewayEvents (w.connections id).agent
          (w.connections id).lastInboxSequence (resumeBufferSize - held) w.messages))
      else w
    | _, _ => w
  | .look id auth =>
    match (w.connections id).stage with
    | .listening (msg :: page) =>
      w.setStage id (.removing { message := msg, authority := auth }
        (removals auth (w.connections id).projection) page)
    | _ => w
  | .proceed id =>
    match (w.connections id).sessionId with
    | some sid => w.proceed id sid
    | none => w
  | .read id proj auth =>
    match (w.connections id).stage with
    | .reading turn page => w.setStage id (.deciding { turn with authority := auth } proj page)
    | _ => w
  | .postpone id =>
    match (w.connections id).stage with
    | .reading _ _ => w.setStage id (.listening [])
    | _ => w
  | .lease id locked =>
    match (w.connections id).stage, (w.connections id).sessionId with
    | .deciding turn proj page, some sid => w.lease id sid turn proj page locked
    | _, _ => w

end Clawdi.DiscordGateway
