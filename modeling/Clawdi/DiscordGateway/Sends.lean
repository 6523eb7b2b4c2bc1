import Clawdi.DiscordGateway.Invariant

namespace Clawdi.DiscordGateway
open List Nat Function
variable {w : World} {id sid : Nat}

@[simp] lemma setConnection_self (w : World) (id : Nat) (conn : Connection) :
    (w.setConnection id conn).connections id = conn := update_self _ _ _

@[simp] lemma setConnection_other (w : World) {id alt : Nat} (conn : Connection)
    (ne : alt ≠ id) : (w.setConnection id conn).connections alt = w.connections alt :=
  update_of_ne ne _ _

@[simp] lemma close_self (w : World) (id : Nat) : (w.close id).connections id = .closed := update_self _ _ _

@[simp] lemma close_other (w : World) {id alt : Nat} (apart : alt ≠ id) :
    (w.close id).connections alt = w.connections alt :=
  update_of_ne apart _ _

@[simp] lemma setState_self (w : World) (sid : Nat) (st : SessionState) :
    (w.setState sid st).states sid = st := update_self _ _ _

@[simp] lemma setState_other (w : World) {sid alt : Nat} (st : SessionState)
    (ne : alt ≠ sid) : (w.setState sid st).states alt = w.states alt :=
  update_of_ne ne _ _

structure Alike (st alt : SessionState) : Prop where
  frames : alt.frames = st.frames
  checkpoints : alt.messageCheckpoints = st.messageCheckpoints
  sequence : alt.lastSequence = st.lastSequence
  dropped : alt.droppedThroughSequence = st.droppedThroughSequence
  account : alt.accountId = st.accountId
  link : alt.botAgentLinkId = st.botAgentLinkId

variable {alt st : SessionState}

lemma Alike.good (alike : Alike st alt) {records} (good : StateGood st records) : StateGood alt records where
  ascending := good.ascending
  retained := by
    rw [alike.frames, alike.dropped]
    exact good.retained
  traced := by
    rw [alike.checkpoints]
    exact good.traced

lemma Alike.last (alike : Alike st alt) : alt.last = st.last := by
  rw [SessionState.last, alike.sequence, SessionState.last]

lemma Alike.latest (alike : Alike st alt) : alt.latestSequence = st.latestSequence := by
  rw [SessionState.latestSequence, alike.frames, alike.last, SessionState.latestSequence]

lemma Sound.settle (inv : Sound w) (attached : (w.connections id).sessionId = some sid) (conn : Connection)
    (st : SessionState) (sess : conn.sessionId = some sid)
    (agent : conn.agent = (w.connections id).agent) (seq : conn.gatewaySequence = w.sequence id)
    (runs : (w.stage id).running = true) (stays : conn.stage.running = true) (alike : Alike (w.states sid) st)
    (room : st.messageCheckpoints.length + conn.stage.demand ≤ resumeBufferSize)
    (plain : conn.stage.plain) : Sound ((w.setConnection id conn).setState sid st) := by
  have staged := inv.staged id sid attached
  have good := inv.sessions sid
  have logs := inv.logs id
  have stage : ((w.setConnection id conn).setState sid st).stage id =
      conn.stage := by
    show ((w.setConnection id conn).connections id).stage = _
    rw [setConnection_self]
  have num : ((w.setConnection id conn).setState sid st).sequence id =
      w.sequence id := by
    show ((w.setConnection id conn).connections id).gatewaySequence = _
    rw [setConnection_self, seq]
  have not_replaying : ∀ num rest, conn.stage ≠ .replaying num rest := by
    intro num rest again
    rw [again] at stays
    cases stays
  have was_running : ∀ num rest, w.stage id ≠ .replaying num rest := by
    intro num rest again
    rw [again] at runs
    cases runs
  have was_accepted : ∀ num, w.stage id ≠ .acknowledging num := by
    intro num acknowledging
    rw [acknowledging] at runs
    cases runs
  have level : w.sequence id = st.last := by
    rw [alike.last]
    exact staged.level runs
  apply inv.changed attached
  · constructor
    · exact fun alt ne => setConnection_other w conn ne
    · exact fun alt ne => setState_other _ st ne
    · rfl
    · rfl
    · rfl
    · rfl
    · exact fun _ _ => rfl
    · exact fun _ _ => rfl
    · exact fun _ _ => ⟨rfl, rfl⟩
    · exact fun _ _ => Iff.rfl
    · show ((w.setConnection id conn).connections id).sessionId = _ ∧
        ((w.setConnection id conn).connections id).agent = _
      rw [setConnection_self]
      exact ⟨sess.trans attached.symm, agent⟩
    · rw [setState_self]
      exact ⟨alike.account, alike.link⟩
  · constructor
    · rw [setState_self]
      exact alike.good good.state
    · rw [setState_self, alike.checkpoints]
      exact good.capped
    · intro unbroken _
      rw [setState_self, alike.latest]
      apply good.bound unbroken
      intro alt v rest has again
      have same := inv.alone has attached
      subst same
      exact was_running v rest again
    · exact good.matched
    · exact good.ordered
    · exact good.strict
  · constructor
    · intro silent
      cases quiet : conn.stage <;> simp_all [Stage.running, Stage.silent, Stage.outside]
    · rw [stage]
      intro num rest again
      exact absurd again (not_replaying num rest)
    · intro _
      rw [num]
      exact logs.running runs
    · exact logs.ascending
    · exact logs.replayed
  · constructor
    · rw [stage]
      intro num accepting
      rw [accepting] at stays
      cases stays
    · intro _
      rw [num]
      exact staged.ahead was_accepted
    · rw [stage]
      intro num rest again
      exact absurd again (not_replaying num rest)
    · intro _
      rw [num, setState_self]
      exact level
    · rw [stage, setState_self]
      exact room
    · rw [stage]
      exact plain
  · cases quiet : conn.stage <;> simp_all [Stage.running, Stage.outside]

lemma Sound.restate (inv : Sound w) (attached : (w.connections id).sessionId = some sid)
    (alike : Alike (w.states sid) st) (identified : st.identified = (w.states sid).identified) :
    Sound (w.setState sid st) := by
  let after := w.setState sid st
  have staged := inv.staged id sid attached
  have good := inv.sessions sid
  have here : after.states sid = st := setState_self _ _ _
  show Sound after
  apply inv.changed attached
  · constructor
    · exact fun _ _ => rfl
    · exact fun alt ne => setState_other _ _ ne
    · rfl
    · rfl
    · rfl
    · rfl
    · exact fun _ _ => rfl
    · exact fun _ _ => rfl
    · exact fun _ _ => ⟨rfl, rfl⟩
    · exact fun _ _ => Iff.rfl
    · exact ⟨rfl, rfl⟩
    · rw [here]
      exact ⟨alike.account, alike.link⟩
  · constructor
    · rw [here]
      exact alike.good good.state
    · rw [here, alike.checkpoints]
      exact good.capped
    · intro unbroken none_replays
      rw [here, alike.latest]
      exact good.bound unbroken none_replays
    · exact good.matched
    · exact good.ordered
    · exact good.strict
  · exact (inv.logs id).transfer rfl ⟨rfl, rfl⟩ fun _ _ mem => mem
  · constructor
    · intro seq accepting
      have acc := staged.accepted seq accepting
      rw [here]
      simp only [SessionState.accepts, alike.latest, identified, alike.dropped] at acc ⊢
      exact acc
    · exact staged.ahead
    · exact staged.front
    · rw [here, alike.last]
      exact staged.level
    · rw [here, alike.checkpoints]
      exact staged.room
    · exact staged.plain
  · show (w.stage id).outside = false
    rw [inv.outside id, attached]
    rfl

def Stage.mayDispatch : Stage → Prop
  | .replaying _ rest => rest = []
  | stage => stage.running = true

lemma Stage.mayDispatch_cases {stage : Stage} (may : stage.mayDispatch) :
    (∃ seq, stage = .replaying seq []) ∨ stage.running = true := by
  cases stage with
  | replaying seq rest =>
    left
    exact ⟨seq, by rw [show rest = [] from may]⟩
  | _ =>
    right
    exact may

lemma Sound.ceiling (inv : Sound w) (attached : (w.connections id).sessionId = some sid)
    (may : (w.stage id).mayDispatch) :
    (∀ record ∈ w.recordedOf sid, record.frame.s ≤ w.sequence id) ∧ (sid ∉ w.brokenOff →
        ∀ sent ∈ w.dispatchesOf sid, sent.1 ≤ w.sequence id) := by
  have staged := inv.staged id sid attached
  have good := inv.sessions sid
  have ahead : ∀ record ∈ w.recordedOf sid, record.frame.s ≤ w.sequence id := by
    apply staged.ahead
    intro seq accepting
    rw [accepting] at may
    cases may
  refine ⟨ahead, ?_⟩
  intro unbroken sent mem
  rcases Stage.mayDispatch_cases may with ⟨seq, again⟩ | runs
  · exact staged.front seq [] again unbroken sent mem
  · have none_replays : ∀ alt seq rest, (w.connections alt).sessionId = some sid →
          w.stage alt ≠ .replaying seq rest := by
      intro alt seq rest has again
      have same := inv.alone has attached
      subst same
      rw [again] at runs
      cases runs
    have below := good.bound unbroken none_replays sent mem
    have level := staged.level runs
    obtain ⟨dropped, split, -⟩ := good.state.retained
    have frames : (((w.states sid).frames.map Frame.s).max?.getD 0) ≤
        w.sequence id := by
      cases hit : ((w.states sid).frames.map Frame.s).max? with
      | none => exact zero_le _
      | some top =>
        have listed := (List.max?_eq_some_iff.mp hit).1
        obtain ⟨frame, among, same⟩ := mem_map.mp listed
        have noted : frame ∈ (w.recordedOf sid).map Recorded.frame := by
          rw [split]
          exact mem_append_right _ among
        obtain ⟨record, kept, rfl⟩ := mem_map.mp noted
        rw [Option.getD_some, ← same]
        exact ahead record kept
    rw [SessionState.latestSequence, ← level] at below
    exact below.trans (max_le frames le_rfl)

section
variable {write : Write} {noted : Bool} {bindingId : Option Uuid} {next : Stage}

lemma register_written (w : World) (id sid : Nat) (write : Write) (noted : Bool) (bindingId : Option Uuid) :
    (w.register id sid write noted bindingId).written = w.written ++
      [.dispatch id sid { t := write.t, s := w.sequence id + 1, d := write.d } noted] :=
  rfl

lemma register_dispatchesOf (w : World) (id sid alt : Nat) (write : Write)
    (noted : Bool) (bindingId : Option Uuid) :
    (w.register id sid write noted bindingId).dispatchesOf alt = w.dispatchesOf alt ++
        if sid = alt then [(w.sequence id + 1, noted)] else [] := by
  rw [World.dispatchesOf, register_written, filterMap_append]
  congr 1
  by_cases same : sid = alt <;> simp [Written.ofSession, same]

lemma register_dispatchesOn (w : World) (id sid alt : Nat) (write : Write)
    (noted : Bool) (bindingId : Option Uuid) : (w.register id sid write noted bindingId).dispatchesOn alt =
      w.dispatchesOn alt ++ if id = alt then [w.sequence id + 1] else [] := by
  rw [World.dispatchesOn, register_written, filterMap_append]
  congr 1
  by_cases same : id = alt <;> simp [Written.dispatchOn, same]

lemma register_replaysOn (w : World) (id sid alt : Nat) (write : Write) (noted : Bool) (bindingId : Option Uuid) :
    (w.register id sid write noted bindingId).replaysOn alt = w.replaysOn alt := by
  rw [World.replaysOn, register_written, filterMap_append]
  simp [Written.replayOn, World.replaysOn]

def World.newRecord (w : World) (id sid : Nat) (write : Write) (bindingId : Option Uuid) : Recorded :=
  { sessionId := sid, frame := { t := write.t, s := w.sequence id + 1, d := write.d }
    checkpoint := write.checkpoint, bindingId }

lemma register_recordedOf (w : World) (id sid alt : Nat) (write : Write) (noted : Bool) (bindingId : Option Uuid) :
    (w.register id sid write noted bindingId).recordedOf alt = w.recordedOf alt ++
        if noted = true ∧ sid = alt then [w.newRecord id sid write bindingId] else [] := by
  have listed : (w.register id sid write noted bindingId).recorded =
      if noted then w.recorded ++ [w.newRecord id sid write bindingId]
      else w.recorded := rfl
  rw [World.recordedOf, listed]
  cases noted with
  | false => simp [World.recordedOf]
  | true => by_cases same : sid = alt <;> simp [World.recordedOf, World.newRecord, same]

lemma Sound.register (inv : Sound w)
    (attached : (w.connections id).sessionId = some sid) (noted : Bool) (bindingId : Option Uuid)
    (may : (w.stage id).mayDispatch) (stays : next.running = true) (plain : next.plain)
    (room : (w.states sid).messageCheckpoints.length +
      (if write.checkpoint.isSome then 1 else 0) + next.demand ≤ resumeBufferSize) :
    Sound ((w.register id sid write noted bindingId).setStage id next) := by
  obtain ⟨ahead, front⟩ := inv.ceiling attached may
  have good := inv.sessions sid
  have logs := inv.logs id
  let sent := (w.register id sid write noted bindingId).setStage id next
  let frame : Frame := { t := write.t, s := w.sequence id + 1, d := write.d }
  have here : sent.connections id =
      { w.connections id with gatewaySequence := w.sequence id + 1, stage := next } := by
    simp [sent, World.setStage, World.setConnection, World.register, World.sequence]
  have stage : sent.stage id = next := by rw [World.stage, here]
  have num : sent.sequence id = w.sequence id + 1 := by rw [World.sequence, here]
  have st : sent.states sid =
      (w.states sid).send frame noted write.checkpoint := by
    simp [sent, World.setStage, World.setConnection, World.register, World.setState, frame, World.sequence]
  have dispatches : sent.dispatchesOf sid =
      w.dispatchesOf sid ++ [(w.sequence id + 1, noted)] := by
    have whole := register_dispatchesOf w id sid sid write noted bindingId
    rwa [if_pos rfl] at whole
  have socket : sent.dispatchesOn id = w.dispatchesOn id ++ [w.sequence id + 1] := by
    have whole := register_dispatchesOn w id sid id write noted bindingId
    rwa [if_pos rfl] at whole
  have replays : sent.replaysOn id = w.replaysOn id := register_replaysOn w id sid id write noted bindingId
  have records : sent.recordedOf sid = w.recordedOf sid ++
      if noted = true then [w.newRecord id sid write bindingId] else [] := by
    have whole := register_recordedOf w id sid sid write noted bindingId
    simp only [and_true] at whole
    exact whole
  have last : (sent.states sid).last = w.sequence id + 1 := by rw [st, send_last]
  have capped : (sent.states sid).messageCheckpoints.length ≤ (w.states sid).messageCheckpoints.length +
        (if write.checkpoint.isSome then 1 else 0) := by
    rw [st]
    exact send_checkpoints_length noted
  have quiet : w.dispatchesOn id = [] ∨
      (∀ pre ∈ w.dispatchesOn id, pre ≤ w.sequence id) := by
    rcases Stage.mayDispatch_cases may with ⟨seq, again⟩ | runs
    · left
      exact (logs.replaying seq [] again).1
    · right
      exact (logs.running runs).1
  have due : ∀ resume ∈ w.resumes, resume.connection = id →
      w.replaysOn id = resume.due := by
    rcases Stage.mayDispatch_cases may with ⟨seq, again⟩ | runs
    · intro resume mem same
      simpa using (logs.replaying seq [] again).2 resume mem same
    · exact (logs.running runs).2
  have below : ∀ pre ∈ w.dispatchesOn id, pre ≤ w.sequence id := by
    rcases quiet with none_sent | bounded
    · rw [none_sent]
      intro pre mem
      cases mem
    · exact bounded
  have not_replaying : ∀ v rest, next ≠ .replaying v rest := by
    intro v rest again
    rw [again] at stays
    cases stays
  apply inv.changed attached
  · constructor
    · intro alt ne
      simp [World.setStage, World.setConnection, World.register, World.setState, ne]
    · intro alt ne
      simp [World.setStage, World.setConnection, World.register, World.setState, ne]
    · rfl
    · rfl
    · rfl
    · rfl
    · intro alt ne
      have whole := register_recordedOf w id sid alt write noted bindingId
      have apart : ¬(noted = true ∧ sid = alt) := fun both => ne both.2.symm
      rwa [if_neg apart, append_nil] at whole
    · intro alt ne
      have whole := register_dispatchesOf w id sid alt write noted bindingId
      rwa [if_neg (Ne.symm ne), append_nil] at whole
    · intro alt ne
      have whole := register_dispatchesOn w id sid alt write noted bindingId
      rw [if_neg (Ne.symm ne), append_nil] at whole
      exact ⟨whole, register_replaysOn w id sid alt write noted bindingId⟩
    · exact fun _ _ => Iff.rfl
    · show (sent.connections id).sessionId = _ ∧ (sent.connections id).agent = _
      rw [here]
      exact ⟨rfl, rfl⟩
    · show (sent.states sid).accountId = _ ∧ (sent.states sid).botAgentLinkId = _
      rw [st]
      obtain ⟨acct, link, -⟩ := send_owner (w.states sid) frame write.checkpoint noted
      exact ⟨acct, link⟩
  · show SessionGood sent sid
    constructor
    · rw [st, records]
      cases noted with
      | false => simpa using good.state.unrecorded
      | true =>
        refine good.state.record (w.newRecord id sid write bindingId) ?_
        intro record mem
        exact lt_succ_of_le (ahead record mem)
    · omega
    · intro unbroken _ pair mem
      have top : w.sequence id + 1 ≤ (sent.states sid).latestSequence := by
        rw [SessionState.latestSequence, last]
        exact le_max_right _ _
      rw [dispatches] at mem
      rcases mem_append.mp mem with pre | added
      · have less := front unbroken pair pre
        omega
      · rw [mem_singleton.mp added]
        exact top
    · intro pair mem kept
      rw [dispatches] at mem
      rw [records]
      rcases mem_append.mp mem with pre | added
      · obtain ⟨record, among, same⟩ := good.matched pair pre kept
        exact ⟨record, mem_append_left _ among, same⟩
      · rw [mem_singleton.mp added] at kept ⊢
        rw [if_pos kept]
        exact ⟨_, mem_append_right _ (mem_singleton_self _), rfl⟩
    · rw [dispatches]
      refine pairwise_append.mpr ⟨good.ordered, pairwise_singleton _ _, ?_⟩
      intro pair pre new added kept
      rw [mem_singleton.mp added]
      obtain ⟨record, among, same⟩ := good.matched pair pre kept
      have less := ahead record among
      show pair.1 < w.sequence id + 1
      omega
    · intro unbroken
      rw [dispatches]
      refine pairwise_append.mpr ⟨good.strict unbroken, pairwise_singleton _ _, ?_⟩
      intro pair pre new added
      rw [mem_singleton.mp added]
      exact lt_succ_of_le (front unbroken pair pre)
  · show LogsOn sent id
    constructor
    · intro silent
      cases at_next : next <;> simp_all [Stage.running, Stage.silent, Stage.outside]
    · rw [stage]
      intro v rest again
      exact absurd again (not_replaying v rest)
    · intro _
      rw [socket, num, replays]
      refine ⟨?_, due⟩
      intro pre mem
      rcases mem_append.mp mem with old | added
      · have less := below pre old
        omega
      · rw [mem_singleton.mp added]
    · rw [socket]
      refine pairwise_append.mpr ⟨logs.ascending, pairwise_singleton _ _, ?_⟩
      intro pre old new added
      rw [mem_singleton.mp added]
      exact lt_succ_of_le (below pre old)
    · intro resume mem same
      rw [replays, due resume mem same]
      exact ⟨prefix_refl _, fun _ => rfl⟩
  · show Staged sent id sid
    constructor
    · rw [stage]
      intro v accepting
      rw [accepting] at stays
      cases stays
    · intro _ record mem
      rw [num]
      rw [records] at mem
      rcases mem_append.mp mem with pre | added
      · exact (ahead record pre).trans (le_succ _)
      · cases noted with
        | false => cases added
        | true =>
          rw [mem_singleton.mp added]
          exact le_rfl
    · rw [stage]
      intro v rest again
      exact absurd again (not_replaying v rest)
    · intro _
      rw [num, last]
    · rw [stage]
      omega
    · rw [stage]
      exact plain
  · show (sent.stage id).outside = false
    cases at_next : next <;> simp_all [Stage.running, Stage.outside]

end
end Clawdi.DiscordGateway
