import Clawdi.DiscordGateway.Gateway

namespace Clawdi.DiscordGateway
open Transition SessionStore List
variable {w : World} {id sid : Nat}

lemma dequeue_length (agent : Agent) (afterSequence limit : Nat) (msgs : List ChannelMessage) :
    (dequeueGatewayEvents agent afterSequence limit msgs).length ≤ limit :=
  length_take_le _ _

lemma Serves.proceed (serves : Serves w) (attached : (w.connections id).sessionId = some sid) :
    Serves (w.proceed id sid) := by
  unfold World.proceed
  dsimp only
  split
  · rename_i turn page at_stage
    have stage : w.stage id = .removing turn [] page := at_stage
    have runs : (w.stage id).running = true := by
      rw [stage]
      rfl
    generalize (w.connections id).projection.within turn.authority = within
    have proj := serves.project attached runs within
    have conn : (w.setProjection id sid within).connections id =
        { w.connections id with projection := within } := setConnection_self _ _ _
    have same : (w.setProjection id sid within).stage id = w.stage id := by rw [World.stage, conn, World.stage]
    have still : ((w.setProjection id sid within).stage id).running = true := by
      rw [same]
      exact runs
    have fewer : page.length + 1 ≤
        ((w.setProjection id sid within).stage id).demand := by
      rw [same, stage]
      exact le_rfl
    split <;> exact proj.restageWithin still rfl trivial fewer
  · exact serves

lemma Serves.lease (serves : Serves w) (attached : (w.connections id).sessionId = some sid) {turn}
    {proj} {page} (decides : w.stage id = .deciding turn proj page) (locked : Bool) :
    Serves (w.lease id sid turn proj page locked) := by
  have runs : (w.stage id).running = true := by
    rw [decides]
    rfl
  have fewer : page.length ≤ (w.stage id).demand := by
    rw [decides]
    exact Nat.le_succ _
  have ended := serves.endTurn attached runs turn false fewer
  unfold World.lease
  dsimp only
  split
  · exact ended
  · split
    · exact ended
    · split
      · split
        · exact serves.closeRunning runs
        · rename_i writes built
          apply serves.restageWithin runs
          · rfl
          · exact trivial
          · rw [decides]
            show page.length + (writes.countP fun write => write.checkpoint.isSome) ≤ page.length + 1
            rw [messageWrites_count built]
      · exact ended.quiet rfl (Within.refl _)

lemma Serves.step (serves : Serves w) (action : Action) : Serves (step w action) := by
  have unnamed : ∀ {conn : Connection}, conn.stage = .identifying →
      ∀ held seq, conn.stage ≠ .resuming held seq := by
    intro conn identifies held seq named
    rw [identifies] at named
    cases named
  cases action with
  | unpair | pair | archiveLink | archiveAccount =>
    simp only [DiscordGateway.step]
    split
    · exact serves
    · exact serves.quiet rfl (Within.refl _)
  | connect =>
    refine ⟨serves.sound.connect, serves.known.follow ?_⟩
    refine (knows_setConnection w w.nextConnection _ ?_).trans (knows_quiet _ rfl)
    intro held seq named
    cases named
  | identify id agent =>
    simp only [DiscordGateway.step]
    split
    · rename_i hello
      have silent : (w.stage id).silent = true := by
        rw [World.stage, hello]
        rfl
      have outside : (w.stage id).outside = true := by
        rw [World.stage, hello]
        rfl
      have none_held : (w.connections id).sessionId = none := by
        have same := serves.sound.outside id
        rw [outside] at same
        exact Option.isNone_iff_eq_none.mp same.symm
      split
      · exact serves.outside silent outside none_held rfl (unnamed rfl)
      · apply serves.close
        · rw [World.stage, hello]
          intro closed
          cases closed
        · intro seq held again
          rw [World.stage, hello] at again
          cases again
    · exact serves
  | resume id agent sid seq arrives =>
    simp only [DiscordGateway.step]
    split
    · rename_i hello
      exact serves.resume hello agent sid seq arrives
    · exact serves
  | claim id free arrives =>
    simp only [DiscordGateway.step]
    split
    · rename_i waits
      exact serves.claimIdentify waits free
    · rename_i sid seq waits
      exact serves.claimResume waits free arrives
    · exact serves
  | drop id =>
    simp only [DiscordGateway.step]
    split
    · exact serves
    · exact serves
    · rename_i opened point
      apply serves.close
      · exact opened
      · intro seq held again
        exact absurd again (point seq)
  | settle id auth done =>
    simp only [DiscordGateway.step]
    split
    · rename_i seq sid accepting attached
      exact serves.settle attached accepting auth done
    · exact serves
  | prepare id ready auth channels =>
    simp only [DiscordGateway.step]
    split
    · rename_i prepares
      have runs : (w.stage id).running = true := by
        rw [World.stage, prepares]
        rfl
      apply serves.restageWithin runs
      · rfl
      · exact startupWrites_plain ready auth channels
      · exact Nat.zero_le _
    · exact serves
  | write id arrives =>
    simp only [DiscordGateway.step]
    split
    · rename_i sid attached
      exact serves.write attached arrives
    · exact serves
  | heartbeat id seq done arrives =>
    simp only [DiscordGateway.step]
    split
    · rename_i sid stage attached
      exact serves.heartbeat attached (by rw [World.stage, stage]; rfl) seq done arrives
    · rename_i sid stage attached
      exact serves.heartbeat attached (by rw [World.stage, stage]; rfl) seq done arrives
    · rename_i turn page sid stage attached
      exact serves.heartbeat attached (by rw [World.stage, stage]; rfl) seq done arrives
    · exact serves
  | fetch id =>
    simp only [DiscordGateway.step]
    split
    · rename_i sid listens attached
      split
      · have runs : (w.stage id).running = true := by
          rw [World.stage, listens]
          rfl
        apply serves.restage runs
        · rfl
        · exact trivial
        · intro held has
          rw [attached] at has
          rw [← Option.some.inj has]
          have length := dequeue_length (w.connections id).agent (w.connections id).lastInboxSequence
            (resumeBufferSize - (w.states sid).messageCheckpoints.length) w.messages
          show (w.states sid).messageCheckpoints.length + _ ≤ resumeBufferSize
          simp only [Stage.demand]
          omega
      · exact serves
    · exact serves
  | look id auth =>
    simp only [DiscordGateway.step]
    split
    · rename_i msg page listens
      have runs : (w.stage id).running = true := by
        rw [World.stage, listens]
        rfl
      apply serves.restageWithin runs
      · rfl
      · exact removals_plain _ _
      · rw [World.stage, listens]
        exact le_rfl
    · exact serves
  | proceed id =>
    simp only [DiscordGateway.step]
    split
    · rename_i sid attached
      exact serves.proceed attached
    · exact serves
  | read id proj auth =>
    simp only [DiscordGateway.step]
    split
    · rename_i turn page reads
      have runs : (w.stage id).running = true := by
        rw [World.stage, reads]
        rfl
      apply serves.restageWithin runs
      · rfl
      · exact trivial
      · rw [World.stage, reads]
        exact le_rfl
    · exact serves
  | postpone id =>
    simp only [DiscordGateway.step]
    split
    · rename_i turn page reads
      have runs : (w.stage id).running = true := by
        rw [World.stage, reads]
        rfl
      apply serves.restageWithin runs
      · rfl
      · exact trivial
      · exact Nat.zero_le _
    · exact serves
  | lease id locked =>
    simp only [DiscordGateway.step]
    split
    · rename_i turn proj page sid decides attached
      exact serves.lease attached decides locked
    · exact serves
  | _ => exact serves.quiet rfl (Within.refl _)

lemma serves_run (scopes : Scopes) (acts : List Action) :
    Serves (run DiscordGateway.step (World.new scopes) acts) :=
  run_invariant (fun _ action serves => serves.step action) (Serves.new scopes) acts

open Transition

def Scopes.owns (scopes : Scopes) (agent : Agent) (bid : Uuid) : Bool :=
  scopes.bindings.any fun bind =>
    bind.id = bid && bind.accountId = agent.accountId &&
      bind.botAgentLinkId = agent.botAgentLinkId && bind.status = .active

def Action.touches (bind : ChannelBinding) : Action → Bool
  | .unpair bid => bind.id = bid
  | .pair alt => bind.id = alt.id
  | .archiveLink linkId => bind.botAgentLinkId = linkId
  | .archiveAccount acctId => bind.accountId = acctId
  | _ => false

def Stage.sends : Stage → Option Uuid
  | .sending _ bid _ _ => some bid
  | _ => none

def Stage.rest : Stage → List Frame
  | .replaying _ rest => rest
  | _ => []

namespace World
variable (w : World)

def bindingsOf (sid : Nat) (frames : List Frame) : List Uuid :=
  (w.recordedOf sid).filterMap fun record =>
    if frames.any fun frame => frame.s = record.frame.s then record.bindingId else none

def replays (id : Nat) : List Uuid :=
  match (w.connections id).sessionId with
  | some sid => w.bindingsOf sid (w.stage id).rest
  | none => []

def carried (id : Nat) : List Uuid :=
  match (w.connections id).stage, (w.connections id).sessionId with
  | .sending _ bid (next :: _) _, _ => (next.checkpoint.map fun _ => bid).toList
  | .replaying _ (frame :: _), some sid => w.bindingsOf sid [frame]
  | _, _ => []

end World

def Fenced (w : World) : Action → Prop
  | .write id _ => ∀ bid ∈ w.carried id,
      w.scopes.owns (w.connections id).agent bid = true
  | _ => True

/-- What a replay leaves alone: messages above the resumed sequence stay with the link, and so do bindings. -/
def Undisturbed (w : World) : Action → Prop
  | .settle id _ .committed =>
    match (w.connections id).stage, (w.connections id).sessionId with
    | .acknowledging seq, some sid =>
      ∀ bid ∈ w.bindingsOf sid ((w.states sid).replay seq), w.scopes.owns (w.connections id).agent bid = true
    | _, _ => True
  | action => ∀ id < w.nextConnection, ∀ bid ∈ w.replays id,
      ∀ bind ∈ w.scopes.bindings, bind.id = bid → action.touches bind = false

section
variable {w : World} {agent : Agent} {bid : Uuid} {scopes : Scopes}

lemma owns_iff : scopes.owns agent bid = true ↔
    ∃ bind ∈ scopes.bindings, bind.id = bid ∧ bind.accountId = agent.accountId ∧
      bind.botAgentLinkId = agent.botAgentLinkId ∧ bind.status = .active := by
  simp only [Scopes.owns, any_eq_true, Bool.and_eq_true, decide_eq_true_eq, and_assoc]

lemma leases_owns {chat} (leased : scopes.leases agent bid chat = true) : scopes.owns agent bid = true := by
  simp only [Scopes.leases, any_eq_true, Bool.and_eq_true, decide_eq_true_eq] at leased
  obtain ⟨bind, mem, ⟨⟨⟨⟨⟨same, acct⟩, link⟩, -⟩, active⟩, -⟩, -⟩ := leased
  exact owns_iff.mpr ⟨bind, mem, same, acct, link, active⟩

lemma archiveBindings_owns {chosen : ChannelBinding → Bool} (same : scopes.bindings = w.scopes.bindings)
    (owned : w.scopes.owns agent bid = true)
    (spared : ∀ bind ∈ w.scopes.bindings, bind.id = bid → bind.accountId = agent.accountId →
      bind.botAgentLinkId = agent.botAgentLinkId → chosen bind = false) :
    (w.archiveBindings chosen scopes).scopes.owns agent bid = true := by
  obtain ⟨bind, mem, named, acct, link, active⟩ := owns_iff.mp owned
  refine owns_iff.mpr ⟨bind, ?_, named, acct, link, active⟩
  refine mem_map.mpr ⟨bind, same ▸ mem, ?_⟩
  rw [if_neg]
  rw [spared bind mem named acct link]
  exact Bool.false_ne_true

lemma pair_owns {alt : ChannelBinding} (owned : w.scopes.owns agent bid = true)
    (apart : alt.id ≠ bid) : (w.pair alt).scopes.owns agent bid = true := by
  obtain ⟨bind, mem, named, acct, link, active⟩ := owns_iff.mp owned
  refine owns_iff.mpr ⟨bind, ?_, named, acct, link, active⟩
  apply mem_append_left
  refine mem_filter.mpr ⟨mem, ?_⟩
  rw [← named] at apart
  exact decide_eq_true (Ne.symm apart)

end

structure Guarded (w : World) : Prop where
  sends : ∀ id bid, (w.stage id).sends = some bid → w.scopes.owns (w.connections id).agent bid = true
  replays : ∀ id, ∀ bid ∈ w.replays id, w.scopes.owns (w.connections id).agent bid = true

lemma Guarded.new (scopes : Scopes) : Guarded (World.new scopes) where
  sends := fun _ _ sends => nomatch sends
  replays := fun _ _ mem => nomatch mem

structure Guards (w after : World) : Prop where
  scopes : after.scopes = w.scopes
  sends : ∀ id bid, (after.stage id).sends = some bid → (w.stage id).sends = some bid ∧
      (after.connections id).agent = (w.connections id).agent
  replays : ∀ id, ∀ bid ∈ after.replays id, bid ∈ w.replays id ∧
    (after.connections id).agent = (w.connections id).agent

section
variable {w after : World}

lemma Guards.refl (w : World) : Guards w w where
  scopes := rfl
  sends := fun _ _ sends => ⟨sends, rfl⟩
  replays := fun _ _ mem => ⟨mem, rfl⟩

lemma Guards.trans {third} (one : Guards w after) (alt : Guards after third) : Guards w third where
  scopes := alt.scopes.trans one.scopes
  sends := by
    intro id bid sends
    obtain ⟨middle, agent⟩ := alt.sends id bid sends
    obtain ⟨first, same⟩ := one.sends id bid middle
    exact ⟨first, agent.trans same⟩
  replays := by
    intro id bid mem
    obtain ⟨middle, agent⟩ := alt.replays id bid mem
    obtain ⟨first, same⟩ := one.replays id bid middle
    exact ⟨first, agent.trans same⟩

lemma Guarded.follow (guarded : Guarded w) (guards : Guards w after) : Guarded after where
  sends := by
    intro id bid sends
    obtain ⟨pre, agent⟩ := guards.sends id bid sends
    rw [guards.scopes, agent]
    exact guarded.sends id bid pre
  replays := by
    intro id bid mem
    obtain ⟨pre, agent⟩ := guards.replays id bid mem
    rw [guards.scopes, agent]
    exact guarded.replays id bid pre

lemma bindingsOf_congr {sid : Nat} (same : after.recordedOf sid = w.recordedOf sid)
    (frames : List Frame) : after.bindingsOf sid frames = w.bindingsOf sid frames := by
  rw [World.bindingsOf, same, World.bindingsOf]

lemma bindingsOf_nil (w : World) (sid : Nat) : w.bindingsOf sid [] = [] := by simp [World.bindingsOf]

lemma bindingsOf_mono (w : World) {sid : Nat} {frames others}
    (fewer : frames ⊆ others) : w.bindingsOf sid frames ⊆ w.bindingsOf sid others := by
  intro bid mem
  obtain ⟨record, listed, carries⟩ := mem_filterMap.mp mem
  refine mem_filterMap.mpr ⟨record, listed, ?_⟩
  split at carries
  · rename_i among
    obtain ⟨frame, framed, same⟩ := any_eq_true.mp among
    rw [if_pos (any_eq_true.mpr ⟨frame, fewer framed, same⟩)]
    exact carries
  · cases carries

lemma replays_congr {id : Nat} (conn : after.connections id = w.connections id)
    (noted : ∀ sid, (w.connections id).sessionId = some sid →
      (w.stage id).rest = [] ∨ after.recordedOf sid = w.recordedOf sid) : after.replays id = w.replays id := by
  have stage : after.stage id = w.stage id := by rw [World.stage, conn, World.stage]
  rw [World.replays, World.replays, stage, conn]
  cases held : (w.connections id).sessionId with
  | none => rfl
  | some sid =>
    rcases noted sid held with ended | same
    · simp only [ended, bindingsOf_nil]
    · exact bindingsOf_congr same _

variable (w) (id sid : Nat)

lemma guards_quiet (same : (after.scopes, after.connections, after.recorded) =
    (w.scopes, w.connections, w.recorded)) : Guards w after := by
  simp only [Prod.mk.injEq] at same
  obtain ⟨scopes, conns, noted⟩ := same
  have still : ∀ alt, after.connections alt = w.connections alt := fun alt => congrFun conns alt
  constructor
  · exact scopes
  · intro alt bid sends
    rw [World.stage, still alt] at sends
    rw [still alt]
    exact ⟨sends, rfl⟩
  · intro alt bid mem
    rw [replays_congr (still alt) fun _ _ => .inr (by rw [World.recordedOf, noted]; rfl)]
      at mem
    rw [still alt]
    exact ⟨mem, rfl⟩

lemma guards_setConnection (conn : Connection)
    (sends : conn.stage.sends = none ∨ (conn.stage.sends = (w.stage id).sends ∧
      conn.agent = (w.connections id).agent)) (rest : conn.stage.rest = [] ∨ (conn.stage.rest ⊆ (w.stage id).rest ∧
      conn.sessionId = (w.connections id).sessionId ∧ conn.agent = (w.connections id).agent)) :
    Guards w (w.setConnection id conn) := by
  have here := setConnection_self w id conn
  constructor
  · rfl
  · intro alt bid sent
    by_cases same : alt = id
    · subst same
      rw [World.stage, here] at sent
      rcases sends with none_sent | ⟨going, agent⟩
      · rw [none_sent] at sent
        cases sent
      · rw [going] at sent
        rw [here]
        exact ⟨sent, agent⟩
    · have there := setConnection_other w conn same
      rw [World.stage, there] at sent
      rw [there]
      exact ⟨sent, rfl⟩
  · intro alt bid mem
    by_cases same : alt = id
    · subst same
      rw [World.replays, World.stage, here] at mem
      rcases rest with none_rest | ⟨fewer, sess, agent⟩
      · rw [none_rest] at mem
        cases held : conn.sessionId with
        | none =>
          rw [held] at mem
          cases mem
        | some sid =>
          rw [held] at mem
          simp only [bindingsOf_nil] at mem
          cases mem
      · rw [sess] at mem
        refine ⟨?_, by rw [here, agent]⟩
        rw [World.replays]
        cases held : (w.connections alt).sessionId with
        | none =>
          rw [held] at mem
          cases mem
        | some sid =>
          rw [held] at mem
          exact bindingsOf_mono w fewer mem
    · have there := setConnection_other w conn same
      rw [replays_congr there fun _ _ => .inr rfl] at mem
      rw [there]
      exact ⟨mem, rfl⟩

lemma guards_setState (st : SessionState) : Guards w (w.setState sid st) := guards_quiet w rfl

lemma guards_setStage (stage : Stage) (sends : stage.sends = none) (rest : stage.rest = []) :
    Guards w (w.setStage id stage) :=
  guards_setConnection w id _ (.inl sends) (.inl rest)

lemma guards_close : Guards w (w.close id) := by
  have closed := guards_setConnection w id .closed (.inl rfl) (.inl rfl)
  exact closed.trans (guards_quiet _ rfl)

lemma guards_setProjection (projection : Projection) : Guards w (w.setProjection id sid projection) := by
  have connected := guards_setConnection w id { w.connections id with projection }
    (.inr ⟨rfl, rfl⟩) (.inr ⟨List.Subset.refl _, rfl, rfl⟩)
  exact connected.trans (guards_setState _ sid _)

end
end Clawdi.DiscordGateway
