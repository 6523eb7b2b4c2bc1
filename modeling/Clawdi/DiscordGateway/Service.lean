import Clawdi.DiscordGateway.Resumes

namespace Clawdi.DiscordGateway
open List
variable {w : World} {id sid : Nat}
section

lemma foldl_plain {α : Type} (next : Projection → α → Write)
    (plain : ∀ projection item, (next projection item).checkpoint = none) (items : List α) (projection : Projection) :
    ∀ write ∈ (items.foldl (fun sent item =>
      (sent.1 ++ [next sent.2 item], (next sent.2 item).after)) (([] : List Write), projection)).1,
      write.checkpoint = none := by
  have carried : ∀ (writes : List Write) (projection : Projection), (∀ write ∈ writes, write.checkpoint = none) →
      ∀ write ∈ (items.foldl (fun sent item =>
        (sent.1 ++ [next sent.2 item], (next sent.2 item).after)) (writes, projection)).1, write.checkpoint = none := by
    induction items with
    | nil => exact fun _ _ before => before
    | cons item items ih =>
      intro writes projection before
      apply ih
      intro write mem
      rcases List.mem_append.mp mem with pre | added
      · exact before write pre
      · rw [mem_singleton.mp added]
        exact plain projection item
  exact carried [] projection fun _ mem => absurd mem not_mem_nil

lemma removals_plain (auth : Authority) (projection : Projection) :
    ∀ write ∈ removals auth projection, write.checkpoint = none :=
  foldl_plain (fun projection guildId =>
    { t := "GUILD_DELETE"
      d := [("id", .text guildId), ("unavailable", .bool false)]
      checkpoint := none, after := projection.removeGuild guildId }) (fun _ _ => rfl) _ projection

lemma startupWrites_plain (ready : JsonObject) (auth : Authority) (channels : List (String × JsonObject)) :
    ∀ write ∈ startupWrites ready auth channels, write.checkpoint = none := by
  intro write mem
  simp only [startupWrites, List.cons_append, List.mem_cons, List.mem_append, List.mem_map] at mem
  rcases mem with rfl | guild | ⟨channel, _, rfl⟩
  · rfl
  · exact foldl_plain (fun projection guild => guildWrite guild.1 guild.2 projection)
      (fun _ _ => rfl) auth.guilds _ write guild
  · rfl

variable {auth : Authority} {projection : Projection} {writes : List Write}
variable {msg : ChannelMessage} {payload : GatewayPayload} {proj : Option JsonObject}

lemma messageWrites_checkpoint (built : messageWrites msg payload auth proj projection = some writes) :
    ∃ front last, writes = front ++ [last] ∧ (∀ write ∈ front, write.checkpoint = none) ∧
      last.checkpoint = some { messageId := msg.id, inboxSequence := msg.inboxSequence } := by
  simp only [messageWrites, Option.bind_eq_bind, Option.bind_eq_some_iff, Option.pure_def, Option.some.injEq] at built
  obtain ⟨guilds, named, ev, typed, rfl⟩ := built
  refine ⟨_, _, rfl, ?_, rfl⟩
  intro write mem
  rcases List.mem_append.mp mem with guild | channel
  · unfold guildWrites at named
    split at named
    · rw [← Option.some.inj named] at guild
      cases guild
    · split at named
      · rw [← Option.some.inj named] at guild
        cases guild
      · obtain ⟨name, _, built⟩ := Option.map_eq_some_iff.mp named
        rw [← built] at guild
        rw [mem_singleton.mp guild]
        rfl
  · unfold channelWrites at channel
    split at channel
    · split at channel
      · cases channel
      · rw [mem_singleton.mp channel]
        rfl
    · cases channel

lemma messageWrites_count (built : messageWrites msg payload auth proj projection = some writes) :
    (writes.countP fun write => write.checkpoint.isSome) = 1 := by
  obtain ⟨front, last, rfl, plain, carries⟩ := messageWrites_checkpoint built
  rw [countP_append, countP_singleton, carries]
  have none_front : (front.countP fun write => write.checkpoint.isSome) = 0 := by
    rw [countP_eq_zero]
    intro write mem
    rw [plain write mem]
    exact Bool.false_ne_true
  rw [none_front]
  rfl

end

section

lemma Sound.opened (inv : Sound w) (stage : w.stage id ≠ .closed) : id < w.nextConnection := by
  by_contra unopened
  have closed := (inv.closed id (not_lt.mp unopened)).1
  exact stage (by rw [World.stage, closed]; rfl)

lemma Sound.session (inv : Sound w) (inside : (w.stage id).outside = false) :
    ∃ sid, (w.connections id).sessionId = some sid := by
  have none_held := inv.outside id
  rw [inside] at none_held
  cases held : (w.connections id).sessionId with
  | none =>
    rw [held] at none_held
    cases none_held
  | some sid => exact ⟨sid, rfl⟩

variable {stage : Stage}

lemma running_inside (runs : stage.running = true) : stage.outside = false := by
  cases stage <;> simp_all [Stage.running, Stage.outside]

lemma Sound.restage (inv : Sound w) (attached : (w.connections id).sessionId = some sid)
    (runs : (w.stage id).running = true) (stays : stage.running = true)
    (room : (w.states sid).messageCheckpoints.length + stage.demand ≤ resumeBufferSize)
    (plain : stage.plain) : Sound (w.setStage id stage) := by
  have done := inv.settle attached { w.connections id with stage }
    (w.states sid) attached rfl rfl runs stays ⟨rfl, rfl, rfl, rfl, rfl, rfl⟩ room plain
  apply done.quiet
  simp [World.core, World.setStage, World.setConnection, World.setState]

lemma Sound.project (inv : Sound w) (attached : (w.connections id).sessionId = some sid)
    (runs : (w.stage id).running = true) (projection : Projection) : Sound (w.setProjection id sid projection) := by
  have staged := inv.staged id sid attached
  exact inv.settle attached { w.connections id with projection } _ attached rfl rfl runs runs
    ⟨rfl, rfl, rfl, rfl, rfl, rfl⟩ staged.room staged.plain

lemma Sound.endTurn (inv : Sound w) (attached : (w.connections id).sessionId = some sid)
    (runs : (w.stage id).running = true) (turn : Turn) (sent : Bool)
    {page : List ChannelMessage} (room : page.length ≤ (w.stage id).demand) :
    Sound (w.endTurn id sid turn sent page) := by
  have staged := inv.staged id sid attached
  apply inv.settle attached
  · exact attached
  · rfl
  · rfl
  · exact runs
  · rfl
  · exact ⟨rfl, rfl, rfl, rfl, rfl, rfl⟩
  · have pre := staged.room
    show (w.states sid).messageCheckpoints.length + page.length ≤ resumeBufferSize
    omega
  · exact trivial

lemma close_setStage (w : World) {id : Nat} (runs : stage.running = true)
    (may : (w.stage id).mayDispatch) : ((w.setStage id stage).close id) = w.close id := by
  have here : stage.midReplay = false := by
    cases stage <;> simp_all [Stage.running, Stage.midReplay]
  have pre : (w.connections id).stage.midReplay = false := by
    rcases Stage.mayDispatch_cases may with ⟨seq, again⟩ | was_running
    · change (w.connections id).stage = _ at again
      rw [again]
      rfl
    · change (w.connections id).stage.running = true at was_running
      cases at_stage : (w.connections id).stage <;>
        simp_all [Stage.running, Stage.midReplay]
  simp only [World.close, World.setStage, World.setConnection, Function.update_self,
    Function.update_idem, here, pre, Bool.false_eq_true, if_false]
  rfl

lemma Sound.dispatch (inv : Sound w) (attached : (w.connections id).sessionId = some sid)
    (may : (w.stage id).mayDispatch) {write : Write} {next : Stage}
    (stays : next.running = true) (plain : next.plain) (room : (w.states sid).messageCheckpoints.length +
      (if write.checkpoint.isSome then 1 else 0) + next.demand ≤ resumeBufferSize)
    (noted : Bool) (bid : Option Uuid) (arrives : Bool) : Sound (w.dispatch id sid write noted bid next arrives) := by
  have reg := inv.register attached noted bid may stays plain room
  let sent := (w.register id sid write noted bid).setStage id next
  have stage : sent.stage id = next := by
    show (sent.connections id).stage = next
    simp [sent, World.setStage]
  have runs : (sent.stage id).running = true := by
    rw [stage]
    exact stays
  have still : (sent.connections id).sessionId = some sid := by
    simp [sent, World.setStage, World.register, World.setConnection, attached]
  cases arrives with
  | true =>
    have proj := reg.project still runs write.after
    apply proj.quiet
    simp [World.core, World.dispatch, World.arrived, World.setProjection, World.setStage,
      World.setConnection, World.setState]
  | false =>
    have pre : ((w.register id sid write noted bid).stage id).mayDispatch := by
      have same : (w.register id sid write noted bid).stage id =
          w.stage id := by
        show ((w.register id sid write noted bid).connections id).stage = _
        simp [World.register, World.setConnection, World.stage]
      rw [same]
      exact may
    show Sound ((w.register id sid write noted bid).close id)
    rw [← close_setStage _ stays pre]
    apply reg.close
    · have inside : sent.stage id ≠ .closed := by
        intro closed
        rw [closed] at runs
        cases runs
      exact reg.opened inside
    · intro seq held again
      rw [again] at runs
      cases runs

end

namespace SessionStore

def Within (store after : SessionStore) : Prop := ∀ e ∈ after, ∃ pre ∈ store, pre.sessionId = e.sessionId

lemma Within.refl (store : SessionStore) : Within store store :=
  fun e mem => ⟨e, mem, rfl⟩

lemma Within.trans {first snd third} (one : Within first snd) (alt : Within snd third) : Within first third := by
  intro e mem
  obtain ⟨pre, among, same⟩ := alt e mem
  obtain ⟨origin, listed, equal⟩ := one pre among
  exact ⟨origin, listed, equal.trans same⟩

variable {store : SessionStore}

lemma Within.of_subset {after} (fewer : after ⊆ store) : Within store after :=
  fun e mem => ⟨e, fewer mem, rfl⟩

variable {e : SessionEntry} (now : Int)

lemma within_prune (store : SessionStore) : Within store (prune now store) := Within.of_subset filter_sublist.subset

lemma within_discard (sid : Nat) (store : SessionStore) : Within store (discard sid store) :=
  Within.of_subset filter_sublist.subset

lemma find_member {sid : Nat} (hit : find sid store = some e) : e ∈ store ∧ e.sessionId = sid :=
  ⟨mem_of_find?_eq_some hit, by simpa using List.find?_some hit⟩

lemma within_moveToEnd (known : ∃ pre ∈ store, pre.sessionId = e.sessionId) : Within store (moveToEnd e store) := by
  intro alt mem
  rcases List.mem_append.mp mem with pre | last
  · exact within_discard _ _ alt pre
  · rw [mem_singleton.mp last]
    exact known

lemma evict_subset (count : Nat) (store : List SessionEntry) : evict count store ⊆ store := by
  induction store generalizing count with
  | nil => cases count <;> simp [evict]
  | cons e store ih =>
    cases count with
    | zero => simp [evict]
    | succ count =>
      rw [evict]
      split
      · exact List.Subset.trans (ih count) (subset_cons_self _ _)
      · exact cons_subset_cons _ (ih (count + 1))

lemma within_touch (sid : Nat) (now : Int) (store : SessionStore) : Within store (touch sid now store) := by
  unfold touch
  dsimp only
  cases hit : find sid (prune now store) with
  | none => exact within_prune now store
  | some e =>
    obtain ⟨mem, _⟩ := find_member hit
    exact (within_prune now store).trans (within_moveToEnd ⟨e, mem, rfl⟩)

lemma within_disconnect (sid : Nat) (now : Int) (store : SessionStore) :
    Within store (disconnect sid now store) := by
  unfold disconnect
  cases hit : find sid store with
  | none => exact Within.refl store
  | some e =>
    obtain ⟨mem, same⟩ := find_member hit
    dsimp only
    split
    · intro alt listed
      obtain ⟨old, among, rfl⟩ := List.mem_map.mp listed
      by_cases here : old.sessionId = sid
      · rw [if_pos here]
        exact ⟨e, mem, rfl⟩
      · rw [if_neg here]
        exact ⟨old, among, rfl⟩
    · have moved : Within store (moveToEnd
          { e with connectionCount := e.connectionCount - 1, touchedAt := now } store) :=
        within_moveToEnd ⟨e, mem, rfl⟩
      exact (moved.trans (within_prune now _)).trans (Within.of_subset (evict_subset _ _))

lemma within_connect (sid : Nat) (now : Int) (store : SessionStore) :
    Within store (connect sid now store).2 ∧ ((connect sid now store).1 = true → ∃ e ∈ store, e.sessionId = sid) := by
  unfold connect
  dsimp only
  cases hit : find sid (prune now store) with
  | none =>
    refine ⟨within_prune now store, ?_⟩
    intro connected
    cases connected
  | some e =>
    obtain ⟨mem, same⟩ := find_member hit
    have kept : e ∈ store := mem_of_mem_filter mem
    refine ⟨(within_prune now store).trans (within_moveToEnd ⟨e, mem, rfl⟩), ?_⟩
    exact fun _ => ⟨e, kept, same⟩

end SessionStore

open SessionStore

structure Known (w : World) : Prop where
  stored : ∀ e ∈ w.store, e.sessionId < w.nextSession
  resuming : ∀ id sid seq, w.stage id = .resuming sid seq → sid < w.nextSession ∧
      (w.states sid).accountId = (w.connections id).agent.accountId ∧
      (w.states sid).botAgentLinkId = (w.connections id).agent.botAgentLinkId

lemma Known.new (scopes : Scopes) : Known (World.new scopes) where
  stored := fun _ mem => nomatch mem
  resuming := fun _ _ _ stage => nomatch stage

structure Knows (w after : World) : Prop where
  store : Within w.store after.store
  nextSession : w.nextSession ≤ after.nextSession
  owners : ∀ sid, sid < w.nextSession → (after.states sid).accountId = (w.states sid).accountId ∧
      (after.states sid).botAgentLinkId = (w.states sid).botAgentLinkId
  resuming : ∀ id sid seq, after.stage id = .resuming sid seq → w.stage id = .resuming sid seq ∧
      (after.connections id).agent = (w.connections id).agent

variable {w after : World}

lemma Knows.trans {third} (one : Knows w after) (alt : Knows after third) : Knows w third where
  store := one.store.trans alt.store
  nextSession := one.nextSession.trans alt.nextSession
  owners := by
    intro sid old
    obtain ⟨acct, link⟩ := alt.owners sid (old.trans_le one.nextSession)
    obtain ⟨account', link'⟩ := one.owners sid old
    exact ⟨acct.trans account', link.trans link'⟩
  resuming := by
    intro id sid seq stage
    obtain ⟨pre, agent⟩ := alt.resuming id sid seq stage
    obtain ⟨origin, same⟩ := one.resuming id sid seq pre
    exact ⟨origin, agent.trans same⟩

lemma Known.follow (known : Known w) (knows : Knows w after) : Known after where
  stored := by
    intro e mem
    obtain ⟨pre, among, same⟩ := knows.store e mem
    have old := known.stored pre among
    have grows := knows.nextSession
    omega
  resuming := by
    intro id sid seq stage
    obtain ⟨pre, agent⟩ := knows.resuming id sid seq stage
    obtain ⟨old, acct, link⟩ := known.resuming id sid seq pre
    obtain ⟨account', link'⟩ := knows.owners sid old
    rw [agent, account', link']
    exact ⟨old.trans_le knows.nextSession, acct, link⟩

section
variable (w) (id sid : Nat)

lemma knows_setConnection (conn : Connection) (named : ∀ held seq, conn.stage ≠ .resuming held seq) :
    Knows w (w.setConnection id conn) where
  store := Within.refl _
  nextSession := le_rfl
  owners := fun _ _ => ⟨rfl, rfl⟩
  resuming := by
    intro alt held seq stage
    by_cases same : alt = id
    · rw [World.stage, same, setConnection_self] at stage
      exact absurd stage (named held seq)
    · rw [World.stage, setConnection_other w conn same] at stage
      rw [setConnection_other w conn same]
      exact ⟨stage, rfl⟩

lemma knows_setState (st : SessionState) (acct : st.accountId = (w.states sid).accountId)
    (link : st.botAgentLinkId = (w.states sid).botAgentLinkId) : Knows w (w.setState sid st) where
  store := Within.refl _
  nextSession := le_rfl
  owners := by
    intro alt _
    by_cases same : alt = sid
    · rw [same, setState_self]
      exact ⟨acct, link⟩
    · rw [setState_other w st same]
      exact ⟨rfl, rfl⟩
  resuming := fun _ _ _ stage => ⟨stage, rfl⟩

lemma knows_store (store : SessionStore) (within : Within w.store store) : Knows w { w with store } where
  store := within
  nextSession := le_rfl
  owners := fun _ _ => ⟨rfl, rfl⟩
  resuming := fun _ _ _ stage => ⟨stage, rfl⟩

lemma knows_quiet (same : (after.store, after.nextSession, after.states, after.connections) =
    (w.store, w.nextSession, w.states, w.connections)) : Knows w after := by
  simp only [Prod.mk.injEq] at same
  obtain ⟨store, nextSession, sts, conns⟩ := same
  constructor
  · rw [store]
    exact Within.refl _
  · exact nextSession.ge
  · intro alt _
    rw [sts]
    exact ⟨rfl, rfl⟩
  · intro alt held seq stage
    rw [World.stage, conns] at stage
    rw [conns]
    exact ⟨stage, rfl⟩

lemma within_close : Within w.store (w.close id).store := by
  simp only [World.close]
  split
  · exact Within.refl _
  · split
    · exact within_disconnect _ _ _
    · exact within_discard _ _

lemma knows_close : Knows w (w.close id) := by
  constructor
  · exact within_close w id
  · exact le_rfl
  · exact fun _ _ => ⟨rfl, rfl⟩
  · intro alt held seq stage
    by_cases same : alt = id
    · rw [World.stage, same, close_self] at stage
      cases stage
    · rw [World.stage, close_other w same] at stage
      rw [close_other w same]
      exact ⟨stage, rfl⟩

lemma knows_setProjection (projection : Projection) (named : ∀ held seq, w.stage id ≠ .resuming held seq) :
    Knows w (w.setProjection id sid projection) :=
  (knows_setConnection w id { w.connections id with projection } named).trans (knows_setState _ sid _ rfl rfl)

variable (write : Write) (noted : Bool) (bid : Option Uuid)

lemma knows_register (named : ∀ held seq, w.stage id ≠ .resuming held seq) :
    Knows w (w.register id sid write noted bid) := by
  let frame : Frame := { t := write.t, s := w.sequence id + 1, d := write.d }
  obtain ⟨acct, link, -⟩ := send_owner (w.states sid) frame write.checkpoint noted
  have stated := knows_setState w sid _ acct link
  refine (stated.trans (knows_setConnection _ id
    { w.connections id with gatewaySequence := w.sequence id + 1 } named)).trans ?_
  exact knows_quiet _ rfl

lemma knows_dispatch (next : Stage) (arrives : Bool) (named : ∀ held seq, w.stage id ≠ .resuming held seq)
    (onward : ∀ held seq, next ≠ .resuming held seq) : Knows w (w.dispatch id sid write noted bid next arrives) := by
  have reg := knows_register w id sid write noted bid named
  let sent := w.register id sid write noted bid
  have stage : ∀ held seq, sent.stage id ≠ .resuming held seq := by
    intro held seq
    have same : sent.stage id = w.stage id := by
      show (sent.connections id).stage = _
      simp [sent, World.register, World.setConnection, World.stage]
    rw [same]
    exact named held seq
  cases arrives with
  | true =>
    have proj := reg.trans (knows_setProjection sent id sid write.after stage)
    let shown := sent.setProjection id sid write.after
    have staged := proj.trans (knows_setConnection shown id { shown.connections id with stage := next } onward)
    exact staged.trans (knows_store _ _ (within_touch sid _ _))
  | false => exact reg.trans (knows_close sent id)

end
end Clawdi.DiscordGateway
