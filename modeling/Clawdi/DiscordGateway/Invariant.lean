import Clawdi.DiscordGateway.Steps

namespace Clawdi.DiscordGateway
open List Function

def Stage.outside : Stage → Bool
  | .closed => true
  | .hello => true
  | .identifying => true
  | .resuming _ _ => true
  | _ => false

def Stage.running : Stage → Bool
  | .acknowledging _ => false
  | .replaying _ _ => false
  | stage => !stage.outside

def Stage.silent : Stage → Bool
  | .acknowledging _ => true
  | .closed => false
  | stage => stage.outside

def Stage.demand : Stage → Nat
  | .listening page => page.length
  | .removing _ _ page => page.length + 1
  | .reading _ page => page.length + 1
  | .deciding _ _ page => page.length + 1
  | .sending _ _ writes page => page.length + writes.countP fun write => write.checkpoint.isSome
  | _ => 0

def Stage.plain : Stage → Prop
  | .starting writes => ∀ write ∈ writes, write.checkpoint = none
  | .removing _ writes _ => ∀ write ∈ writes, write.checkpoint = none
  | _ => True

def Written.ofSession (sid : Nat) : Written → Option (Nat × Bool)
  | .dispatch _ alt frame noted => if alt = sid then some (frame.s, noted) else none
  | .replay _ _ _ => none
  | .invalidSession _ => none

def Written.dispatchOn (id : Nat) : Written → Option Nat
  | .dispatch alt _ frame _ => if alt = id then some frame.s else none
  | .replay _ _ _ => none
  | .invalidSession _ => none

def Written.replayOn (id : Nat) : Written → Option Frame
  | .dispatch _ _ _ _ => none
  | .replay alt _ frame => if alt = id then some frame else none
  | .invalidSession _ => none

namespace World
variable (w : World)

def recordedOf (sid : Nat) : List Recorded := w.recorded.filter fun record => record.sessionId = sid
def dispatchesOf (sid : Nat) : List (Nat × Bool) := w.written.filterMap (Written.ofSession sid)
def dispatchesOn (id : Nat) : List Nat := w.written.filterMap (Written.dispatchOn id)
def replaysOn (id : Nat) : List Frame := w.written.filterMap (Written.replayOn id)
def stage (id : Nat) : Stage := (w.connections id).stage
def sequence (id : Nat) : Nat := (w.connections id).gatewaySequence

end World

structure Staged (w : World) (id sid : Nat) : Prop where
  accepted : ∀ seq, w.stage id = .acknowledging seq → (w.states sid).accepts (some seq) = true
  ahead : (∀ seq, w.stage id ≠ .acknowledging seq) → ∀ record ∈ w.recordedOf sid, record.frame.s ≤ w.sequence id
  front : ∀ seq rest, w.stage id = .replaying seq rest →
    sid ∉ w.brokenOff → ∀ sent ∈ w.dispatchesOf sid, sent.1 ≤ w.sequence id
  level : (w.stage id).running = true → w.sequence id = (w.states sid).last
  room : (w.states sid).messageCheckpoints.length + (w.stage id).demand ≤ resumeBufferSize
  plain : (w.stage id).plain

structure LogsOn (w : World) (id : Nat) : Prop where
  silent : (w.stage id).silent = true → w.dispatchesOn id = [] ∧ w.replaysOn id = [] ∧
    ∀ resume ∈ w.resumes, resume.connection ≠ id
  replaying : ∀ seq rest, w.stage id = .replaying seq rest → w.dispatchesOn id = [] ∧
      ∀ resume ∈ w.resumes, resume.connection = id → w.replaysOn id ++ rest = resume.due
  running : (w.stage id).running = true → (∀ sent ∈ w.dispatchesOn id, sent ≤ w.sequence id) ∧
      ∀ resume ∈ w.resumes, resume.connection = id → w.replaysOn id = resume.due
  ascending : (w.dispatchesOn id).Pairwise (· < ·)
  replayed : ∀ resume ∈ w.resumes, resume.connection = id →
    w.replaysOn id <+: resume.due ∧ (w.dispatchesOn id ≠ [] → w.replaysOn id = resume.due)

structure SessionGood (w : World) (sid : Nat) : Prop where
  state : StateGood (w.states sid) (w.recordedOf sid)
  capped : (w.states sid).messageCheckpoints.length ≤ resumeBufferSize
  bound : sid ∉ w.brokenOff → (∀ id seq rest, (w.connections id).sessionId = some sid →
      w.stage id ≠ .replaying seq rest) →
    ∀ sent ∈ w.dispatchesOf sid, sent.1 ≤ (w.states sid).latestSequence
  matched : ∀ sent ∈ w.dispatchesOf sid, sent.2 = true → ∃ record ∈ w.recordedOf sid, record.frame.s = sent.1
  ordered : (w.dispatchesOf sid).Pairwise fun first snd =>
    first.2 = true → first.1 < snd.1
  strict : sid ∉ w.brokenOff → (w.dispatchesOf sid).Pairwise fun first snd => first.1 < snd.1

structure Sound (w : World) : Prop where
  sessions : ∀ sid, SessionGood w sid
  logs : ∀ id, LogsOn w id
  staged : ∀ id sid, (w.connections id).sessionId = some sid → Staged w id sid
  outside : ∀ id, (w.stage id).outside = (w.connections id).sessionId.isNone
  held : ∀ id sid, (w.connections id).sessionId = some sid →
    w.leases (w.connections id).agent = some id ∧ sid < w.nextSession ∧
      (w.states sid).accountId = (w.connections id).agent.accountId ∧
      (w.states sid).botAgentLinkId = (w.connections id).agent.botAgentLinkId
  fresh : ∀ sid, w.nextSession ≤ sid → w.recordedOf sid = [] ∧ w.dispatchesOf sid = [] ∧ sid ∉ w.brokenOff
  closed : ∀ id, w.nextConnection ≤ id → w.connections id = .closed ∧
    w.dispatchesOn id = [] ∧ w.replaysOn id = [] ∧ ∀ resume ∈ w.resumes, resume.connection ≠ id

lemma Sound.new (scopes : Scopes) : Sound (World.new scopes) where
  sessions := fun _ =>
    { state :=
        { ascending := List.Pairwise.nil
          retained := ⟨[], rfl, rfl, fun kept => absurd rfl kept⟩
          traced := fun _ mem => nomatch mem }
      capped := Nat.zero_le _
      bound := fun _ _ _ mem => nomatch mem
      matched := fun _ mem => nomatch mem
      ordered := List.Pairwise.nil
      strict := fun _ => List.Pairwise.nil }
  logs := fun _ =>
    { silent := fun _ => ⟨rfl, rfl, fun _ mem => nomatch mem⟩
      replaying := fun _ _ stage => nomatch stage
      running := fun stage => nomatch stage
      ascending := List.Pairwise.nil
      replayed := fun _ mem => nomatch mem }
  staged := fun _ _ attached => nomatch attached
  outside := fun _ => rfl
  held := fun _ _ attached => nomatch attached
  fresh := fun _ _ => ⟨rfl, rfl, not_mem_nil⟩
  closed := fun _ _ => ⟨rfl, rfl, rfl, fun _ mem => nomatch mem⟩

section
variable {w : World} {after : World} {sid : Nat}

lemma Sound.alone (inv : Sound w) {first snd : Nat} (one : (w.connections first).sessionId = some sid)
    (alt : (w.connections snd).sessionId = some sid) : first = snd := by
  obtain ⟨lease, -, acct, link⟩ := inv.held first sid one
  obtain ⟨lease', -, account', link'⟩ := inv.held snd sid alt
  have same : (w.connections first).agent = (w.connections snd).agent := by
    cases agent : (w.connections first).agent
    cases agent' : (w.connections snd).agent
    simp_all
  rw [same, lease'] at lease
  exact (Option.some.inj lease).symm

structure Changed (w after : World) (id sid : Nat) : Prop where
  connections : ∀ alt, alt ≠ id → after.connections alt = w.connections alt
  states : ∀ alt, alt ≠ sid → after.states alt = w.states alt
  leases : after.leases = w.leases
  nextSession : after.nextSession = w.nextSession
  nextConnection : after.nextConnection = w.nextConnection
  brokenOff : after.brokenOff = w.brokenOff
  recorded : ∀ alt, alt ≠ sid → after.recordedOf alt = w.recordedOf alt
  dispatches : ∀ alt, alt ≠ sid → after.dispatchesOf alt = w.dispatchesOf alt
  sockets : ∀ alt, alt ≠ id → after.dispatchesOn alt = w.dispatchesOn alt ∧ after.replaysOn alt = w.replaysOn alt
  resumes : ∀ resume : Resume, resume.connection ≠ id → (resume ∈ after.resumes ↔ resume ∈ w.resumes)
  session : (after.connections id).sessionId = (w.connections id).sessionId ∧
    (after.connections id).agent = (w.connections id).agent
  owner : (after.states sid).accountId = (w.states sid).accountId ∧
    (after.states sid).botAgentLinkId = (w.states sid).botAgentLinkId

lemma SessionGood.transfer (good : SessionGood w sid) (st : after.states sid = w.states sid)
    (noted : after.recordedOf sid = w.recordedOf sid) (dispatches : after.dispatchesOf sid = w.dispatchesOf sid)
    (brokenOff : sid ∉ after.brokenOff → sid ∉ w.brokenOff)
    (replays : ∀ id seq rest, (w.connections id).sessionId = some sid → w.stage id = .replaying seq rest →
      sid ∉ after.brokenOff → (after.connections id).sessionId = some sid ∧ after.stage id = .replaying seq rest) :
    SessionGood after sid where
  state := by
    rw [st, noted]
    exact good.state
  capped := by
    rw [st]
    exact good.capped
  bound := by
    intro unbroken none_replays
    rw [st, dispatches]
    refine good.bound (brokenOff unbroken) ?_
    intro id seq rest attached stage
    obtain ⟨still, stays⟩ := replays id seq rest attached stage unbroken
    exact none_replays id seq rest still stays
  matched := by
    rw [noted, dispatches]
    exact good.matched
  ordered := by
    rw [dispatches]
    exact good.ordered
  strict := by
    intro unbroken
    rw [dispatches]
    exact good.strict (brokenOff unbroken)

lemma LogsOn.transfer {id : Nat} (logs : LogsOn w id) (conn : after.connections id = w.connections id)
    (sockets : after.dispatchesOn id = w.dispatchesOn id ∧ after.replaysOn id = w.replaysOn id)
    (resumes : ∀ resume : Resume, resume.connection = id → resume ∈ after.resumes → resume ∈ w.resumes) :
    LogsOn after id := by
  have stage : after.stage id = w.stage id := by rw [World.stage, conn, World.stage]
  have seq : after.sequence id = w.sequence id := by rw [World.sequence, conn, World.sequence]
  obtain ⟨dispatches, replays⟩ := sockets
  constructor
  · rw [stage, dispatches, replays]
    intro silent
    obtain ⟨none_sent, none_replayed, none_resumed⟩ := logs.silent silent
    refine ⟨none_sent, none_replayed, ?_⟩
    intro resume mem same
    exact none_resumed resume (resumes resume same mem) same
  · rw [stage, dispatches, replays]
    intro num rest again
    obtain ⟨none_sent, due⟩ := logs.replaying num rest again
    exact ⟨none_sent, fun resume mem same => due resume (resumes resume same mem) same⟩
  · rw [stage, dispatches, replays, seq]
    intro runs
    obtain ⟨bounded, due⟩ := logs.running runs
    exact ⟨bounded, fun resume mem same => due resume (resumes resume same mem) same⟩
  · rw [dispatches]
    exact logs.ascending
  · rw [dispatches, replays]
    intro resume mem same
    exact logs.replayed resume (resumes resume same mem) same

lemma Staged.transfer {id : Nat} (staged : Staged w id sid)
    (conn : after.connections id = w.connections id) (st : after.states sid = w.states sid)
    (noted : after.recordedOf sid = w.recordedOf sid) (dispatches : after.dispatchesOf sid = w.dispatchesOf sid)
    (brokenOff : sid ∉ after.brokenOff → sid ∉ w.brokenOff) : Staged after id sid := by
  have stage : after.stage id = w.stage id := by rw [World.stage, conn, World.stage]
  have seq : after.sequence id = w.sequence id := by rw [World.sequence, conn, World.sequence]
  constructor
  · rw [stage, st]
    exact staged.accepted
  · rw [stage, noted, seq]
    exact staged.ahead
  · rw [stage, dispatches, seq]
    intro num rest again unbroken
    exact staged.front num rest again (brokenOff unbroken)
  · rw [stage, st, seq]
    exact staged.level
  · rw [stage, st]
    exact staged.room
  · rw [stage]
    exact staged.plain

lemma Sound.changed (inv : Sound w) {after} {id sid : Nat} (attached : (w.connections id).sessionId = some sid)
    (changed : Changed w after id sid) (sess : SessionGood after sid)
    (logs : LogsOn after id) (staged : Staged after id sid)
    (inside : (after.stage id).outside = false) : Sound after := by
  have apart : ∀ alt, alt ≠ id → ∀ held, (w.connections alt).sessionId = some held →
      held ≠ sid := by
    intro alt ne held has same
    rw [same] at has
    exact ne (inv.alone has attached)
  have same_broken : ∀ held, held ∉ after.brokenOff → held ∉ w.brokenOff := by
    intro held
    rw [changed.brokenOff]
    exact fun unbroken => unbroken
  constructor
  · intro held
    by_cases same : held = sid
    · rw [same]
      exact sess
    · refine (inv.sessions held).transfer (changed.states held same) (changed.recorded held same)
        (changed.dispatches held same) (same_broken held) ?_
      intro alt num rest has again _
      have ne : alt ≠ id := by
        rintro rfl
        rw [attached] at has
        exact same (Option.some.inj has).symm
      rw [World.stage, changed.connections alt ne]
      exact ⟨has, again⟩
  · intro alt
    by_cases same : alt = id
    · rw [same]
      exact logs
    · refine (inv.logs alt).transfer (changed.connections alt same) (changed.sockets alt same) ?_
      intro resume at_other mem
      exact (changed.resumes resume (at_other ▸ same)).mp mem
  · intro alt held has
    by_cases same : alt = id
    · rw [same, changed.session.1, attached] at has
      rw [same, ← Option.some.inj has]
      exact staged
    · rw [changed.connections alt same] at has
      have ne := apart alt same held has
      exact (inv.staged alt held has).transfer (changed.connections alt same)
        (changed.states held ne) (changed.recorded held ne) (changed.dispatches held ne)
        (same_broken held)
  · intro alt
    by_cases same : alt = id
    · rw [same, inside, changed.session.1, attached]
      rfl
    · rw [World.stage, changed.connections alt same]
      exact inv.outside alt
  · intro alt held has
    rw [changed.leases, changed.nextSession]
    by_cases same : alt = id
    · rw [same, changed.session.1] at has
      rw [same, changed.session.2]
      have is_session : held = sid := by
        rw [attached] at has
        exact (Option.some.inj has).symm
      rw [is_session, changed.owner.1, changed.owner.2]
      exact inv.held id sid attached
    · rw [changed.connections alt same] at has ⊢
      rw [changed.states held (apart alt same held has)]
      exact inv.held alt held has
  · intro held new
    rw [changed.nextSession] at new
    have ne : held ≠ sid := by
      rintro rfl
      have old := (inv.held id held attached).2.1
      omega
    rw [changed.recorded held ne, changed.dispatches held ne, changed.brokenOff]
    exact inv.fresh held new
  · intro alt new
    rw [changed.nextConnection] at new
    have ne : alt ≠ id := by
      rintro rfl
      rw [(inv.closed alt new).1] at attached
      cases attached
    obtain ⟨is_closed, none_sent, none_replayed, none_resumed⟩ := inv.closed alt new
    obtain ⟨dispatches, replays⟩ := changed.sockets alt ne
    rw [changed.connections alt ne, dispatches, replays]
    refine ⟨is_closed, none_sent, none_replayed, ?_⟩
    intro resume mem same
    exact none_resumed resume ((changed.resumes resume (same ▸ ne)).mp mem) same

end

variable {w : World}

def World.core (w : World) :=
  (w.connections, w.states, w.leases, w.nextSession, w.nextConnection,
    w.brokenOff, w.recorded, w.written, w.resumes)

lemma Sound.quiet (inv : Sound w) {after : World} (same : after.core = w.core) : Sound after := by
  simp only [World.core, Prod.mk.injEq] at same
  obtain ⟨conns, sts, leases, nextSession, nextConnection, brokenOff, noted, wrote, resumes⟩ := same
  have records : ∀ sid, after.recordedOf sid = w.recordedOf sid := by
    intro sid
    rw [World.recordedOf, noted, World.recordedOf]
  have dispatches : ∀ sid, after.dispatchesOf sid = w.dispatchesOf sid := by
    intro sid
    rw [World.dispatchesOf, wrote, World.dispatchesOf]
  have sockets : ∀ id, after.dispatchesOn id = w.dispatchesOn id ∧
      after.replaysOn id = w.replaysOn id := by
    intro id
    rw [World.dispatchesOn, World.replaysOn, wrote]
    exact ⟨rfl, rfl⟩
  have unbroken : ∀ sid, sid ∉ after.brokenOff → sid ∉ w.brokenOff := by
    intro sid
    rw [brokenOff]
    exact fun gone => gone
  constructor
  · intro sid
    refine (inv.sessions sid).transfer (congrFun sts sid) (records sid) (dispatches sid) (unbroken sid) ?_
    intro id num rest has again _
    rw [World.stage, conns]
    exact ⟨has, again⟩
  · intro id
    refine (inv.logs id).transfer (congrFun conns id) (sockets id) ?_
    intro resume _ mem
    exact resumes ▸ mem
  · intro id sid has
    rw [conns] at has
    exact (inv.staged id sid has).transfer (congrFun conns id)
      (congrFun sts sid) (records sid) (dispatches sid) (unbroken sid)
  · intro id
    rw [World.stage, conns]
    exact inv.outside id
  · intro id sid has
    rw [conns] at has
    rw [conns, sts, leases, nextSession]
    exact inv.held id sid has
  · intro sid new
    rw [nextSession] at new
    rw [records, dispatches, brokenOff]
    exact inv.fresh sid new
  · intro id new
    rw [nextConnection] at new
    rw [conns, (sockets id).1, (sockets id).2, resumes]
    exact inv.closed id new

section
variable {id : Nat} {conn : Connection}

lemma Sound.putOutside (inv : Sound w) {next : Nat} (grows : w.nextConnection ≤ next) (opened : id < next)
    (unused : w.dispatchesOn id = [] ∧ w.replaysOn id = [] ∧ ∀ resume ∈ w.resumes, resume.connection ≠ id)
    (none_held : (w.connections id).sessionId = none)
    (still : conn.sessionId = none) (outside : conn.stage.outside = true) :
    Sound { w.setConnection id conn with nextConnection := next } := by
  have others : ∀ alt, alt ≠ id →
      (w.setConnection id conn).connections alt = w.connections alt :=
    fun alt ne => update_of_ne ne _ _
  have here : (w.setConnection id conn).connections id = conn := update_self _ _ _
  obtain ⟨none_sent, none_replayed, none_resumed⟩ := unused
  have apart : ∀ alt sid, (w.connections alt).sessionId = some sid →
      alt ≠ id := by
    rintro alt sid has rfl
    rw [none_held] at has
    cases has
  have detached : ∀ alt sid, ((w.setConnection id conn).connections alt).sessionId = some sid →
      alt ≠ id := by
    rintro alt sid has rfl
    rw [here, still] at has
    cases has
  constructor
  · intro sid
    refine (inv.sessions sid).transfer rfl rfl rfl (fun unbroken => unbroken) ?_
    intro alt num rest has again _
    rw [World.stage, others alt (apart alt sid has)]
    exact ⟨has, again⟩
  · intro alt
    by_cases same : alt = id
    · subst same
      constructor
      · intro _
        exact ⟨none_sent, none_replayed, none_resumed⟩
      · intro num rest again
        rw [World.stage, here] at again
        rw [again] at outside
        cases outside
      · intro runs
        rw [World.stage, here] at runs
        cases stage : conn.stage <;> simp_all [Stage.running, Stage.outside]
      · show List.Pairwise _ (w.dispatchesOn alt)
        rw [none_sent]
        exact List.Pairwise.nil
      · intro resume mem at_other
        exact absurd at_other (none_resumed resume mem)
    · exact (inv.logs alt).transfer (others alt same) ⟨rfl, rfl⟩ fun _ _ mem => mem
  · intro alt sid has
    have ne := detached alt sid has
    rw [others alt ne] at has
    exact (inv.staged alt sid has).transfer (others alt ne) rfl rfl rfl fun unbroken => unbroken
  · intro alt
    by_cases same : alt = id
    · rw [World.stage, same, here, outside, still]
      rfl
    · rw [World.stage, others alt same]
      exact inv.outside alt
  · intro alt sid has
    have ne := detached alt sid has
    rw [others alt ne] at has ⊢
    exact inv.held alt sid has
  · exact inv.fresh
  · intro alt new
    have ne : alt ≠ id := by
      rintro rfl
      exact absurd opened (not_lt.mpr new)
    rw [others alt ne]
    exact inv.closed alt (grows.trans new)

lemma Sound.setOutside (inv : Sound w) (opened : id < w.nextConnection)
    (silent : (w.stage id).silent = true) (none_held : (w.connections id).sessionId = none)
    (still : conn.sessionId = none) (outside : conn.stage.outside = true) : Sound (w.setConnection id conn) :=
  inv.putOutside le_rfl opened ((inv.logs id).silent silent) none_held still outside

lemma Sound.connect (inv : Sound w) : Sound (step w .connect) := by
  obtain ⟨is_closed, unused⟩ := inv.closed w.nextConnection le_rfl
  refine inv.putOutside (Nat.le_succ _) (Nat.lt_succ_self _) unused ?_ rfl rfl
  rw [is_closed]
  rfl

end

section
variable {id : Nat}

lemma Sound.close (inv : Sound w) (opened : id < w.nextConnection)
    (point : ∀ seq sid, w.stage id = .replaying seq [] →
      (w.connections id).sessionId = some sid → sid ∈ w.brokenOff) : Sound (w.close id) := by
  have others : ∀ alt, alt ≠ id →
      (w.close id).connections alt = w.connections alt :=
    fun alt ne => update_of_ne ne _ _
  have here : (w.close id).connections id = .closed := update_self _ _ _
  have grows : ∀ sid, sid ∉ (w.close id).brokenOff →
      sid ∉ w.brokenOff := by
    intro sid unbroken broken
    apply unbroken
    simp only [World.close]
    split
    · exact mem_append_left _ broken
    · exact broken
  have detached : ∀ alt sid,
      ((w.close id).connections alt).sessionId = some sid → alt ≠ id := by
    rintro alt sid has rfl
    rw [here] at has
    cases has
  constructor
  · intro sid
    refine (inv.sessions sid).transfer rfl rfl rfl (grows sid) ?_
    intro alt num rest has again unbroken
    have ne : alt ≠ id := by
      rintro rfl
      cases rest with
      | nil => exact grows sid unbroken (point num sid again has)
      | cons frame rest =>
        apply unbroken
        change (w.connections alt).stage = _ at again
        simp only [World.close, again, has, Stage.midReplay, if_true, Option.toList]
        exact mem_append_right _ (mem_singleton_self _)
    rw [World.stage, others alt ne]
    exact ⟨has, again⟩
  · intro alt
    by_cases same : alt = id
    · subst same
      constructor
      · intro silent
        rw [World.stage, here] at silent
        cases silent
      · intro num rest again
        rw [World.stage, here] at again
        cases again
      · intro runs
        rw [World.stage, here] at runs
        cases runs
      · exact (inv.logs alt).ascending
      · exact (inv.logs alt).replayed
    · exact (inv.logs alt).transfer (others alt same) ⟨rfl, rfl⟩ fun _ _ mem => mem
  · intro alt sid has
    have ne := detached alt sid has
    rw [others alt ne] at has
    exact (inv.staged alt sid has).transfer (others alt ne) rfl rfl rfl (grows sid)
  · intro alt
    by_cases same : alt = id
    · rw [World.stage, same, here]
      rfl
    · rw [World.stage, others alt same]
      exact inv.outside alt
  · intro alt sid has
    have ne := detached alt sid has
    rw [others alt ne] at has ⊢
    obtain ⟨lease, old, owner⟩ := inv.held alt sid has
    refine ⟨?_, old, owner⟩
    simp only [World.close]
    split
    · rename_i mine
      have differs : (w.connections alt).agent ≠ (w.connections id).agent := by
        intro same
        rw [same, mine] at lease
        exact ne (Option.some.inj lease).symm
      rw [update_of_ne differs]
      exact lease
    · exact lease
  · intro sid new
    obtain ⟨none_recorded, none_sent, unbroken⟩ := inv.fresh sid new
    refine ⟨none_recorded, none_sent, ?_⟩
    simp only [World.close]
    split
    · intro mem
      rcases mem_append.mp mem with pre | here
      · exact unbroken pre
      · have old := (inv.held id sid (Option.mem_toList.mp here)).2.1
        exact absurd old (not_lt.mpr new)
    · exact unbroken
  · intro alt new
    have ne : alt ≠ id := by
      rintro rfl
      exact absurd opened (not_lt.mpr new)
    rw [others alt ne]
    exact inv.closed alt new

end
end Clawdi.DiscordGateway
