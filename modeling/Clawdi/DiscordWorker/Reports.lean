import Clawdi.DiscordWorker.Provider

namespace Clawdi.DiscordWorker
open SessionEvents (JsonValue)
open Transition List
variable {w : World} {conn : Connection}
section
variable (inv : Sound w)
include inv

lemma Sound.dial (url : String) (opens : Bool) : Sound (w.dial url opens) := by
  unfold World.dial
  split
  · exact inv
  · let state : GatewayState :=
      { w.state with heartbeatAcknowledged := true, sessionEstablished := false }
    have alike : Alike w.state state := ⟨rfl, rfl, rfl⟩
    have dialled : Sound { w with state, history := [] ++ w.history } := inv.quiet alike inv.honest
    split
    · apply dialled.reconnect
      constructor
      · rintro resume ⟨⟩
        refine ⟨rfl, rfl, rfl, rfl, ?_⟩
        intro resumes
        show w.state.resumeGatewayUrl = some _
        simp only [GatewayState.canResume, Bool.and_eq_true] at resumes
        cases known : w.state.resumeGatewayUrl with
        | none =>
          rw [known] at resumes
          cases resumes.2
        | some address =>
          have may : w.state.canResume = true := by
            simp only [GatewayState.canResume, Bool.and_eq_true, known]
            rw [known] at resumes
            exact resumes
          rw [if_pos may]
          rfl
      · intro past
        exact absurd rfl (past _)
      · rintro idx ⟨⟩
    · exact dialled

lemma Sound.justified (connected : w.connection = some conn)
    (past : ∀ resume, conn.stage ≠ .hello resume) : Justified w.sessions w.history
      (.reported (w.sessionOf conn) w.state.sequence) := by
  intro v known
  have attached := inv.attached conn connected
  cases served : conn.session with
  | some idx =>
    obtain ⟨sess, listed, tracks, -⟩ := attached.served idx served
    obtain ⟨first, covered, noted⟩ := tracks.sequence v known
    refine ⟨idx, sess, ?_, listed, first, covered, noted⟩
    rw [World.sessionOf, served]
  | none =>
    obtain ⟨-, waits⟩ := attached.asked past served
    rcases waits with ⟨-, unknown, -⟩ | ⟨sid, seq, resumes, named, num⟩
    · rw [known] at unknown
      cases unknown
    · rcases inv.tracks with unknown | ⟨idx, sess, listed, tracks⟩
      · rw [known] at unknown
        cases unknown
      · obtain ⟨first, covered, noted⟩ := tracks.sequence v known
        refine ⟨idx, sess, ?_, listed, first, covered, noted⟩
        rw [World.sessionOf, served, resumes]
        show w.find sid = some idx
        rw [tracks.sessionId sid named]
        exact inv.find listed

lemma Sound.sendHeartbeat (connected : w.connection = some conn)
    (past : ∀ resume, conn.stage ≠ .hello resume) : Sound (w.sendHeartbeat conn) := by
  have honest : Honest w.sessions
      ([.reported (w.sessionOf conn) w.state.sequence] ++ w.history) :=
    ⟨inv.justified connected past, inv.honest⟩
  have alike : Alike w.state { w.state with heartbeatAcknowledged := false } := ⟨rfl, rfl, rfl⟩
  exact inv.quiet alike honest

lemma Sound.heartbeat (sends : Bool) : Sound (w.heartbeat sends) := by
  unfold World.heartbeat
  split
  · rename_i conn connected
    have attached := inv.attached conn connected
    split
    · rename_i beats
      have past : ∀ resume, conn.stage ≠ .hello resume := by
        intro resume hello
        rw [(attached.hello resume hello).2.2.2.1] at beats
        cases beats
      split
      · have beaten := inv.sendHeartbeat connected past
        apply beaten.reconnect
        have connected_still : (w.sendHeartbeat conn).connection = some conn := connected
        have still := beaten.attached conn connected_still
        refine ⟨fun resume hello => absurd hello (past resume), still.asked, still.served⟩
      · apply inv.reconnect
        exact ⟨fun resume hello => absurd hello (past resume), attached.asked, attached.served⟩
    · exact inv
  · exact inv

lemma Sound.ask {resume frame q} (connected : w.connection = some conn) (hello : conn.stage = .hello resume)
    (next : conn.queue = frame :: q) (sending : Sending) :
    Sound (w.ask { conn with queue := q } resume sending) := by
  have attached := inv.attached conn connected
  obtain ⟨-, unserved, quiet, -, dialled⟩ := attached.hello resume hello
  have rest : q.filter (fun frame => opOf frame 0) = [] := by
    have none_pending := quiet
    rw [Connection.dispatches, hello, next] at none_pending
    rw [filter_eq_nil_iff]
    intro alt mem dispatches
    have listed := filter_eq_nil_iff.mp none_pending alt (mem_cons_of_mem _ mem)
    exact listed dispatches
  unfold World.ask
  split
  · rename_i sid seq named num
    have tracked : ∃ idx sess, w.sessions[idx]? = some sess ∧
        Tracks w.state w.history idx sess := by
      rcases inv.tracks with unknown | hit
      · rw [num] at unknown
        cases unknown
      · exact hit
    obtain ⟨idx, sess, listed, tracks⟩ := tracked
    obtain ⟨first, covered, noted⟩ := tracks.sequence seq num
    have justified : Justified w.sessions w.history
        (.resumed sid conn.gatewayUrl seq) :=
      ⟨idx, sess, listed, (tracks.sessionId sid named).symm,
        (tracks.resumeGatewayUrl _ (dialled rfl)).symm, first, covered, noted⟩
    have honest : Honest w.sessions
        ([.resumed sid conn.gatewayUrl seq] ++ w.history) :=
      ⟨justified, inv.honest⟩
    have alike : Alike w.state w.state := ⟨rfl, rfl, rfl⟩
    have asked := inv.quiet alike honest
    cases sending with
    | closed code => exact asked.leave code
    | through =>
      apply asked.reconnect
      constructor
      · intro resume same
        cases same
      · intro _ _
        refine ⟨rest, .inr ⟨sid, seq, rfl, named, num⟩⟩
      · intro idx served
        rw [unserved] at served
        cases served
  · have cleared : Sound { w with state := w.state.clearSession, connection := none } :=
      inv.detach (.inr rfl)
    cases sending with
    | closed code => exact cleared.leave code
    | through =>
      have attached_next : Attached { w with state := w.state.clearSession, connection := none }
          { conn with queue := q, stage := .listening, beating := true, request := .identify } := by
        constructor
        · intro resume same
          cases same
        · intro _ _
          exact ⟨rest, .inl ⟨rfl, rfl, rfl, rfl⟩⟩
        · intro idx served
          rw [unserved] at served
          cases served
      exact cleared.reconnect attached_next

end

section
variable {sess : UpstreamSession} {history : List Event} {idx : Nat} {state : GatewayState}
  {frame : GatewayFrame}

lemma given_eq {v text} (is_given : given v = some text) : v = some (.text text) := by
  unfold given at is_given
  split at is_given
  · split at is_given
    · cases is_given
    · cases is_given
      rfl
  · cases is_given

lemma Tracks.update (tracks : Tracks state history idx sess) (numbered : Numbered sess)
    {num : Nat} (listed : sess.dispatches[num]? = some frame) :
    Tracks (updateGatewaySessionState frame state) history idx sess := by
  cases num with
  | zero =>
    obtain ⟨data, first⟩ := numbered.ready
    rw [first] at listed
    cases listed
    constructor
    · intro sid known
      change (given (some (.text sess.sessionId)) <|> state.sessionId) = some sid at known
      cases told : given (some (.text sess.sessionId)) with
      | none =>
        rw [told] at known
        exact tracks.sessionId sid known
      | some text =>
        rw [told] at known
        cases known
        cases given_eq told
        rfl
    · intro url known
      change (given (some (.text sess.resumeGatewayUrl)) <|> state.resumeGatewayUrl) = some url
        at known
      cases told : given (some (.text sess.resumeGatewayUrl)) with
      | none =>
        rw [told] at known
        exact tracks.resumeGatewayUrl url known
      | some text =>
        rw [told] at known
        cases known
        cases given_eq told
        rfl
    · exact tracks.sequence
  | succ num =>
    obtain ⟨t, d, later, rfl⟩ := numbered.later num frame listed
    have same : updateGatewaySessionState (dispatchFrame (num + 2) t d) state = state := by
      unfold updateGatewaySessionState
      split
      · rename_i ready _
        cases ready
        exact absurd rfl later
      · rfl
    rw [same]
    exact tracks

lemma Tracks.advance (tracks : Tracks state history idx sess) {t d} (more : state.position < sess.dispatches.length)
    (numbered : frame = dispatchFrame (state.position + 1) t d) :
    Tracks (advance frame state) (.recorded idx (state.position + 1) :: history) idx sess ∧
      (DiscordWorker.advance frame state).position = state.position + 1 := by
  rw [numbered]
  refine ⟨⟨tracks.sessionId, tracks.resumeGatewayUrl, ?_⟩, rfl⟩
  intro seq known
  have is_next : seq = (state.position + 1 : Nat) := by exact (Option.some.inj known).symm
  refine ⟨by omega, by omega, ?_⟩
  intro num first covered
  by_cases here : num = state.position + 1
  · rw [here]
    exact mem_cons_self
  · apply mem_cons_of_mem
    cases known : state.sequence with
    | none =>
      have start : state.position = 0 := by rw [GatewayState.position, known]; rfl
      omega
    | some v =>
      have pos : state.position = v.toNat := by rw [GatewayState.position, known]; rfl
      obtain ⟨positive, -, noted⟩ := tracks.sequence v known
      apply noted num first
      omega

end

section
variable {frame : GatewayFrame} {q : List GatewayFrame}

lemma drop_head {sess : UpstreamSession} {pos : Nat} {rest} (pend : frame :: rest = sess.dispatches.drop pos) :
    sess.dispatches[pos]? = some frame ∧ rest = sess.dispatches.drop (pos + 1) := by
  have head : (sess.dispatches.drop pos)[0]? = some frame := by
    rw [← pend]
    rfl
  refine ⟨?_, ?_⟩
  · rw [List.getElem?_drop] at head
    exact head
  · have tail := congrArg List.tail pend
    rw [tail_drop] at tail
    exact tail

section
variable (inv : Sound w)
include inv

lemma Sound.record (connected : w.connection = some conn)
    (listens : conn.stage = .listening) (next : conn.queue = frame :: q)
    (dispatches : opOf frame 0 = true) {state} (alike : Alike (updateGatewaySessionState frame w.state) state) :
    Sound { w with
      state, connection := some { conn with queue := q, stage := .recording frame } } := by
  have attached := inv.attached conn connected
  have past : ∀ resume, conn.stage ≠ .hello resume := by
    intro resume hello
    rw [listens] at hello
    cases hello
  have pend : conn.dispatches = frame :: q.filter fun frame => opOf frame 0 := by
    simp only [Connection.dispatches, listens, next, nil_append, filter_cons, dispatches, if_true]
  cases served : conn.session with
  | none =>
    have quiet := (attached.asked past served).1
    rw [pend] at quiet
    cases quiet
  | some idx =>
    obtain ⟨sess, listed, tracks, whole⟩ := attached.served idx served
    rw [pend] at whole
    obtain ⟨head, -⟩ := drop_head whole
    have updated : Tracks state w.history idx sess := alike.tracks (tracks.update (inv.numbered idx sess listed) head)
    have same : (updateGatewaySessionState frame w.state).position = w.state.position := by
      unfold updateGatewaySessionState
      split <;> rfl
    constructor
    · exact inv.numbered
    · exact inv.distinct
    · exact inv.honest
    · right
      exact ⟨idx, sess, listed, updated⟩
    · rintro alt ⟨⟩
      constructor
      · intro resume hello
        cases hello
      · intro _ unserved
        cases unserved
      · rintro alt ⟨⟩
        refine ⟨sess, listed, updated, ?_⟩
        rw [alike.position, same]
        exact whole

lemma Sound.pop (connected : w.connection = some conn)
    (listens : conn.stage = .listening) (next : conn.queue = frame :: q)
    (alt : ¬opOf frame 0 = true) : Sound (w.setConnection { conn with queue := q }) := by
  have same : ({ conn with queue := q } : Connection).dispatches = conn.dispatches := by
    simp only [Connection.dispatches, next, filter_cons, alt, Bool.false_eq_true, if_false]
  have attached := inv.attached conn connected
  apply inv.reconnect
  constructor
  · intro resume hello
    rw [listens] at hello
    cases hello
  · intro past unserved
    rw [same]
    exact attached.asked past unserved
  · intro idx served
    rw [same]
    exact attached.served idx served

lemma Sound.handle (connected : w.connection = some conn)
    (listens : conn.stage = .listening) (next : conn.queue = frame :: q)
    (sending : Sending) : Sound (w.handle { conn with queue := q } frame sending) := by
  unfold World.handle
  split
  · rename_i dispatches
    exact inv.record connected listens next dispatches ⟨rfl, rfl, rfl⟩
  · rename_i alt
    have popped := inv.pop connected listens next alt
    split
    · have past : ∀ resume, ({ conn with queue := q } : Connection).stage ≠ .hello resume := by
        intro resume hello
        rw [listens] at hello
        cases hello
      have beaten := popped.sendHeartbeat rfl past
      cases sending with
      | through => exact beaten
      | closed code => exact beaten.leave code
    · split
      · exact inv.leave none
      · split
        · split
          · exact inv.leave none
          · have cleared : Sound
                { w with state := w.state.clearSession, connection := none } :=
              inv.detach (.inr rfl)
            exact cleared.leave none
        · split
          · have alike : Alike w.state { w.state with heartbeatAcknowledged := true } :=
              ⟨rfl, rfl, rfl⟩
            have acked : Sound { w with
                state := { w.state with heartbeatAcknowledged := true }
                connection := some { conn with queue := q }
                history := [] ++ w.history } := popped.quiet alike popped.honest
            exact acked
          · exact popped

lemma Sound.receive (sending : Sending) : Sound (w.receive sending) := by
  unfold World.receive
  split
  · rename_i conn connected
    split
    · rename_i resume frame q hello next
      split
      · exact inv.ask connected hello next sending
      · exact inv.leave none
    · rename_i frame q listens next
      exact inv.handle connected listens next sending
    · exact inv
  · exact inv

lemma Sound.finish (noted : Bool) : Sound (w.finish noted) := by
  unfold World.finish
  split
  · rename_i conn connected
    split
    · rename_i frame records
      have attached := inv.attached conn connected
      have past : ∀ resume, conn.stage ≠ .hello resume := by
        intro resume hello
        rw [records] at hello
        cases hello
      have pend : conn.dispatches =
          frame :: conn.queue.filter fun frame => opOf frame 0 := by
        rw [Connection.dispatches, records]
        rfl
      split
      · cases served : conn.session with
        | none =>
          have quiet := (attached.asked past served).1
          rw [pend] at quiet
          cases quiet
        | some idx =>
          obtain ⟨sess, listed, tracks, whole⟩ := attached.served idx served
          rw [pend] at whole
          obtain ⟨head, tail⟩ := drop_head whole
          have more : w.state.position < sess.dispatches.length := (List.getElem?_eq_some_iff.mp head).1
          obtain ⟨t, d, rfl⟩ := (inv.numbered idx sess listed).frame head
          obtain ⟨moved, pos⟩ := tracks.advance more rfl
          constructor
          · exact inv.numbered
          · exact inv.distinct
          · exact ⟨trivial, inv.honest⟩
          · right
            exact ⟨idx, sess, listed, moved⟩
          · rintro alt ⟨⟩
            constructor
            · intro resume hello
              cases hello
            · intro _ unserved
              cases unserved
            · rintro alt ⟨⟩
              refine ⟨sess, listed, moved, ?_⟩
              rw [pos, ← tail]
              rfl
      · exact inv.leave none
    · exact inv
  · exact inv

lemma Sound.drop (code : Option Int) : Sound (w.drop code) := by
  unfold World.drop
  split
  · split
    · exact inv
    · exact inv.leave code
  · exact inv

end
end

lemma Sound.step (inv : Sound w) (act : Action) : Sound (step w act) := by
  cases act with
  | greet sid url data => exact inv.greet sid url data
  | accept => exact inv.accept
  | dispatch idx t d => exact inv.dispatch idx t d
  | tell frame => exact inv.tell frame
  | dial url opens => exact inv.dial url opens
  | receive sending => exact inv.receive sending
  | finish noted => exact inv.finish noted
  | heartbeat sends => exact inv.heartbeat sends
  | drop code => exact inv.drop code
  | cancel => exact inv.detach (.inl ⟨rfl, rfl, rfl⟩)
  | restart => exact inv.detach (.inr rfl)

lemma Honest.justified {sessions history} (honest : Honest sessions history) {after pre ev}
    (split : history = after ++ ev :: pre) : Justified sessions pre ev := by
  induction after generalizing history with
  | nil =>
    rw [split] at honest
    exact honest.1
  | cons last after ih =>
    rw [split] at honest
    exact ih honest.2 rfl

/-- A reported sequence is of the connection's session, with every dispatch up to it recorded before; a
RESUME names the id, the address and a sequence of one session. -/
theorem upstream_recorded (acts : List Action) : let w := run step World.new acts
    (∀ (after pre : List Event) (idx : Option Nat) (seq : Int),
        w.history = after ++ .reported idx (some seq) :: pre →
        ∃ num sess, idx = some num ∧ w.sessions[num]? = some sess ∧ 1 ≤ seq ∧ seq ≤ sess.dispatches.length ∧
          Recorded pre num seq) ∧
      ∀ (after pre : List Event) (sid gatewayUrl : String) (seq : Int),
        w.history = after ++ .resumed sid gatewayUrl seq :: pre →
        ∃ (num : Nat) (sess : UpstreamSession), w.sessions[num]? = some sess ∧
          sess.sessionId = sid ∧ sess.resumeGatewayUrl = gatewayUrl ∧
          1 ≤ seq ∧ seq ≤ sess.dispatches.length ∧
          Recorded pre num seq := by
  have keeps : ∀ w act, Sound w → Sound (step w act) := fun _ act inv => inv.step act
  have inv : Sound (run step World.new acts) := run_invariant keeps Sound.new acts
  refine ⟨?_, ?_⟩
  · intro after pre idx seq split
    exact inv.honest.justified split seq rfl
  · intro after pre sid gatewayUrl seq split
    exact inv.honest.justified split

end Clawdi.DiscordWorker
