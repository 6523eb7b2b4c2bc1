import Clawdi.DiscordWorker.Worker
import Clawdi.Lib.Transition

namespace Clawdi.DiscordWorker
open SessionEvents (JsonValue)
open Transition

/-- READY is the first dispatch of a session and tells its id and its address; every dispatch carries
its number. -/
structure Numbered (sess : UpstreamSession) : Prop where
  ready : ∃ data, sess.dispatches[0]? = some (dispatchFrame 1 "READY"
    (readyData sess.sessionId sess.resumeGatewayUrl data))
  later : ∀ (idx : Nat) (frame : GatewayFrame), sess.dispatches[idx + 1]? = some frame →
    ∃ t d, t ≠ "READY" ∧ frame = dispatchFrame (idx + 2) t d

def Recorded (history : List Event) (idx : Nat) (seq : Int) : Prop :=
  ∀ num : Nat, 1 ≤ num → (num : Int) ≤ seq → Event.recorded idx num ∈ history

/-- What the worker keeps belongs to one session, and what its sequence covers is recorded. -/
structure Tracks (st : GatewayState) (history : List Event) (idx : Nat)
    (sess : UpstreamSession) : Prop where
  sessionId : ∀ sid, st.sessionId = some sid → sid = sess.sessionId
  resumeGatewayUrl : ∀ url, st.resumeGatewayUrl = some url → url = sess.resumeGatewayUrl
  sequence : ∀ seq, st.sequence = some seq → 1 ≤ seq ∧ seq ≤ sess.dispatches.length ∧ Recorded history idx seq

def Connection.dispatches (conn : Connection) : List GatewayFrame :=
  (match conn.stage with
    | .recording frame => [frame]
    | _ => []) ++ conn.queue.filter fun frame => opOf frame 0

def GatewayState.position (st : GatewayState) : Nat := (st.sequence.getD 0).toNat

def Justified (sessions : List UpstreamSession) (pre : List Event) : Event → Prop
  | .recorded _ _ => True
  | .reported idx seq => ∀ v, seq = some v → ∃ num sess,
      idx = some num ∧ sessions[num]? = some sess ∧ 1 ≤ v ∧ v ≤ sess.dispatches.length ∧ Recorded pre num v
  | .resumed sid gatewayUrl seq => ∃ (num : Nat) (sess : UpstreamSession),
      sessions[num]? = some sess ∧ sess.sessionId = sid ∧ sess.resumeGatewayUrl = gatewayUrl ∧ 1 ≤ seq ∧
        seq ≤ sess.dispatches.length ∧ Recorded pre num seq

def Honest (sessions : List UpstreamSession) : List Event → Prop
  | [] => True
  | event :: pre => Justified sessions pre event ∧ Honest sessions pre

/-- What holds between a connection, the state of the worker and the sessions of the provider. -/
structure Attached (w : World) (conn : Connection) : Prop where
  hello : ∀ resume, conn.stage = .hello resume →
    conn.request = .nothing ∧ conn.session = none ∧ conn.dispatches = [] ∧ conn.beating = false ∧
      (resume = true → w.state.resumeGatewayUrl = some conn.gatewayUrl)
  asked : (∀ resume, conn.stage ≠ .hello resume) → conn.session = none → conn.dispatches = [] ∧
      ((conn.request = .identify ∧ w.state.sequence = none ∧
          w.state.sessionId = none ∧ w.state.resumeGatewayUrl = none) ∨
        ∃ sid seq, conn.request = .resume sid seq ∧ w.state.sessionId = some sid ∧ w.state.sequence = some seq)
  served : ∀ idx, conn.session = some idx → ∃ sess, w.sessions[idx]? = some sess ∧
      Tracks w.state w.history idx sess ∧
      conn.dispatches = sess.dispatches.drop w.state.position

structure Sound (w : World) : Prop where
  numbered : ∀ (idx : Nat) (sess : UpstreamSession), w.sessions[idx]? = some sess → Numbered sess
  distinct : ∀ (idx alt : Nat) (sess another : UpstreamSession),
    w.sessions[idx]? = some sess → w.sessions[alt]? = some another →
    sess.sessionId = another.sessionId → idx = alt
  honest : Honest w.sessions w.history
  tracks : w.state.sequence = none ∨ ∃ (idx : Nat) (sess : UpstreamSession),
    w.sessions[idx]? = some sess ∧ Tracks w.state w.history idx sess
  attached : ∀ conn, w.connection = some conn → Attached w conn

lemma Sound.new : Sound World.new where
  numbered := fun _ _ listed => nomatch listed
  distinct := fun _ _ _ _ listed => nomatch listed
  honest := trivial
  tracks := Or.inl rfl
  attached := fun _ connected => nomatch connected

section
variable {history later : List Event} {idx : Nat} {seq : Int}

lemma Recorded.grow (noted : Recorded history idx seq) (grows : history ⊆ later) : Recorded later idx seq :=
  fun num first covered => grows (noted num first covered)

def Grows (sessions after : List UpstreamSession) : Prop :=
  ∀ (idx : Nat) (sess : UpstreamSession), sessions[idx]? = some sess →
    ∃ next, after[idx]? = some next ∧ next.sessionId = sess.sessionId ∧
      next.resumeGatewayUrl = sess.resumeGatewayUrl ∧
      sess.dispatches.length ≤ next.dispatches.length

lemma Grows.refl (sessions : List UpstreamSession) : Grows sessions sessions :=
  fun _ sess listed => ⟨sess, listed, rfl, rfl, le_rfl⟩

lemma grows_append (sessions : List UpstreamSession) (added : UpstreamSession) :
    Grows sessions (sessions ++ [added]) := by
  intro idx sess listed
  have short : idx < sessions.length := (List.getElem?_eq_some_iff.mp listed).1
  refine ⟨sess, ?_, rfl, rfl, le_rfl⟩
  rw [List.getElem?_append_left short]
  exact listed

variable {sessions : List UpstreamSession} {after : List UpstreamSession} {sess : UpstreamSession}

lemma grows_set {idx : Nat} (listed : sessions[idx]? = some sess) (frame : GatewayFrame) :
    Grows sessions (sessions.set idx { sess with dispatches := sess.dispatches ++ [frame] }) := by
  intro alt another hit
  by_cases same : idx = alt
  · subst same
    rw [listed] at hit
    cases hit
    have short : idx < sessions.length := (List.getElem?_eq_some_iff.mp listed).1
    refine ⟨_, List.getElem?_set_self short, rfl, rfl, ?_⟩
    simp
  · refine ⟨another, ?_, rfl, rfl, le_rfl⟩
    rw [List.getElem?_set_ne same]
    exact hit

lemma Justified.grow {pre event} (justified : Justified sessions pre event) (grows : Grows sessions after) :
    Justified after pre event := by
  cases event with
  | recorded idx num => exact trivial
  | reported idx seq =>
    intro v same
    obtain ⟨num, sess, named, listed, first, covered, noted⟩ := justified v same
    obtain ⟨next, hit, -, -, longer⟩ := grows num sess listed
    refine ⟨num, next, named, hit, first, ?_, noted⟩
    omega
  | resumed sid url seq =>
    obtain ⟨num, sess, listed, id, address, first, covered, noted⟩ := justified
    obtain ⟨next, hit, same, url', longer⟩ := grows num sess listed
    refine ⟨num, next, hit, same.trans id, url'.trans address, first, ?_, noted⟩
    omega

lemma Honest.grow (grows : Grows sessions after) {history}
    (honest : Honest sessions history) : Honest after history := by
  induction history with
  | nil => exact trivial
  | cons event pre ih => exact ⟨honest.1.grow grows, ih honest.2⟩

lemma Tracks.grow {st} {next : UpstreamSession} (tracks : Tracks st history idx sess) (grows : history ⊆ later)
    (id : next.sessionId = sess.sessionId) (address : next.resumeGatewayUrl = sess.resumeGatewayUrl)
    (longer : sess.dispatches.length ≤ next.dispatches.length) : Tracks st later idx next where
  sessionId := by
    rw [id]
    exact tracks.sessionId
  resumeGatewayUrl := by
    rw [address]
    exact tracks.resumeGatewayUrl
  sequence := by
    intro seq known
    obtain ⟨first, covered, noted⟩ := tracks.sequence seq known
    refine ⟨first, ?_, noted.grow grows⟩
    omega

end

structure Alike (st alt : GatewayState) : Prop where
  sequence : alt.sequence = st.sequence
  sessionId : alt.sessionId = st.sessionId
  resumeGatewayUrl : alt.resumeGatewayUrl = st.resumeGatewayUrl

variable {st : GatewayState}

lemma Alike.tracks {alt} (alike : Alike st alt) {history}
    {idx : Nat} {sess} (tracks : Tracks st history idx sess) : Tracks alt history idx sess where
  sessionId := by
    rw [alike.sessionId]
    exact tracks.sessionId
  resumeGatewayUrl := by
    rw [alike.resumeGatewayUrl]
    exact tracks.resumeGatewayUrl
  sequence := by
    rw [alike.sequence]
    exact tracks.sequence

lemma Tracks.position_le {history} {idx : Nat} {sess}
    (tracks : Tracks st history idx sess) : st.position ≤ sess.dispatches.length := by
  unfold GatewayState.position
  cases known : st.sequence with
  | none => exact Nat.zero_le _
  | some seq =>
    obtain ⟨first, covered, -⟩ := tracks.sequence seq known
    simp only [Option.getD_some]
    omega

lemma Alike.position {alt} (alike : Alike st alt) : alt.position = st.position := by
  rw [GatewayState.position, alike.sequence, GatewayState.position]

section

lemma opOf_dispatch (num : Nat) (t : String) (d : JsonValue) : opOf (dispatchFrame num t d) 0 = true := rfl

lemma Numbered.frame {sess} (numbered : Numbered sess) {idx : Nat}
    {frame} (listed : sess.dispatches[idx]? = some frame) : ∃ t d, frame = dispatchFrame (idx + 1) t d := by
  cases idx with
  | zero =>
    obtain ⟨data, first⟩ := numbered.ready
    rw [first] at listed
    exact ⟨_, _, (Option.some.inj listed).symm⟩
  | succ idx =>
    obtain ⟨t, d, -, same⟩ := numbered.later idx frame listed
    exact ⟨t, d, same⟩

lemma Numbered.dispatches_op {sess} (numbered : Numbered sess)
    {frame} (mem : frame ∈ sess.dispatches) : opOf frame 0 = true := by
  obtain ⟨idx, listed⟩ := List.mem_iff_getElem?.mp mem
  obtain ⟨t, d, rfl⟩ := numbered.frame listed
  exact opOf_dispatch _ _ _

end

variable {w : World}

lemma Attached.follow {conn} (attached : Attached w conn)
    (after : World) (next : Connection) (alike : Alike w.state after.state)
    (grows : Grows w.sessions after.sessions) (history : w.history ⊆ after.history)
    (stage : next.stage = conn.stage) (req : next.request = conn.request)
    (sess : next.session = conn.session) (url : next.gatewayUrl = conn.gatewayUrl)
    (beating : conn.beating = false → next.beating = false)
    (none_added : conn.session = none → next.dispatches = conn.dispatches)
    (added : ∀ idx pre later, conn.session = some idx →
      w.sessions[idx]? = some pre → after.sessions[idx]? = some later →
      conn.dispatches = pre.dispatches.drop w.state.position →
      next.dispatches = later.dispatches.drop w.state.position) : Attached after next where
  hello := by
    intro resume hello
    rw [stage] at hello
    obtain ⟨asked, unserved, quiet, still, dialled⟩ := attached.hello resume hello
    rw [req, sess, none_added unserved, url, alike.resumeGatewayUrl]
    exact ⟨asked, unserved, quiet, beating still, dialled⟩
  asked := by
    rw [stage, sess, req, alike.sequence, alike.sessionId, alike.resumeGatewayUrl]
    intro past unserved
    rw [none_added unserved]
    exact attached.asked past unserved
  served := by
    intro idx served
    rw [sess] at served
    obtain ⟨pre, listed, tracks, pend⟩ := attached.served idx served
    obtain ⟨later, hit, id, address, longer⟩ := grows idx pre listed
    refine ⟨later, hit, alike.tracks (tracks.grow history id address longer), ?_⟩
    rw [alike.position]
    exact added idx pre later served listed hit pend

lemma Sound.quiet (inv : Sound w) (alike : Alike w.state st) {event}
    (honest : Honest w.sessions (event ++ w.history)) :
    Sound { w with state := st, history := event ++ w.history } where
  numbered := inv.numbered
  distinct := inv.distinct
  honest := honest
  tracks := by
    have grows : w.history ⊆ event ++ w.history := List.subset_append_right _ _
    rcases inv.tracks with unknown | ⟨idx, sess, listed, tracks⟩
    · left
      exact alike.sequence.trans unknown
    · right
      exact ⟨idx, sess, listed, alike.tracks (tracks.grow grows rfl rfl le_rfl)⟩
  attached := by
    intro conn connected
    have grows : w.history ⊆ event ++ w.history := List.subset_append_right _ _
    let after : World := { w with state := st, history := event ++ w.history }
    apply (inv.attached conn connected).follow after conn alike (Grows.refl _) grows rfl rfl rfl rfl
    · exact fun still => still
    · exact fun _ => rfl
    · intro idx pre later _ listed hit pend
      rw [listed] at hit
      cases hit
      exact pend

lemma Sound.reconnect (inv : Sound w) {conn} (attached : Attached w conn) : Sound (w.setConnection conn) :=
  { inv with
    attached := by
      rintro alt ⟨⟩
      exact { attached with } }

lemma Sound.detach (inv : Sound w) (kept : Alike w.state st ∨ st.sequence = none) :
    Sound { w with state := st, connection := none } where
  numbered := inv.numbered
  distinct := inv.distinct
  honest := inv.honest
  tracks := by
    rcases kept with alike | unknown
    · rcases inv.tracks with unknown | ⟨idx, sess, listed, tracks⟩
      · left
        exact alike.sequence.trans unknown
      · right
        exact ⟨idx, sess, listed, alike.tracks tracks⟩
    · left
      exact unknown
  attached := fun _ connected => nomatch connected

lemma Sound.leave (inv : Sound w) (code : Option Int) : Sound (w.leave code) := by
  apply inv.detach
  unfold closed
  split
  · right
    rfl
  · left
    exact ⟨rfl, rfl, rfl⟩

end Clawdi.DiscordWorker
