import Clawdi.Onboarding.World

namespace Clawdi.Onboarding
open Program Option Function

def Session.Agrees (sess : Session) : Prop :=
  ∀ acct ∈ sess.channelAccount, acct.sidecarAccountId = sess.sidecarAccountId

def Local.Locked (l : Local) (id : ℕ) : Prop := ∃ row, (id, row) ∈ l.locks ∧ row.state ≠ .connected

structure Editable (arc : Bool) (l : Local) (id : ℕ) (change : Change) : Prop where
  locked : arc = false → l.Locked id
  reported : ∀ copy ∈ l.copies id, change.state = some .canceled ∨ change.state = some .expired →
    copy.2.sidecarAccountId ∈ l.reported
  account : ∀ copy ∈ l.copies id, ∀ acct ∈ change.channelAccount, acct.sidecarAccountId = copy.2.sidecarAccountId

def gives (l : Local) : (op : Op) → Res op → Local → Prop
  | .find query, some (id, sess), l' => ∃ row, query row ∧ row.Agrees ∧
      sess = l.load id row ∧ l' = l.keep id row
  | .lock id query _, some sess, l' => ∃ row, query row ∧ sess = l.load id row ∧
      (row.state = .connected → sess.state = .connected) ∧ l' = l.lock id row
  | .insert sess, id, l' => l' = l.create id sess
  | .set id change, _, l' => l' = l.set id change
  | .commit, _, l' => l' = l.commit
  | .rollback, _, l' => l' = {}
  | .pairing sidecar _, .ok pairing, l' => l' = l.report sidecar pairing
  | .newAccount sidecar, acct, l' => acct.sidecarAccountId = sidecar ∧ l' = l
  | _, _, l' => l' = l

def rules (arc : Bool) : Rules Local Op Res where
  allowed l
    | .set id change => Editable arc l id change
    | .insert sess => sess.Agrees ∧ sess.state = .generating
    | _ => True
  gives := gives

def Safe {α : Type} (arc : Bool) (req : Request α) (post : α → Local → Prop) (l : Local) : Prop :=
  Ensures (rules arc) req post (fun _ _ => True) l

section
variable {α β : Type} {arc : Bool} {l : Local} {req : Request α} {stop : Stop}

lemma Safe.mono {first snd : α → Local → Prop} (safe : Safe arc req first l)
    (implies : ∀ a l', first a l' → snd a l') : Safe arc req snd l :=
  Ensures.mono safe implies fun _ _ holds => holds

variable {post : Unit → Local → Prop} {f : α → Request β}

lemma safe_bind {post : β → Local → Prop} :
    Safe arc (req >>= f) post l ↔ Safe arc req (fun a => Safe arc (f a) post) l := ensures_bind

lemma safe_perform {op} {post : Res op → Local → Prop} : Safe arc (perform op) post l ↔
      (rules arc).allowed l op ∧ ∀ res l', gives l op res l' → post res l' :=
  ensures_operation

lemma safe_discard : Safe arc (discard req) post l ↔ Safe arc req (fun _ => post ()) l :=
  safe_bind (f := fun _ => pure ())

lemma Safe.then {middle : α → Local → Prop} {post : β → Local → Prop}
    (safe : Safe arc req middle l) (rest : ∀ a l', middle a l' → Safe arc (f a) post l') :
    Safe arc (req >>= f) post l :=
  safe_bind.mpr (safe.mono rest)

lemma safe_exceptSidecar {body handler} {post : α → Local → Prop}
    (safe : Safe arc body post l) (handled : ∀ l', Safe arc handler post l') :
    Safe arc (exceptSidecar body handler) post l := by
  rw [exceptSidecar, Safe, ensures_tryCatch]
  apply Ensures.mono safe
  · intro a l' holds
    exact holds
  · intro stop l' _
    by_cases sidecar : stop.sidecar
    · rw [if_pos sidecar]
      exact handled l'
    · rw [if_neg sidecar]
      exact trivial

lemma safe_require (holds : post () l) : Safe arc (require stop) post l := by
  refine ⟨trivial, ?_⟩
  rintro asked _ rfl
  cases asked
  · exact trivial
  · exact holds

lemma Safe.require {f : Unit → Request β} {post : β → Local → Prop} (rest : Safe arc (f ()) post l) :
    Safe arc (Onboarding.require stop >>= f) post l :=
  safe_bind.mpr (safe_require rest)

lemma Safe.perform {op} {f : Res op → Request β} {post : β → Local → Prop}
    (allowed : (rules arc).allowed l op) (rest : ∀ res l', gives l op res l' → Safe arc (f res) post l') :
    Safe arc (Onboarding.perform op >>= f) post l :=
  safe_bind.mpr (safe_perform.mpr ⟨allowed, rest⟩)

end

structure Frame (l l' : Local) : Prop where
  copies : l'.copies = l.copies
  locks : l'.locks = l.locks
  reported : ∀ sidecar ∈ l.reported, sidecar ∈ l'.reported

lemma Frame.refl (l : Local) : Frame l l := ⟨rfl, rfl, fun _ holds => holds⟩

lemma Frame.trans {l m n} (first : Frame l m) (snd : Frame m n) : Frame l n where
  copies := snd.copies.trans first.copies
  locks := snd.locks.trans first.locks
  reported sidecar holds := snd.reported sidecar (first.reported sidecar holds)

def Recorded (sidecar : ℕ) (pairing : PairingStatus) (l : Local) : Prop := pairing.released → sidecar ∈ l.reported

lemma Recorded.extend {sidecar : ℕ} {pairing l l'} (frame : Frame l l')
    (noted : Recorded sidecar pairing l) : Recorded sidecar pairing l' :=
  fun released => frame.reported sidecar (noted released)

lemma frame_report (l : Local) (sidecar : ℕ) (pairing : PairingStatus) : Frame l (l.report sidecar pairing) := by
  rw [Local.report]
  split
  · exact ⟨rfl, rfl, fun _ holds => List.mem_cons_of_mem _ holds⟩
  · exact Frame.refl l

lemma recorded_report (l : Local) (sidecar : ℕ) (pairing : PairingStatus) :
    Recorded sidecar pairing (l.report sidecar pairing) := by
  intro released
  rw [Local.report, if_pos released]
  exact List.mem_cons_self

section
variable {arc : Bool} (sidecar : ℕ)

lemma safe_capabilities (l : Local) : Safe arc (capabilities sidecar) (fun _ l' => l' = l) l := by
  refine ⟨trivial, ?_⟩
  rintro (err | ans) _ rfl
  · exact trivial
  · exact rfl

lemma safe_health (l : Local) : Safe arc (health sidecar) (fun _ l' => l' = l) l := by
  refine ⟨trivial, ?_⟩
  rintro (err | ans) _ rfl
  · exact trivial
  · exact rfl

lemma safe_pairing (call : PairingCall) (l : Local) : Safe arc (pairing sidecar call)
      (fun ans l' => Frame l l' ∧ Recorded sidecar ans l') l := by
  refine ⟨trivial, ?_⟩
  rintro (err | ans) _ rfl
  · exact trivial
  · exact ⟨frame_report l sidecar ans, recorded_report l sidecar ans⟩

lemma safe_pairing_after {sidecar : ℕ} {call l l'} (frame : Frame l l') :
    Safe arc (pairing sidecar call) (fun ans l'' => Frame l l'' ∧ Recorded sidecar ans l'') l' :=
  (safe_pairing sidecar call l').mono fun _ _ ⟨after, noted⟩ => ⟨frame.trans after, noted⟩

lemma safe_logoutRegisteredPairing {sidecar rounds : ℕ} {obs}
    {l l'} (frame : Frame l l') (noted : Recorded sidecar obs l') :
    Safe arc (logoutRegisteredPairing sidecar rounds obs)
      (fun ans l'' => Frame l l'' ∧ Recorded sidecar ans l'') l' := by
  induction rounds generalizing obs l' with
  | zero =>
    rw [logoutRegisteredPairing]
    split
    · split
      · exact ⟨frame, noted⟩
      · exact safe_pairing_after frame
    · exact trivial
  | succ rounds ih =>
    have again : ∀ m, Frame l m → Safe arc (do logoutRegisteredPairing sidecar rounds (← pairing sidecar .status))
        (fun ans l'' => Frame l l'' ∧ Recorded sidecar ans l'') m :=
      fun m frame => (safe_pairing_after frame).then fun ans m' ⟨frame, noted⟩ =>
        ih frame noted
    rw [logoutRegisteredPairing]
    split
    · split
      · exact ⟨frame, noted⟩
      · exact safe_pairing_after frame
    · split
      · refine ⟨trivial, ?_⟩
        rintro (err | ans) _ rfl
        · cases err
          · exact again _ frame
          · exact trivial
          · exact trivial
        · exact ⟨frame.trans (frame_report l' sidecar ans), recorded_report l' sidecar ans⟩
      · split
        · rw [safe_bind, safe_discard]
          exact (safe_pairing_after frame).mono fun _ m ⟨frame, _⟩ => again m frame
        · exact again _ frame

lemma safe_stopWhatsappPairing {sidecar : ℕ} {cur recovers}
    {l} (noted : ∀ pairing ∈ cur, Recorded sidecar pairing l) : Safe arc (stopWhatsappPairing sidecar cur recovers)
      (fun ans l' => Frame l l' ∧ Recorded sidecar ans l') l := by
  have stops : ∀ obs l', Frame l l' → Recorded sidecar obs l' →
      Safe arc (do
        let rounds ← perform .rounds
        if obs.registered then
          if recovers then
            let health ← health sidecar
            if health.lastDisconnectReason = some "remote_logged_out" then
              return ← pairing sidecar .recover
          logoutRegisteredPairing sidecar rounds obs
        else if obs.status = .stopped then return obs
        else
          let canceled ← pairing sidecar .cancel
          if canceled.registered then logoutRegisteredPairing sidecar rounds canceled
          else return canceled)
        (fun ans l'' => Frame l l'' ∧ Recorded sidecar ans l'') l' := by
    intro obs l' frame noted
    refine ⟨trivial, ?_⟩
    rintro rounds _ rfl
    have logout : Safe arc (logoutRegisteredPairing sidecar rounds obs)
        (fun ans l'' => Frame l l'' ∧ Recorded sidecar ans l'') _ :=
      safe_logoutRegisteredPairing frame noted
    split
    · split
      · apply Safe.then (safe_health sidecar _)
        rintro health _ rfl
        split
        · exact safe_pairing_after frame
        · exact logout
      · exact logout
    · split
      · exact ⟨frame, noted⟩
      · apply Safe.then (safe_pairing_after frame)
        intro canceled m ⟨frame, noted⟩
        split
        · exact safe_logoutRegisteredPairing frame noted
        · exact ⟨frame, noted⟩
  cases cur with
  | none =>
    apply Safe.then (safe_pairing sidecar .status l)
    intro obs l' ⟨frame, noted⟩
    exact stops obs l' frame noted
  | some obs => exact stops obs l (Frame.refl l) (noted obs rfl)

end

section
variable {arc : Bool}

lemma safe_ownedSession (uid id : ℕ) (l : Local) :
    Safe arc (ownedSession uid id) (fun sess l' => ∃ row, sess = l.load id row ∧
      (row.state = .connected → sess.state = .connected) ∧ l' = l.lock id row) l := by
  refine ⟨trivial, ?_⟩
  rintro (_ | sess) l' given
  · exact trivial
  · obtain ⟨row, _, loaded, connected, rfl⟩ := given
    exact ⟨row, loaded, connected, rfl⟩

structure Held (l : Local) (id sidecar : ℕ) : Prop where
  locked : l.Locked id
  copy : ∀ copy ∈ l.copies id, copy.2.sidecarAccountId = sidecar

lemma Held.frame {l l'} {id sidecar : ℕ} (held : Held l id sidecar) (frame : Frame l l') : Held l' id sidecar where
  locked := by
    obtain ⟨row, locked, alt⟩ := held.locked
    exact ⟨row, frame.locks ▸ locked, alt⟩
  copy := frame.copies ▸ held.copy

def Local.Cached (l : Local) (id : ℕ) (sess : Session) : Prop := ∃ loaded, l.copies id = some (loaded, sess)

lemma cached_lock (l : Local) (id : ℕ) (row : Session) : (l.lock id row).Cached id (l.load id row) := by
  rw [Local.Cached, Local.lock, Local.keep, Local.load]
  cases copies : l.copies id with
  | none => exact ⟨row, update_self id _ l.copies⟩
  | some copy => exact ⟨copy.1, copies⟩

lemma cached_create (l : Local) (id : ℕ) (sess : Session) : (l.create id sess).Cached id sess :=
  ⟨sess, update_self id _ l.commit.copies⟩

namespace Local.Cached
variable {l l' : Local} {id : ℕ} {sess : Session}

lemma load (cached : l.Cached id sess) (row : Session) : l.load id row = sess := by
  obtain ⟨loaded, hit⟩ := cached
  rw [Local.load, hit]

lemma frame (cached : l.Cached id sess) (frame : Frame l l') : l'.Cached id sess := by
  rw [Cached, frame.copies]
  exact cached

lemma commit (cached : l.Cached id sess) : l.commit.Cached id sess := by
  obtain ⟨loaded, hit⟩ := cached
  refine ⟨sess, ?_⟩
  simp only [Local.commit, hit, map_some]

lemma set (cached : l.Cached id sess) (change : Change) : (l.set id change).Cached id (change.apply sess) := by
  obtain ⟨loaded, hit⟩ := cached
  refine ⟨loaded, ?_⟩
  simp only [Local.set, update_self, hit, map_some]

end Local.Cached

variable {row : Session} {sidecar : ℕ}

lemma held_row {l : Local} {id : ℕ} {sess} (loaded : sess = l.load id row)
    (alt : row.state ≠ .connected) : Held (l.lock id row) id sess.sidecarAccountId where
  locked := ⟨row, List.mem_cons_self, alt⟩
  copy copy hit := by
    obtain ⟨pre, cached⟩ := cached_lock l id row
    rw [cached] at hit
    cases hit
    rw [loaded]

lemma held_lock {l : Local} {id : ℕ} {sess} (loaded : sess = l.load id row)
    (connected : row.state = .connected → sess.state = .connected)
    (alt : sess.state ≠ .connected) : Held (l.lock id row) id sess.sidecarAccountId :=
  held_row loaded fun is => alt (connected is)

lemma Held.set {l} {id : ℕ} (held : Held l id sidecar) (change : Change) : Held (l.set id change) id sidecar where
  locked := held.locked
  copy copy hit := by
    simp only [Local.set, update_self, mem_def, map_eq_some_iff] at hit
    obtain ⟨pre, here, rfl⟩ := hit
    exact held.copy pre here

variable {post : Unit → Local → Prop}

lemma safe_setState {l} {id : ℕ} {change : Change} (held : Held l id sidecar) (acct : change.channelAccount = none)
    (reported : change.state = some .canceled ∨ change.state = some .expired → sidecar ∈ l.reported)
    (rest : post () (l.set id change)) : Safe arc (perform (.set id change)) post l := by
  refine ⟨⟨fun _ => held.locked, ?_, ?_⟩, ?_⟩
  · intro copy hit ends
    rw [held.copy copy hit]
    exact reported ends
  · rw [acct]
    rintro copy _ acct ⟨⟩
  · rintro _ _ rfl
    exact rest

lemma safe_commit {l : Local} (rest : post () l.commit) : Safe arc (perform .commit) post l := by
  refine ⟨trivial, ?_⟩
  rintro _ _ rfl
  exact rest

lemma safe_markSessionError (id : ℕ) (sess : Session) (l : Local) :
    Safe arc (markSessionError id sess) (fun _ _ => True) l := by
  refine ⟨trivial, ?_⟩
  rintro _ _ rfl
  apply Safe.then (safe_ownedSession sess.userId id _)
  rintro cur _ ⟨row, loaded, connected, rfl⟩
  split
  · exact trivial
  · rename_i alt
    have held := held_lock loaded connected (by
      intro is
      simp [is] at alt)
    apply safe_setState held rfl
    · simp
    · exact safe_commit trivial

end
end Clawdi.Onboarding
