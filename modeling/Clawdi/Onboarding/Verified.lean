import Clawdi.Onboarding.Rules

namespace Clawdi.Onboarding
open Program
variable {arc : Bool} {id : ℕ} {l : Local} {sess : Session}

lemma safe_finalizeConnectedAccount (held : Held l id sess.sidecarAccountId) :
    Safe arc (finalizeConnectedAccount id sess) (fun _ _ => True) l := by
  have connects : ∀ l', Held l' id sess.sidecarAccountId →
      Safe arc (do perform (.set id { state := some .connected }); perform .commit)
        (fun _ _ => True) l' := by
    intro l' held
    apply safe_setState held rfl
    · simp
    · exact safe_commit trivial
  rw [finalizeConnectedAccount, Safe, ensures_tryCatch]
  refine Ensures.mono (?_ : Safe arc _ (fun _ _ => True) l) ?_ ?_
  · apply Safe.require
    apply Safe.require
    split
    · refine ⟨trivial, ?_⟩
      rintro acct _ ⟨same, rfl⟩
      refine ⟨⟨fun _ => held.locked, ?_, ?_⟩, ?_⟩
      · simp
      · intro copy hit account' is
        cases is
        rw [same, held.copy copy hit]
      · rintro _ _ rfl
        exact connects _ (held.set _)
    · apply Safe.require
      split
      · exact trivial
      · exact connects _ held
  · intro _ _ holds
    exact holds
  · intro stop l' _
    refine ⟨trivial, ?_⟩
    rintro _ _ rfl
    exact trivial

lemma safe_edit {sidecar : ℕ} {st} (held : Held l id sidecar) (goes : st ≠ .canceled ∧ st ≠ .expired) :
    Safe arc (perform (.set id { state := some st })) (fun _ _ => True) l := by
  apply safe_setState held rfl
  · rintro (⟨⟨⟩⟩ | ⟨⟨⟩⟩)
    · exact absurd rfl goes.1
    · exact absurd rfl goes.2
  · exact trivial

lemma safe_applyPairingStatus {pairing health} (held : Held l id sess.sidecarAccountId) :
    Safe arc (applyPairingStatus id sess pairing health) (fun _ _ => True) l := by
  have marks : ∀ l, Safe arc (markSessionError id sess) (fun _ _ => True) l :=
    fun l => safe_markSessionError id sess l
  rw [applyPairingStatus]
  split
  · split
    · exact marks l
    · exact safe_finalizeConnectedAccount held
  split
  · split
    · exact safe_edit held (by decide)
    · exact marks l
  split
  · refine .perform trivial ?_
    rintro now _ rfl
    split <;> exact safe_edit held (by decide)
  split
  · exact safe_edit held (by decide)
  split
  · exact safe_edit held (by decide)
  · exact marks l

lemma safe_commitOrMark {body} (safe : Safe arc body (fun _ _ => True) l) :
    Safe arc (commitOrMark id sess body) (fun _ _ => True) l := by
  have answers : Safe arc (exceptSidecar (do body; return true)
      (do markSessionError id sess; return false)) (fun _ _ => True) l := by
    apply safe_exceptSidecar
    · exact safe.then fun _ _ _ => trivial
    · intro l'
      exact (safe_markSessionError id sess l').then fun _ _ _ => trivial
  apply answers.then
  intro answered l' _
  split
  · exact safe_commit trivial
  · exact trivial

lemma safe_expireSession (held : Held l id sess.sidecarAccountId) :
    Safe arc (expireSession id sess) (fun _ _ => True) l := by
  have marks : ∀ l, Safe arc (markSessionError id sess) (fun _ _ => True) l :=
    fun l => safe_markSessionError id sess l
  rw [expireSession]
  refine .perform trivial ?_
  rintro asked l rfl
  split
  · exact marks _
  · refine Safe.then (?_ : Safe arc _ (fun canceled l' => ∀ pairing ∈ canceled, Frame l l' ∧
        Recorded sess.sidecarAccountId pairing l') l) ?_
    · apply safe_exceptSidecar
      · apply Safe.then (safe_health _ _)
        rintro health l rfl
        apply Safe.then (safe_pairing _ _ _)
        intro cur l' ⟨frame, noted⟩
        split
        · split
          · apply Safe.then (marks l')
            rintro _ _ _ pairing ⟨⟩
          · apply Safe.then (safe_finalizeConnectedAccount (held.frame frame))
            intro _ l'' _
            apply safe_commit
            rintro pairing ⟨⟩
        · have noted : ∀ pairing ∈ some cur,
              Recorded sess.sidecarAccountId pairing l' := by
            rintro pairing ⟨⟩
            exact noted
          apply Safe.then (safe_stopWhatsappPairing noted)
          rintro canceled l'' ⟨after, noted⟩ pairing ⟨⟩
          exact ⟨frame.trans after, noted⟩
      · intro l'
        apply Safe.then (marks l')
        rintro _ _ _ pairing ⟨⟩
    · intro canceled l' stopped
      split
      · exact trivial
      · rename_i canceled
        obtain ⟨frame, noted⟩ := stopped canceled rfl
        split
        · exact marks l'
        · rename_i released
          apply safe_setState (held.frame frame) rfl
          · intro _
            exact noted (by simpa using released)
          · exact safe_commit trivial

variable (uid sidecar : ℕ) (acct : Account) (name : String)

lemma safe_ensureConnectedTransport (l : Local) :
    Safe arc (ensureConnectedTransport sidecar) (fun _ l' => Frame l l') l := by
  rw [ensureConnectedTransport]
  apply Safe.require
  apply Safe.then (safe_health sidecar l)
  rintro health _ rfl
  apply Safe.then (safe_pairing sidecar .status _)
  intro pairing l' ⟨frame, _⟩
  split
  · exact trivial
  · exact frame

lemma safe_refreshWhatsappOnboarding (id : ℕ) (l : Local) :
    Safe arc (refreshWhatsappOnboarding uid id) (fun _ _ => True) l := by
  apply Safe.then (safe_ownedSession uid id l)
  rintro sess _ ⟨row, loaded, connected, rfl⟩
  split
  · exact trivial
  · split
    · apply safe_exceptSidecar
      · split
        · exact trivial
        · exact (safe_ensureConnectedTransport _ _).mono fun _ _ _ => trivial
      · exact fun _ => trivial
    · rename_i alt
      have held := held_lock loaded connected alt
      refine .perform trivial ?_
      rintro now _ rfl
      split
      · exact safe_expireSession held
      · refine .perform trivial ?_
        rintro asked _ rfl
        split
        · exact safe_markSessionError id sess _
        · apply safe_commitOrMark
          rw [safe_bind, safe_discard]
          apply (safe_capabilities _ _).mono
          rintro _ _ rfl
          apply Safe.then (safe_health _ _)
          rintro health _ rfl
          apply Safe.then (safe_pairing _ _ _)
          intro pairing l' ⟨frame, _⟩
          exact safe_applyPairingStatus (held.frame frame)

lemma safe_pairByQr (held : Held l id sess.sidecarAccountId) : Safe arc (pairByQr id sess) (fun _ _ => True) l := by
  rw [pairByQr]
  refine .perform trivial ?_
  rintro asked _ rfl
  split
  · exact safe_markSessionError id sess _
  · apply safe_commitOrMark
    rw [safe_bind, safe_discard]
    apply (safe_capabilities _ _).mono
    rintro _ _ rfl
    apply Safe.then (safe_pairing _ _ _)
    intro pairing l' ⟨frame, _⟩
    apply Safe.then (safe_health _ _)
    rintro health _ rfl
    exact safe_applyPairingStatus (held.frame frame)

lemma safe_startWhatsappOnboarding (requestId : ℕ) (name : String) (l : Local) :
    Safe arc (startWhatsappOnboarding uid requestId name) (fun _ _ => True) l := by
  rw [startWhatsappOnboarding]
  refine .perform trivial ?_
  rintro (_ | ⟨id, old⟩) l' _
  · apply Safe.require
    refine .perform trivial ?_
    rintro _ _ rfl
    refine .perform trivial ?_
    rintro (_ | ⟨id, old⟩) l' _
    · apply Safe.require
      refine .perform trivial ?_
      rintro duplicate _ rfl
      split
      · exact trivial
      · refine .perform trivial ?_
        rintro sidecar _ rfl
        apply Safe.require
        refine ⟨trivial, ?_⟩
        rintro now _ rfl
        refine ⟨⟨by rintro acct ⟨⟩, rfl⟩, ?_⟩
        rintro (id : ℕ) _ rfl
        apply Safe.then (safe_ownedSession uid id _)
        rintro sess _ ⟨row, loaded, connected, rfl⟩
        have held := held_lock loaded connected (by
          rw [loaded, (cached_create _ id _).load]
          simp)
        exact safe_pairByQr held
    · apply safe_commit
      exact safe_refreshWhatsappOnboarding uid id _
  · exact safe_refreshWhatsappOnboarding uid id l'

lemma safe_requestWhatsappPairingCode (id : ℕ) (phoneNumber : String) (l : Local) :
    Safe arc (requestWhatsappPairingCode uid id phoneNumber) (fun _ _ => True) l := by
  rw [requestWhatsappPairingCode]
  apply Safe.require
  apply Safe.then (safe_ownedSession uid id l)
  rintro sess _ ⟨row, loaded, connected, rfl⟩
  split
  · exact trivial
  · rename_i exp
    have held := held_lock loaded connected (by
      intro is
      simp [is] at exp)
    refine .perform trivial ?_
    rintro now _ rfl
    split
    · exact safe_expireSession held
    · apply Safe.require
      apply safe_commitOrMark
      apply Safe.then (safe_capabilities _ _)
      rintro capabilities _ rfl
      split
      · exact trivial
      · apply Safe.then (safe_pairing _ _ _)
        intro pairing l' ⟨frame, _⟩
        apply Safe.then (safe_health _ _)
        rintro health _ rfl
        exact safe_applyPairingStatus (held.frame frame)

lemma safe_cancelWhatsappOnboarding (id : ℕ) (l : Local) :
    Safe arc (cancelWhatsappOnboarding uid id) (fun _ _ => True) l := by
  apply Safe.then (safe_ownedSession uid id l)
  rintro sess _ ⟨row, loaded, connected, rfl⟩
  split
  · exact trivial
  split
  · exact trivial
  rename_i alt
  have held := held_lock loaded connected alt
  have fails : ∀ (stop : Stop) (l : Local) (rest : Unit → Request Unit),
      Safe arc (do markSessionError id sess; rest (← throw stop)) (fun _ _ => True) l :=
    fun _ l _ => (safe_markSessionError id sess l).then fun _ _ _ => trivial
  refine .perform trivial ?_
  rintro asked _ rfl
  split
  · exact fails _ _ _
  · refine Safe.then (?_ : Safe arc _ (fun canceled l' => Frame (l.lock id row) l' ∧
        Recorded sess.sidecarAccountId canceled l') (l.lock id row)) ?_
    · apply safe_exceptSidecar
      · rw [safe_bind, safe_discard]
        apply (safe_health _ _).mono
        rintro _ _ rfl
        apply safe_stopWhatsappPairing
        rintro pairing ⟨⟩
      · intro l'
        exact (safe_markSessionError id sess l').then fun _ _ _ => trivial
    · intro canceled l' ⟨frame, noted⟩
      split
      · exact fails _ _ _
      · rename_i released
        apply safe_setState (held.frame frame) rfl
        · intro _
          exact noted (by simpa using released)
        · exact safe_commit trivial

lemma safe_confirmStopped (sess : Session) (l : Local) :
    Safe arc (confirmStopped sess) (fun _ l' => Frame l l') l := by
  rw [confirmStopped]
  apply Safe.require
  refine Safe.then (?_ : Safe arc _ (fun _ l' => Frame l l') l) ?_
  · apply safe_exceptSidecar
    · rw [safe_bind, safe_discard]
      apply (safe_health _ l).mono
      rintro _ _ rfl
      apply Safe.mono (safe_stopWhatsappPairing _)
      · intro _ _ ⟨frame, _⟩
        exact frame
      · rintro pairing ⟨⟩
    · exact fun _ => trivial
  · intro stopped l' frame
    split
    · exact trivial
    · exact frame

lemma safe_restart {uid : ℕ} (cached : l.Cached id sess) (alt : sess.state ≠ .connected) :
    Safe arc (do
      perform .commit
      perform .lockAllocation
      discard (ownedSession uid id)
      require (.http 503 "WhatsApp account connection is temporarily unavailable")
      let now ← perform .now
      perform (.set id { state := some .generating, expiresAt := some (now + onboardingTtl) })
      perform .commit
      let sess ← ownedSession uid id
      pairByQr id sess) (fun _ _ => True) l := by
  rw [safe_bind]
  apply safe_commit
  refine .perform trivial ?_
  rintro _ _ rfl
  rw [safe_bind, safe_discard]
  apply (safe_ownedSession uid id _).mono
  rintro copy _ ⟨row, loaded, connected, rfl⟩
  have same := loaded.trans (cached.commit.load row)
  subst same
  have held := held_lock loaded connected alt
  have cached := cached_lock l.commit id row
  apply Safe.require
  refine ⟨trivial, ?_⟩
  rintro now _ rfl
  apply safe_setState held rfl
  · simp
  · apply safe_commit
    apply Safe.then (safe_ownedSession uid id _)
    rintro sess _ ⟨row', loaded', connected', rfl⟩
    have held := held_lock loaded' connected' (by
      rw [loaded', (cached.set _).commit.load]
      simp [Change.apply])
    exact safe_pairByQr held

lemma safe_retryWhatsappOnboarding (id : ℕ) (l : Local) :
    Safe arc (retryWhatsappOnboarding uid id) (fun _ _ => True) l := by
  apply Safe.then (safe_ownedSession uid id l)
  rintro sess _ ⟨row, loaded, connected, rfl⟩
  split
  · exact safe_refreshWhatsappOnboarding uid id _
  · rename_i inactive
    have alt : sess.state ≠ .connected := by
      intro is
      simp [is, OnboardingState.active] at inactive
    have cached := cached_lock l id row
    rw [← loaded] at cached
    apply Safe.require
    have goes : Safe arc (do
        if sess.state = .error then confirmStopped sess
        perform .commit
        perform .lockAllocation
        discard (ownedSession uid id)
        require (.http 503 "WhatsApp account connection is temporarily unavailable")
        let now ← perform .now
        perform (.set id { state := some .generating, expiresAt := some (now + onboardingTtl) })
        perform .commit
        let sess ← ownedSession uid id
        pairByQr id sess) (fun _ _ => True) (l.lock id row) := by
      split
      · apply Safe.then (safe_confirmStopped sess _)
        intro _ l' frame
        exact safe_restart (cached.frame frame) alt
      · exact safe_restart cached alt
    cases sess.channelAccount with
    | none => exact goes
    | some acct =>
      show Safe arc (require _ >>= _) _ _
      apply Safe.require
      apply Safe.require
      by_cases same : acct.sidecarAccountId = sess.sidecarAccountId
      · rw [if_neg (not_not.mpr same)]
        apply Safe.require
        exact goes
      · rw [if_pos same]
        exact trivial

lemma safe_releaseForRepair (reason : RepairReason) (l : Local) :
    Safe arc (releaseForRepair sidecar reason) (fun _ l' => Frame l l') l := by
  cases reason with
  | missingLid | remoteLoggedOut =>
    apply Safe.then (safe_pairing _ _ _)
    intro ans l' ⟨frame, _⟩
    split
    · exact trivial
    · exact frame
  | unregistered => exact Frame.refl l

lemma safe_repairWhatsappAccount (l : Local) :
    Safe arc (repairWhatsappAccount uid acct name) (fun _ _ => True) l := by
  rw [repairWhatsappAccount]
  apply Safe.require
  refine .perform trivial ?_
  rintro _ _ rfl
  apply Safe.require
  apply Safe.require
  refine .perform trivial ?_
  rintro (_ | ⟨id, old⟩) l' _
  · apply Safe.require
    refine Safe.then (?_ : Safe arc _ (fun _ _ => True) l') ?_
    · apply safe_exceptSidecar
      · rw [safe_bind, safe_discard]
        apply (safe_capabilities _ _).mono
        rintro _ _ rfl
        apply Safe.then (safe_health _ _)
        rintro health _ rfl
        exact (safe_pairing _ _ _).then fun _ _ _ => trivial
      · exact fun _ => trivial
    · rintro ⟨obs, status⟩ l' _
      show Safe arc (if obs.registered ≠ status.registered then _ else _) _ _
      split
      · exact trivial
      · split
        · exact trivial
        · refine ⟨trivial, ?_⟩
          rintro requestId _ rfl
          refine ⟨trivial, ?_⟩
          rintro now _ rfl
          refine ⟨⟨by rintro acct ⟨⟩; rfl, rfl⟩, ?_⟩
          rintro (id : ℕ) _ rfl
          apply Safe.then (safe_ownedSession uid id _)
          rintro sess _ ⟨row, loaded, connected, rfl⟩
          have held := held_lock loaded connected (by
            rw [loaded, (cached_create _ id _).load]
            simp)
          apply safe_commitOrMark
          apply Safe.require
          apply Safe.then (safe_releaseForRepair _ _ _)
          intro _ l' frame
          apply Safe.then (safe_pairing _ _ _)
          intro pairing l'' ⟨after, _⟩
          apply Safe.then (safe_health _ _)
          rintro health _ rfl
          exact safe_applyPairingStatus ((held.frame frame).frame after)
  · exact safe_commit trivial

lemma safe_expireStaleWhatsappOnboardingSessions (l : Local) :
    Safe arc expireStaleWhatsappOnboardingSessions (fun _ _ => True) l := by
  rw [expireStaleWhatsappOnboardingSessions]
  refine .perform trivial ?_
  rintro (deadline : ℕ) _ rfl
  refine .perform trivial ?_
  intro (ids : List ℕ) l given
  clear given
  induction ids generalizing l with
  | nil => exact trivial
  | cons id ids ih =>
    rw [List.forM_eq_forM, List.forM_cons, safe_bind]
    refine .perform trivial ?_
    rintro (_ | sess) l' given
    · exact ih l'
    · obtain ⟨row, stale, loaded, connected, rfl⟩ := given
      have alt : row.state ≠ .connected := by
        intro is
        simp [is, OnboardingState.open] at stale
      exact (safe_expireSession (held_row loaded alt)).mono fun _ l' _ => ih l'

lemma safe_requireWhatsappLogoutForArchive :
    Safe true (requireWhatsappLogoutForArchive uid acct) (fun _ _ => True) {} := by
  rw [requireWhatsappLogoutForArchive]
  apply Safe.require
  refine Safe.then (?_ : Safe true _ (fun ans l' => Frame {} l' ∧ Recorded acct.sidecarAccountId ans l') {}) ?_
  · apply safe_exceptSidecar
    · apply Safe.then (safe_health _ _)
      rintro health l rfl
      apply Safe.then (safe_pairing _ _ _)
      intro cur l' ⟨frame, noted⟩
      have stops : ∀ l'', Frame l' l'' → Safe true (stopWhatsappPairing acct.sidecarAccountId (some cur) true)
          (fun ans l' => Frame {} l' ∧ Recorded acct.sidecarAccountId ans l') l'' := by
        intro l'' after
        apply Safe.mono (safe_stopWhatsappPairing _)
        · intro ans m ⟨last, noted⟩
          exact ⟨(frame.trans after).trans last, noted⟩
        · rintro pairing ⟨⟩
          exact noted.extend after
      show Safe true (if health.registered ≠ cur.registered then _ else _) _ _
      split
      · exact trivial
      · split
        · apply Safe.then (safe_ensureConnectedTransport _ _)
          intro _ l'' after
          exact stops l'' after
        · exact stops l' (Frame.refl l')
    · exact fun _ => trivial
  · intro disconnected l ⟨frame, noted⟩
    split
    · exact trivial
    · rename_i released
      have stopped : acct.sidecarAccountId ∈ l.reported := noted (by simpa using released)
      refine ⟨trivial, ?_⟩
      rintro (_ | ⟨id, sess⟩) l' given
      · exact safe_commit trivial
      · obtain ⟨row, hit, agrees, loaded, rfl⟩ := given
        simp only [decide_eq_true_eq] at hit
        have same := agrees acct hit.1
        have copies : (l.keep id row).copies id = some (row, row) := by
          rw [Local.keep, frame.copies]
          exact Function.update_self id _ _
        refine ⟨⟨?_, ?_, ?_⟩, ?_⟩
        · rintro ⟨⟩
        · intro copy here _
          rw [copies] at here
          cases here
          rw [← same, Local.keep, frame.copies]
          exact stopped
        · rintro copy _ acct ⟨⟩
        · rintro _ _ rfl
          exact safe_commit trivial

lemma safe_request (call : Call) : Safe call.archives call.request (fun _ _ => True) {} := by
  cases call with
  | start uid requestId name => exact safe_startWhatsappOnboarding uid requestId name {}
  | refresh uid id => exact safe_refreshWhatsappOnboarding uid id {}
  | requestCode uid id phoneNumber => exact safe_requestWhatsappPairingCode uid id phoneNumber {}
  | cancel uid id => exact safe_cancelWhatsappOnboarding uid id {}
  | retry uid id => exact safe_retryWhatsappOnboarding uid id {}
  | repair uid acct name => exact safe_repairWhatsappAccount uid acct name {}
  | expireStale => exact safe_expireStaleWhatsappOnboardingSessions {}
  | archive uid acct => exact safe_requireWhatsappLogoutForArchive uid acct

end Clawdi.Onboarding
