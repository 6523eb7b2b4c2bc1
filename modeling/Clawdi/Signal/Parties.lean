import Clawdi.Signal.Epochs

namespace Clawdi.Signal
open Function (update update_of_ne update_self)
open Mutation

structure Party (P : Type) where
  own : P
  peer : P
  base : P
  pending : Option (PendingPreKey P)

namespace History
variable {P S : Type} [DecidableEq P] (h : History P S)

def body (c : Crypto P S) (sender receiver : P) (e i : Nat) (plain : Bytes) : WhisperBody P :=
  sealedBody c sender receiver (h.key e) i (h.previous e).toNat (messageKeyAt c (h.epoch e).start i) plain

def deliver (e i : Nat) : History P S :=
  { h with got := update h.got e (update (h.got e) i true) }

def extend (t : Nat) (epoch : Epoch P S) : History P S :=
  { h with epoch := update h.epoch t epoch }

def send (e : Nat) : History P S := { h with sent := update h.sent e (h.sent e + 1) }

/-- The record of a side whose own epoch is `t`. -/
structure InSession (c : Crypto P S) (party : Party P) (t : Nat) (sess : Session P S) :
    Prop where
  root : sess.rootKey = (h.epoch t).root
  pair : sess.ephemeralKeyPair = (h.epoch t).pair
  last : sess.lastRemoteEphemeralKey = if t = 0 then party.base else h.key (t - 1)
  previous : sess.previousCounter = h.previous t
  peer : sess.remoteIdentityKey = party.peer
  base : sess.baseKey = party.base
  pending : sess.pendingPreKey = if t ≤ 1 then party.pending else none
  sending : t ≠ 0 → sess.chains (h.key t) = some (h.sending c t)
  receiving : ∀ e, 1 ≤ e → e < t → e % 2 ≠ t % 2 → ∃ chain, sess.chains (h.key e) = some chain ∧
    h.Receives c e (e + 1 = t) chain
  only : ∀ key, sess.chains key ≠ none → ∃ e, 1 ≤ e ∧ e ≤ t ∧ (e = t ∨ e % 2 ≠ t % 2) ∧ key = h.key e

variable {h} {c : Crypto P S} {party : Party P} {t : Nat} {sess : Session P S}

omit [DecidableEq P] in
lemma InSession.absent (inSession : h.InSession c party t sess) {key}
    (alt : ∀ e, 1 ≤ e → e ≤ t → (e = t ∨ e % 2 ≠ t % 2) → key ≠ h.key e) : sess.chains key = none := by
  by_contra there
  obtain ⟨e, low, high, parity, same⟩ := inSession.only key there
  exact alt e low high parity same

lemma InSession.closePrevious (inSession : h.InSession c party t sess) (linked : h.Linked c (t + 1))
    (base : ∀ e, 1 ≤ e → e ≤ t + 1 → party.base ≠ h.key e)
    (near : ∀ chain, sess.chains sess.lastRemoteEphemeralKey = some chain →
      h.previous (t + 1) - chain.counter ≤ 2000) :
    ∃ chains, Signal.closePrevious c (h.previous (t + 1)) sess = .ok () { sess with chains := chains } ∧
      (∀ key, 2 ≤ t ∧ key = h.key (t - 1) ∨ chains key = sess.chains key) ∧
      (2 ≤ t → ∃ chain, chains (h.key (t - 1)) = some chain ∧ h.Receives c (t - 1) False chain) := by
  by_cases late : 2 ≤ t
  · have last : sess.lastRemoteEphemeralKey = h.key (t - 1) :=
      inSession.last.trans (if_neg (by omega))
    obtain ⟨chain, present, receives⟩ := inSession.receiving (t - 1) (by omega) (by omega) (by omega)
    have prev : h.previous (t + 1) = h.sent (t - 1) - 1 := if_neg (by omega)
    rw [last] at near
    obtain ⟨filled, made, receives', reached, _⟩ := receives.fill
      (show h.previous (t + 1) < h.sent (t - 1) by omega) (near chain present)
    have high := receives'.high
    have chains : (sess.closed filled).chains =
        update sess.chains (h.key (t - 1)) (some { filled with key := none }) := by
      rw [Session.closed, last]
      rfl
    rw [← last] at present
    refine ⟨(sess.closed filled).chains, closePrevious_run present made, ?_, ?_⟩
    · intro key
      by_cases here : key = h.key (t - 1)
      · exact .inl ⟨late, here⟩
      · rw [chains]
        exact .inr (update_of_ne here _ _)
    · intro _
      rw [chains]
      refine ⟨_, update_self _ _ _, ?_⟩
      constructor
      · exact receives'.type
      · exact receives'.low
      · exact receives'.high
      · exact False.elim
      · refine fun _ => ⟨rfl, ?_⟩
        show filled.counter = _
        omega
      · exact receives'.stored
      · exact receives'.known
  · have free : sess.chains sess.lastRemoteEphemeralKey = none := by
      apply inSession.absent
      intro e low high parity
      rw [inSession.last]
      split
      · exact base e low (by omega)
      · intro same
        have none' := linked.distinct (t - 1) e (by omega) (by omega) same
        omega
    refine ⟨sess.chains, closePrevious_none free, fun _ => .inr rfl, ?_⟩
    intro late'
    exact absurd late' late

lemma ratcheted_chains {rkey key sending shared} :
    (sess.ratcheted c rkey sending shared).chains key = if key = sess.chainKey rkey sending then
        some (ratchetChain sending (rootStep c shared sess.rootKey).2.1) else sess.chains key := by
  show update sess.chains _ _ key = _
  split
  · rename_i here
    rw [here, update_self]
  · rename_i alt
    exact update_of_ne alt _ _

def nextEpoch (c : Crypto P S) (h : History P S) (t : Nat) (fresh : KeyPair P S) (shared : Digest) : Epoch P S :=
  { pair := fresh, root := (rootStep c shared (h.epoch (t + 1)).root).1
    start := (rootStep c shared (h.epoch (t + 1)).root).2.1 }

lemma InSession.step (inSession : h.InSession c party t sess) (linked : h.Linked c (t + 1))
    (base : ∀ e, 1 ≤ e → e ≤ t + 1 → party.base ≠ h.key e)
    (unsent : h.sent (t + 2) = 0) (ungot : ∀ i, h.got (t + 1) i = false)
    (near : ∀ chain, sess.chains sess.lastRemoteEphemeralKey = some chain →
      h.previous (t + 1) - chain.counter ≤ 2000)
    {fresh : KeyPair P S} {shared} (new : ∀ e, e ≤ t + 1 → fresh.publicKey ≠ h.key e)
    (agreed : c.exchange (h.key (t + 1)) fresh.privateKey = some shared) :
    ∃ after, maybeStepRatchet c fresh (h.key (t + 1)) (h.previous (t + 1)) sess = .ok () after ∧
      after.pendingPreKey = sess.pendingPreKey ∧
      (h.extend (t + 2) (nextEpoch c h t fresh shared)).InSession c party (t + 2)
        { after with pendingPreKey := none } := by
  obtain ⟨chains, closed, others, previousChain⟩ :=
    inSession.closePrevious linked base near
  obtain ⟨received, _, exchanged, root, start⟩ := linked.follows t (by omega)
  have gone : sess.chains (h.key (t + 1)) = none := by
    apply inSession.absent
    intro e low high parity same
    have this := linked.distinct (t + 1) e (by omega) (by omega) same
    omega
  have absent' : chains (h.key (t + 1)) = none := by
    rcases others (h.key (t + 1)) with ⟨late, same⟩ | same
    · have this := linked.distinct (t + 1) (t - 1) (by omega) (by omega) same
      omega
    · exact same.trans gone
  -- the record with the receiving chain of the new epoch
  let first : Session P S := Session.ratcheted c { sess with chains := chains } (h.key (t + 1)) false received
  have stepped : calculateRatchet c (h.key (t + 1)) false { sess with chains := chains } =
      .ok () first := by
    apply calculateRatchet_run
    · show c.exchange (h.key (t + 1)) sess.ephemeralKeyPair.privateKey = some received
      rw [inSession.pair]
      exact exchanged
    · exact absent'
  have own : first.ephemeralKeyPair.publicKey = h.key t := congrArg KeyPair.publicKey inSession.pair
  have firstChains : ∀ key, first.chains key =
      if key = h.key (t + 1) then some (ratchetChain false (h.epoch (t + 1)).start)
      else chains key := by
    intro key
    have start' : (rootStep c received sess.rootKey).2.1 = (h.epoch (t + 1)).start := by
      rw [inSession.root]
      exact start
    rw [← start']
    exact ratcheted_chains
  have firstRoot : first.rootKey = (h.epoch (t + 1)).root := by
    rw [← root, ← inSession.root]
    rfl
  have ownChain : first.chains (h.key t) = if t = 0 then none else some (h.sending c t) := by
    rw [firstChains, if_neg]
    · split
      · rcases others (h.key t) with ⟨late, _⟩ | same
        · omega
        · rw [same]
          apply inSession.absent
          intro e low high
          omega
      · rename_i some'
        rcases others (h.key t) with ⟨late, same⟩ | same
        · have this := linked.distinct t (t - 1) (by omega) (by omega) same
          omega
        · rw [same]
          exact inSession.sending some'
    · intro same
      have this := linked.distinct t (t + 1) (by omega) (by omega) same
      omega
  -- the record with the new key pair in place of the old one
  let snd : Session P S := first.replaced fresh
  have replaced := @replaced_eq P S _ first fresh
  rw [own] at replaced
  have secondChains : ∀ key, snd.chains key = if key = h.key t then none else first.chains key := by
    intro key
    rw [show snd = first.replaced fresh from rfl, replaced]
  have secondPrevious : snd.previousCounter = h.previous (t + 2) := by
    rw [show snd = first.replaced fresh from rfl, replaced]
    rw [ownChain]
    by_cases zero : t = 0
    · rw [if_pos zero, zero]
      exact inSession.previous.trans (by rw [zero]; rfl)
    · rw [if_neg zero, History.previous, if_neg (by omega)]
      rfl
  have local' : snd.ephemeralKeyPair = fresh := by rw [show snd = first.replaced fresh from rfl, replaced]
  have secondRoot : snd.rootKey = (h.epoch (t + 1)).root := by
    rw [show snd = first.replaced fresh from rfl, replaced]
    exact firstRoot
  have free : snd.chains (snd.chainKey (h.key (t + 1)) true) = none := by
    rw [Session.chainKey, if_pos rfl, local', secondChains, if_neg (new t (by omega)), firstChains,
      if_neg (new (t + 1) (Nat.le_refl _))]
    rcases others fresh.publicKey with ⟨_, same⟩ | same
    · exact absurd same (new (t - 1) (by omega))
    · rw [same]
      apply inSession.absent
      intro e _ high _
      exact new e (by omega)
  have agreed' : c.exchange (h.key (t + 1)) snd.ephemeralKeyPair.privateKey = some shared := by
    rw [local']
    exact agreed
  have turned := calculateRatchet_run agreed' free
  refine ⟨{ snd.ratcheted c (h.key (t + 1)) true shared with
    lastRemoteEphemeralKey := h.key (t + 1) }, ?_, ?_, ?_⟩
  · rw [maybeStepRatchet_new gone, bind_ok closed, bind_ok stepped, turnLocal,
      bind_ok (replaceLocalKey_run fresh), bind_ok turned]
    rfl
  · show snd.pendingPreKey = _
    rw [show snd = first.replaced fresh from rfl, replaced]
    rfl
  · have lastChains : ∀ key, (snd.ratcheted c (h.key (t + 1)) true shared).chains key =
        if key = fresh.publicKey then
          some (ratchetChain true (rootStep c shared (h.epoch (t + 1)).root).2.1)
        else snd.chains key := by
      intro key
      rw [ratcheted_chains, Session.chainKey, if_pos rfl, local', secondRoot]
    have epoch : (h.extend (t + 2) (nextEpoch c h t fresh shared)).epoch (t + 2) =
      nextEpoch c h t fresh shared := update_self _ _ _
    have older : ∀ e, e ≤ t + 1 →
        (h.extend (t + 2) (nextEpoch c h t fresh shared)).epoch e = h.epoch e :=
      fun e le => update_of_ne (by omega) _ _
    have olderKey : ∀ e, e ≤ t + 1 →
        (h.extend (t + 2) (nextEpoch c h t fresh shared)).key e = h.key e :=
      fun e le => congrArg (fun epoch => epoch.pair.publicKey) (older e le)
    have newKey : (h.extend (t + 2) (nextEpoch c h t fresh shared)).key (t + 2) =
      fresh.publicKey := congrArg (fun epoch => epoch.pair.publicKey) epoch
    constructor
    · rw [epoch, nextEpoch, ← secondRoot]
      rfl
    · rw [epoch]
      exact local'
    · rw [if_neg (by omega), show t + 2 - 1 = t + 1 from rfl, olderKey (t + 1) (Nat.le_refl _)]
    · exact secondPrevious
    · show snd.remoteIdentityKey = _
      rw [show snd = first.replaced fresh from rfl, replaced]
      exact inSession.peer
    · show snd.baseKey = _
      rw [show snd = first.replaced fresh from rfl, replaced]
      exact inSession.base
    · exact (if_neg (by omega)).symm
    · intro _
      rw [newKey]
      refine (lastChains _).trans ((if_pos rfl).trans ?_)
      rw [History.sending, epoch, show (h.extend (t + 2) _).sent (t + 2) = 0 from unsent]
      rfl
    · intro e low high parity
      rw [olderKey e (by omega)]
      have lookup := lastChains (h.key e)
      have notOwn : h.key e ≠ h.key t := by
        intro same
        have this := linked.distinct e t (by omega) (by omega) same
        omega
      rw [if_neg (new e (by omega)).symm, secondChains, if_neg notOwn, firstChains] at lookup
      by_cases newest : e = t + 1
      · subst newest
        rw [if_pos rfl] at lookup
        refine ⟨_, lookup, ?_⟩
        have got : (h.extend (t + 2) (nextEpoch c h t fresh shared)).got (t + 1) = fun _ => false := funext ungot
        constructor
        · rfl
        · exact Int.le_refl _
        · have negative : (ratchetChain false (h.epoch (t + 1)).start).counter = -1 := rfl
          omega
        · intro _
          rw [older (t + 1) (Nat.le_refl _)]
          exact ⟨Int.le_refl _, rfl⟩
        · exact fun closed => absurd rfl closed
        · intro i
          rw [if_neg]
          · rfl
          · rintro ⟨below, _⟩
            have this : (i : Int) ≤ -1 := below
            omega
        · intro i known
          rw [got] at known
          cases known
      · have alt : h.key e ≠ h.key (t + 1) := by
          intro same
          exact newest (linked.distinct e (t + 1) (by omega) (by omega) same)
        rw [if_neg alt] at lookup
        have frame : ∀ {last : Prop} {chain : Chain}, h.Receives c e last chain →
            (h.extend (t + 2) (nextEpoch c h t fresh shared)).Receives c e last chain := by
          intro last chain receives
          apply receives.frame
          · rw [older e (by omega)]
          · exact Nat.le_refl _
          · exact fun _ => rfl
          · rfl
        have open' : (e + 1 = t + 2) = False := eq_false (by omega)
        rw [open']
        by_cases pre : e = t - 1
        · obtain ⟨chain, present, receives⟩ := previousChain (by omega)
          rw [← pre] at present receives
          exact ⟨chain, lookup.trans present, frame receives⟩
        · obtain ⟨chain, present, receives⟩ := inSession.receiving e low (by omega) (by omega)
          have closed' : (e + 1 = t) = False := eq_false (by omega)
          rw [closed'] at receives
          rcases others (h.key e) with ⟨late, same⟩ | same
          · exact absurd (linked.distinct e (t - 1) (by omega) (by omega) same) pre
          · exact ⟨chain, lookup.trans (same.trans present), frame receives⟩
    · intro key there
      have lookup := lastChains key
      by_cases fresh' : key = fresh.publicKey
      · exact ⟨t + 2, by omega, Nat.le_refl _, .inl rfl, fresh'.trans newKey.symm⟩
      rw [if_neg fresh', secondChains] at lookup
      by_cases own' : key = h.key t
      · rw [if_pos own'] at lookup
        exact absurd lookup there
      rw [if_neg own', firstChains] at lookup
      by_cases newest : key = h.key (t + 1)
      · refine ⟨t + 1, by omega, by omega, .inr (by omega), ?_⟩
        rw [olderKey (t + 1) (Nat.le_refl _)]
        exact newest
      rw [if_neg newest] at lookup
      have earlier : ∃ e, 1 ≤ e ∧ e ≤ t ∧ (e = t ∨ e % 2 ≠ t % 2) ∧ key = h.key e := by
        rcases others key with ⟨late, same⟩ | same
        · exact ⟨t - 1, by omega, by omega, .inr (by omega), same⟩
        · apply inSession.only
          rw [← same, ← lookup]
          exact there
      obtain ⟨e, low, high, parity, same⟩ := earlier
      rcases parity with rfl | parity
      · exact absurd same own'
      · refine ⟨e, low, by omega, .inr (by omega), ?_⟩
        rw [olderKey e (by omega)]
        exact same

end History
end Clawdi.Signal
