import Clawdi.Signal.Parties

namespace Clawdi.Signal
open Function (update update_apply update_idem update_of_ne update_self)
open Mutation
section
variable {P S : Type} {c : Crypto P S} {sess : Session P S} {messageKey : Digest}

lemma takeMessageKey_run [DecidableEq P] {key chain filled} {counter : Int}
    (made : fillMessageKeys c chain counter = .ok filled) (was : filled.messageKeys counter = some messageKey) :
    takeMessageKey c key chain counter sess = .ok messageKey (sess.withChain key
        (some { filled with messageKeys := update filled.messageKeys counter none })) := by
  rw [takeMessageKey, made]
  dsimp only [raising]
  rw [pure_bind, was]
  show EStateM.Result.ok messageKey _ = _
  rw [Session.withChain]
  simp only [update_idem]

lemma openBody_run {sender receiver ephemeralKey} {counter previousCounter : Nat} {plain}
    (decrypts : ∀ key plain iv, c.aesCbcDecrypt key (c.aesCbcEncrypt key plain iv) iv = some plain)
    (peer : sess.remoteIdentityKey = sender) :
    openBody c receiver (sealedBody c sender receiver ephemeralKey counter previousCounter
        messageKey plain) messageKey sess = .ok plain { sess with pendingPreKey := none } := by
  have verified : ∀ key data : Bytes, verifyMac c data key ((mac c key data).val.take 8) =
      true := by
    intro key data
    simp [verifyMac, (mac c key data).property]
  subst peer
  rw [openBody, get_bind, sealedBody]
  rw [verified, if_neg (by simp), modify_bind, decrypts]
  rfl

end

namespace History
variable {P S : Type} [DecidableEq P] {h : History P S} {c : Crypto P S} {party : Party P}
  {t e i : Nat} {sess : Session P S} {last : Prop} {chain : Chain}

omit [DecidableEq P] in
lemma Receives.take (receives : h.Receives c e last chain) (reached : (i : Int) ≤ chain.counter) :
    (h.deliver e i).Receives c e last { chain with messageKeys := update chain.messageKeys i none } := by
  have got : ∀ j, (h.deliver e i).got e j = (h.got e j || decide (j = i)) := by
    intro j
    show update h.got e (update (h.got e) i true) e j = _
    rw [update_self, update_apply]
    by_cases here : j = i <;> simp [here]
  constructor
  · exact receives.type
  · exact receives.low
  · exact receives.high
  · intro isLast
    obtain ⟨low, key⟩ := receives.opened isLast
    exact ⟨low, key⟩
  · exact receives.closed
  · intro j
    rw [got]
    show update chain.messageKeys (i : Int) none j = _
    by_cases here : j = i
    · rw [here, update_self, if_neg (by simp)]
    · rw [update_of_ne (by omega), receives.stored j]
      simp [here, deliver]
  · intro j known
    rw [got, Bool.or_eq_true, decide_eq_true_eq] at known
    rcases known with pre | rfl
    · exact receives.known j pre
    · exact reached

lemma InSession.receive (inSession : h.InSession c party t { sess with pendingPreKey := none })
    (decrypts : ∀ key plain iv, c.aesCbcDecrypt key (c.aesCbcEncrypt key plain iv) iv = some plain)
    (linked : h.Linked c t) (low : 1 ≤ e) (high : e < t) (parity : e % 2 ≠ t % 2)
    (sent : i < h.sent e) (ungot : h.got e i = false) (plain : Bytes)
    (near : ∀ chain, sess.chains (h.key e) = some chain → (i : Int) - chain.counter ≤ 2000) :
    ∃ after, decryptOnChain c party.own (h.body c party.peer party.own e i plain) sess =
        .ok plain after ∧ (h.deliver e i).InSession c party t after := by
  obtain ⟨chain, present, receives⟩ := inSession.receiving e low high parity
  obtain ⟨filled, made, receives', reached, _⟩ := receives.fill
    (show (i : Int) < h.sent e by omega) (near chain present)
  have was : filled.messageKeys i = some (messageKeyAt c (h.epoch e).start i) := by
    rw [receives'.stored i, if_pos ⟨reached, ungot⟩]
  have notSending : ¬chain.chainType = .sending := by
    rw [receives.type]
    exact ChainType.noConfusion
  have took : takeMessageKey c (h.key e) chain i sess = .ok _ _ := takeMessageKey_run made was
  refine ⟨{ sess with
    chains := update sess.chains (h.key e) (some { filled with messageKeys := update filled.messageKeys i none })
    pendingPreKey := none }, ?_, ?_⟩
  · rw [decryptOnChain, get_bind]
    rw [show (h.body c party.peer party.own e i plain).message.ephemeralKey = h.key e from rfl, present]
    dsimp only
    rw [if_neg notSending]
    rw [show ((h.body c party.peer party.own e i plain).message.counter : Int) = i from rfl, bind_ok took]
    have peer : (sess.withChain (h.key e)
        (some { filled with messageKeys := update filled.messageKeys i none })).remoteIdentityKey =
      party.peer := inSession.peer
    exact openBody_run decrypts peer
  · have others : ∀ key, key ≠ h.key e → update sess.chains (h.key e)
        (some { filled with messageKeys := update filled.messageKeys i none }) key =
        sess.chains key := fun key alt => update_of_ne alt _ _
    constructor
    · exact inSession.root
    · exact inSession.pair
    · exact inSession.last
    · exact inSession.previous
    · exact inSession.peer
    · exact inSession.base
    · exact inSession.pending
    · intro some'
      have own : h.key t ≠ h.key e := by
        intro same
        have this := linked.distinct t e (Nat.le_refl _) (by omega) same
        omega
      exact (others (h.key t) own).trans (inSession.sending some')
    · intro f low' high' parity'
      by_cases here : f = e
      · subst here
        exact ⟨_, update_self _ _ _, receives'.take reached⟩
      · have alt : h.key f ≠ h.key e := by
          intro same
          exact here (linked.distinct f e (by omega) (by omega) same)
        obtain ⟨chain', present', receives''⟩ := inSession.receiving f low' high' parity'
        refine ⟨chain', (others (h.key f) alt).trans present', ?_⟩
        apply receives''.frame
        · rfl
        · exact Nat.le_refl _
        · exact fun _ => rfl
        · exact update_of_ne here _ _
    · intro key there
      by_cases here : key = h.key e
      · exact ⟨e, low, by omega, .inr parity, here⟩
      · exact inSession.only key (by
          rw [← others key here]
          exact there)

lemma InSession.encrypt (inSession : h.InSession c party t sess) (some' : 1 ≤ t)
    (busy : ∀ e, 1 ≤ e → e < t → 1 ≤ h.sent e) (linked : h.Linked c t) (plain : Bytes) :
    ∃ after, encryptRecord c party.own plain sess = .ok (envelopeOf party.own sess
          (h.body c party.own party.peer t (h.sent t) plain)) after ∧ (h.send t).InSession c party t after := by
  have cur : sess.ephemeralKeyPair.publicKey = h.key t := by
    rw [inSession.pair]
    rfl
  have present := inSession.sending (by omega)
  have opened : (h.sending c t).Open c (h.epoch t).start := by
    constructor
    · show (-1 : Int) ≤ h.sent t - 1
      omega
    · show some _ = some (chainKeyAt c (h.epoch t).start ((h.sent t : Int) - 1 + 1).toNat)
      rw [show ((h.sent t : Int) - 1 + 1).toNat = h.sent t by omega]
  obtain ⟨open', reached, keys⟩ := opened.advance 1
  have counter : (h.sending c t).counter = h.sent t - 1 := rfl
  have made : fillMessageKeys c (h.sending c t) ((h.sending c t).counter + 1) =
      .ok ((h.sending c t).advance c 1) := by
    have filled := @fill_reaches P S c (h.sending c t) ((h.sending c t).counter + 1) (by omega) (by omega) rfl
    rw [show ((h.sending c t).counter + 1 - (h.sending c t).counter).toNat = 1 by omega]
      at filled
    exact filled
  have was : ((h.sending c t).advance c 1).messageKeys ((h.sending c t).counter + 1) =
      some (messageKeyAt c (h.epoch t).start (h.sent t)) := by
    rw [show (h.sending c t).counter + 1 = (h.sent t : Int) by omega]
    exact keys (h.sent t) (by omega) (by push_cast; omega)
  have took : takeMessageKey c (h.key t) (h.sending c t) ((h.sending c t).counter + 1)
      sess = .ok _ _ := takeMessageKey_run made was
  have next : ({ (h.sending c t).advance c 1 with
      messageKeys := update ((h.sending c t).advance c 1).messageKeys
        ((h.sending c t).counter + 1) none } : Chain) = (h.send t).sending c t := by
    have sent : (h.send t).sent t = h.sent t + 1 := update_self _ _ _
    have keys' : update ((h.sending c t).advance c 1).messageKeys
        ((h.sending c t).counter + 1) none = fun _ => none := by
      funext j
      by_cases here : j = (h.sending c t).counter + 1
      · rw [here, update_self]
      · rw [update_of_ne here]
        exact update_of_ne here _ _
    have after : (h.send t).sending c t =
        { messageKeys := fun _ => none, counter := ((h.sent t + 1 : Nat) : Int) - 1
          key := some (chainKeyAt c (h.epoch t).start (h.sent t + 1)), chainType := .sending } := by
      rw [History.sending, sent]
      rfl
    have counter' : (h.sending c t).counter + 1 = ((h.sent t + 1 : Nat) : Int) - 1 := by
      push_cast
      omega
    rw [keys', after, ← counter']
    rfl
  rw [next] at took
  have nonneg : 0 ≤ h.previous t := by
    rw [History.previous]
    split
    · exact Int.le_refl 0
    · have pre := busy (t - 2) (by omega) (by omega)
      omega
  refine ⟨sess.withChain (h.key t) (some ((h.send t).sending c t)), ?_, ?_⟩
  · rw [encryptRecord, get_bind, cur, present]
    dsimp only
    rw [if_neg (by exact ChainType.noConfusion), bind_ok took, if_neg, inSession.peer, inSession.previous]
    · rw [show ((h.sending c t).counter + 1).toNat = h.sent t by omega]
      rfl
    · rw [inSession.previous]
      omega
  · have others : ∀ key, key ≠ h.key t → (sess.withChain (h.key t) (some ((h.send t).sending c t))).chains key =
          sess.chains key := fun key alt => update_of_ne alt _ _
    have sent : ∀ e, e ≠ t → (h.send t).sent e = h.sent e := fun e alt =>
      update_of_ne alt _ _
    constructor
    · exact inSession.root
    · exact inSession.pair
    · exact inSession.last
    · rw [History.previous]
      refine inSession.previous.trans ?_
      rw [History.previous]
      split
      · rfl
      · rw [sent (t - 2) (by omega)]
    · exact inSession.peer
    · exact inSession.base
    · exact inSession.pending
    · exact fun _ => update_self _ _ _
    · intro e low high parity
      have alt : h.key e ≠ h.key t := by
        intro same
        have this := linked.distinct e t (by omega) (Nat.le_refl _) same
        omega
      obtain ⟨chain, present', receives⟩ := inSession.receiving e low high parity
      refine ⟨chain, (others (h.key e) alt).trans present', ?_⟩
      apply receives.frame
      · rfl
      · exact Nat.le_of_eq (sent e (by omega)).symm
      · exact fun _ => sent e (by omega)
      · rfl
    · intro key there
      by_cases here : key = h.key t
      · exact ⟨t, some', Nat.le_refl _, .inl rfl, here⟩
      · exact inSession.only key (by
          rw [← others key here]
          exact there)

omit [DecidableEq P] in
lemma previous_nonneg (busy : ∀ e, 1 ≤ e → e < t → 1 ≤ h.sent e) (le : e ≤ t + 1) : 0 ≤ h.previous e := by
  rw [History.previous]
  split
  · exact Int.le_refl 0
  · have pre := busy (e - 2) (by omega) (by omega)
    omega

omit [DecidableEq P] in
lemma InSession.frame (inSession : h.InSession c party t sess) {h' : History P S}
    (epoch : ∀ e, e ≤ t → h'.epoch e = h.epoch e)
    (sent : ∀ e, e ≤ t → e + 1 ≠ t → h'.sent e = h.sent e) (grown : h.sent (t - 1) ≤ h'.sent (t - 1))
    (got : ∀ e, e < t → e % 2 ≠ t % 2 → h'.got e = h.got e) : h'.InSession c party t sess := by
  have key : ∀ e, e ≤ t → h'.key e = h.key e := fun e le =>
    congrArg (fun epoch => epoch.pair.publicKey) (epoch e le)
  constructor
  · rw [epoch t (Nat.le_refl _)]
    exact inSession.root
  · rw [epoch t (Nat.le_refl _)]
    exact inSession.pair
  · rw [key (t - 1) (by omega)]
    exact inSession.last
  · rw [inSession.previous, History.previous, History.previous]
    split
    · rfl
    · rw [sent (t - 2) (by omega) (by omega)]
  · exact inSession.peer
  · exact inSession.base
  · exact inSession.pending
  · intro some'
    rw [key t (Nat.le_refl _), inSession.sending some', History.sending, History.sending,
      sent t (Nat.le_refl _) (by omega), epoch t (Nat.le_refl _)]
  · intro e low high parity
    obtain ⟨chain, present, receives⟩ := inSession.receiving e low high parity
    rw [key e (by omega)]
    refine ⟨chain, present, ?_⟩
    apply receives.frame
    · rw [epoch e (by omega)]
    · by_cases latest : e + 1 = t
      · rw [show e = t - 1 by omega]
        exact grown
      · exact Nat.le_of_eq (sent e (by omega) latest).symm
    · exact fun ended => sent e (by omega) ended
    · exact got e high parity
  · intro alt there
    obtain ⟨e, low, high, parity, same⟩ := inSession.only alt there
    exact ⟨e, low, high, parity, same.trans (key e high).symm⟩

omit [DecidableEq P] in
lemma Linked.mono {last : Nat} (linked : h.Linked c last) {first : Nat} (le : first ≤ last) : h.Linked c first where
  follows e below := linked.follows e (by omega)
  distinct e f le' le'' := linked.distinct e f (by omega) (by omega)

omit [DecidableEq P] in
lemma Linked.extend (linked : h.Linked c (t + 1)) {fresh : KeyPair P S} {shared}
    (new : ∀ e, e ≤ t + 1 → fresh.publicKey ≠ h.key e)
    (agreed : c.exchange (h.key (t + 1)) fresh.privateKey = some shared)
    (agreed' : c.exchange fresh.publicKey (h.epoch (t + 1)).pair.privateKey = some shared) :
    (h.extend (t + 2) (nextEpoch c h t fresh shared)).Linked c (t + 2) := by
  have epoch : (h.extend (t + 2) (nextEpoch c h t fresh shared)).epoch (t + 2) =
    nextEpoch c h t fresh shared := update_self _ _ _
  have older : ∀ e, e ≤ t + 1 →
      (h.extend (t + 2) (nextEpoch c h t fresh shared)).epoch e = h.epoch e :=
    fun e le => update_of_ne (by omega) _ _
  have keys : ∀ e, (h.extend (t + 2) (nextEpoch c h t fresh shared)).key e =
      if e = t + 2 then fresh.publicKey else h.key e := by
    intro e
    rw [History.key]
    by_cases here : e = t + 2
    · rw [here, epoch, if_pos rfl]
      rfl
    · rw [if_neg here]
      exact congrArg (fun epoch : Epoch P S => epoch.pair.publicKey) (update_of_ne here _ _)
  constructor
  · intro e below
    by_cases newest : e = t + 1
    · subst newest
      refine ⟨shared, ?_⟩
      rw [keys (t + 1), if_neg (by omega), epoch, keys (t + 1 + 1), if_pos rfl, older (t + 1) (Nat.le_refl _)]
      exact ⟨agreed, agreed', rfl, rfl⟩
    · obtain ⟨pre, first, snd, root, start⟩ := linked.follows e (by omega)
      refine ⟨pre, ?_⟩
      rw [keys e, if_neg (by omega), keys (e + 1), if_neg (by omega), older e (by omega), older (e + 1) (by omega)]
      exact ⟨first, snd, root, start⟩
  · intro e f le le' same
    rw [keys e, keys f] at same
    by_cases first : e = t + 2
    · by_cases snd : f = t + 2
      · omega
      · rw [if_pos first, if_neg snd] at same
        exact absurd same (new f (by omega))
    · by_cases snd : f = t + 2
      · rw [if_neg first, if_pos snd] at same
        exact absurd same.symm (new e (by omega))
      · rw [if_neg first, if_neg snd] at same
        exact linked.distinct e f (by omega) (by omega) same

/-- The message is decrypted, after a new epoch of one's own if it is the first of its epoch. -/
inductive Received (c : Crypto P S) (h : History P S) (t e i : Nat) (fresh : KeyPair P S) :
    Nat → History P S → Prop
  | known (older : e < t) : Received c h t e i fresh t (h.deliver e i)
  | stepped (shared : Digest) (newest : e = t + 1)
      (agreed : c.exchange (h.key (t + 1)) fresh.privateKey = some shared)
      (agreed' : c.exchange fresh.publicKey (h.epoch (t + 1)).pair.privateKey = some shared) :
      Received c h t e i fresh (t + 2) ((h.extend (t + 2) (nextEpoch c h t fresh shared)).deliver e i)

lemma InSession.decrypt (inSession : h.InSession c party t sess) (decrypts : ∀ key plain iv,
      c.aesCbcDecrypt key (c.aesCbcEncrypt key plain iv) iv = some plain)
    {last' : Nat} (linked : h.Linked c last') (reach : e ≤ last') (top : t ≤ last')
    (bound : last' ≤ t + 1) (base : ∀ f, 1 ≤ f → f ≤ last' → party.base ≠ h.key f)
    (busy : ∀ f, 1 ≤ f → f < last' → 1 ≤ h.sent f) (unsent : ∀ f, last' < f → h.sent f = 0)
    (low : 1 ≤ e) (high : e ≤ t + 1) (parity : e % 2 ≠ t % 2)
    (sent : i < h.sent e) (ungot : h.got e i = false) (ungot' : t < e → ∀ j, h.got e j = false)
    (plain : Bytes) (skips : Session.skips (some sess) (h.body c party.peer party.own e i plain).message = false)
    {fresh : KeyPair P S} (new : ∀ f, f ≤ last' → fresh.publicKey ≠ h.key f)
    (agrees : ∃ shared, c.exchange (h.key e) fresh.privateKey = some shared ∧
      c.exchange fresh.publicKey (h.epoch e).pair.privateKey = some shared) :
    ∃ after t' h', decryptRecord c party.own fresh
        (.ok (h.body c party.peer party.own e i plain)) sess = .ok plain after ∧
      h'.InSession c party t' after ∧ Received c h t e i fresh t' h' := by
  have key : (h.body c party.peer party.own e i plain).message.ephemeralKey = h.key e := rfl
  have counter : (h.body c party.peer party.own e i plain).message.counter = i := rfl
  have prev : ((h.body c party.peer party.own e i plain).message.previousCounter : Int) =
      h.previous e := by
    have nonneg := previous_nonneg (fun f low' high' => busy f low' (by omega)) high
    show (((h.previous e).toNat : Nat) : Int) = h.previous e
    omega
  rw [Session.skips, key, counter, Option.bind_some] at skips
  rw [decryptRecord, raising, pure_bind, key, prev]
  by_cases older : e < t
  · obtain ⟨chain, present, _⟩ := inSession.receiving e low older parity
    rw [bind_ok (maybeStepRatchet_known present)]
    rw [present] at skips
    have pend : sess.pendingPreKey = none := by rw [inSession.pending, if_neg (by omega)]
    have cleared : { sess with pendingPreKey := none } = sess := by rw [← pend]
    have inSession' := inSession
    rw [← cleared] at inSession'
    obtain ⟨after, run, kept⟩ := inSession'.receive decrypts (linked.mono top) low older parity sent
      ungot plain (by
        intro chain' present'
        rw [present] at present'
        cases present'
        have near := of_decide_eq_false skips
        omega)
    exact ⟨after, t, _, run, kept, Received.known older⟩
  · have newest : e = t + 1 := by omega
    subst newest
    obtain ⟨shared, agreed, agreed'⟩ := agrees
    have gone : sess.chains (h.key (t + 1)) = none := by
      apply inSession.absent
      intro f low' high' _ same
      have this := linked.distinct (t + 1) f reach (by omega) same
      omega
    rw [gone] at skips
    simp only [Bool.or_eq_false_iff, decide_eq_false_iff_not, Option.bind_some] at skips
    have linked' := linked.mono reach
    obtain ⟨middle, stepped, pend, inSession'⟩ := inSession.step linked'
      (fun f low' high' => base f low' (by omega))
      (unsent (t + 2) (by omega)) (ungot' (by omega))
      (by
        intro chain present
        rw [present, Option.any_some] at skips
        have near := of_decide_eq_false skips.2
        omega)
      (fun f le => new f (by omega)) agreed
    rw [bind_ok stepped]
    have linked'' := linked'.extend (fun f le => new f (by omega)) agreed agreed'
    have older' : (h.extend (t + 2) (nextEpoch c h t fresh shared)).epoch (t + 1) =
      h.epoch (t + 1) := update_of_ne (by omega) _ _
    have key' : (h.extend (t + 2) (nextEpoch c h t fresh shared)).key (t + 1) = h.key (t + 1) :=
      congrArg (fun epoch : Epoch P S => epoch.pair.publicKey) older'
    have body' : (h.extend (t + 2) (nextEpoch c h t fresh shared)).body c party.peer party.own
        (t + 1) i plain = h.body c party.peer party.own (t + 1) i plain := by
      rw [History.body, History.body, older', key']
      rfl
    obtain ⟨after, run, kept⟩ := inSession'.receive decrypts linked'' (by omega) (by omega)
      (by omega) sent ungot plain (by
        intro chain present
        obtain ⟨chain', present', receives⟩ := inSession'.receiving (t + 1) (by omega) (by omega) (by omega)
        have same : some chain' = some chain := present'.symm.trans present
        cases same
        have far := receives.low
        omega)
    rw [body'] at run
    exact ⟨after, t + 2, _, run, kept, Received.stepped shared rfl agreed agreed'⟩

end History
end Clawdi.Signal
