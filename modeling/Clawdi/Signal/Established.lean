import Clawdi.Signal.Messages

namespace Clawdi.Signal
open Mutation List Nat Function
variable {P S : Type} [DecidableEq P] {c : Crypto P S} {ideal : Ideal c}

def Side.parity : Side → Nat
  | .alice => 1
  | .bob => 0

namespace Setup
variable (setup : Setup ideal)

def preKeyId : Option Nat := setup.preKeys.head?.map AgentPreKey.id

def party (base : P) : Side → Party P
  | .alice =>
    { own := setup.alice.identity.publicKey, peer := setup.bob.identity.publicKey, base := base
      pending := some
        { signedKeyId := setup.signedPreKeyId, baseKey := base, preKeyId := setup.preKeyId } }
  | .bob =>
    { own := setup.bob.identity.publicKey, peer := setup.alice.identity.publicKey, base := base
      pending := none }

structure Opens (base : P) (prekey : PreKeyBody P) : Prop where
  preKey : prekey.preKeyId = setup.preKeyId
  base : prekey.baseKey = base
  identity : prekey.identityKey = some setup.alice.identity.publicKey
  signed : prekey.signedPreKeyId = setup.signedPreKeyId

def Carries (base : P) (e : Nat) (body : WhisperBody P) : Envelope P → Prop
  | .pkmsg (.ok prekey) => e = 1 ∧ setup.Opens base prekey ∧ prekey.message = .ok body
  | .msg (.ok alt) => e ≠ 1 ∧ alt = body
  | _ => False

structure Honest (base : P) (h : History P S) (tag : Nat × Nat) (sent : Sent P) : Prop where
  low : 1 ≤ tag.1
  parity : tag.1 % 2 = sent.sender.parity
  counter : tag.2 < h.sent tag.1
  delivered : sent.delivered = h.got tag.1 tag.2
  envelope : setup.Carries base tag.1
    (h.body c (setup.party base sent.sender).own (setup.party base sent.sender).peer tag.1 tag.2
      sent.plaintext) sent.envelope

structure Established (base : P) (h : History P S) (top : Side → Nat) (last : Nat)
    (tags : List (Nat × Nat)) (w : World P S) : Prop where
  parity : ∀ side, top side % 2 = side.parity
  reach : ∀ side, top side ≤ last ∧ last ≤ top side + 1
  linked : h.Linked c last
  generated : ∀ e, e ≤ last → ∃ n, n < w.used ∧ (h.epoch e).pair = ideal.generated n
  base' : ∃ n, n < w.used ∧ base = (ideal.generated n).publicKey
  baseNew : ∀ e, 1 ≤ e → e ≤ last → base ≠ h.key e
  busy : ∀ e, 1 ≤ e → e < last → 1 ≤ h.sent e
  unsent : ∀ e, last < e → h.sent e = 0
  gotSent : ∀ e i, h.got e i = true → i < h.sent e
  unknown : ∀ side e, e % 2 ≠ side.parity → top side < e → ∀ i, h.got e i = false
  identity : ∀ side, (w.endpoint side).identity.publicKey = (setup.party base side).own
  session : ∀ side, top side ≠ 0 → ∃ sess, (w.endpoint side).records (setup.address side) = some sess ∧
      h.InSession c (setup.party base side) (top side) sess
  waiting : top .bob = 0 → (w.endpoint .bob).records (setup.address .bob) = none ∧
    ∀ prekey, setup.Opens base prekey → ∃ sess, (w.endpoint .bob).openSession c prekey = .ok sess ∧
        h.InSession c (setup.party base .bob) 0 sess
  length : tags.length = w.log.length
  distinct : tags.Nodup
  honest : ∀ (idx : Nat) tag sent, tags[idx]? = some tag → w.log[idx]? = some sent →
    setup.Honest base h tag sent

variable {setup} {base : P} {h : History P S} {top : Side → Nat} {last : Nat}
  {tags : List (Nat × Nat)} {w : World P S}

variable {side : Side}

omit [DecidableEq P] in
lemma parity_ne {alt : Side} (ne : alt ≠ side) : alt.parity + side.parity = 1 := by
  cases side <;> cases alt <;> first | rfl | exact absurd rfl ne

omit [DecidableEq P] in
lemma Established.counter (est : setup.Established base h top last tags w) :
    ∀ tag ∈ tags, tag.2 < h.sent tag.1 := by
  intro tag mem
  obtain ⟨idx, below, located⟩ := mem_iff_getElem.mp mem
  have below' : idx < w.log.length := by
    rw [← est.length]
    exact below
  have honest := est.honest idx tag w.log[idx]
    (List.getElem?_eq_some_iff.mpr ⟨below, located⟩) (List.getElem?_eq_getElem below')
  exact honest.counter

omit [DecidableEq P] in
lemma Honest.frame {tag : Nat × Nat} {sent} (honest : setup.Honest base h tag sent)
    {h' : History P S} (epoch : h'.epoch tag.1 = h.epoch tag.1)
    (prev : h'.previous tag.1 = h.previous tag.1) (grown : h.sent tag.1 ≤ h'.sent tag.1)
    (got : h'.got tag.1 tag.2 = h.got tag.1 tag.2) : setup.Honest base h' tag sent where
  low := honest.low
  parity := honest.parity
  counter := lt_of_lt_of_le honest.counter grown
  delivered := honest.delivered.trans got.symm
  envelope := by
    have body : ∀ sender receiver, h'.body c sender receiver tag.1 tag.2 sent.plaintext =
        h.body c sender receiver tag.1 tag.2 sent.plaintext := by
      intro sender receiver
      rw [History.body, History.body, epoch, prev, History.key, History.key, epoch]
    rw [body]
    exact honest.envelope

omit [DecidableEq P] in
lemma carries_envelope {sess} (inSession : h.InSession c (setup.party base side) (top side) sess)
    (parity : top side % 2 = side.parity) (some' : top side ≠ 0) (body : WhisperBody P) :
    setup.Carries base (top side) body (envelopeOf (setup.party base side).own sess body) := by
  rw [envelopeOf, inSession.pending]
  by_cases first : top side ≤ 1
  · rw [if_pos first]
    have one : top side = 1 := by omega
    cases side with
    | alice => exact ⟨one, ⟨rfl, rfl, rfl, rfl⟩, rfl⟩
    | bob =>
      rw [one] at parity
      cases parity
  · rw [if_neg first]
    exact ⟨by omega, rfl⟩

lemma Established.encrypt (est : setup.Established base h top last tags w) (some' : top side ≠ 0) {sess}
    (record : (w.endpoint side).records (setup.address side) = some sess) (plain : Bytes) :
    ∃ envelope after, encryptRecord c (w.endpoint side).identity.publicKey plain sess = .ok envelope after ∧
      ∀ used, w.used ≤ used →
        setup.Established base (h.send (top side)) top last (tags ++ [(top side, h.sent (top side))])
          { endpoint := Function.update w.endpoint side
              ((w.endpoint side).setRecord (setup.address side) after)
            log := w.log ++ [{ sender := side, envelope := envelope, plaintext := plain, delivered := false }]
            used := used } := by
  obtain ⟨session', record', inSession⟩ := est.session side some'
  rw [record] at record'
  cases record'
  obtain ⟨low, high⟩ := est.reach side
  obtain ⟨after, run, kept⟩ := inSession.encrypt (by omega)
    (fun e low' high' => est.busy e low' (by omega)) (est.linked.mono low) plain
  rw [← est.identity side] at run
  refine ⟨_, after, run, ?_⟩
  intro used more
  have sent : ∀ e, e ≠ top side → (h.send (top side)).sent e = h.sent e := fun e alt =>
    update_of_ne alt _ _
  have grown : ∀ e, h.sent e ≤ (h.send (top side)).sent e := by
    intro e
    by_cases here : e = top side
    · rw [here]
      exact (le_succ _).trans_eq (update_self (top side) _ h.sent).symm
    · exact le_of_eq (sent e here).symm
  have prev : ∀ e, e ≤ last → (h.send (top side)).previous e = h.previous e := by
    intro e le
    rw [History.previous, History.previous]
    split
    · rfl
    · rw [sent (e - 2) (by omega)]
  have parity := est.parity
  have others : ∀ side', side' ≠ side → ∀ {session' : Session P S},
      h.InSession c (setup.party base side') (top side') session' →
      (h.send (top side)).InSession c (setup.party base side') (top side') session' := by
    intro side' ne session' inSession'
    have odd := parity_ne ne
    have one := parity side
    have two := parity side'
    obtain ⟨low', high'⟩ := est.reach side'
    apply inSession'.frame
    · exact fun _ _ => rfl
    · intro e le notLast
      exact sent e (by omega)
    · exact grown _
    · exact fun _ _ _ => rfl
  constructor
  · exact parity
  · exact est.reach
  · exact ⟨est.linked.follows, est.linked.distinct⟩
  · intro e le
    obtain ⟨n, below, same⟩ := est.generated e le
    exact ⟨n, lt_of_lt_of_le below more, same⟩
  · obtain ⟨n, below, same⟩ := est.base'
    exact ⟨n, lt_of_lt_of_le below more, same⟩
  · exact est.baseNew
  · intro e low' high'
    exact le_trans (est.busy e low' high') (grown e)
  · intro e above
    rw [sent e (by omega)]
    exact est.unsent e above
  · intro e i known
    exact lt_of_lt_of_le (est.gotSent e i known) (grown e)
  · exact est.unknown
  · intro side'
    by_cases here : side' = side
    · subst here
      show (Function.update w.endpoint _ _ _).identity.publicKey = _
      rw [update_self]
      exact est.identity side'
    · show (Function.update w.endpoint _ _ _).identity.publicKey = _
      rw [update_of_ne here]
      exact est.identity side'
  · intro side' some''
    by_cases here : side' = side
    · subst here
      refine ⟨after, ?_, kept⟩
      show (Function.update w.endpoint _ _ _).records _ = _
      rw [update_self]
      exact update_self _ _ _
    · obtain ⟨session', record', inSession'⟩ := est.session side' some''
      refine ⟨session', ?_, ?_⟩
      · show (Function.update w.endpoint _ _ _).records _ = _
        rw [update_of_ne here]
        exact record'
      · exact others side' here inSession'
  · intro zero
    have here : Side.bob ≠ side := by
      rintro rfl
      exact some' zero
    have endpoint : Function.update w.endpoint side
        ((w.endpoint side).setRecord (setup.address side) after) .bob = w.endpoint .bob :=
      update_of_ne here _ _
    obtain ⟨gone, opens⟩ := est.waiting zero
    dsimp only
    rw [endpoint]
    refine ⟨gone, ?_⟩
    intro prekey matching
    obtain ⟨opened, made, inSession'⟩ := opens prekey matching
    rw [← zero] at inSession' ⊢
    exact ⟨opened, made, others .bob here inSession'⟩
  · rw [length_append, length_append, est.length]
    rfl
  · refine nodup_append.mpr ⟨est.distinct, by simp, ?_⟩
    intro tag mem tag' single
    rw [mem_singleton] at single
    rintro rfl
    have counter := est.counter tag mem
    rw [single] at counter
    exact lt_irrefl _ counter
  · intro idx tag entry located located'
    have length := est.length
    by_cases old : idx < tags.length
    · rw [List.getElem?_append_left old] at located
      rw [est.length] at old
      rw [List.getElem?_append_left old] at located'
      have honest := est.honest idx tag entry located located'
      have reached : tag.1 ≤ last := by
        by_contra above
        have none' := est.unsent tag.1 (by omega)
        have counter := honest.counter
        omega
      exact honest.frame rfl (prev tag.1 reached) (grown tag.1) rfl
    · rw [List.getElem?_append_right (by omega)] at located
      rw [List.getElem?_append_right (by omega)] at located'
      rw [List.getElem?_singleton] at located located'
      split at located
      · rw [if_pos (by omega)] at located'
        cases located
        cases located'
        constructor
        · show 1 ≤ top side
          omega
        · exact parity side
        · show h.sent (top side) < (h.send (top side)).sent (top side)
          exact (lt_succ_self _).trans_eq (update_self (top side) _ h.sent).symm
        · show false = h.got (top side) (h.sent (top side))
          symm
          by_contra known
          have below := est.gotSent _ _ (Bool.eq_true_of_not_eq_false known)
          exact lt_irrefl _ below
        · have body : ∀ sender receiver, (h.send (top side)).body c sender receiver (top side)
              (h.sent (top side)) plain =
              h.body c sender receiver (top side) (h.sent (top side)) plain := by
            intro sender receiver
            rw [History.body, History.body, prev (top side) low]
            rfl
          rw [body, est.identity side]
          exact carries_envelope inSession (parity side) some' _
      · cases located

section
variable {r : Side} {e i t' last' : Nat} {h' : History P S}

structure Grows (ideal : Ideal c) (used : Nat) (h : History P S) (t e i last : Nat) (t' last' : Nat)
    (h' : History P S) : Prop where
  top : t ≤ t' ∧ e < t'
  parity : t' % 2 = t % 2
  reach : t' ≤ last' ∧ last' ≤ t' + 1
  moves : last ≤ last' ∧ (last' = last ∨ last' = last + 1 ∧ e = last ∧ t' = last')
  epoch : ∀ f, f ≤ last → h'.epoch f = h.epoch f
  latest : last' = last + 1 → (h'.epoch last').pair = ideal.generated used
  sent : h'.sent = h.sent
  got : ∀ f j, h'.got f j = (h.got f j || decide (f = e ∧ j = i))
  linked : h'.Linked c last'

omit [DecidableEq P] in
lemma deliver_got (f j : Nat) : (h.deliver e i).got f j = (h.got f j || decide (f = e ∧ j = i)) := by
  show Function.update h.got e (Function.update (h.got e) i true) f j = _
  by_cases epoch : f = e
  · rw [epoch, update_self, Function.update_apply]
    by_cases counter : j = i <;> simp [counter]
  · rw [update_of_ne epoch]
    simp [epoch]

omit [DecidableEq P] in
lemma grows_of_received {used t : Nat} (received : History.Received c h t e i (ideal.generated used) t' h')
    (linked : h.Linked c last) (reach : t ≤ last ∧ last ≤ t + 1) (below : e ≤ last)
    (new : ∀ f, f ≤ last → (ideal.generated used).publicKey ≠ h.key f) :
    ∃ last', Grows ideal used h t e i last t' last' h' := by
  cases received with
  | known older =>
    refine ⟨last, ⟨le_refl _, older⟩, rfl, reach, ⟨le_refl _, .inl rfl⟩, fun _ _ => rfl, ?_, rfl,
      deliver_got, ⟨linked.follows, linked.distinct⟩⟩
    intro grown
    omega
  | stepped shared newest agreed agreed' =>
    have here : last = t + 1 := by omega
    subst here
    have linked' := linked.extend new agreed agreed'
    refine ⟨t + 2, ⟨by omega, by omega⟩, by omega, ⟨le_refl _, by omega⟩,
      ⟨by omega, .inr ⟨rfl, newest, rfl⟩⟩, ?_, ?_, rfl, deliver_got,
      ⟨linked'.follows, linked'.distinct⟩⟩
    · intro f le
      exact update_of_ne (by omega) _ _
    · intro _
      exact congrArg Epoch.pair (update_self (t + 2) _ h.epoch)

omit [DecidableEq P] in
lemma Established.advance (est : setup.Established base h top last tags w)
    (grows : Grows ideal w.used h (top r) e i last t' last' h') (low : 1 ≤ e)
    (parity : e % 2 ≠ r.parity) (counter : i < h.sent e) {idx : Nat} {sent}
    (located : tags[idx]? = some (e, i)) (located' : w.log[idx]? = some sent)
    {sess} (inSession : h'.InSession c (setup.party base r) t' sess)
    {endpoint : SignalSender P S} (ident : endpoint.identity = (w.endpoint r).identity)
    (record : endpoint.records (setup.address r) = some sess) :
    setup.Established base h' (Function.update top r t') last' tags
      { endpoint := Function.update w.endpoint r endpoint
        log := w.log.set idx { sent with delivered := true }
        used := w.used + 1 } := by
  obtain ⟨⟨topLe, eLt⟩, sameParity, reach, ⟨lastLe, moves⟩, epoch, latest, sentEq, got, linked⟩ := grows
  obtain ⟨low', high'⟩ := est.reach r
  have key : ∀ f, f ≤ last → h'.key f = h.key f := fun f le =>
    congrArg (fun epoch : Epoch P S => epoch.pair.publicKey) (epoch f le)
  have oneParity := est.parity r
  have others : ∀ side, side ≠ r → top side ≤ last' ∧ last' ≤ top side + 1 ∧
      ∀ {sess : Session P S}, h.InSession c (setup.party base side) (top side) sess →
        h'.InSession c (setup.party base side) (top side) sess := by
    intro side ne
    have odd := parity_ne ne
    have two := est.parity side
    obtain ⟨low'', high''⟩ := est.reach side
    refine ⟨by omega, by omega, ?_⟩
    intro sess inSession
    apply inSession.frame
    · exact fun f le => epoch f (by omega)
    · exact fun f _ _ => congrFun sentEq f
    · exact le_of_eq (congrFun sentEq _).symm
    · intro f _ parity'
      funext j
      rw [got, decide_eq_false (by omega), Bool.or_false]
  have update : ∀ side, Function.update top r t' side = if side = r then t' else top side :=
    fun side => Function.update_apply _ _ _ _
  have endpoints : ∀ side, Function.update w.endpoint r endpoint side =
      if side = r then endpoint else w.endpoint side := fun side => Function.update_apply _ _ _ _
  constructor
  · intro side
    rw [update]
    split
    · rename_i here
      rw [here]
      omega
    · exact est.parity side
  · intro side
    rw [update]
    split
    · exact reach
    · rename_i alt
      exact ⟨(others side alt).1, (others side alt).2.1⟩
  · exact linked
  · intro f le
    by_cases older : f ≤ last
    · obtain ⟨n, below, same⟩ := est.generated f older
      exact ⟨n, lt_succ_of_lt below, (congrArg Epoch.pair (epoch f older)).trans same⟩
    · have here : f = last' := by omega
      refine ⟨w.used, lt_succ_self _, ?_⟩
      rw [here]
      exact latest (by omega)
  · obtain ⟨n, below, same⟩ := est.base'
    exact ⟨n, lt_succ_of_lt below, same⟩
  · intro f low'' le same
    by_cases older : f ≤ last
    · rw [key f older] at same
      exact est.baseNew f low'' older same
    · have here : f = last' := by omega
      obtain ⟨n, below, generated⟩ := est.base'
      have pair : h'.key f = (ideal.generated w.used).publicKey := by
        rw [here]
        exact congrArg KeyPair.publicKey (latest (by omega))
      rw [pair, generated] at same
      have equal := ideal.distinct _ _ same
      omega
  · intro f low'' below
    rw [sentEq]
    by_cases older : f < last
    · exact est.busy f low'' older
    · have here : f = e := by omega
      rw [here]
      omega
  · intro f above
    rw [sentEq]
    exact est.unsent f (by omega)
  · intro f j known
    rw [sentEq]
    rw [got, Bool.or_eq_true, decide_eq_true_eq] at known
    rcases known with pre | ⟨rfl, rfl⟩
    · exact est.gotSent f j pre
    · exact counter
  · intro side f parity' above j
    rw [update] at above
    have notHere : ¬(f = e ∧ j = i) := by
      rintro ⟨rfl, rfl⟩
      by_cases here : side = r
      · rw [if_pos here] at above
        omega
      · have odd := parity_ne here
        omega
    rw [got, decide_eq_false notHere, Bool.or_false]
    apply est.unknown side f parity'
    split at above
    · rename_i here
      rw [here]
      omega
    · exact above
  · intro side
    dsimp only
    rw [endpoints]
    split
    · rename_i here
      rw [here, ident]
      exact est.identity r
    · exact est.identity side
  · intro side some'
    rw [update] at some' ⊢
    dsimp only
    rw [endpoints]
    by_cases here : side = r
    · subst here
      rw [if_pos rfl, if_pos rfl]
      exact ⟨sess, record, inSession⟩
    · rw [if_neg here] at some'
      rw [if_neg here, if_neg here]
      obtain ⟨session', record', inSession'⟩ := est.session side some'
      exact ⟨session', record', (others side here).2.2 inSession'⟩
  · intro zero
    rw [update] at zero
    dsimp only
    rw [endpoints]
    by_cases here : Side.bob = r
    · rw [if_pos here] at zero
      omega
    · rw [if_neg here] at zero ⊢
      obtain ⟨gone, opens⟩ := est.waiting zero
      refine ⟨gone, ?_⟩
      intro prekey matching
      obtain ⟨opened, made, inSession'⟩ := opens prekey matching
      have kept := (others .bob here).2.2 (zero.symm ▸ inSession')
      rw [zero] at kept
      exact ⟨opened, made, kept⟩
  · rw [length_set]
    exact est.length
  · exact est.distinct
  · intro index' tag entry tagAt entryAt
    have indexLt : idx < tags.length := (List.getElem?_eq_some_iff.mp located).1
    have indexLt' : index' < tags.length := (List.getElem?_eq_some_iff.mp tagAt).1
    have prev : ∀ f, h'.previous f = h.previous f := by
      intro f
      rw [History.previous, History.previous, sentEq]
    have frame : ∀ {tag : Nat × Nat} {entry : Sent P}, setup.Honest base h tag entry →
        tag ≠ (e, i) → setup.Honest base h' tag entry := by
      intro tag entry honest alt
      have reached : tag.1 ≤ last := by
        by_contra above
        have none' := est.unsent tag.1 (by omega)
        have counter := honest.counter
        omega
      apply honest.frame (epoch tag.1 reached) (prev tag.1) (le_of_eq (congrFun sentEq _).symm)
      have apart : ¬(tag.1 = e ∧ tag.2 = i) := fun both => alt (Prod.ext both.1 both.2)
      rw [got, decide_eq_false apart, Bool.or_false]
    by_cases here : index' = idx
    · subst here
      rw [located] at tagAt
      cases tagAt
      have below := (List.getElem?_eq_some_iff.mp located').1
      rw [List.getElem?_set_self below] at entryAt
      cases entryAt
      have honest := est.honest index' (e, i) sent located located'
      have reached : e ≤ last := by
        by_contra above
        have none' := est.unsent e (by omega)
        omega
      constructor
      · exact low
      · exact honest.parity
      · show i < h'.sent e
        rw [sentEq]
        exact counter
      · show true = h'.got e i
        rw [got, decide_eq_true ⟨rfl, rfl⟩, Bool.or_true]
      · have body : ∀ sender receiver plain, h'.body c sender receiver e i plain =
            h.body c sender receiver e i plain := by
          intro sender receiver plain
          rw [History.body, History.body, epoch e reached, prev, key e reached]
        dsimp only
        rw [body]
        exact honest.envelope
    · rw [List.getElem?_set_ne (Ne.symm here)] at entryAt
      apply frame (est.honest index' tag entry tagAt entryAt)
      rintro rfl
      exact here ((List.getElem?_inj indexLt' est.distinct).mp (tagAt.trans located.symm))

end
end Setup
end Clawdi.Signal
