import Clawdi.Signal.Established

namespace Clawdi.Signal
open Function (update update_idem update_of_ne update_self)
open Mutation Transition Option
variable {P S : Type} {c : Crypto P S} {ideal : Ideal c}
namespace Setup
variable {setup : Setup ideal} {base : P} {h : History P S} {top : Side → Nat} {last : Nat}
  {tags : List (Nat × Nat)} {w : World P S}

lemma forgetPreKey_eq (sender : SignalSender P S) (id : Option Nat) :
    (sender.forgetPreKey id).identity = sender.identity ∧ (sender.forgetPreKey id).records = sender.records := by
  cases id <;> exact ⟨rfl, rfl⟩

variable {after sess : Session P S} {body : WhisperBody P} {envelope : Envelope P}
variable {plain : Bytes} {sender : SignalSender P S}

lemma carries_message {e : Nat} (carries : setup.Carries base e body envelope) :
    envelope.message = some body.message := by
  match envelope with
  | .pkmsg (.error _) => exact carries.elim
  | .msg (.error _) => exact carries.elim
  | .msg (.ok alt) =>
    obtain ⟨_, rfl⟩ := carries
    rfl
  | .pkmsg (.ok prekey) =>
    obtain ⟨_, _, message⟩ := carries
    obtain ⟨_, _, _, _, _, _⟩ := prekey
    cases message
    rfl

lemma other_parity (side : Side) : side.other.parity + side.parity = 1 := by
  cases side <;> rfl

lemma party_other (base : P) (side : Side) : (setup.party base side).own = (setup.party base side.other).peer ∧
      (setup.party base side).peer = (setup.party base side.other).own := by
  cases side <;> exact ⟨rfl, rfl⟩

lemma party_base (base : P) (side : Side) : (setup.party base side).base = base := by
  cases side <;> rfl

variable [DecidableEq P]

omit [DecidableEq P] in
lemma setRecord_self (sender : SignalSender P S) (address : String) (sess : Session P S) :
    (sender.setRecord address sess).records address = some sess := update_self _ _ _

lemma decryptFrom_session {address fresh} {e : Nat}
    (carries : setup.Carries base e body envelope) (record : sender.records address = some sess)
    (same : sess.baseKey = base) {own} (ident : sender.identity.publicKey = own)
    (run : decryptRecord c own fresh (.ok body) sess = .ok plain after) :
    ∃ endpoint, sender.decryptFrom c address fresh envelope = (.ok plain, endpoint) ∧
      endpoint.identity = sender.identity ∧ endpoint.records address = some after := by
  match envelope with
  | .pkmsg (.error _) => exact carries.elim
  | .msg (.error _) => exact carries.elim
  | .msg (.ok alt) =>
    obtain ⟨_, rfl⟩ := carries
    refine ⟨sender.setRecord address after, ?_, rfl, setRecord_self _ _ _⟩
    rw [SignalSender.decryptFrom, record]
    dsimp only
    rw [SignalSender.onRecord, ident, run]
  | .pkmsg (.ok prekey) =>
    obtain ⟨_, opens, message⟩ := carries
    obtain ⟨kept, records⟩ := @forgetPreKey_eq P S (sender.setRecord address after) prekey.preKeyId
    refine ⟨(sender.setRecord address after).forgetPreKey prekey.preKeyId, ?_, kept, ?_⟩
    · have known : sender.knownSession address prekey.baseKey = some sess := by
        rw [SignalSender.knownSession, record, opens.base, filter_some, if_pos (decide_eq_true same)]
      rw [SignalSender.decryptFrom, known]
      dsimp only
      rw [SignalSender.decryptRepeated, message, SignalSender.onRecord, ident, run]
    · rw [records]
      exact setRecord_self _ _ _

lemma decryptFrom_first {address fresh} {prekey : PreKeyBody P}
    (message : prekey.message = .ok body) (gone : sender.records address = none)
    (opened : sender.openSession c prekey = .ok sess) {own} (ident : sender.identity.publicKey = own)
    (run : decryptRecord c own fresh (.ok body) sess = .ok plain after) :
    ∃ endpoint, sender.decryptFrom c address fresh (.pkmsg (.ok prekey)) = (.ok plain, endpoint) ∧
      endpoint.identity = sender.identity ∧ endpoint.records address = some after := by
  refine ⟨(sender.forgetPreKey prekey.preKeyId).setRecord address after, ?_,
    (forgetPreKey_eq sender prekey.preKeyId).1, setRecord_self _ _ _⟩
  have known : sender.knownSession address prekey.baseKey = none := by
    rw [SignalSender.knownSession, gone]
    rfl
  rw [SignalSender.decryptFrom, known]
  rw [SignalSender.decryptFirst, opened]
  dsimp only
  rw [message, ident, run]

lemma Established.deliver (est : setup.Established base h top last tags w)
    {idx : Nat} {sent} (located : w.log[idx]? = some sent)
    (fresh : sent.delivered = false) (skips : setup.skips w (.deliver idx) = false) :
    (setup.received w sent).1 = .ok sent.plaintext ∧ ∃ h' top' last', setup.Established base h' top' last' tags
        { endpoint := update w.endpoint sent.sender.other (setup.received w sent).2
          log := w.log.set idx { sent with delivered := true }
          used := w.used + 1 } := by
  have below : idx < tags.length := by
    rw [est.length]
    exact (List.getElem?_eq_some_iff.mp located).1
  obtain ⟨⟨e, i⟩, tagAt⟩ : ∃ tag, tags[idx]? = some tag := ⟨_, List.getElem?_eq_getElem below⟩
  have honest := est.honest idx (e, i) sent tagAt located
  obtain ⟨low, parity, counter, delivered, envelope⟩ := honest
  dsimp only at low parity counter delivered envelope
  have ungot : h.got e i = false := by
    rw [← delivered]
    exact fresh
  obtain ⟨own, peer⟩ := @party_other P S c ideal setup base sent.sender
  rw [own, peer] at envelope
  have odd := other_parity sent.sender
  have topParity := est.parity sent.sender.other
  obtain ⟨topLe, lastLe⟩ := est.reach sent.sender.other
  have reached : e ≤ last := by
    by_contra above
    have none' := est.unsent e (by omega)
    omega
  have new : ∀ f, f ≤ last → (ideal.generated w.used).publicKey ≠ h.key f := by
    intro f le same
    obtain ⟨n, earlier, pair⟩ := est.generated f le
    rw [History.key, pair] at same
    have equal := ideal.distinct _ _ same
    omega
  have agrees : ∃ shared, c.exchange (h.key e) (ideal.generated w.used).privateKey = some shared ∧
        c.exchange (ideal.generated w.used).publicKey (h.epoch e).pair.privateKey =
          some shared := by
    obtain ⟨n, _, pair⟩ := est.generated e reached
    rw [History.key, pair]
    exact ideal.agrees n w.used
  have message := carries_message envelope
  rw [Setup.skips, located, any_some, message, any_some] at skips
  have decrypts : ∀ sess : Session P S,
      h.InSession c (setup.party base sent.sender.other) (top sent.sender.other) sess →
      Session.skips (some sess) (h.body c (setup.party base sent.sender.other).peer
        (setup.party base sent.sender.other).own e i sent.plaintext).message = false →
      ∃ after t' h', decryptRecord c (setup.party base sent.sender.other).own
          (ideal.generated w.used) (.ok (h.body c (setup.party base sent.sender.other).peer
            (setup.party base sent.sender.other).own e i sent.plaintext)) sess =
          .ok sent.plaintext after ∧
        h'.InSession c (setup.party base sent.sender.other) t' after ∧
          History.Received c h (top sent.sender.other) e i (ideal.generated w.used) t' h' := by
    intro sess inSession skips
    apply inSession.decrypt ideal.decrypts est.linked reached topLe lastLe
    · rw [party_base]
      exact est.baseNew
    · exact est.busy
    · exact est.unsent
    · exact low
    · omega
    · omega
    · exact counter
    · exact ungot
    · exact est.unknown sent.sender.other e (by omega)
    · exact skips
    · exact new
    · exact agrees
  -- what the endpoint makes of the envelope, with a record and without one
  have opened : ∃ sess endpoint t' h', setup.received w sent = (.ok sent.plaintext, endpoint) ∧
      endpoint.identity = (w.endpoint sent.sender.other).identity ∧
      endpoint.records (setup.address sent.sender.other) = some sess ∧
      h'.InSession c (setup.party base sent.sender.other) t' sess ∧
      History.Received c h (top sent.sender.other) e i (ideal.generated w.used) t' h' := by
    by_cases first : top sent.sender.other = 0
    · have receiver : sent.sender.other = .bob := by
        cases here : sent.sender.other with
        | bob => rfl
        | alice =>
          rw [here] at first topParity
          rw [first] at topParity
          cases topParity
      rw [receiver] at first
      obtain ⟨gone, opens⟩ := est.waiting first
      rw [receiver] at decrypts envelope skips ⊢
      rw [gone] at skips
      have one : e = 1 := by
        rw [receiver] at lastLe
        omega
      obtain ⟨prekey, carried⟩ : ∃ prekey, sent.envelope = .pkmsg (.ok prekey) := by
        cases form : sent.envelope with
        | pkmsg ciphertext =>
          cases ciphertext with
          | error error =>
            rw [form] at envelope
            exact envelope.elim
          | ok prekey => exact ⟨prekey, rfl⟩
        | msg ciphertext =>
          rw [form] at envelope
          cases ciphertext with
          | error error => exact envelope.elim
          | ok body => exact absurd one envelope.1
      rw [carried] at envelope
      obtain ⟨_, matching, same⟩ := envelope
      obtain ⟨sess, made, inSession⟩ := opens prekey matching
      have empty : ∀ key, sess.chains key = none := by
        intro key
        apply inSession.absent
        intro f low' high'
        omega
      rw [← first] at inSession
      obtain ⟨after, t', h', run, kept, received⟩ := decrypts sess inSession (by
        rw [Session.skips, bind_some, empty, bind_some, empty]
        exact skips)
      obtain ⟨endpoint, res, ident, records⟩ := decryptFrom_first same gone made (est.identity .bob) run
      refine ⟨after, endpoint, t', h', ?_, ident, records, kept, received⟩
      rw [Setup.received, receiver, carried]
      exact res
    · obtain ⟨sess, record, inSession⟩ := est.session sent.sender.other first
      rw [record] at skips
      obtain ⟨after, t', h', run, kept, received⟩ := decrypts sess inSession skips
      obtain ⟨endpoint, res, ident, records⟩ := decryptFrom_session envelope record
        (inSession.base.trans (party_base base _)) (est.identity _) run
      exact ⟨after, endpoint, t', h', res, ident, records, kept, received⟩
  obtain ⟨sess, endpoint, t', h', res, ident, record, inSession, received⟩ := opened
  rw [res]
  refine ⟨rfl, ?_⟩
  obtain ⟨last', grows⟩ := grows_of_received received est.linked ⟨topLe, lastLe⟩ reached new
  exact ⟨h', _, last', est.advance grows low (by omega) counter tagAt located inSession ident record⟩

omit [DecidableEq P] in
lemma agreement_ok {publicKey privateKey shared} (agreed : c.exchange publicKey privateKey = some shared) :
    agreement c publicKey privateKey = .ok shared := by
  rw [agreement, agreed]

omit [DecidableEq P] in
lemma oneTime_agrees (setup : Setup ideal) : ∃ shared, (setup.preKeys.head?.mapM fun key =>
        agreement c key.publicKey (ideal.generated setup.first).privateKey) = .ok shared ∧
      ∃ pair, setup.preKeyId.elim (pair = none)
          (fun id => ∃ stored, setup.bob.preKeys id = some stored ∧ pair = some stored) ∧ (pair.mapM fun pair =>
          agreement c (ideal.generated setup.first).publicKey pair.privateKey) = .ok shared := by
  cases first : setup.preKeys.head? with
  | none =>
    refine ⟨none, rfl, none, ?_, rfl⟩
    rw [preKeyId, first]
    rfl
  | some key =>
    obtain ⟨n, stored, publicKey⟩ := setup.oneTime key (List.mem_of_head? first)
    obtain ⟨shared, one, two⟩ := ideal.agrees n setup.first
    refine ⟨some shared, ?_, some (ideal.generated n), ?_, ?_⟩
    · rw [mapM_some, publicKey, agreement_ok one]
      rfl
    · rw [preKeyId, first]
      exact ⟨_, stored, rfl⟩
    · rw [mapM_some, agreement_ok two]
      rfl

def opening (c : Crypto P S) (ideal : Ideal c) (setup : Setup ideal) (master shared : Digest) : History P S :=
  { epoch := fun e =>
      if e = 0 then { pair := ideal.generated setup.signedIndex, root := master, start := zeros }
      else
        { pair := ideal.generated (setup.first + 1), root := (rootStep c shared master).1
          start := (rootStep c shared master).2.1 }
    sent := fun _ => 0, got := fun _ _ => false }

def aliceOpening (setup : Setup ideal) (master : Digest) : Session P S :=
  { registrationId := setup.bob.registrationId, localRegistrationId := setup.alice.registrationId
    rootKey := master, ephemeralKeyPair := ideal.generated (setup.first + 1)
    lastRemoteEphemeralKey := (ideal.generated setup.signedIndex).publicKey, previousCounter := 0
    remoteIdentityKey := setup.bob.identity.publicKey
    baseKey := (ideal.generated setup.first).publicKey, chains := fun _ => none
    pendingPreKey := some
      { signedKeyId := setup.signedPreKeyId, baseKey := (ideal.generated setup.first).publicKey
        preKeyId := setup.preKeyId } }

def bobOpening (setup : Setup ideal) (master : Digest) (registrationId : Nat) : Session P S :=
  { registrationId := registrationId, localRegistrationId := setup.bob.registrationId
    rootKey := master, ephemeralKeyPair := ideal.generated setup.signedIndex
    lastRemoteEphemeralKey := (ideal.generated setup.first).publicKey, previousCounter := 0
    remoteIdentityKey := setup.alice.identity.publicKey
    baseKey := (ideal.generated setup.first).publicKey, chains := fun _ => none
    pendingPreKey := none }

/-- How `newSession` ends: the session that its first ratchet leaves, or the error. -/
def finished : EStateM.Result String (Session P S) Unit → Except String (Session P S)
  | .ok _ opened => .ok opened
  | .error error _ => .error error

lemma opening_agrees (setup : Setup ideal) : ∃ master shared,
      newSession c setup.alice.identity setup.alice.registrationId setup.bundle
          (ideal.generated setup.first) (ideal.generated (setup.first + 1)) =
        .ok ((aliceOpening setup master).ratcheted c (ideal.generated setup.signedIndex).publicKey true shared) ∧
      (c.exchange (ideal.generated setup.signedIndex).publicKey
          (ideal.generated (setup.first + 1)).privateKey = some shared ∧
        c.exchange (ideal.generated (setup.first + 1)).publicKey
          (ideal.generated setup.signedIndex).privateKey = some shared) ∧
      ∀ prekey, setup.Opens (ideal.generated setup.first).publicKey prekey →
        setup.bob.openSession c prekey = .ok (bobOpening setup master prekey.registrationId) := by
  obtain ⟨x1, one, one'⟩ := ideal.agrees setup.signedIndex setup.aliceIndex
  obtain ⟨x2, two, two'⟩ := ideal.agrees setup.bobIndex setup.first
  obtain ⟨x3, three, three'⟩ := ideal.agrees setup.signedIndex setup.first
  obtain ⟨x4, four, pair, stored, four'⟩ := oneTime_agrees setup
  obtain ⟨x5, five, five'⟩ := ideal.agrees setup.signedIndex (setup.first + 1)
  refine ⟨masterKey c x1 x2 x3 x4, x5, ?_, ⟨five, five'⟩, ?_⟩
  · have first : newSession c setup.alice.identity setup.alice.registrationId setup.bundle
        (ideal.generated setup.first) (ideal.generated (setup.first + 1)) =
        finished (calculateSendingRatchet c (ideal.generated setup.signedIndex).publicKey
          (aliceOpening setup (masterKey c x1 x2 x3 x4))) := by
      unfold newSession
      dsimp only [bundle]
      rw [setup.aliceIdentity, setup.bobIdentity, agreement_ok one, agreement_ok two, agreement_ok three, four]
      show finished (calculateSendingRatchet c _ _) = _
      rw [aliceOpening, setup.bobIdentity]
      rfl
    rw [first, calculateSendingRatchet, calculateRatchet_run five rfl]
    rfl
  · intro prekey opens
    have init : initResponder c setup.bob.identity pair (ideal.generated setup.signedIndex)
        prekey.identityKey prekey.baseKey prekey.registrationId setup.bob.registrationId =
        .ok (bobOpening setup (masterKey c x1 x2 x3 x4) prekey.registrationId) := by
      unfold initResponder
      rw [opens.base, opens.identity, identityAgreement, setup.aliceIdentity, setup.bobIdentity,
        agreement_ok two', agreement_ok one', agreement_ok three', four', bobOpening,
        setup.aliceIdentity]
      rfl
    rw [SignalSender.openSession, opens.signed, setup.signedPreKey, opens.preKey]
    cases id : setup.preKeyId with
    | none =>
      rw [id] at stored
      rw [show pair = none from stored] at init
      exact init
    | some id' =>
      rw [id] at stored
      obtain ⟨kept, hit, same⟩ := stored
      rw [same] at init
      dsimp only
      rw [hit]
      exact init

lemma start_established (setup : Setup ideal) :
    ∃ sess, newSession c setup.alice.identity setup.alice.registrationId setup.bundle
        (ideal.generated setup.first) (ideal.generated (setup.first + 1)) = .ok sess ∧
      ∃ h, setup.Established (ideal.generated setup.first).publicKey h Side.parity 1 []
        { endpoint := update setup.start.endpoint .alice
            (setup.alice.setRecord (setup.address .alice) sess)
          log := [], used := setup.first + 2 } := by
  have earlier := setup.earlier
  obtain ⟨master, shared, made, ⟨agreed, agreed'⟩, opens⟩ := opening_agrees setup
  refine ⟨_, made, opening c ideal setup master shared, ?_⟩
  have key : ∀ e, (opening c ideal setup master shared).key e =
      if e = 0 then (ideal.generated setup.signedIndex).publicKey
      else (ideal.generated (setup.first + 1)).publicKey := by
    intro e
    rw [History.key, opening]
    dsimp only
    split <;> rfl
  constructor
  · intro side
    cases side <;> rfl
  · intro side
    cases side <;> decide
  · constructor
    · intro e below
      have zero : e = 0 := by omega
      subst zero
      exact ⟨shared, agreed, agreed', rfl, rfl⟩
    · intro e f le le' same
      rw [key, key] at same
      by_cases first : e = 0
      · by_cases snd : f = 0
        · omega
        · rw [if_pos first, if_neg snd] at same
          have equal := ideal.distinct _ _ same
          omega
      · by_cases snd : f = 0
        · rw [if_neg first, if_pos snd] at same
          have equal := ideal.distinct _ _ same
          omega
        · omega
  · intro e le
    by_cases zero : e = 0
    · subst zero
      exact ⟨setup.signedIndex, by dsimp only; omega, rfl⟩
    · exact ⟨setup.first + 1, by dsimp only; omega, congrArg Epoch.pair (if_neg zero)⟩
  · exact ⟨setup.first, by dsimp only; omega, rfl⟩
  · intro e low _ same
    rw [key, if_neg (by omega)] at same
    have equal := ideal.distinct _ _ same
    omega
  · intro e low below
    omega
  · exact fun _ _ => rfl
  · intro e i known
    cases known
  · exact fun _ _ _ _ _ => rfl
  · intro side
    cases side <;> rfl
  · intro side some'
    cases side with
    | bob => exact absurd rfl some'
    | alice =>
      refine ⟨_, setRecord_self _ _ _, ?_⟩
      constructor
      · rfl
      · rfl
      · rfl
      · rfl
      · rfl
      · rfl
      · rfl
      · intro _
        exact update_self _ _ _
      · intro e low high
        have high' : e < 1 := high
        omega
      · intro alt there
        by_cases here : alt = (ideal.generated (setup.first + 1)).publicKey
        · exact ⟨1, Nat.le_refl _, Nat.le_refl _, .inl rfl, here⟩
        · exact absurd (update_of_ne here _ _) there
  · intro _
    refine ⟨setup.bobFresh, ?_⟩
    intro prekey matching
    refine ⟨_, opens prekey matching, ?_⟩
    constructor
    · rfl
    · rfl
    · rfl
    · rfl
    · rfl
    · rfl
    · rfl
    · exact fun some' => absurd rfl some'
    · intro e low high
      omega
    · exact fun _ there => absurd rfl there
  · rfl
  · exact List.nodup_nil
  · intro idx tag sent located
    cases located

def Running (setup : Setup ideal) (w : World P S) : Prop :=
  w = setup.start ∨ ∃ base h top last tags, setup.Established base h top last tags w

lemma encrypted_run {side bundle base' ratchet} (record : sender.records (setup.address side) = some sess)
    (run : encryptRecord c sender.identity.publicKey plain sess = .ok envelope after) :
    sender.encryptFor c (setup.address side) bundle base' ratchet plain =
      (.ok envelope, sender.setRecord (setup.address side) after) := by
  rw [SignalSender.encryptFor, record]
  dsimp only
  rw [SignalSender.onRecord, run]

lemma encrypt_running (est : setup.Established base h top last tags w) {side}
    (ready : setup.ready w side = true) (plain : Bytes) :
    (∃ envelope, (setup.encrypted w side plain).1 = .ok envelope) ∧
      setup.Running (setup.step w (.encrypt side plain)) := by
  have some' : top side ≠ 0 := by
    intro zero
    cases side with
    | alice =>
      have parity := est.parity .alice
      rw [zero] at parity
      cases parity
    | bob =>
      obtain ⟨gone, _⟩ := est.waiting zero
      rw [Setup.ready, gone] at ready
      cases ready
  obtain ⟨sess, record, _⟩ := est.session side some'
  obtain ⟨envelope, after, run, kept⟩ := est.encrypt some' record plain
  have res : setup.encrypted w side plain = (.ok envelope, _) := encrypted_run record run
  rw [step, if_pos ready, res]
  exact ⟨⟨envelope, rfl⟩, .inr ⟨_, _, _, _, _, kept (w.used + 2) (by omega)⟩⟩

omit [DecidableEq P] in
lemma setRecord_idem (sender : SignalSender P S) (address : String) (one two : Session P S) :
    (sender.setRecord address one).setRecord address two = sender.setRecord address two := by
  rw [SignalSender.setRecord, SignalSender.setRecord, SignalSender.setRecord]
  simp only [update_idem]

lemma encrypt_start (setup : Setup ideal) (plain : Bytes) :
    (∃ envelope, (setup.encrypted setup.start .alice plain).1 = .ok envelope) ∧
      setup.Running (setup.step setup.start (.encrypt .alice plain)) := by
  obtain ⟨sess, made, h, est⟩ := start_established setup
  have noted : (update setup.start.endpoint Side.alice
      (setup.alice.setRecord (setup.address .alice) sess) .alice).records (setup.address .alice) =
      some sess := by
    exact setRecord_self _ _ _
  have some' : Side.parity .alice ≠ 0 := by decide
  obtain ⟨envelope, after, run, kept⟩ := est.encrypt some' noted plain
  have ident : ((update setup.start.endpoint Side.alice
      (setup.alice.setRecord (setup.address .alice) sess)) .alice).identity =
      setup.alice.identity := by
    rfl
  rw [ident] at run
  have res : setup.encrypted setup.start .alice plain =
      (.ok envelope, setup.alice.setRecord (setup.address .alice) after) := by
    have gone : setup.alice.records (setup.address .alice) = none := setup.aliceFresh
    show setup.alice.encryptFor c _ _ (ideal.generated setup.first) (ideal.generated (setup.first + 1)) plain = _
    rw [SignalSender.encryptFor, gone]
    rw [made]
    dsimp only
    rw [SignalSender.onRecord, run]
  refine ⟨⟨envelope, by rw [res]⟩, ?_⟩
  rw [step, if_pos (show setup.ready setup.start .alice = true from rfl), res]
  have last := kept (setup.first + 2) (Nat.le_refl _)
  dsimp only at last
  rw [update_self, update_idem, setRecord_idem] at last
  exact .inr ⟨_, _, _, _, _, last⟩

lemma running_step (setup : Setup ideal) (w : World P S) (act : Action)
    (runs : setup.Running w) (skips : setup.skips w act = false) :
    setup.Running (setup.step w act) ∧ setup.Agrees w act := by
  cases act with
  | encrypt side plain =>
    by_cases ready : setup.ready w side = true
    · have both : (∃ envelope, (setup.encrypted w side plain).1 = .ok envelope) ∧
          setup.Running (setup.step w (.encrypt side plain)) := by
        rcases runs with rfl | ⟨base, h, top, last, tags, est⟩
        · cases side with
          | alice => exact encrypt_start setup plain
          | bob =>
            have gone : setup.bob.records (setup.address .bob) = none := setup.bobFresh
            have isSome : (setup.bob.records (setup.address .bob)).isSome = true := ready
            rw [gone] at isSome
            cases isSome
        · exact encrypt_running est ready plain
      exact ⟨both.2, fun _ => both.1⟩
    · constructor
      · rw [step, if_neg ready]
        exact runs
      · exact fun isReady => absurd isReady ready
  | deliver idx =>
    rw [step, Agrees]
    cases located : w.log[idx]? with
    | none =>
      refine ⟨runs, ?_⟩
      intro sent there
      cases there
    | some sent =>
      dsimp only
      by_cases again : sent.delivered = true
      · rw [if_pos again]
        refine ⟨runs, ?_⟩
        intro alt same fresh
        cases same
        rw [again] at fresh
        cases fresh
      · rw [if_neg again]
        rcases runs with rfl | ⟨base, h, top, last, tags, est⟩
        · cases located
        · obtain ⟨res, h', top', last', kept⟩ :=
            est.deliver located (Bool.eq_false_of_not_eq_true again) skips
          refine ⟨.inr ⟨_, _, _, _, _, kept⟩, ?_⟩
          intro alt same _
          cases same
          exact res

/-- As long as no chain skips 2000 counters, each delivered envelope decrypts to what was encrypted. -/
theorem session_agreement (setup : Setup ideal) (acts : List Action)
    (near : Always setup.step (fun w act => setup.skips w act = false) setup.start acts) :
    Always setup.step setup.Agrees setup.start acts := by
  have keeps : ∀ w act, setup.Running w → setup.skips w act = false →
      setup.Running (setup.step w act) :=
    fun w act runs skips => (running_step setup w act runs skips).1
  have concludes : ∀ w act, setup.Running w → setup.skips w act = false →
      setup.Agrees w act :=
    fun w act runs skips => (running_step setup w act runs skips).2
  exact Always.strengthen keeps concludes (.inl rfl) near

end Setup

def openDigest (n : Nat) : Digest :=
  ⟨(List.range 32).map fun i => UInt8.ofNat (n + i), by simp⟩

def openMask (key : Bytes) (text : Bytes) : Bytes := text.map (· ^^^ key.headD 0)

/-- Keys, messages and vectors all count in these, but nothing is kept secret. -/
def openCrypto : Crypto Nat Nat where
  prefixed key := [5, UInt8.ofNat key]
  exchange publicKey privateKey := some (openDigest ((publicKey + 1) * (privateKey + 1)))
  hmac key text := openDigest ((key ++ 255 :: text).foldl (fun sum byte => (sum * 31 + byte.toNat) % 65521) 1)
  aesCbcEncrypt key plain iv := openMask (iv.take 1) (openMask key plain)
  aesCbcDecrypt key ciphertext iv := some (openMask key (openMask (iv.take 1) ciphertext))

lemma openMask_openMask (key text : Bytes) : openMask key (openMask key text) = text := by
  simp only [openMask, List.map_map, Function.comp_def, UInt8.xor_assoc, UInt8.xor_self, UInt8.xor_zero, List.map_id_fun', id]

def openIdeal : Ideal openCrypto where
  generated n := ⟨n, n⟩
  distinct _ _ same := same
  agrees m n := ⟨_, rfl, by simp only [openCrypto, Nat.mul_comm]⟩
  decrypts key plain iv := by simp only [openCrypto, openMask_openMask]

def openSender (idx : Nat) : SignalSender Nat Nat :=
  { registrationId := idx, identity := ⟨idx, idx⟩
    signedPreKeys := fun id => if id = 1 then some ⟨2, 2⟩ else none
    preKeys := fun id => if id = 7 then some ⟨3, 3⟩ else none, records := fun _ => none }

def openSetup : Setup openIdeal where
  alice := openSender 0
  bob := openSender 1
  aliceName := "alice.0"
  bobName := "bob.0"
  first := 4
  signedPreKeyId := 1
  preKeys := [⟨7, 3⟩]
  signedIndex := 2
  aliceIndex := 0
  bobIndex := 1
  earlier := by decide
  aliceIdentity := rfl
  bobIdentity := rfl
  signedPreKey := rfl
  oneTime := by
    intro key mem
    rw [List.mem_singleton.mp mem]
    exact ⟨3, rfl, rfl⟩
  aliceFresh := rfl
  bobFresh := rfl

def crossing : List Action :=
  [.encrypt .alice [1], .encrypt .alice [2], .deliver 1, .encrypt .bob [3], .deliver 2,
    .encrypt .alice [4], .deliver 3, .deliver 0]

theorem session_agreement_crossing : Always openSetup.step openSetup.Agrees openSetup.start crossing :=
  Setup.session_agreement openSetup crossing (by decide +kernel)

end Clawdi.Signal
