import Clawdi.Signal.Ratchet

namespace Clawdi.Signal
open Function (update update_eq_self update_idem update_of_ne update_self)
open Mutation
variable {P S : Type} [DecidableEq P]

def Chain.Refuses (chain : Chain) (counter : Int) : Prop :=
  chain.chainType = .sending ∨ chain.Unreachable counter ∨
    counter ≤ chain.counter ∧ chain.messageKeys counter = none

def Session.RefusesStep (c : Crypto P S) (sess : Session P S) (rkey : P) (previousCounter : Int) : Prop :=
  match sess.chains sess.lastRemoteEphemeralKey with
  | none => c.exchange rkey sess.ephemeralKeyPair.privateKey = none
  | some prev =>
    prev.Unreachable previousCounter ∨ c.exchange rkey sess.ephemeralKeyPair.privateKey = none ∧
        prev.key = none ∧ previousCounter ≤ prev.counter

def Session.RefusesEarly (c : Crypto P S) (sess : Session P S) : Except String (WhisperBody P) → Prop
  | .error _ => True
  | .ok body =>
    match sess.chains body.message.ephemeralKey with
    | some chain => chain.Refuses body.message.counter
    | none => sess.RefusesStep c body.message.ephemeralKey body.message.previousCounter

def SignalSender.RefusesEarly (c : Crypto P S) (sender : SignalSender P S) (address : String) : Envelope P → Prop
  | .pkmsg (.error _) => True
  | .pkmsg (.ok prekey) => ∀ sess ∈ sender.knownSession address prekey.baseKey, sess.RefusesEarly c prekey.message
  | .msg ciphertext => ∀ sess ∈ sender.records address, sess.RefusesEarly c ciphertext

section
variable {c : Crypto P S} {sess : Session P S} {key : P} {chain : Chain} {counter : Int}

lemma takeMessageKey_cases (present : sess.chains key = some chain) :
    (∃ error, takeMessageKey c key chain counter sess = .error error sess ∧
      (chain.Unreachable counter ∨ counter ≤ chain.counter ∧ chain.messageKeys counter = none)) ∨
    (¬chain.Unreachable counter ∧ ¬(counter ≤ chain.counter ∧ chain.messageKeys counter = none) ∧
      ∃ messageKey after, takeMessageKey c key chain counter sess =
        .ok messageKey (sess.withChain key (some after)) ∧ after ≠ chain) := by
  rw [takeMessageKey]
  cases made : fillMessageKeys c chain counter with
  | error error => exact .inl ⟨error, rfl, .inl (fill_raises made)⟩
  | ok filled =>
    have reachable := fill_reachable made
    dsimp only [raising]
    rw [pure_bind]
    cases stored : filled.messageKeys counter with
    | none =>
      left
      rcases fill_cases made with ⟨rfl, below⟩ | ⟨_, _, _, there, _⟩
      · refine ⟨"signal: message key unavailable", ?_, .inr ⟨below, stored⟩⟩
        have same : sess.withChain key (some filled) = sess := by rw [Session.withChain, ← present, update_eq_self]
        exact congrArg (EStateM.Result.error "signal: message key unavailable") same
      · exact absurd stored there
    | some messageKey =>
      right
      refine ⟨reachable, ?_, messageKey,
        { filled with messageKeys := update filled.messageKeys counter none }, ?_, ?_⟩
      · rintro ⟨below, missing⟩
        rcases fill_cases made with ⟨rfl, _⟩ | ⟨_, above, _⟩
        · rw [stored] at missing
          cases missing
        · omega
      · show EStateM.Result.ok messageKey _ = _
        rw [Session.withChain]
        simp only [update_idem]
      · intro same
        rcases fill_cases made with ⟨rfl, _⟩ | ⟨_, above, reached, _⟩
        · have gone := congrArg (fun chain => chain.messageKeys counter) same
          simp only [update_self] at gone
          rw [stored] at gone
          cases gone
        · have moved := congrArg Chain.counter same
          simp only at moved
          omega

omit [DecidableEq P] in
lemma openBody_left {localIdentity body messageKey sess} :
    (left (openBody c localIdentity body messageKey sess)).chains = sess.chains ∧
      (left (openBody c localIdentity body messageKey sess)).ephemeralKeyPair = sess.ephemeralKeyPair := by
  unfold openBody
  rw [get_bind]
  split
  · exact ⟨rfl, rfl⟩
  · rw [modify_bind]
    cases c.aesCbcDecrypt (messageSecrets c messageKey).1.val body.message.ciphertext
        ((messageSecrets c messageKey).2.2.val.take 16) <;> exact ⟨rfl, rfl⟩

lemma decryptOnChain_known {localIdentity} {body : WhisperBody P} {error}
    {after} (present : sess.chains body.message.ephemeralKey = some chain)
    (raised : decryptOnChain c localIdentity body sess = .error error after) :
    after = sess ↔ chain.Refuses body.message.counter := by
  rw [decryptOnChain, get_bind, present] at raised
  dsimp only at raised
  by_cases sending : chain.chainType = .sending
  · rw [if_pos sending] at raised
    cases raised
    exact ⟨fun _ => .inl sending, fun _ => rfl⟩
  rw [if_neg sending] at raised
  rcases @takeMessageKey_cases P S _ c sess body.message.ephemeralKey chain
    body.message.counter present with ⟨_, refused, why⟩ | ⟨reachable, stored, key, taken, took, alt⟩
  · rw [bind_error refused] at raised
    cases raised
    exact ⟨fun _ => .inr why, fun _ => rfl⟩
  · rw [bind_ok took] at raised
    have kept := (@openBody_left P S c localIdentity body key
      (sess.withChain body.message.ephemeralKey (some taken))).1
    rw [raised] at kept
    constructor
    · intro same
      have again : sess.chains body.message.ephemeralKey = some taken := by
        rw [← same]
        exact (congrFun kept _).trans (update_self _ _ _)
      exact absurd (Option.some.inj (again.symm.trans present)) alt
    · rintro (is | refused | missing)
      · exact absurd is sending
      · exact absurd refused reachable
      · exact absurd missing stored

end

section

structure Retains (key : P) (pre after : Session P S) : Prop where
  local' : after.ephemeralKeyPair = pre.ephemeralKeyPair
  chain : pre.chains key ≠ none → after.chains key ≠ none

instance (key : P) : IsPreorder (Session P S) (Retains key) where
  refl _ := ⟨rfl, id⟩
  trans _ _ _ first snd := ⟨snd.local'.trans first.local', fun there => snd.chain (first.chain there)⟩

def Turned (key : P) (pre after : Session P S) : Prop :=
  after.chains key ≠ none ∨ after.ephemeralKeyPair ≠ pre.ephemeralKeyPair

variable {c : Crypto P S} {key : P} {pre middle after : Session P S}

omit [DecidableEq P] in
lemma Turned.ne (turned : Turned key pre after) (absent : pre.chains key = none) : after ≠ pre := by
  rintro rfl
  rcases turned with there | alt
  · exact there absent
  · exact alt rfl

omit [DecidableEq P] in
lemma Turned.retain (turned : Turned key pre middle) (retains : Retains key middle after) :
    Turned key pre after := by
  rcases turned with there | alt
  · exact .inl (retains.chain there)
  · right
    rw [retains.local']
    exact alt

lemma frames_setChain (chain : Chain) : Frames (Retains key) (setChain key (some chain) : Live P S Unit) := by
  intro sess
  refine ⟨rfl, fun _ => ?_⟩
  show update sess.chains key (some chain) key ≠ none
  rw [update_self]
  exact Option.some_ne_none chain

omit [DecidableEq P] in
lemma frames_raising {α : Type} (v : Except String α) : Frames (Retains key) (raising v : Live P S α) := by
  cases v with
  | ok v => exact frames_pure v
  | error error => exact frames_throw error

lemma frames_takeMessageKey (chain : Chain) (counter : Int) :
    Frames (Retains key) (takeMessageKey (S := S) c key chain counter) := by
  apply (frames_raising _).bind
  intro filled
  apply (frames_setChain filled).bind
  intro _
  cases filled.messageKeys counter with
  | none => exact frames_throw _
  | some messageKey => exact (frames_setChain _).bind fun _ => frames_pure messageKey

omit [DecidableEq P] in
lemma frames_openBody (localIdentity : P) (body : WhisperBody P) (messageKey : Digest) :
    Frames (Retains key) (openBody (S := S) c localIdentity body messageKey) := by
  intro sess
  obtain ⟨chains, local'⟩ := @openBody_left P S c localIdentity body messageKey sess
  refine ⟨local', ?_⟩
  intro there
  rw [chains]
  exact there

lemma frames_decryptOnChain (localIdentity : P) (body : WhisperBody P) :
    Frames (Retains body.message.ephemeralKey) (decryptOnChain (S := S) c localIdentity body) := by
  have opened : Frames (Retains body.message.ephemeralKey) (get : Live P S (Session P S)) := frames_get
  apply opened.bind
  intro sess
  cases sess.chains body.message.ephemeralKey with
  | none => exact frames_throw _
  | some chain =>
    dsimp only
    split
    · exact frames_throw _
    · exact (frames_takeMessageKey _ _).bind fun messageKey => frames_openBody _ _ messageKey

end

section
variable {c : Crypto P S} {fresh : KeyPair P S} {sess : Session P S} {rkey : P}
  {previousCounter : Int}

lemma replaced_chains (key : P) : (sess.replaced fresh).ephemeralKeyPair = fresh ∧
    (key ≠ sess.ephemeralKeyPair.publicKey → (sess.replaced fresh).chains key = sess.chains key) ∧
    (sess.replaced fresh).chains sess.ephemeralKeyPair.publicKey = none := by
  rw [replaced_eq]
  exact ⟨rfl, fun alt => if_neg alt, if_pos rfl⟩

lemma frames_calculateRatchet (key : P) (sending : Bool) :
    Frames (Retains key) (calculateRatchet c rkey sending) := by
  intro sess
  by_cases free : sess.chains (sess.chainKey rkey sending) = none
  · cases agreed : c.exchange rkey sess.ephemeralKeyPair.privateKey with
    | none =>
      obtain ⟨error, refused⟩ := @calculateRatchet_refused P S _ c sess rkey sending agreed
      rw [refused]
      exact refl_of (Retains key) sess
    | some shared =>
      rw [calculateRatchet_run agreed free]
      refine ⟨rfl, ?_⟩
      intro there
      show update sess.chains (sess.chainKey rkey sending) _ key ≠ none
      by_cases here : key = sess.chainKey rkey sending
      · rw [← here, update_self]
        exact Option.some_ne_none _
      · rw [update_of_ne here]
        exact there
  · obtain ⟨error, refused⟩ := @calculateRatchet_taken P S _ c sess rkey sending free
    rw [refused]
    exact refl_of (Retains key) sess

lemma turnLocal_turned {shared} (agreed : c.exchange rkey sess.ephemeralKeyPair.privateKey = some shared)
    (there : sess.chains rkey ≠ none) : Turned rkey sess (left (turnLocal c fresh rkey sess)) := by
  obtain ⟨local', others, gone⟩ := @replaced_chains P S _ fresh sess rkey
  have rest : Frames (Retains rkey) (calculateRatchet c rkey true >>= fun _ =>
      (modify fun sess => { sess with lastRemoteEphemeralKey := rkey } : Live P S PUnit)) :=
    (frames_calculateRatchet rkey true).bind fun _ _ => ⟨rfl, id⟩
  rw [turnLocal, bind_ok (replaceLocalKey_run fresh)]
  by_cases same : fresh = sess.ephemeralKeyPair
  · left
    by_cases own : rkey = sess.ephemeralKeyPair.publicKey
    · have public' : (sess.replaced fresh).chainKey rkey true = rkey := by
        rw [Session.chainKey, if_pos rfl, local', same, own]
      have free : (sess.replaced fresh).chains
          ((sess.replaced fresh).chainKey rkey true) = none := by
        rw [public', own]
        exact gone
      have again : c.exchange rkey (sess.replaced fresh).ephemeralKeyPair.privateKey =
          some shared := by
        rw [local', same]
        exact agreed
      rw [bind_ok (calculateRatchet_run again free)]
      show update (sess.replaced fresh).chains ((sess.replaced fresh).chainKey rkey true) _ rkey ≠ none
      rw [public', update_self]
      exact Option.some_ne_none _
    · apply (rest (sess.replaced fresh)).chain
      rw [others own]
      exact there
  · right
    rw [(rest (sess.replaced fresh)).local', local']
    exact same

lemma maybeStepRatchet_cases (absent : sess.chains rkey = none) :
    (sess.RefusesStep c rkey previousCounter ∧ ∃ error,
      maybeStepRatchet c fresh rkey previousCounter sess = .error error sess) ∨
    (¬sess.RefusesStep c rkey previousCounter ∧ ((∃ error after, maybeStepRatchet c fresh rkey previousCounter sess =
          .error error after ∧ after ≠ sess) ∨ Turned rkey sess
          (left (maybeStepRatchet c fresh rkey previousCounter sess)))) := by
  rw [maybeStepRatchet_new absent]
  -- what follows once the previous chain is closed
  have turns : ∀ closed : Session P S, ∀ shared,
      closed.ephemeralKeyPair = sess.ephemeralKeyPair → closed.chains rkey = none →
      c.exchange rkey sess.ephemeralKeyPair.privateKey = some shared →
      Turned rkey sess (left ((calculateRatchet c rkey false >>= fun _ =>
        turnLocal c fresh rkey) closed)) := by
    intro closed shared local' free agreed
    rw [← local'] at agreed
    have here : closed.chains (closed.chainKey rkey false) = none := free
    rw [bind_ok (calculateRatchet_run agreed here)]
    have there : (closed.ratcheted c rkey false shared).chains rkey ≠ none := by
      show update closed.chains rkey _ rkey ≠ none
      rw [update_self]
      exact Option.some_ne_none _
    have turned := @turnLocal_turned P S _ c fresh (closed.ratcheted c rkey false shared) rkey shared agreed there
    rcases turned with chain | alt
    · exact .inl chain
    · right
      rw [← local']
      exact alt
  have refused : ∀ closed : Session P S, closed.ephemeralKeyPair = sess.ephemeralKeyPair →
      c.exchange rkey sess.ephemeralKeyPair.privateKey = none →
      ∃ error, (calculateRatchet c rkey false >>= fun _ =>
        turnLocal c fresh rkey) closed = .error error closed := by
    intro closed local' refused
    rw [← local'] at refused
    obtain ⟨error, raised⟩ := @calculateRatchet_refused P S _ c closed rkey false refused
    exact ⟨error, bind_error raised⟩
  rw [Session.RefusesStep]
  cases present : sess.chains sess.lastRemoteEphemeralKey with
  | none =>
    rw [bind_ok (closePrevious_none present)]
    cases agreed : c.exchange rkey sess.ephemeralKeyPair.privateKey with
    | none => exact .inl ⟨rfl, refused sess rfl agreed⟩
    | some shared => exact .inr ⟨by simp, .inr (turns sess shared rfl absent agreed)⟩
  | some prev =>
    cases made : fillMessageKeys c prev previousCounter with
    | error error =>
      rw [bind_error (closePrevious_raises present made)]
      exact .inl ⟨.inl (fill_raises made), error, rfl⟩
    | ok filled =>
      have reachable := fill_reachable made
      rw [bind_ok (closePrevious_run present made)]
      have free : (sess.closed filled).chains rkey = none := by
        apply (update_of_ne _ _ _).trans absent
        rintro rfl
        rw [absent] at present
        cases present
      cases agreed : c.exchange rkey sess.ephemeralKeyPair.privateKey with
      | some shared =>
        refine Or.inr ⟨?_, .inr (turns _ shared rfl free agreed)⟩
        rintro (far | ⟨none', _⟩)
        · exact reachable far
        · cases none'
      | none =>
        obtain ⟨error, raised⟩ := refused (sess.closed filled) rfl agreed
        by_cases idle : prev.key = none ∧ previousCounter ≤ prev.counter
        · left
          refine ⟨.inr ⟨rfl, idle⟩, error, ?_⟩
          have same : filled = prev := by
            rw [fill_below idle.2] at made
            cases made
            rfl
          have kept : sess.closed filled = sess := by
            have chain : ({ filled with key := none } : Chain) = prev := by rw [same, ← idle.1]
            rw [Session.closed, Session.withChain, chain, ← present, update_eq_self]
          rw [kept] at raised ⊢
          exact raised
        · right
          constructor
          · rintro (far | ⟨_, idle'⟩)
            · exact reachable far
            · exact idle idle'
          · left
            refine ⟨error, _, raised, ?_⟩
            intro same
            have stored : (sess.closed filled).chains sess.lastRemoteEphemeralKey =
                some { filled with key := none } := update_self _ _ _
            rw [same, present] at stored
            have chain' := Option.some.inj stored
            apply idle
            constructor
            · rw [chain']
            · rcases fill_cases made with ⟨rfl, below⟩ | ⟨_, above, reached, _⟩
              · exact below
              · rw [chain']
                exact Int.le_of_eq reached.symm

end

section
variable {c : Crypto P S} {fresh : KeyPair P S} {sess after : Session P S}
  {localIdentity : P} {error : String}

lemma decryptRecord_kept {ciphertext}
    (raised : decryptRecord c localIdentity fresh ciphertext sess = .error error after) :
    after = sess ↔ sess.RefusesEarly c ciphertext := by
  cases ciphertext with
  | error unreadable =>
    cases raised
    exact ⟨fun _ => trivial, fun _ => rfl⟩
  | ok body =>
    rw [decryptRecord, raising, pure_bind] at raised
    rw [Session.RefusesEarly]
    cases present : sess.chains body.message.ephemeralKey with
    | some chain =>
      rw [bind_ok (maybeStepRatchet_known present)] at raised
      exact decryptOnChain_known present raised
    | none =>
      rcases @maybeStepRatchet_cases P S _ c fresh sess body.message.ephemeralKey
          body.message.previousCounter present with
        ⟨refuses, _, refused⟩ | ⟨accepts, ⟨_, changed, refused, alt⟩ | turned⟩
      · rw [bind_error refused] at raised
        cases raised
        exact ⟨fun _ => refuses, fun _ => rfl⟩
      · rw [bind_error refused] at raised
        cases raised
        exact ⟨fun same => absurd same alt, fun refuses => absurd refuses accepts⟩
      · have changed : after ≠ sess := by
          have frames := @frames_decryptOnChain P S _ c localIdentity body
          cases stepped : maybeStepRatchet c fresh body.message.ephemeralKey
              body.message.previousCounter sess with
          | error refused middle =>
            rw [stepped] at turned
            rw [bind_error stepped] at raised
            cases raised
            exact turned.ne present
          | ok _ middle =>
            rw [stepped] at turned
            rw [bind_ok stepped] at raised
            have retains := frames middle
            rw [raised] at retains
            exact (turned.retain retains).ne present
        exact ⟨fun same => absurd same changed, fun refuses => absurd refuses accepts⟩

end

section
variable {c : Crypto P S} {sender : SignalSender P S} {address : String}

omit [DecidableEq P] in
lemma setRecord_eq {sess after} (present : sender.records address = some sess) :
    sender.setRecord address after = sender ↔ after = sess := by
  constructor
  · intro same
    have record := congrFun (congrArg SignalSender.records same) address
    have stored : (sender.setRecord address after).records address = some after := update_self _ _ _
    rw [stored, present] at record
    exact Option.some.inj record
  · rintro rfl
    rw [SignalSender.setRecord, ← present, update_eq_self]

omit [DecidableEq P] in
lemma onRecord_kept {sess : Session P S} {step : Live P S Bytes} {error : String}
    (present : sender.records address = some sess) {early : Prop}
    (kept : ∀ after, step sess = .error error after → (after = sess ↔ early))
    (raised : (sender.onRecord address sess step).1 = .error error) :
    (sender.onRecord address sess step).2 = sender ↔ early := by
  rw [SignalSender.onRecord] at raised ⊢
  cases res : step sess with
  | ok v after =>
    rw [res] at raised
    cases raised
  | error alt after =>
    rw [res] at raised
    cases raised
    exact (setRecord_eq present).trans (kept after res)

end

/-- A failed decryption leaves the sender exactly if it was unreadable, found no record or ended early. -/
theorem decryption_atomic (c : Crypto P S) (sender : SignalSender P S) (address : String)
    (fresh : KeyPair P S) (envelope : Envelope P) (error : String)
    (raised : (sender.decryptFrom c address fresh envelope).1 = .error error) :
    (sender.decryptFrom c address fresh envelope).2 = sender ↔ sender.RefusesEarly c address envelope := by
  match envelope with
  | .msg ciphertext =>
    rw [SignalSender.decryptFrom] at raised ⊢
    rw [SignalSender.RefusesEarly]
    cases present : sender.records address with
    | none => simp
    | some sess =>
      rw [present] at raised
      simp only [Option.mem_some_iff, forall_eq']
      exact onRecord_kept present (fun after => decryptRecord_kept) raised
  | .pkmsg (.error unreadable) => exact ⟨fun _ => trivial, fun _ => rfl⟩
  | .pkmsg (.ok prekey) =>
    rw [SignalSender.decryptFrom] at raised ⊢
    rw [SignalSender.RefusesEarly]
    cases known : sender.knownSession address prekey.baseKey with
    | none =>
      rw [known] at raised
      refine ⟨fun _ _ absent => absurd absent (by simp), fun _ => ?_⟩
      rw [SignalSender.decryptFirst] at raised ⊢
      cases opened : sender.openSession c prekey with
      | error error => rfl
      | ok sess =>
        rw [opened] at raised
        dsimp only at raised ⊢
        cases res : decryptRecord c sender.identity.publicKey fresh prekey.message sess with
        | error error after => rfl
        | ok plain after =>
          rw [res] at raised
          cases raised
    | some sess =>
      rw [known] at raised
      simp only [Option.mem_some_iff, forall_eq']
      obtain ⟨present, _⟩ := Option.filter_eq_some_iff.mp known
      have kept := @onRecord_kept P S sender address sess
        (decryptRecord c sender.identity.publicKey fresh prekey.message) error present _
        (fun after => decryptRecord_kept)
      dsimp only at raised ⊢
      rw [SignalSender.decryptRepeated] at raised ⊢
      cases res : sender.onRecord address sess
          (decryptRecord c sender.identity.publicKey fresh prekey.message) with
      | mk out after =>
        rw [res] at raised kept
        cases out with
        | ok plain => cases raised
        | error alt => exact kept raised

def plainCrypto : Crypto Nat Nat where
  prefixed _ := [5]
  exchange _ _ := some zeros
  hmac _ _ := zeros
  aesCbcEncrypt _ plain _ := plain
  aesCbcDecrypt _ ciphertext _ := some ciphertext

def plainSender (ident : Nat) : SignalSender Nat Nat :=
  { registrationId := ident, identity := ⟨ident, ident⟩
    signedPreKeys := fun id => if id = 1 then some ⟨ident + 1, ident + 1⟩ else none
    preKeys := fun _ => none, records := fun _ => none }

def plainBundle (ident : Nat) : AgentBundle Nat :=
  { registrationId := ident, identityKey := ident
    signedPreKey := { id := 1, publicKey := ident + 1 }, preKeys := [] }

def aliceSends (plain : Bytes) (alice : SignalSender Nat Nat) : Except String (Envelope Nat) × SignalSender Nat Nat :=
  alice.encryptFor plainCrypto "bob" (plainBundle 20) ⟨30, 30⟩ ⟨31, 31⟩ plain

def delivered (sent : Except String (Envelope Nat)) : Envelope Nat :=
  match sent with
  | .ok envelope => envelope
  | .error error => .msg (.error error)

def bobReceives (envelope : Envelope Nat) (bob : SignalSender Nat Nat) : Except String Bytes × SignalSender Nat Nat :=
  bob.decryptFrom plainCrypto "alice" ⟨40, 40⟩ envelope

def firstEnvelope : Envelope Nat := delivered (aliceSends [1] (plainSender 10)).1
def secondEnvelope : Envelope Nat := delivered (aliceSends [2] (aliceSends [1] (plainSender 10)).2).1
def withMac (tag : Bytes) (body : WhisperBody Nat) : WhisperBody Nat := { body with mac := tag }

def corrupted : Envelope Nat → Envelope Nat
  | .pkmsg ciphertext =>
    .pkmsg (ciphertext.map fun prekey =>
      { prekey with message := prekey.message.map (withMac (List.replicate 8 1)) })
  | .msg ciphertext => .msg (ciphertext.map (withMac (List.replicate 8 1)))

def bob : SignalSender Nat Nat := (bobReceives firstEnvelope (plainSender 20)).2

theorem decryption_atomic_corrupted :
    (bob.decryptFrom plainCrypto "alice" ⟨40, 40⟩ (corrupted secondEnvelope)).2 = bob ↔
      bob.RefusesEarly plainCrypto "alice" (corrupted secondEnvelope) :=
  decryption_atomic plainCrypto bob "alice" ⟨40, 40⟩ (corrupted secondEnvelope) "signal: bad mac"
    rfl

/-- A message whose MAC was changed on the way takes the key of the message itself. -/
theorem corrupted_spends_key : (bobReceives secondEnvelope bob).1 = .ok [2] ∧
      (bobReceives (corrupted secondEnvelope) bob).1 = .error "signal: bad mac" ∧
      (bobReceives (corrupted secondEnvelope) bob).2 ≠ bob ∧
      (bobReceives secondEnvelope (bobReceives (corrupted secondEnvelope) bob).2).1 =
        .error "signal: message key unavailable" := by
  have pre : (bobReceives secondEnvelope bob).1 = .ok [2] := rfl
  have after : (bobReceives secondEnvelope (bobReceives (corrupted secondEnvelope) bob).2).1 =
      .error "signal: message key unavailable" := rfl
  refine ⟨pre, rfl, ?_, after⟩
  intro same
  rw [same, pre] at after
  cases after

end Clawdi.Signal
