import Clawdi.Lib.Transition
import Clawdi.Signal.Ratchet
import Mathlib.Data.Bool.Basic

namespace Clawdi.Signal
open Transition

/-- Generated key pairs are distinct and agree on a secret, and decryption undoes encryption. -/
structure Ideal {P S : Type} (c : Crypto P S) where
  generated : Nat → KeyPair P S
  distinct : ∀ m n, (generated m).publicKey = (generated n).publicKey → m = n
  agrees : ∀ m n, ∃ shared, c.exchange (generated m).publicKey (generated n).privateKey = some shared ∧
      c.exchange (generated n).publicKey (generated m).privateKey = some shared
  decrypts : ∀ key plain iv, c.aesCbcDecrypt key (c.aesCbcEncrypt key plain iv) iv = some plain

/-- Two senders without a session, and what the first fetches of the second: `first` key pairs have
been generated. -/
structure Setup {P S : Type} {c : Crypto P S} (ideal : Ideal c) where
  alice : SignalSender P S
  bob : SignalSender P S
  aliceName : String
  bobName : String
  first : Nat
  signedPreKeyId : Nat
  preKeys : List (AgentPreKey P)
  signedIndex : Nat
  aliceIndex : Nat
  bobIndex : Nat
  earlier : signedIndex < first
  aliceIdentity : alice.identity = ideal.generated aliceIndex
  bobIdentity : bob.identity = ideal.generated bobIndex
  signedPreKey : bob.signedPreKeys signedPreKeyId = some (ideal.generated signedIndex)
  oneTime : ∀ key ∈ preKeys, ∃ n, bob.preKeys key.id = some (ideal.generated n) ∧
    key.publicKey = (ideal.generated n).publicKey
  aliceFresh : alice.records bobName = none
  bobFresh : bob.records aliceName = none

inductive Side
  | alice
  | bob
  deriving DecidableEq

def Side.other : Side → Side
  | .alice => .bob
  | .bob => .alice

structure Sent (P : Type) where
  sender : Side
  envelope : Envelope P
  plaintext : Bytes
  delivered : Bool

/-- The two senders, the envelopes in the order in which they were encrypted, and the number of key
pairs generated. -/
structure World (P S : Type) where
  endpoint : Side → SignalSender P S
  log : List (Sent P)
  used : Nat

inductive Action
  | encrypt (side : Side) (plain : Bytes)
  | deliver (idx : Nat)

section
variable {P S : Type} [DecidableEq P] {c : Crypto P S} {ideal : Ideal c}
namespace Setup
variable (setup : Setup ideal)

def bundle : AgentBundle P :=
  { registrationId := setup.bob.registrationId, identityKey := setup.bob.identity.publicKey
    signedPreKey :=
      { id := setup.signedPreKeyId, publicKey := (ideal.generated setup.signedIndex).publicKey }
    preKeys := setup.preKeys }

def address : Side → String
  | .alice => setup.bobName
  | .bob => setup.aliceName

def start : World P S :=
  { endpoint := fun side => match side with
      | .alice => setup.alice
      | .bob => setup.bob
    log := [], used := setup.first }

variable (w : World P S)

def encrypted (side : Side) (plain : Bytes) : Except String (Envelope P) × SignalSender P S :=
  (w.endpoint side).encryptFor c (setup.address side) setup.bundle
    (ideal.generated w.used) (ideal.generated (w.used + 1)) plain

def ready : Side → Bool
  | .alice => true
  | .bob => ((w.endpoint .bob).records (setup.address .bob)).isSome

def received (sent : Sent P) : Except String Bytes × SignalSender P S :=
  (w.endpoint sent.sender.other).decryptFrom c (setup.address sent.sender.other)
    (ideal.generated w.used) sent.envelope

def step (w : World P S) : Action → World P S
  | .encrypt side plain =>
    if setup.ready w side then
      { endpoint := Function.update w.endpoint side (setup.encrypted w side plain).2
        used := w.used + 2
        log := w.log ++ match (setup.encrypted w side plain).1 with
          | .ok envelope => [{ sender := side, envelope := envelope, plaintext := plain, delivered := false }]
          | .error _ => [] }
    else w
  | .deliver idx =>
    match w.log[idx]? with
    | none => w
    | some sent =>
      if sent.delivered then w
      else
        { endpoint := Function.update w.endpoint sent.sender.other (setup.received w sent).2
          used := w.used + 1
          log := w.log.set idx { sent with delivered := true } }

end Setup

/-- The message passes 2000 counters or more of its chain, or leaves more than that of the chain
before it. -/
def Session.skips (sess : Option (Session P S)) (msg : WhisperMessage P) : Bool :=
  match sess.bind fun sess => sess.chains msg.ephemeralKey with
  | some chain => decide (2000 < (msg.counter : Int) - chain.counter)
  | none => decide (2000 < msg.counter + 1) ||
    (sess.bind fun sess => sess.chains sess.lastRemoteEphemeralKey).any fun chain =>
      decide (2000 < (msg.previousCounter : Int) - chain.counter)

def Envelope.message : Envelope P → Option (WhisperMessage P)
  | .msg (.ok body) => some body.message
  | .pkmsg (.ok { message := .ok body, .. }) => some body.message
  | _ => none

namespace Setup
variable (setup : Setup ideal) (w : World P S)

def skips : Action → Bool
  | .encrypt _ _ => false
  | .deliver idx =>
    w.log[idx]?.any fun sent => sent.envelope.message.any fun msg =>
      Session.skips ((w.endpoint sent.sender.other).records (setup.address sent.sender.other)) msg

/-- An encryption succeeds, and its envelope decrypts when it is first delivered. -/
def Agrees : Action → Prop
  | .encrypt side plain => setup.ready w side = true → ∃ envelope, (setup.encrypted w side plain).1 = .ok envelope
  | .deliver idx =>
    ∀ sent, w.log[idx]? = some sent → sent.delivered = false → (setup.received w sent).1 = .ok sent.plaintext

end Setup
end

/-- The ratchet steps of a session in their order: what each one generated and derived. -/
structure Epoch (P S : Type) where
  pair : KeyPair P S
  root : Digest
  start : Digest

/-- The epochs, what was encrypted in each and decrypted; epoch 0 is the signed pre-key, then sides alternate. -/
structure History (P S : Type) where
  epoch : Nat → Epoch P S
  sent : Nat → Nat
  got : Nat → Nat → Bool

section
variable {P S : Type} (c : Crypto P S)

def chainKeyAt (start : Digest) : Nat → Digest
  | 0 => start
  | n + 1 => mac c (chainKeyAt start n).val [2]

def messageKeyAt (start : Digest) (n : Nat) : Digest := mac c (chainKeyAt c start n).val [1]

structure Chain.Open (chain : Chain) (start : Digest) : Prop where
  low : -1 ≤ chain.counter
  key : chain.key = some (chainKeyAt c start (chain.counter + 1).toNat)

variable {c}

lemma Chain.Open.advance {chain : Chain} {start} (opened : chain.Open c start)
    (n : Nat) : (chain.advance c n).Open c start ∧ (chain.advance c n).counter = chain.counter + n ∧
      ∀ i : Nat, chain.counter < i → (i : Int) ≤ chain.counter + n →
        (chain.advance c n).messageKeys i = some (messageKeyAt c start i) := by
  induction n generalizing chain with
  | zero =>
    refine ⟨opened, by simp [Chain.advance], ?_⟩
    intro i above reached
    exact absurd reached (by push_cast; omega)
  | succ n ih =>
    have counter : (chain.next c (chainKeyAt c start (chain.counter + 1).toNat)).counter = chain.counter + 1 := rfl
    have low := opened.low
    have next : (chain.next c (chainKeyAt c start (chain.counter + 1).toNat)).Open c
        start := by
      refine ⟨by omega, ?_⟩
      have after : (chain.counter + 1 + 1).toNat = (chain.counter + 1).toNat + 1 := by omega
      rw [counter, after]
      rfl
    obtain ⟨open', reached', keys⟩ := ih next
    rw [Chain.advance, opened.key]
    refine ⟨open', ?_, ?_⟩
    · push_cast
      omega
    · intro i above reached
      by_cases first : (i : Int) = chain.counter + 1
      · have kept := @advance_keeps P S c
          (chain.next c (chainKeyAt c start (chain.counter + 1).toNat)) n i (by omega)
        have here : (chain.counter + 1).toNat = i := by omega
        have stored : (chain.next c (chainKeyAt c start (chain.counter + 1).toNat)).messageKeys i =
            some (messageKeyAt c start i) := by
          rw [here, first]
          exact Function.update_self _ _ _
        exact kept.trans stored
      · apply keys i
        · omega
        · push_cast at reached
          omega

end

namespace History
variable {P S : Type} (h : History P S)

def key (e : Nat) : P := (h.epoch e).pair.publicKey
def previous (t : Nat) : Int := if t ≤ 2 then 0 else h.sent (t - 2) - 1

structure Linked (c : Crypto P S) (last : Nat) : Prop where
  follows : ∀ e < last, ∃ shared, c.exchange (h.key e) (h.epoch (e + 1)).pair.privateKey = some shared ∧
      c.exchange (h.key (e + 1)) (h.epoch e).pair.privateKey = some shared ∧
      (rootStep c shared (h.epoch e).root).1 = (h.epoch (e + 1)).root ∧
      (rootStep c shared (h.epoch e).root).2.1 = (h.epoch (e + 1)).start
  distinct : ∀ e f, e ≤ last → f ≤ last → h.key e = h.key f → e = f

def sending (c : Crypto P S) (e : Nat) : Chain :=
  { messageKeys := fun _ => none, counter := h.sent e - 1
    key := some (chainKeyAt c (h.epoch e).start (h.sent e)), chainType := .sending }

structure Receives (c : Crypto P S) (e : Nat) (last : Prop) (chain : Chain) : Prop where
  type : chain.chainType = .receiving
  low : -1 ≤ chain.counter
  high : chain.counter < h.sent e
  opened : last → chain.Open c (h.epoch e).start
  closed : ¬last → chain.key = none ∧ chain.counter = h.sent e - 1
  stored : ∀ i : Nat, chain.messageKeys i =
    if (i : Int) ≤ chain.counter ∧ h.got e i = false then
      some (messageKeyAt c (h.epoch e).start i) else none
  known : ∀ i : Nat, h.got e i = true → (i : Int) ≤ chain.counter

variable {h} {c : Crypto P S} {e : Nat} {last : Prop} {chain : Chain}

lemma Receives.frame {h' : History P S} (receives : h.Receives c e last chain)
    (start : (h'.epoch e).start = (h.epoch e).start) (grown : h.sent e ≤ h'.sent e)
    (ended : ¬last → h'.sent e = h.sent e) (got : h'.got e = h.got e) : h'.Receives c e last chain where
  type := receives.type
  low := receives.low
  high := by
    have high := receives.high
    omega
  opened := by
    rw [start]
    exact receives.opened
  closed := by
    intro closed
    rw [ended closed]
    exact receives.closed closed
  stored := by
    rw [start, got]
    exact receives.stored
  known := by
    rw [got]
    exact receives.known

lemma Receives.fill (receives : h.Receives c e last chain) {counter : Int}
    (sent : counter < h.sent e) (near : counter - chain.counter ≤ 2000) :
    ∃ filled, fillMessageKeys c chain counter = .ok filled ∧ h.Receives c e last filled ∧ counter ≤ filled.counter ∧
        (chain.counter < counter → filled.counter = counter) := by
  by_cases below : counter ≤ chain.counter
  · exact ⟨chain, fill_below below, receives, below, fun above => absurd above (by omega)⟩
  · have isLast : last := by
      by_contra closed
      have final := (receives.closed closed).2
      omega
    have opened := receives.opened isLast
    have keyed : chain.key.isSome = true := Option.isSome_of_eq_some opened.key
    have type' := @advance_type P S c chain (counter - chain.counter).toNat
    have kept : ∀ i, i ≤ chain.counter →
        (chain.advance c (counter - chain.counter).toNat).messageKeys i = chain.messageKeys i :=
      fun i below => advance_keeps _ (.inl below)
    obtain ⟨open', reached, keys⟩ := opened.advance (counter - chain.counter).toNat
    have counter' : (chain.advance c (counter - chain.counter).toNat).counter = counter := by omega
    refine ⟨_, fill_reaches (by omega) near keyed, ?_, Int.le_of_eq counter'.symm, fun _ => counter'⟩
    constructor
    · exact type'.trans receives.type
    · exact open'.low
    · omega
    · exact fun _ => open'
    · exact fun closed => absurd isLast closed
    · intro i
      rw [counter']
      by_cases old : (i : Int) ≤ chain.counter
      · rw [kept i old, receives.stored i]
        congr 1
        simp only [eq_iff_iff, and_congr_left_iff]
        intro _
        omega
      · by_cases here : (i : Int) ≤ counter
        · have fresh : h.got e i = false := by
            by_contra known
            exact old (receives.known i (Bool.eq_true_of_not_eq_false known))
          rw [keys i (by omega) (by omega), if_pos ⟨here, fresh⟩]
        · rw [if_neg fun both => here both.1]
          have above : (chain.advance c (counter - chain.counter).toNat).messageKeys i =
              chain.messageKeys i := advance_keeps _ (by omega)
          rw [above, receives.stored i, if_neg fun both => old both.1]
    · intro i known
      have before := receives.known i known
      omega

end History
end Clawdi.Signal
