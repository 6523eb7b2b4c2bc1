import Mathlib.Logic.Function.Basic

namespace Clawdi.Signal

abbrev Bytes := List UInt8
abbrev Digest := { bytes : Bytes // bytes.length = 32 }
def zeros : Digest := ⟨List.replicate 32 0, List.length_replicate⟩

structure KeyPair (P S : Type) where
  publicKey : P
  privateKey : S
  deriving DecidableEq

/-- What is used of the X25519, HMAC and AES implementations, with public keys of the type `P` and
private keys of the type `S`. -/
structure Crypto (P S : Type) where
  /-- `_signal_prefixed_public_key`. -/
  prefixed : P → Bytes
  exchange : P → S → Option Digest
  hmac : Bytes → Bytes → Digest
  aesCbcEncrypt : Bytes → Bytes → Bytes → Bytes
  aesCbcDecrypt : Bytes → Bytes → Bytes → Option Bytes

section
variable {P S : Type} (c : Crypto P S)

def agreement (publicKey : P) (privateKey : S) : Except String Digest :=
  match c.exchange publicKey privateKey with
  | none => .error "Error computing shared key."
  | some shared => .ok shared

/-- `_signal_derive_secrets`; with two chunks the third is left out. -/
def deriveSecrets (material : Bytes) (salt : Digest) (info : Bytes) : Digest × Digest × Digest :=
  let prk := (c.hmac salt.val material).val
  let first := c.hmac prk (info ++ [1])
  let snd := c.hmac prk (first.val ++ info ++ [2])
  (first, snd, c.hmac prk (snd.val ++ info ++ [3]))

def mac (key data : Bytes) : Digest := c.hmac key data
def verifyMac (data key exp : Bytes) : Bool := exp.length = 8 && (mac c key data).val.take 8 = exp

end

def protoVarint (v : Nat) : Bytes :=
  if v < 0x80 then [UInt8.ofNat v]
  else UInt8.ofNat (v % 0x80 + 0x80) :: protoVarint (v / 0x80)
termination_by v

def protoKey (field wireType : Nat) : Bytes := protoVarint (field * 8 + wireType)
def protoBytesField (field : Nat) (v : Bytes) : Bytes := protoKey field 2 ++ protoVarint v.length ++ v

structure WhisperMessage (P : Type) where
  ephemeralKey : P
  counter : Nat
  previousCounter : Nat
  ciphertext : Bytes

def encodeWhisperMessage {P S : Type} (c : Crypto P S) (message : WhisperMessage P) : Bytes :=
  protoBytesField 1 (c.prefixed message.ephemeralKey) ++ protoKey 2 0 ++
    protoVarint message.counter ++ protoKey 3 0 ++ protoVarint message.previousCounter ++
    protoBytesField 4 message.ciphertext

/-- A message body as it is received: the encoded message, what is decoded of it, and the MAC. -/
structure WhisperBody (P : Type) where
  proto : Bytes
  message : WhisperMessage P
  mac : Bytes

/-- The decoded body of a pre-key message; an identity key of a wrong length is none. -/
structure PreKeyBody (P : Type) where
  preKeyId : Option Nat
  baseKey : P
  identityKey : Option P
  message : Except String (WhisperBody P)
  registrationId : Nat
  signedPreKeyId : Nat

inductive Envelope (P : Type)
  | pkmsg (ciphertext : Except String (PreKeyBody P))
  | msg (ciphertext : Except String (WhisperBody P))

inductive ChainType
  | sending
  | receiving
  deriving DecidableEq

structure Chain where
  messageKeys : Int → Option Digest
  counter : Int
  key : Option Digest
  chainType : ChainType

structure PendingPreKey (P : Type) where
  signedKeyId : Nat
  baseKey : P
  preKeyId : Option Nat

structure Session (P S : Type) where
  registrationId : Nat
  localRegistrationId : Nat
  rootKey : Digest
  ephemeralKeyPair : KeyPair P S
  lastRemoteEphemeralKey : P
  previousCounter : Int
  remoteIdentityKey : P
  baseKey : P
  chains : P → Option Chain
  pendingPreKey : Option (PendingPreKey P)

section
variable {P S : Type} (c : Crypto P S) (chain : Chain)

def Chain.next (key : Digest) : Chain :=
  { chain with
    messageKeys := Function.update chain.messageKeys (chain.counter + 1) (some (mac c key.val [1]))
    key := some (mac c key.val [2])
    counter := chain.counter + 1 }

def Chain.advance : Nat → Chain → Chain
  | 0, chain => chain
  | n + 1, chain =>
    match chain.key with
    | none => chain
    | some key => Chain.advance n (chain.next c key)

def fillMessageKeys (counter : Int) : Except String Chain :=
  if counter ≤ chain.counter then .ok chain
  else if 2000 < counter - chain.counter then .error "signal: message counter too far in future"
  else
    match chain.key with
    | none => .error "signal: chain closed"
    | some _ => .ok (chain.advance c (counter - chain.counter).toNat)

/-- `_signal_derive_secrets` of a message key: the keys of the cipher and the MAC, and the vector. -/
def messageSecrets (messageKey : Digest) : Digest × Digest × Digest :=
  deriveSecrets c messageKey.val zeros "WhisperMessageKeys".toUTF8.data.toList

end

abbrev Live (P S : Type) := EStateM String (Session P S)

section
variable {P S : Type} [DecidableEq P] (c : Crypto P S)

def raising {α : Type} : Except String α → Live P S α
  | .ok v => pure v
  | .error error => throw error

def setChain (key : P) (chain : Option Chain) : Live P S Unit :=
  modify fun sess => { sess with chains := Function.update sess.chains key chain }

def addChain (key : P) (chain : Chain) : Live P S Unit := do
  let sess ← get
  if (sess.chains key).isSome then throw "signal: chain overwrite"
  else setChain key (some chain)

variable (fresh : KeyPair P S) (rkey : P) (previousCounter : Int)

def calculateRatchet (sending : Bool) : Live P S Unit := do
  let sess ← get
  let shared ← raising (agreement c rkey sess.ephemeralKeyPair.privateKey)
  let master := deriveSecrets c shared.val sess.rootKey "WhisperRatchet".toUTF8.data.toList
  addChain (if sending then sess.ephemeralKeyPair.publicKey else rkey)
    { messageKeys := fun _ => none, counter := -1, key := some master.2.1
      chainType := if sending then .sending else .receiving }
  modify fun sess => { sess with rootKey := master.1 }

/-- `_signal_calculate_sending_ratchet`, which derives a chunk more than it uses. -/
def calculateSendingRatchet : Live P S Unit := calculateRatchet c rkey true

def closePrevious : Live P S Unit := do
  let sess ← get
  match sess.chains sess.lastRemoteEphemeralKey with
  | none => pure ()
  | some chain =>
    let filled ← raising (fillMessageKeys c chain previousCounter)
    setChain sess.lastRemoteEphemeralKey (some { filled with key := none })

def replaceLocalKey : Live P S Unit := do
  let sess ← get
  match sess.chains sess.ephemeralKeyPair.publicKey with
  | none => pure ()
  | some chain =>
    modify fun sess => { sess with previousCounter := chain.counter }
    setChain sess.ephemeralKeyPair.publicKey none
  modify fun sess => { sess with ephemeralKeyPair := fresh }

/-- `_signal_maybe_step_ratchet`; `fresh` is the key pair that it generates. -/
def maybeStepRatchet : Live P S Unit := do
  let sess ← get
  if (sess.chains rkey).isSome then pure ()
  else do
    closePrevious c previousCounter
    calculateRatchet c rkey false
    replaceLocalKey fresh
    calculateRatchet c rkey true
    modify fun sess => { sess with lastRemoteEphemeralKey := rkey }

end

section
variable {P S : Type} [DecidableEq P] (c : Crypto P S) (localIdentity : P)

def takeMessageKey (key : P) (chain : Chain) (counter : Int) : Live P S Digest := do
  let filled ← raising (fillMessageKeys c chain counter)
  setChain key (some filled)
  match filled.messageKeys counter with
  | none => throw "signal: message key unavailable"
  | some messageKey =>
    setChain key (some { filled with messageKeys := Function.update filled.messageKeys counter none })
    pure messageKey

def versionByte : UInt8 := 0x33

def macInput (sender receiver : P) (proto : Bytes) : Bytes :=
  c.prefixed sender ++ c.prefixed receiver ++ [versionByte] ++ proto

def sealedBody (remoteIdentity ephemeralKey : P) (counter previousCounter : Nat)
    (messageKey : Digest) (plain : Bytes) : WhisperBody P :=
  let keys := messageSecrets c messageKey
  let message : WhisperMessage P :=
    { ephemeralKey := ephemeralKey, counter := counter, previousCounter := previousCounter
      ciphertext := c.aesCbcEncrypt keys.1.val plain (keys.2.2.val.take 16) }
  let proto := encodeWhisperMessage c message
  { proto := proto, message := message
    mac := (mac c keys.2.1.val (macInput c localIdentity remoteIdentity proto)).val.take 8 }

def envelopeOf (sess : Session P S) (body : WhisperBody P) : Envelope P :=
  match sess.pendingPreKey with
  | none => .msg (.ok body)
  | some pend =>
    .pkmsg (.ok
      { preKeyId := pend.preKeyId, baseKey := pend.baseKey, identityKey := some localIdentity
        message := .ok body, registrationId := sess.localRegistrationId
        signedPreKeyId := pend.signedKeyId })

variable (body : WhisperBody P) (messageKey : Digest) (plain : Bytes)

def encryptRecord : Live P S (Envelope P) := do
  let sess ← get
  let cur := sess.ephemeralKeyPair.publicKey
  match sess.chains cur with
  | none => throw "signal: no sending chain"
  | some chain =>
    if chain.chainType = .receiving then throw "signal: no sending chain"
    else do
      let messageKey ← takeMessageKey c cur chain (chain.counter + 1)
      if chain.counter + 1 < 0 ∨ sess.previousCounter < 0 then
        throw "byte must be in range(0, 256)"
      else
        return envelopeOf localIdentity sess (sealedBody c localIdentity sess.remoteIdentityKey cur
            (chain.counter + 1).toNat sess.previousCounter.toNat messageKey plain)

def openBody : Live P S Bytes := do
  let keys := messageSecrets c messageKey
  let sess ← get
  if !verifyMac c (macInput c sess.remoteIdentityKey localIdentity body.proto)
      keys.2.1.val body.mac then
    throw "signal: bad mac"
  else do
    modify fun sess => { sess with pendingPreKey := none }
    match c.aesCbcDecrypt keys.1.val body.message.ciphertext (keys.2.2.val.take 16) with
    | none => throw "Invalid padding bytes."
    | some plain => return plain

/-- `_decrypt_signal_record` from the chain of the message on. -/
def decryptOnChain : Live P S Bytes := do
  let sess ← get
  match sess.chains body.message.ephemeralKey with
  | none => throw "signal: no receiving chain"
  | some chain =>
    if chain.chainType = .sending then throw "signal: no receiving chain"
    else do
      let messageKey ← takeMessageKey c body.message.ephemeralKey chain body.message.counter
      openBody c localIdentity body messageKey

def decryptRecord (fresh : KeyPair P S) (ciphertext : Except String (WhisperBody P)) : Live P S Bytes := do
  let body ← raising ciphertext
  maybeStepRatchet c fresh body.message.ephemeralKey body.message.previousCounter
  decryptOnChain c localIdentity body

end

structure AgentPreKey (P : Type) where
  id : Nat
  publicKey : P

structure AgentBundle (P : Type) where
  registrationId : Nat
  identityKey : P
  signedPreKey : AgentPreKey P
  preKeys : List (AgentPreKey P)

structure SignalSender (P S : Type) where
  registrationId : Nat
  identity : KeyPair P S
  signedPreKeys : Nat → Option (KeyPair P S)
  preKeys : Nat → Option (KeyPair P S)
  records : String → Option (Session P S)

section
variable {P S : Type} [DecidableEq P] (c : Crypto P S)

def masterKey (own peer both : Digest) (oneTime : Option Digest) : Digest :=
  (deriveSecrets c
    (List.replicate 32 0xff ++ own.val ++ peer.val ++ both.val ++ (oneTime.elim [] Subtype.val)) zeros
    "WhisperText".toUTF8.data.toList).1

def identityAgreement (ident : Option P) (privateKey : S) : Except String Digest :=
  match ident with
  | none => .error "signal: invalid public key"
  | some publicKey => agreement c publicKey privateKey

variable (ident : KeyPair P S) (localRegistrationId : Nat)

/-- `_init_signal_session` of the responder. -/
def initResponder (preKey : Option (KeyPair P S)) (signedKey : KeyPair P S)
    (theirIdentity : Option P) (baseKey : P) (registrationId localRegistrationId : Nat) :
    Except String (Session P S) := do
  let a1 ← agreement c baseKey ident.privateKey
  let a2 ← identityAgreement c theirIdentity signedKey.privateKey
  let a3 ← agreement c baseKey signedKey.privateKey
  let a4 ← preKey.mapM fun pair => agreement c baseKey pair.privateKey
  return {
    registrationId := registrationId, localRegistrationId := localRegistrationId
    rootKey := masterKey c a2 a1 a3 a4, ephemeralKeyPair := signedKey
    lastRemoteEphemeralKey := baseKey, previousCounter := 0
    remoteIdentityKey := theirIdentity.getD baseKey, baseKey := baseKey, chains := fun _ => none
    pendingPreKey := none }

/-- `_new_signal_session`, with the initiator's half of `_init_signal_session`; `base` and `ratchet`
are the key pairs that it generates. -/
def newSession (bundle : AgentBundle P) (base ratchet : KeyPair P S) : Except String (Session P S) := do
  let signed := bundle.signedPreKey.publicKey
  let preKey := bundle.preKeys.head?
  let a1 ← agreement c signed ident.privateKey
  let a2 ← agreement c bundle.identityKey base.privateKey
  let a3 ← agreement c signed base.privateKey
  let a4 ← preKey.mapM fun key => agreement c key.publicKey base.privateKey
  let sess : Session P S :=
    { registrationId := bundle.registrationId, localRegistrationId := localRegistrationId
      rootKey := masterKey c a1 a2 a3 a4, ephemeralKeyPair := ratchet
      lastRemoteEphemeralKey := signed, previousCounter := 0
      remoteIdentityKey := bundle.identityKey, baseKey := base.publicKey, chains := fun _ => none
      pendingPreKey := some
        { signedKeyId := bundle.signedPreKey.id, baseKey := base.publicKey
          preKeyId := preKey.map AgentPreKey.id } }
  match calculateSendingRatchet c signed sess with
  | .ok _ opened => return opened
  | .error error _ => throw error

end

section
variable {P S : Type} [DecidableEq P] (c : Crypto P S)
namespace SignalSender
variable (sender : SignalSender P S) (address : String) (sess : Session P S)
variable (fresh : KeyPair P S) (prekey : PreKeyBody P)

def setRecord : SignalSender P S :=
  { sender with records := Function.update sender.records address (some sess) }

def onRecord {α : Type} (step : Live P S α) : Except String α × SignalSender P S :=
  match step sess with
  | .ok v after => (.ok v, sender.setRecord address after)
  | .error error after => (.error error, sender.setRecord address after)

/-- `encrypt_for`; `base` and `ratchet` are the key pairs of a session that it starts. -/
def encryptFor (bundle : AgentBundle P) (base ratchet : KeyPair P S) (plain : Bytes) :
    Except String (Envelope P) × SignalSender P S :=
  match sender.records address with
  | some sess => sender.onRecord address sess (encryptRecord c sender.identity.publicKey plain)
  | none =>
    match newSession c sender.identity sender.registrationId bundle base ratchet with
    | .error error => (.error error, sender)
    | .ok sess => sender.onRecord address sess (encryptRecord c sender.identity.publicKey plain)

def openSession : Except String (Session P S) :=
  match sender.signedPreKeys prekey.signedPreKeyId with
  | none => .error "signal: missing signed pre-key"
  | some signedKey =>
    match prekey.preKeyId with
    | none =>
      initResponder c sender.identity none signedKey prekey.identityKey prekey.baseKey
        prekey.registrationId sender.registrationId
    | some id =>
      match sender.preKeys id with
      | none => .error "signal: missing pre-key"
      | some preKey =>
        initResponder c sender.identity (some preKey) signedKey prekey.identityKey
          prekey.baseKey prekey.registrationId sender.registrationId

def forgetPreKey : Option Nat → SignalSender P S
  | none => sender
  | some id => { sender with preKeys := Function.update sender.preKeys id none }

def decryptRepeated : Except String Bytes × SignalSender P S :=
  match sender.onRecord address sess
      (decryptRecord c sender.identity.publicKey fresh prekey.message) with
  | (.ok plain, after) => (.ok plain, after.forgetPreKey prekey.preKeyId)
  | raised => raised

def decryptFirst : Except String Bytes × SignalSender P S :=
  match sender.openSession c prekey with
  | .error error => (.error error, sender)
  | .ok sess =>
    match decryptRecord c sender.identity.publicKey fresh prekey.message sess with
    | .error error _ => (.error error, sender)
    | .ok plain opened => (.ok plain, (sender.forgetPreKey prekey.preKeyId).setRecord address opened)

def knownSession (baseKey : P) : Option (Session P S) :=
  (sender.records address).filter fun sess => sess.baseKey = baseKey

def decryptFrom : Envelope P → Except String Bytes × SignalSender P S
  | .pkmsg (.error error) => (.error error, sender)
  | .pkmsg (.ok prekey) =>
    match sender.knownSession address prekey.baseKey with
    | some sess => sender.decryptRepeated c address sess fresh prekey
    | none => sender.decryptFirst c address fresh prekey
  | .msg ciphertext =>
    match sender.records address with
    | none => (.error s!"signal session {address} not found", sender)
    | some sess => sender.onRecord address sess (decryptRecord c sender.identity.publicKey fresh ciphertext)

end SignalSender
end
end Clawdi.Signal
