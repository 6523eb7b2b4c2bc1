import Clawdi.Lib.Mutation
import Clawdi.Signal.Session

namespace Clawdi.Signal
open Mutation
section
variable {P S : Type} {crypto : Crypto P S} {chain filled : Chain} {counter : Int}

def Chain.Unreachable (chain : Chain) (counter : Int) : Prop :=
  chain.counter < counter ∧ (2000 < counter - chain.counter ∨ chain.key = none)

lemma advance_counter (n : Nat) (keyed : chain.key.isSome = true) :
    (chain.advance crypto n).counter = chain.counter + n ∧ (chain.advance crypto n).key.isSome = true := by
  induction n generalizing chain with
  | zero => simpa [Chain.advance] using keyed
  | succ n ih =>
    obtain ⟨key, given⟩ := Option.isSome_iff_exists.mp keyed
    have next := @ih (chain.next crypto key) rfl
    rw [Chain.advance, given]
    refine ⟨?_, next.2⟩
    rw [show (chain.next crypto key).counter = chain.counter + 1 from rfl] at next
    push_cast
    omega

lemma advance_keeps (n : Nat) {i : Int} (outside : i ≤ chain.counter ∨ chain.counter + n < i) :
    (chain.advance crypto n).messageKeys i = chain.messageKeys i := by
  induction n generalizing chain with
  | zero => rfl
  | succ n ih =>
    rw [Chain.advance]
    cases chain.key with
    | none => rfl
    | some key =>
      push_cast at outside
      have next : (chain.next crypto key).counter = chain.counter + 1 := rfl
      have same : (chain.next crypto key).messageKeys i = chain.messageKeys i :=
        Function.update_of_ne (by omega) _ _
      exact (ih (by omega)).trans same

lemma advance_type (n : Nat) : (chain.advance crypto n).chainType = chain.chainType := by
  induction n generalizing chain with
  | zero => rfl
  | succ n ih =>
    rw [Chain.advance]
    cases chain.key with
    | none => rfl
    | some key => exact ih

lemma advance_stores (n : Nat) (keyed : chain.key.isSome = true) {i : Int}
    (above : chain.counter < i) (reached : i ≤ chain.counter + n) :
    (chain.advance crypto n).messageKeys i ≠ none := by
  induction n generalizing chain with
  | zero => exact absurd reached (by push_cast; omega)
  | succ n ih =>
    obtain ⟨key, given⟩ := Option.isSome_iff_exists.mp keyed
    rw [Chain.advance, given]
    have next : (chain.next crypto key).counter = chain.counter + 1 := rfl
    by_cases first : i = chain.counter + 1
    · have kept := @advance_keeps P S crypto (chain.next crypto key) n i (by omega)
      have was : (chain.next crypto key).messageKeys i = some (mac crypto key.val [1]) := by
        rw [first]
        exact Function.update_self _ _ _
      rw [kept, was]
      exact Option.some_ne_none _
    · apply ih rfl
      · omega
      · push_cast at reached
        omega

lemma fill_below (below : counter ≤ chain.counter) :
    fillMessageKeys crypto chain counter = .ok chain := if_pos below

lemma fill_reaches (above : chain.counter < counter) (near : counter - chain.counter ≤ 2000)
    (keyed : chain.key.isSome = true) : fillMessageKeys crypto chain counter =
      .ok (chain.advance crypto (counter - chain.counter).toNat) := by
  obtain ⟨key, given⟩ := Option.isSome_iff_exists.mp keyed
  rw [fillMessageKeys, if_neg (by omega), if_neg (by omega), given]

lemma fill_unreachable (unreachable : chain.Unreachable counter) :
    ∃ error, fillMessageKeys crypto chain counter = .error error := by
  obtain ⟨above, far | closed⟩ := unreachable
  · exact ⟨_, (if_neg (by omega)).trans (if_pos far)⟩
  · rw [fillMessageKeys, if_neg (by omega)]
    by_cases far : 2000 < counter - chain.counter
    · exact ⟨_, if_pos far⟩
    · rw [if_neg far, closed]
      exact ⟨_, rfl⟩

lemma fill_cases (made : fillMessageKeys crypto chain counter = .ok filled) :
    filled = chain ∧ counter ≤ chain.counter ∨
      filled.chainType = chain.chainType ∧ chain.counter < counter ∧ filled.counter = counter ∧
        filled.messageKeys counter ≠ none ∧ chain.key ≠ none := by
  by_cases below : counter ≤ chain.counter
  · rw [fill_below below] at made
    cases made
    exact .inl ⟨rfl, below⟩
  · rw [fillMessageKeys, if_neg below] at made
    split at made
    · cases made
    split at made
    · cases made
    · rename_i key given
      cases made
      have keyed : chain.key.isSome = true := Option.isSome_of_eq_some given
      refine Or.inr ⟨advance_type _, by omega, ?_, ?_, ?_⟩
      · have reached := (@advance_counter P S crypto chain (counter - chain.counter).toNat keyed).1
        omega
      · apply advance_stores _ keyed <;> omega
      · rw [given]
        exact Option.some_ne_none key

lemma fill_reachable (made : fillMessageKeys crypto chain counter = .ok filled) : ¬chain.Unreachable counter := by
  intro unreachable
  obtain ⟨error, raised⟩ := @fill_unreachable P S crypto chain counter unreachable
  rw [made] at raised
  cases raised

lemma fill_raises {error} (raised : fillMessageKeys crypto chain counter = .error error) :
    chain.Unreachable counter := by
  by_contra reachable
  by_cases below : counter ≤ chain.counter
  · rw [fill_below below] at raised
    cases raised
  · simp only [Chain.Unreachable, not_and, not_or] at reachable
    obtain ⟨near, keyed⟩ := reachable (by omega)
    rw [fill_reaches (by omega) (by omega) (Option.isSome_iff_ne_none.mpr keyed)] at raised
    cases raised

end

section
variable {P S : Type} [DecidableEq P] {crypto : Crypto P S} {session : Session P S}

def Session.withChain (session : Session P S) (key : P) (chain : Option Chain) : Session P S :=
  { session with chains := Function.update session.chains key chain }

def ratchetChain (sending : Bool) (key : Digest) : Chain :=
  { messageKeys := fun _ => none, counter := -1, key := some key
    chainType := if sending then .sending else .receiving }

def Session.chainKey (session : Session P S) (rkey : P) (sending : Bool) : P :=
  if sending then session.ephemeralKeyPair.publicKey else rkey

def rootStep (crypto : Crypto P S) (shared root : Digest) : Digest × Digest × Digest :=
  deriveSecrets crypto shared.val root "WhisperRatchet".toUTF8.data.toList

def Session.ratcheted (crypto : Crypto P S) (session : Session P S) (rkey : P) (sending : Bool)
    (shared : Digest) : Session P S :=
  { session.withChain (session.chainKey rkey sending)
      (some (ratchetChain sending (rootStep crypto shared session.rootKey).2.1)) with
    rootKey := (rootStep crypto shared session.rootKey).1 }

lemma calculateRatchet_refused {rkey sending}
    (refused : crypto.exchange rkey session.ephemeralKeyPair.privateKey = none) :
    ∃ error, calculateRatchet crypto rkey sending session = .error error session := by
  rw [calculateRatchet, get_bind, agreement, refused]
  exact ⟨_, rfl⟩

variable {rkey : P} {previousCounter : Int}

lemma calculateRatchet_run {sending shared}
    (agreed : crypto.exchange rkey session.ephemeralKeyPair.privateKey = some shared)
    (free : session.chains (session.chainKey rkey sending) = none) : calculateRatchet crypto rkey sending session =
      .ok () (session.ratcheted crypto rkey sending shared) := by
  rw [calculateRatchet, get_bind, agreement, agreed]
  have added : ∀ chain, addChain (session.chainKey rkey sending) chain session =
      .ok () (session.withChain (session.chainKey rkey sending) (some chain)) := by
    intro chain
    rw [addChain, get_bind, free]
    rfl
  exact bind_ok (added _)

lemma calculateRatchet_taken {rkey sending} (taken : session.chains (session.chainKey rkey sending) ≠ none) :
    ∃ error, calculateRatchet crypto rkey sending session = .error error session := by
  rw [calculateRatchet, get_bind, agreement]
  cases crypto.exchange rkey session.ephemeralKeyPair.privateKey with
  | none => exact ⟨_, rfl⟩
  | some shared =>
    dsimp only [raising]
    rw [pure_bind]
    have raised : ∀ chain, addChain (session.chainKey rkey sending) chain session =
        .error "signal: chain overwrite" session := by
      intro chain
      rw [addChain, get_bind, Option.isSome_iff_ne_none.mpr taken]
      rfl
    exact ⟨_, bind_error (raised _)⟩

def Session.closed (session : Session P S) (filled : Chain) : Session P S :=
  session.withChain session.lastRemoteEphemeralKey (some { filled with key := none })

lemma closePrevious_none {counter : Int} (gone : session.chains session.lastRemoteEphemeralKey = none) :
    closePrevious crypto counter session = .ok () session := by
  rw [closePrevious, get_bind, gone]
  rfl

lemma closePrevious_run {counter : Int} {prev filled}
    (present : session.chains session.lastRemoteEphemeralKey = some prev)
    (made : fillMessageKeys crypto prev counter = .ok filled) :
    closePrevious crypto counter session = .ok () (session.closed filled) := by
  rw [closePrevious, get_bind, present]
  dsimp only
  rw [made]
  rfl

lemma closePrevious_raises {counter : Int} {prev error}
    (present : session.chains session.lastRemoteEphemeralKey = some prev)
    (raised : fillMessageKeys crypto prev counter = .error error) :
    closePrevious crypto counter session = .error error session := by
  rw [closePrevious, get_bind, present]
  dsimp only
  rw [raised]
  rfl

def Session.replaced (session : Session P S) (fresh : KeyPair P S) : Session P S :=
  match session.chains session.ephemeralKeyPair.publicKey with
  | none => { session with ephemeralKeyPair := fresh }
  | some chain =>
    { session.withChain session.ephemeralKeyPair.publicKey none with
      previousCounter := chain.counter, ephemeralKeyPair := fresh }

lemma replaced_eq (fresh : KeyPair P S) : session.replaced fresh =
    { session with
      ephemeralKeyPair := fresh
      previousCounter :=
        (session.chains session.ephemeralKeyPair.publicKey).elim session.previousCounter Chain.counter
      chains := fun key =>
        if key = session.ephemeralKeyPair.publicKey then none else session.chains key } := by
  rw [Session.replaced]
  cases here : session.chains session.ephemeralKeyPair.publicKey with
  | none =>
    have same : session.chains = fun key =>
        if key = session.ephemeralKeyPair.publicKey then none else session.chains key := by
      funext key
      split
      · rename_i own
        rw [own, here]
      · rfl
    dsimp only [Option.elim]
    rw [← same]
  | some chain =>
    have same : Function.update session.chains session.ephemeralKeyPair.publicKey none = fun key =>
        if key = session.ephemeralKeyPair.publicKey then none else session.chains key := by
      funext key
      rw [Function.update_apply]
    dsimp only [Option.elim, Session.withChain]
    rw [same]

lemma replaceLocalKey_run (fresh : KeyPair P S) :
    replaceLocalKey fresh session = .ok () (session.replaced fresh) := by
  rw [replaceLocalKey, get_bind, Session.replaced]
  cases session.chains session.ephemeralKeyPair.publicKey <;> rfl

def turnLocal (crypto : Crypto P S) (fresh : KeyPair P S) (rkey : P) : Live P S Unit := do
  replaceLocalKey fresh
  calculateRatchet crypto rkey true
  modify fun session => { session with lastRemoteEphemeralKey := rkey }

lemma maybeStepRatchet_known {fresh chain} (present : session.chains rkey = some chain) :
    maybeStepRatchet crypto fresh rkey previousCounter session = .ok () session := by
  rw [maybeStepRatchet, get_bind, present]
  rfl

lemma maybeStepRatchet_new {fresh} (gone : session.chains rkey = none) :
    maybeStepRatchet crypto fresh rkey previousCounter session = (closePrevious crypto previousCounter >>= fun _ =>
        calculateRatchet crypto rkey false >>= fun _ => turnLocal crypto fresh rkey)
        session := by
  rw [maybeStepRatchet, get_bind, gone]
  rfl

end
end Clawdi.Signal
