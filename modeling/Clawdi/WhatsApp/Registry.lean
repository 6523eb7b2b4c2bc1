import Clawdi.Lib.Transition
import Mathlib

namespace Clawdi.SidecarRegistry
open Transition (run run_invariant)

inductive Fault where
  | unavailable
  | revisionMismatch
  | ownershipConflict
  | alreadyRegistered

structure Pool (ι : Type) where
  enabled : Bool
  started : Bool
  bindingRevision : ι → String

/-- `liveTasks` are the pump tasks of an account that still run. -/
structure Registry (ι : Type) where
  customSessionToAccount : ι → Option ι := fun _ => none
  customAccountToSession : ι → Option ι := fun _ => none
  blockedCustomSessions : List ι := []
  ingressTasks : ι → Option ℕ := fun _ => none
  providerTransports : ι → Bool := fun _ => false
  liveTasks : ι → List ℕ := fun _ => []
  createdTasks : ℕ := 0

structure Health where
  connected : Bool
  registered : Bool
  accountLid : Option String
  lastDisconnectReason : Option String

structure PairingStatus where
  registered : Bool

/-- The sidecar's answers at one session, and the pumps that end during the loop's three awaits. -/
structure Turn (ι : Type) where
  answer : Option (Health × PairingStatus) := none
  detaching : List (ι × ℕ) := []
  probing : List (ι × ℕ) := []
  blocking : List (ι × ℕ) := []

/-- An active account, with the fields of its config that name its session. -/
structure Account (ι : Type) where
  id : ι
  connectionMode : Option String
  sidecarAccountId : Option ι
  sidecarConfigRevision : Option String

/-- An unreleased onboarding session of a custom account. -/
structure OnboardingSession (ι : Type) where
  sidecarAccountId : ι
  sidecarConfigRevision : String

structure Rows (ι : Type) where
  accounts : List (Account ι)
  sessions : List (OnboardingSession ι)

structure Ownership (ι : Type) where
  owners : List (ι × ι × String) := []
  reservations : List (ι × String) := []
  invalidSessions : List ι := []

variable {ι : Type} [DecidableEq ι]
namespace Pool
variable (pool : Pool ι) (sess : ι)

def client : Bool := pool.started && pool.enabled
def customSessionRevision : Option String := if pool.enabled then some (pool.bindingRevision sess) else none

end Pool

def Account.Names (sess : ι) (acct : Account ι) : Bool :=
  acct.connectionMode = some "baileys_custom" && acct.sidecarAccountId = some sess

namespace Ownership

def claim (found : Ownership ι) (acct : Account ι) : Ownership ι :=
  if acct.connectionMode ≠ some "baileys_custom" then found else
  match acct.sidecarAccountId, acct.sidecarConfigRevision with
  | none, _ => found
  | some sess, none => { found with invalidSessions := sess :: found.invalidSessions }
  | some sess, some rev =>
    if (found.owners.lookup sess).isSome then
      { found with invalidSessions := sess :: found.invalidSessions }
    else { found with owners := (sess, acct.id, rev) :: found.owners }

def reserve (found : Ownership ι) (sess : OnboardingSession ι) : Ownership ι :=
  { found with
    invalidSessions :=
      if (found.reservations.lookup sess.sidecarAccountId).isSome then
        sess.sidecarAccountId :: found.invalidSessions
      else found.invalidSessions
    reservations := (sess.sidecarAccountId, sess.sidecarConfigRevision) :: found.reservations }

def desiredSessions (found : Ownership ι) : List ι :=
  (found.owners.map Prod.fst ++ found.reservations.map Prod.fst).dedup

end Ownership

def Rows.ownership (rows : Rows ι) : Ownership ι := rows.sessions.foldl .reserve (rows.accounts.foldl .claim {})

/-- One pass of `reconcile_custom_ownership`: the order in which its set is walked and what happens
at each session. -/
structure Pass (rows : Rows ι) where
  order : List ι
  perm : order.Perm rows.ownership.desiredSessions
  turns : ι → Turn ι

namespace Registry
variable (reg : Registry ι)

def releaseTerminalIngressOwner (acct : ι) (task : ℕ) : Registry ι :=
  if reg.ingressTasks acct ≠ some task then reg else
  { reg with
    ingressTasks := Function.update reg.ingressTasks acct none
    providerTransports := Function.update reg.providerTransports acct false
    customAccountToSession := Function.update reg.customAccountToSession acct none
    customSessionToAccount :=
      match reg.customAccountToSession acct with
      | none => reg.customSessionToAccount
      | some sess => Function.update reg.customSessionToAccount sess none }

/-- A pump finds its account retired. -/
def retire (pump : ι × ℕ) : Registry ι :=
  if pump.2 ∈ reg.liveTasks pump.1 then
    { reg.releaseTerminalIngressOwner pump.1 pump.2 with
      liveTasks := Function.update reg.liveTasks pump.1 ((reg.liveTasks pump.1).erase pump.2) }
  else reg

def pause (ended : List (ι × ℕ)) : Registry ι := run retire reg ended

def registerTransport (acct : ι) : Except Fault (Registry ι) :=
  if reg.providerTransports acct then .error .alreadyRegistered
  else .ok
    { reg with
      providerTransports := Function.update reg.providerTransports acct true
      ingressTasks := Function.update reg.ingressTasks acct (some reg.createdTasks)
      liveTasks := Function.update reg.liveTasks acct (reg.createdTasks :: reg.liveTasks acct)
      createdTasks := reg.createdTasks + 1 }

/-- A task that is cancelled changes nothing from then on. -/
def cancel (acct : ι) (task : ℕ) : Registry ι :=
  { reg with
    ingressTasks := Function.update reg.ingressTasks acct none
    liveTasks := Function.update reg.liveTasks acct ((reg.liveTasks acct).erase task) }

def unbindTransport (acct : ι) (ended : List (ι × ℕ)) : Registry ι :=
  let quiet := match reg.ingressTasks acct with
    | none => reg
    | some task => (reg.cancel acct task).pause ended
  { quiet with providerTransports := Function.update quiet.providerTransports acct false }

def bindCustomAccountUnlocked (pool : Pool ι) (sess acct : ι) (rev : String) : Except Fault (Registry ι × Bool) :=
  if sess ∈ reg.blockedCustomSessions then .error .unavailable
  else if some rev ≠ pool.customSessionRevision sess then .error .revisionMismatch
  else if reg.customSessionToAccount sess = some acct ∧
      reg.customAccountToSession acct = some sess then .ok (reg, false)
  else if (reg.customSessionToAccount sess).isSome ∨ (reg.customAccountToSession acct).isSome then
    .error .ownershipConflict
  else if !pool.client then .error .unavailable
  else (reg.registerTransport acct).map fun reg =>
    ({ reg with
      customSessionToAccount := Function.update reg.customSessionToAccount sess (some acct)
      customAccountToSession := Function.update reg.customAccountToSession acct (some sess) }, true)

def unbindCustomAccountUnlocked (sess acct : ι) (ended : List (ι × ℕ)) : Except Fault (Registry ι × Bool) :=
  if reg.customSessionToAccount sess = none ∧ reg.customAccountToSession acct = none then .ok (reg, false)
  else if reg.customSessionToAccount sess ≠ some acct ∨
      reg.customAccountToSession acct ≠ some sess then .error .ownershipConflict
  else
    let quiet := reg.unbindTransport acct ended
    .ok ({ quiet with
      customSessionToAccount := Function.update quiet.customSessionToAccount sess none
      customAccountToSession := Function.update quiet.customAccountToSession acct none }, true)

def discard (sess : ι) : Registry ι :=
  { reg with blockedCustomSessions := reg.blockedCustomSessions.filter (· ≠ sess) }

def block (sess : ι) : Registry ι :=
  { reg with blockedCustomSessions := sess :: reg.blockedCustomSessions }

def blockCustomSessionUnlocked (sess : ι) (acct : Option ι) (ended : List (ι × ℕ)) : Except Fault (Registry ι) :=
  match acct with
  | none => .ok (reg.block sess)
  | some acct => (reg.unbindCustomAccountUnlocked sess acct ended).map (·.1.block sess)

/-- What was changed before a call that raises stays changed. -/
def after (reg : Registry ι) : Except Fault (Registry ι) → Registry ι × Option Fault
  | .ok reg => (reg, none)
  | .error fault => (reg, some fault)

def prepareCustomAccountRepair (pool : Pool ι) (sess acct : ι) (rev : String)
    (ended : List (ι × ℕ)) : Registry ι × Option Fault :=
  let bound := reg.customSessionToAccount sess = some acct ∧ reg.customAccountToSession acct = some sess
  let unbound := reg.customSessionToAccount sess = none ∧ reg.customAccountToSession acct = none
  if pool.customSessionRevision sess ≠ some rev then (reg, some .revisionMismatch)
  else if ¬unbound ∧ ¬bound then (reg, some .ownershipConflict)
  else
    let detached := if bound then reg.unbindCustomAccountUnlocked sess acct ended else .ok (reg, false)
    match detached with
    | .error fault => (reg, some fault)
    | .ok (reg, _) => (reg.discard sess, if pool.client then none else some .unavailable)

variable (pool : Pool ι) (found : Ownership ι) (turn : Turn ι) (sess : ι)

/-- The removal of a binding to an account that no longer owns the session; the account that
stays bound comes with the registry. -/
def detachStale : Except Fault (Registry ι × Option ι) :=
  match reg.customSessionToAccount sess with
  | none => .ok (reg, none)
  | some cur =>
    let desired := (found.owners.lookup sess).map Prod.fst
    if some cur ≠ desired ∧ ¬(desired = none ∧ (found.reservations.lookup sess).isSome) then
      (reg.unbindCustomAccountUnlocked sess cur turn.detaching).map fun reg => (reg.1, none)
    else .ok (reg, some cur)

/-- The tests of a session's physical identity. -/
def Misidentified (health : Health) (pairing : PairingStatus) : Prop :=
  pool.customSessionRevision sess = none ∨ health.registered ≠ pairing.registered ∨
    (health.registered ∧ health.accountLid = none) ∨
    (∃ owner ∈ found.owners.lookup sess, some owner.2 ≠ pool.customSessionRevision sess) ∨
    ∃ rev ∈ found.reservations.lookup sess, some rev ≠ pool.customSessionRevision sess

instance (health : Health) (pairing : PairingStatus) : Decidable (Misidentified pool found sess health pairing) := by
  unfold Misidentified
  cases found.owners.lookup sess <;> cases found.reservations.lookup sess <;>
    simp only [Option.mem_def, reduceCtorEq, false_and, exists_false, Option.some.injEq, exists_eq_left'] <;>
    infer_instance

def settle (cur : Option ι) : Registry ι × Option Fault :=
  if !pool.client ∨ sess ∈ found.invalidSessions then
    reg.after (reg.blockCustomSessionUnlocked sess cur turn.blocking)
  else
    let reg := reg.pause turn.probing
    let blocked := reg.after (reg.blockCustomSessionUnlocked sess cur turn.blocking)
    match turn.answer with
    | none => blocked
    | some (health, pairing) =>
      if Misidentified pool found sess health pairing then blocked
      else match found.owners.lookup sess with
      | some (acct, rev) =>
        if health.lastDisconnectReason = some "remote_logged_out" ∨ !pairing.registered then blocked
        else
          let reg := reg.discard sess
          reg.after ((reg.bindCustomAccountUnlocked pool sess acct rev).map Prod.fst)
      | none => if health.connected ∧ !pairing.registered then blocked else (reg.discard sess, none)

def visit : Registry ι × Option Fault :=
  match reg.detachStale found turn sess with
  | .error fault => (reg, some fault)
  | .ok (reg, cur) => reg.settle pool found turn sess cur

def walk (turns : ι → Turn ι) : List ι → Registry ι → Registry ι × Option Fault
  | [], reg => (reg, none)
  | sess :: rest, reg =>
    match reg.visit pool found (turns sess) sess with
    | (reg, some fault) => (reg, some fault)
    | (reg, none) => walk turns rest reg

def reconcileCustomOwnership {rows : Rows ι} (pass : Pass rows) : Registry ι × Option Fault :=
  if pool.enabled then walk pool rows.ownership pass.turns pass.order reg else (reg, none)

end Registry

variable {pool : Pool ι} {turn : Turn ι} {free : Option ι} {reg next : Registry ι}
  {sess acct : ι} {ended : List (ι × ℕ)} {rows : Rows ι}

namespace Registry

/-- Each of the two maps undoes the other. -/
def Inverse (f g : ι → Option ι) : Prop := ∀ s a, f s = some a ↔ g a = some s

lemma Inverse.removed {f g : ι → Option ι} (inverse : Inverse f g) {s a : ι} (one : ∀ b, f s = some b → b = a)
    (alt : ∀ t, f t = some a → t = s) : Inverse (Function.update f s none) (Function.update g a none) := by
  intro t b
  have pair := inverse t b
  by_cases same : t = s <;> by_cases same' : b = a
  · simp [same, same']
  · subst same
    have lost : g b ≠ some t := fun bound => same' (one b (pair.mpr bound))
    simp [same', lost]
  · subst same'
    have lost : f t ≠ some b := fun bound => same (alt t bound)
    simp [same, lost]
  · simpa [same, same'] using pair

lemma Inverse.added {f g : ι → Option ι} (inverse : Inverse f g) {s a : ι} (one : f s = none)
    (alt : g a = none) : Inverse (Function.update f s (some a)) (Function.update g a (some s)) := by
  intro t b
  have pair := inverse t b
  by_cases same : t = s <;> by_cases same' : b = a
  · simp [same, same']
  · subst same
    simp [same', Ne.symm same', ← pair, one]
  · subst same'
    simp [same, Ne.symm same, pair, alt]
  · simpa [same, same'] using pair

/-- What holds between any two steps; `free` is the account whose pump is just cancelled. -/
structure Sound (pool : Pool ι) (free : Option ι) (reg : Registry ι) : Prop where
  inverse : Inverse reg.customSessionToAccount reg.customAccountToSession
  unblocked : ∀ s, (reg.customSessionToAccount s).isSome → s ∉ reg.blockedCustomSessions
  served : ∀ a, (reg.customAccountToSession a).isSome → free ≠ some a → (reg.ingressTasks a).isSome
  carried : ∀ a, (reg.ingressTasks a).isSome → reg.providerTransports a
  attached : ∀ a, reg.providerTransports a → free ≠ some a → (reg.ingressTasks a).isSome
  owned : ∀ a, (reg.ingressTasks a).isSome → (reg.customAccountToSession a).isSome
  live : ∀ a, reg.liveTasks a = (reg.ingressTasks a).toList
  enabled : ∀ s, (reg.customSessionToAccount s).isSome → pool.enabled

def Within (reg earlier : Registry ι) : Prop :=
  ∀ s a, reg.customSessionToAccount s = some a → earlier.customSessionToAccount s = some a

lemma Sound.retire (inv : Sound pool free reg) (pump : ι × ℕ) :
    Sound pool free (reg.retire pump) ∧ Within (reg.retire pump) reg ∧
      ∀ a, reg.ingressTasks a = none → (reg.retire pump).ingressTasks a = none := by
  obtain ⟨acct, task⟩ := pump
  unfold Registry.retire
  split
  · rename_i runs
    have owns : reg.ingressTasks acct = some task := by simpa [inv.live] using runs
    have alone : (reg.liveTasks acct).erase task = [] := by simp [inv.live, owns]
    obtain ⟨inverse, unblocked, served, carried, attached, owned, live, enabled⟩ := inv
    simp only [releaseTerminalIngressOwner, owns, ne_eq, not_true_eq_false, ↓reduceIte, alone]
    cases bound : reg.customAccountToSession acct with
    | none =>
      simp only [← bound, Function.update_eq_self]
      refine ⟨⟨inverse, unblocked, ?_, ?_, ?_, ?_, ?_, enabled⟩, fun s a => ?_, ?_⟩ <;> grind [Function.update_apply]
    | some sess =>
      have own := (inverse sess acct).mpr bound
      refine ⟨⟨inverse.removed (fun b is => by grind) fun t is => ?_, ?_, ?_, ?_, ?_, ?_, ?_, ?_⟩, fun s a => ?_, ?_⟩
      · exact Option.some.inj (((inverse t acct).mp is).symm.trans bound)
      all_goals grind [Function.update_apply]
  · exact ⟨inv, fun _ _ => id, fun _ => id⟩

lemma Sound.pause (inv : Sound pool free reg) (ended : List (ι × ℕ)) :
    Sound pool free (reg.pause ended) ∧ Within (reg.pause ended) reg ∧
      ∀ a, reg.ingressTasks a = none → (reg.pause ended).ingressTasks a = none := by
  induction ended generalizing reg with
  | nil => exact ⟨inv, fun _ _ => id, fun _ => id⟩
  | cons pump ended ih =>
    obtain ⟨next, within, quiet⟩ := inv.retire pump
    obtain ⟨last, within', quiet'⟩ := ih next
    exact ⟨last, fun s a bound => within s a (within' s a bound), fun a idle => quiet' a (quiet a idle)⟩

lemma Sound.unbind {changed : Bool} (inv : Sound pool none reg)
    (ran : reg.unbindCustomAccountUnlocked sess acct ended = .ok (next, changed)) :
    Sound pool none next ∧ next.customSessionToAccount sess = none ∧ Within next reg := by
  unfold unbindCustomAccountUnlocked at ran
  split at ran
  · cases ran
    rename_i free
    exact ⟨inv, free.1, fun _ _ => id⟩
  split at ran
  · cases ran
  rename_i free owned
  simp only [not_or, ne_eq, not_not] at owned
  obtain ⟨task, serving⟩ := Option.isSome_iff_exists.mp (inv.served acct (by simp [owned.2]) (by simp))
  have mid : Sound pool (some acct) (reg.cancel acct task) := by
    obtain ⟨inverse, unblocked, served, carried, attached, owned, live, enabled⟩ := inv
    refine ⟨inverse, unblocked, ?_, ?_, ?_, ?_, ?_, enabled⟩ <;> simp only [cancel] <;>
      grind [Function.update_apply]
  obtain ⟨quiet, within, idle⟩ := mid.pause ended
  have idle := idle acct (by simp [cancel])
  simp only [unbindTransport, serving, Except.ok.injEq, Prod.mk.injEq] at ran
  obtain ⟨rfl, -⟩ := ran
  have own : ∀ s, ((reg.cancel acct task).pause ended).customSessionToAccount s = some acct →
      s = sess := fun s bound => by
    have := (inv.inverse s acct).mp (within s acct bound)
    grind
  have own' : ∀ a, ((reg.cancel acct task).pause ended).customSessionToAccount sess = some a →
      a = acct := fun a bound => by
    have := within sess a bound
    grind [cancel]
  obtain ⟨inverse, unblocked, served, carried, attached, owned, live, enabled⟩ := quiet
  refine ⟨⟨inverse.removed own' own, ?_, ?_, ?_, ?_, ?_, ?_, ?_⟩, by simp, fun s a bound => within s a ?_⟩ <;>
    grind [Function.update_apply]

lemma Sound.bind {rev : String} {changed : Bool} (inv : Sound pool none reg)
    (ran : reg.bindCustomAccountUnlocked pool sess acct rev = .ok (next, changed)) :
    Sound pool none next ∧ next.customSessionToAccount sess = some acct ∧
      ∀ s, s ≠ sess → next.customSessionToAccount s = reg.customSessionToAccount s := by
  unfold bindCustomAccountUnlocked at ran
  split at ran
  · cases ran
  split at ran
  · cases ran
  split at ran
  · cases ran
    rename_i bound
    exact ⟨inv, bound.1, fun _ _ => rfl⟩
  split at ran
  · cases ran
  split at ran
  · cases ran
  rename_i allowed revised _ free client
  simp only [registerTransport] at ran
  split at ran
  · cases ran
  rename_i idle
  cases ran
  obtain ⟨inverse, unblocked, served, carried, attached, owned, live, enabled⟩ := inv
  simp only [not_or, Option.not_isSome_iff_eq_none] at free
  have silent : reg.ingressTasks acct = none := by simpa [idle] using carried acct
  refine ⟨⟨inverse.added free.1 free.2, ?_, ?_, ?_, ?_, ?_, ?_, ?_⟩, by simp, fun s alt => by simp [alt]⟩ <;>
    grind [Function.update_apply, Pool.client]

lemma Sound.block {acct : Option ι} {ended : List (ι × ℕ)} (inv : Sound pool none reg)
    (free : acct = none → reg.customSessionToAccount sess = none)
    (ran : reg.blockCustomSessionUnlocked sess acct ended = .ok next) :
    Sound pool none next ∧ next.customSessionToAccount sess = none ∧ Within next reg := by
  have blocked : ∀ {reg : Registry ι}, Sound pool none reg → reg.customSessionToAccount sess = none →
      Sound pool none (reg.block sess) := by
    rintro reg ⟨inverse, unblocked, served, carried, attached, owned, live, enabled⟩ free
    exact ⟨inverse, fun s bound => by grind [Registry.block], served, carried, attached, owned, live, enabled⟩
  cases acct with
  | none =>
    cases ran
    exact ⟨blocked inv (free rfl), free rfl, fun _ _ => id⟩
  | some acct =>
    simp only [blockCustomSessionUnlocked] at ran
    cases unbinding : reg.unbindCustomAccountUnlocked sess acct ended with
    | error fault => simp [unbinding, Except.map] at ran
    | ok result =>
      simp only [unbinding, Except.map, Except.ok.injEq] at ran
      obtain ⟨inv, lost, within⟩ := inv.unbind unbinding
      exact ran ▸ ⟨blocked inv lost, lost, within⟩

lemma Sound.discard (inv : Sound pool none reg) (sess : ι) : Sound pool none (reg.discard sess) := by
  obtain ⟨inverse, unblocked, served, carried, attached, owned, live, enabled⟩ := inv
  exact ⟨inverse, fun s bound => by simp [Registry.discard, unblocked s bound], served, carried, attached, owned, live, enabled⟩

def Entitled (pool : Pool ι) (rows : Rows ι) (turn : Turn ι) (sess acct : ι) : Prop :=
  (∃ row, rows.accounts.filter (·.Names sess) = [row] ∧ row.id = acct ∧
    row.sidecarConfigRevision.isSome ∧ row.sidecarConfigRevision = pool.customSessionRevision sess) ∧
  ∃ health pairing, turn.answer = some (health, pairing) ∧ health.registered ∧ pairing.registered ∧
    health.accountLid.isSome ∧ health.lastDisconnectReason ≠ some "remote_logged_out"

/-- A session that no unreleased onboarding session names is bound to nobody but its owner. -/
def Owned (pool : Pool ι) (rows : Rows ι) (turn : Turn ι) (sess : ι) (reg : Registry ι) : Prop :=
  (∀ onb ∈ rows.sessions, onb.sidecarAccountId ≠ sess) →
    ∀ acct, reg.customSessionToAccount sess = some acct → Entitled pool rows turn sess acct

end Registry

namespace Ownership

lemma claims (accounts : List (Account ι)) (sess : ι) : sess ∉ (accounts.foldl claim {}).invalidSessions →
    (accounts.filter (·.Names sess) = [] ∧ (accounts.foldl claim {}).owners.lookup sess = none) ∨
    ∃ row rev, accounts.filter (·.Names sess) = [row] ∧ row.sidecarConfigRevision = some rev ∧
      (accounts.foldl claim {}).owners.lookup sess = some (row.id, rev) := by
  induction accounts using List.reverseRecOn with
  | nil => exact fun _ => .inl ⟨rfl, rfl⟩
  | append_singleton accounts acct ih =>
    rw [List.foldl_append, List.filter_append]
    generalize accounts.foldl claim {} = found at ih ⊢
    intro valid
    simp only [List.foldl_cons, List.foldl_nil, claim] at valid ⊢
    by_cases custom : acct.connectionMode = some "baileys_custom"
    · cases named : acct.sidecarAccountId <;> cases revised : acct.sidecarConfigRevision <;>
        cases taken : (found.owners.lookup sess) <;>
        grind [Account.Names]
    · simpa [custom, Account.Names] using ih (by simpa [custom] using valid)

lemma reserves (sessions : List (OnboardingSession ι)) (found : Ownership ι) (sess : ι) :
    (sessions.foldl reserve found).owners = found.owners ∧
    (sess ∈ found.invalidSessions → sess ∈ (sessions.foldl reserve found).invalidSessions) ∧
    (sessions.foldl reserve found).reservations.map Prod.fst =
      (sessions.map OnboardingSession.sidecarAccountId).reverse ++ found.reservations.map Prod.fst := by
  induction sessions generalizing found with
  | nil => exact ⟨rfl, id, rfl⟩
  | cons onb sessions ih =>
    obtain ⟨owners, invalid, reserved⟩ := ih (found.reserve onb)
    refine ⟨owners, fun known => invalid ?_, reserved.trans (by simp [reserve])⟩
    simp only [reserve]
    split <;> simp [known]

lemma claim_reservations (accounts : List (Account ι)) (found : Ownership ι) :
    (accounts.foldl claim found).reservations = found.reservations := by
  induction accounts generalizing found with
  | nil => rfl
  | cons acct accounts ih =>
    rw [List.foldl_cons, ih, claim]
    split_ifs
    · rfl
    · split
      · rfl
      · rfl
      · split <;> rfl

end Ownership

lemma Rows.owner {rev : String} (valid : sess ∉ rows.ownership.invalidSessions)
    (owner : rows.ownership.owners.lookup sess = some (acct, rev)) :
    ∃ row, rows.accounts.filter (·.Names sess) = [row] ∧ row.id = acct ∧ row.sidecarConfigRevision = some rev := by
  obtain ⟨owners, invalid, -⟩ := Ownership.reserves rows.sessions (rows.accounts.foldl .claim {}) sess
  rw [Rows.ownership, owners] at owner
  obtain ⟨-, none⟩ | ⟨row, revision', alone, revised, is⟩ :=
    Ownership.claims rows.accounts sess fun known => valid (invalid known)
  · simp [none] at owner
  · obtain ⟨rfl, rfl⟩ : row.id = acct ∧ revision' = rev := by simpa [is] using owner
    exact ⟨row, alone, rfl, revised⟩

lemma Rows.reserved : sess ∈ rows.ownership.reservations.map Prod.fst ↔
      ∃ onb ∈ rows.sessions, onb.sidecarAccountId = sess := by
  have := (Ownership.reserves rows.sessions (rows.accounts.foldl .claim {}) sess).2.2
  rw [Ownership.claim_reservations] at this
  simp [Rows.ownership, this]

namespace Registry

structure Visited (pool : Pool ι) (rows : Rows ι) (turn : Turn ι) (sess : ι) (reg : Registry ι)
    (result : Registry ι × Option Fault) : Prop where
  inv : Sound pool none result.1
  frame : ∀ s, s ≠ sess → ∀ a, result.1.customSessionToAccount s = some a → reg.customSessionToAccount s = some a
  owned : result.2 = none → Owned pool rows turn sess result.1

lemma Visited.mono (visited : Visited pool rows turn sess next result) (within : Within next reg) :
    Visited pool rows turn sess reg result :=
  ⟨visited.inv, fun s alt a bound => within s a (visited.frame s alt a bound), visited.owned⟩

lemma Sound.blocked {cur : Option ι} (inv : Sound pool none reg)
    (free : cur = none → reg.customSessionToAccount sess = none) :
    Visited pool rows turn sess reg (reg.after (reg.blockCustomSessionUnlocked sess cur ended)) := by
  cases ran : reg.blockCustomSessionUnlocked sess cur ended with
  | error fault => exact ⟨inv, fun _ _ _ => id, fun returned => by simp [after] at returned⟩
  | ok next =>
    obtain ⟨inv, lost, within⟩ := inv.block free ran
    exact ⟨inv, fun s _ => within s, fun _ _ a bound => by simp [after, lost] at bound⟩

lemma Sound.settle {cur : Option ι} (inv : Sound pool none reg) (is : reg.customSessionToAccount sess = cur)
    (kept : ∀ a, cur = some a → (∃ rev, rows.ownership.owners.lookup sess = some (a, rev)) ∨
      (rows.ownership.reservations.lookup sess).isSome) :
    Visited pool rows turn sess reg (reg.settle pool rows.ownership turn sess cur) := by
  unfold Registry.settle
  split
  · exact inv.blocked fun none => is.trans none
  rename_i valid
  obtain ⟨inv, within, -⟩ := inv.pause turn.probing
  have free : cur = none → (reg.pause turn.probing).customSessionToAccount sess = none := fun none => by
    cases bound : (reg.pause turn.probing).customSessionToAccount sess with
    | none => rfl
    | some a => simpa [is, none] using within sess a bound
  refine Visited.mono ?_ within
  cases ans : turn.answer with
  | none => exact inv.blocked free
  | some answered =>
    obtain ⟨health, pairing⟩ := answered
    dsimp only
    split
    · exact inv.blocked free
    rename_i identified
    split
    · rename_i acct rev owner
      split
      · exact inv.blocked free
      rename_i usable
      cases binding : ((reg.pause turn.probing).discard sess).bindCustomAccountUnlocked pool sess acct
          rev with
      | error fault => exact ⟨inv.discard sess, fun _ _ _ => id, fun ran => by simp [after, Except.map] at ran⟩
      | ok result =>
        obtain ⟨inv, bound, frame⟩ := (inv.discard sess).bind binding
        refine ⟨inv, fun s alt a bound => frame s alt ▸ bound, fun _ _ a bound' => ?_⟩
        obtain rfl : acct = a := Option.some.inj (bound.symm.trans bound')
        obtain ⟨row, alone, id, revised⟩ := Rows.owner (by tauto) owner
        simp only [Misidentified, owner, not_or, Option.mem_def, Option.some.injEq, exists_eq_left',
          ne_eq, not_not] at identified
        have live : health.registered ∧ pairing.registered := by grind
        refine ⟨⟨row, alone, id, by simp [revised], revised.trans identified.2.2.2.1⟩,
          health, pairing, ans, live.1, live.2, ?_, fun out => usable (.inl out)⟩
        exact Option.isSome_iff_ne_none.mpr fun lid => identified.2.2.1 ⟨live.1, lid⟩
    · rename_i unowned
      split
      · exact inv.blocked free
      · refine ⟨inv.discard sess, fun _ _ _ => id, fun _ unreserved a bound => ?_⟩
        obtain ⟨rev, owner⟩ | reserved := kept a (is ▸ within sess a bound)
        · simp [unowned] at owner
        · have named : sess ∈ rows.ownership.reservations.map Prod.fst := by grind
          obtain ⟨onb, mem, same⟩ := Rows.reserved.mp named
          exact absurd same (unreserved onb mem)

lemma Sound.visit (inv : Sound pool none reg) (rows : Rows ι) (turn : Turn ι) (sess : ι) :
    Visited pool rows turn sess reg (reg.visit pool rows.ownership turn sess) := by
  unfold Registry.visit
  cases ran : reg.detachStale rows.ownership turn sess with
  | error fault => exact ⟨inv, fun _ _ _ => id, fun returned => by simp at returned⟩
  | ok result =>
    obtain ⟨next, cur⟩ := result
    unfold detachStale at ran
    cases bound : reg.customSessionToAccount sess with
    | none =>
      simp only [bound, Except.ok.injEq, Prod.mk.injEq] at ran
      obtain ⟨rfl, rfl⟩ := ran
      exact inv.settle bound (by simp)
    | some acct =>
      simp only [bound] at ran
      split at ran
      · cases unbinding : reg.unbindCustomAccountUnlocked sess acct turn.detaching with
        | error fault => simp [unbinding, Except.map] at ran
        | ok result =>
          simp only [unbinding, Except.map, Except.ok.injEq, Prod.mk.injEq] at ran
          obtain ⟨inv, lost, within⟩ := inv.unbind unbinding
          obtain ⟨rfl, rfl⟩ := ran
          exact (inv.settle lost (by simp)).mono within
      · rename_i kept
        cases ran
        refine inv.settle bound fun a is => ?_
        cases is
        cases owner : rows.ownership.owners.lookup sess <;> grind

lemma Sound.walk (inv : Sound pool none reg) (rows : Rows ι) (turns : ι → Turn ι) (order : List ι) :
    Sound pool none (walk pool rows.ownership turns order reg).1 ∧
    (∀ s, s ∉ order → ∀ a, (walk pool rows.ownership turns order reg).1.customSessionToAccount s = some a →
      reg.customSessionToAccount s = some a) ∧ ((walk pool rows.ownership turns order reg).2 = none →
      ∀ s ∈ order, Owned pool rows (turns s) s (walk pool rows.ownership turns order reg).1) := by
  induction order generalizing reg with
  | nil => exact ⟨inv, fun _ _ _ => id, fun _ => by simp⟩
  | cons sess rest ih =>
    rw [Registry.walk]
    obtain ⟨kept, frame, owned⟩ := inv.visit rows (turns sess) sess
    match visited : reg.visit pool rows.ownership (turns sess) sess with
    | (next, some fault) =>
      rw [visited] at kept frame
      exact ⟨kept, fun s alt => frame s (List.ne_of_not_mem_cons alt), fun returned => by simp at returned⟩
    | (mid, none) =>
      rw [visited] at kept frame owned
      obtain ⟨last, frame', owned'⟩ := ih kept
      refine ⟨last, fun s alt a bound => ?_, fun returned s mem => ?_⟩
      · exact frame s (List.ne_of_not_mem_cons alt) a (frame' s (List.not_mem_of_not_mem_cons alt) a bound)
      · by_cases again : s ∈ rest
        · exact owned' returned s again
        · obtain rfl : s = sess := (List.mem_cons.mp mem).resolve_right again
          exact fun unreserved a bound => owned rfl unreserved a (frame' s again a bound)

lemma Sound.reconcile (inv : Sound pool none reg) (pass : Pass rows) :
    Sound pool none (reg.reconcileCustomOwnership pool pass).1 := by
  unfold reconcileCustomOwnership
  split
  · exact (inv.walk rows pass.turns pass.order).1
  · exact inv

lemma Sound.prepare {rev : String} (inv : Sound pool none reg) :
    Sound pool none (reg.prepareCustomAccountRepair pool sess acct rev ended).1 := by
  unfold prepareCustomAccountRepair
  dsimp only
  split
  · exact inv
  split
  · exact inv
  split
  · exact inv
  · rename_i next changed detached
    split at detached
    · exact (inv.unbind detached).1.discard sess
    · cases detached
      exact inv.discard sess

/-- What shall hold when a reconciliation has returned. -/
structure Reconciled (pool : Pool ι) (rows : Rows ι) (turns : ι → Turn ι) (reg : Registry ι) : Prop where
  inverse : Inverse reg.customSessionToAccount reg.customAccountToSession
  unblocked : ∀ s, (reg.customSessionToAccount s).isSome → s ∉ reg.blockedCustomSessions
  served : ∀ a, (reg.customAccountToSession a).isSome →
    reg.providerTransports a ∧ ∃ task, reg.ingressTasks a = some task ∧ reg.liveTasks a = [task]
  owned : ∀ s, Owned pool rows (turns s) s reg

lemma Sound.reconciled (inv : Sound pool none reg) (pass : Pass rows)
    (desired : ∀ s, (reg.customSessionToAccount s).isSome → s ∈ rows.ownership.desiredSessions)
    (returned : (reg.reconcileCustomOwnership pool pass).2 = none) :
    Reconciled pool rows pass.turns (reg.reconcileCustomOwnership pool pass).1 := by
  obtain ⟨inverse, unblocked, served, carried, -, -, live, -⟩ := inv.reconcile pass
  refine ⟨inverse, unblocked, fun a bound => ?_, fun s unreserved a bound => ?_⟩
  · have serving := served a bound (by simp)
    obtain ⟨task, is⟩ := Option.isSome_iff_exists.mp serving
    exact ⟨carried a serving, task, is, by simp [live, is]⟩
  · unfold reconcileCustomOwnership at bound returned
    split at bound
    · rename_i enabled
      simp only [enabled, ↓reduceIte] at returned
      obtain ⟨-, frame, owned⟩ := inv.walk rows pass.turns pass.order
      by_cases walked : s ∈ pass.order
      · exact owned returned s walked unreserved a bound
      · exact absurd (pass.perm.mem_iff.mpr (desired s (by simp [frame s walked a bound]))) walked
    · rename_i disabled
      exact absurd (inv.enabled s (Option.isSome_iff_exists.mpr ⟨a, bound⟩)) disabled

lemma Sound.unbinds (inv : Sound pool none reg) (bound : reg.customSessionToAccount sess = some acct) :
    ∃ next, reg.unbindCustomAccountUnlocked sess acct [] = .ok (next, true) ∧
      ∀ s, s ≠ sess → next.customSessionToAccount s = reg.customSessionToAccount s := by
  have back := (inv.inverse sess acct).mp bound
  refine ⟨_, by simp [unbindCustomAccountUnlocked, bound, back]; rfl, fun s alt => ?_⟩
  simp only [unbindTransport]
  split <;> simp [alt, Registry.pause, cancel]

lemma Sound.visit_failing (inv : Sound pool none reg) (found : Ownership ι) (sess : ι) :
    ∃ next, reg.visit pool found {} sess = (next, none) ∧
      ∀ s, s ≠ sess → next.customSessionToAccount s = reg.customSessionToAccount s := by
  have settled : ∀ (reg : Registry ι) cur, reg.settle pool found {} sess cur =
      reg.after (reg.blockCustomSessionUnlocked sess cur []) := fun reg cur => by
    unfold Registry.settle
    split <;> rfl
  cases bound : reg.customSessionToAccount sess with
  | none => exact ⟨reg.block sess, by simp [Registry.visit, detachStale, bound, settled]; rfl, fun _ _ => rfl⟩
  | some acct =>
    obtain ⟨next, unbound, others⟩ := inv.unbinds bound
    refine ⟨next.block sess, ?_, others⟩
    have detached : reg.detachStale found {} sess = .ok (next, none) ∨
        reg.detachStale found {} sess = .ok (reg, some acct) := by
      simp only [detachStale, bound]
      split
      · exact .inl (by rw [unbound]; rfl)
      · exact .inr rfl
    obtain detached | detached := detached
    · simp [Registry.visit, detached, settled, blockCustomSessionUnlocked, after]
    · simp [Registry.visit, detached, settled, blockCustomSessionUnlocked, unbound, Except.map, after]

lemma Sound.walk_failing (inv : Sound pool none reg) (rows : Rows ι) (order : List ι) :
    (Registry.walk pool rows.ownership (fun _ => {}) order reg).2 = none ∧ ∀ s, s ∉ order →
      (Registry.walk pool rows.ownership (fun _ => {}) order reg).1.customSessionToAccount s = reg.customSessionToAccount s := by
  induction order generalizing reg with
  | nil => exact ⟨rfl, fun _ _ => rfl⟩
  | cons sess rest ih =>
    obtain ⟨next, visited, others⟩ := inv.visit_failing rows.ownership sess
    obtain ⟨returned, others'⟩ := ih (visited ▸ (inv.visit rows {} sess).inv)
    simp only [Registry.walk, visited]
    refine ⟨returned, fun s alt => (others' s (List.not_mem_of_not_mem_cons alt)).trans ?_⟩
    exact others s (List.ne_of_not_mem_cons alt)

end Registry

/-- `bind` to `reconcile` are the calls that the lock puts in an order. -/
inductive Action (ι : Type) [DecidableEq ι] where
  | bind (sess acct : ι) (rev : String)
  | unbind (sess acct : ι) (ended : List (ι × ℕ))
  | prepare (sess acct : ι) (rev : String) (ended : List (ι × ℕ))
  | reconcile (rows : Rows ι) (pass : Pass rows)
  | retire (pump : ι × ℕ)

def step (pool : Pool ι) (reg : Registry ι) : Action ι → Registry ι
  | .bind sess acct rev => (reg.after ((reg.bindCustomAccountUnlocked pool sess acct rev).map Prod.fst)).1
  | .unbind sess acct ended => (reg.after ((reg.unbindCustomAccountUnlocked sess acct ended).map Prod.fst)).1
  | .prepare sess acct rev ended => (reg.prepareCustomAccountRepair pool sess acct rev ended).1
  | .reconcile _ pass => (reg.reconcileCustomOwnership pool pass).1
  | .retire pump => reg.retire pump

namespace Registry

lemma Sound.step (inv : Sound pool none reg) (action : Action ι) : Sound pool none (step pool reg action) := by
  cases action with
  | bind sess acct rev =>
    simp only [SidecarRegistry.step]
    cases ran : reg.bindCustomAccountUnlocked pool sess acct rev with
    | error fault => exact inv
    | ok result => exact (inv.bind ran).1
  | unbind sess acct ended =>
    simp only [SidecarRegistry.step]
    cases ran : reg.unbindCustomAccountUnlocked sess acct ended with
    | error fault => exact inv
    | ok result => exact (inv.unbind ran).1
  | prepare sess acct rev ended => exact inv.prepare
  | reconcile rows pass => exact inv.reconcile pass
  | retire pump => exact (inv.retire pump).1

lemma Sound.reached (pool : Pool ι) (actions : List (Action ι)) :
    Sound pool none (run (SidecarRegistry.step pool) {} actions) := by
  refine run_invariant (fun _ action inv => inv.step action) ?_ actions
  exact ⟨fun _ _ => by simp, by simp, by simp, by simp, by simp, by simp, by simp, by simp⟩

/-- An account has a transport and one pump where it is bound to an unblocked session, and else neither. -/
theorem one_pump (pool : Pool ι) (actions : List (Action ι)) (acct : ι) :
    let reg := run (SidecarRegistry.step pool) {} actions
    (∃ sess task, reg.customAccountToSession acct = some sess ∧
      (∀ s, reg.customSessionToAccount s = some acct ↔ s = sess) ∧ sess ∉ reg.blockedCustomSessions ∧
      reg.providerTransports acct ∧ reg.liveTasks acct = [task]) ∨
    (∀ sess, reg.customSessionToAccount sess ≠ some acct) ∧ reg.customAccountToSession acct = none ∧
      reg.providerTransports acct = false ∧ reg.liveTasks acct = [] := by
  obtain ⟨inverse, unblocked, served, carried, attached, owned, live, -⟩ := Sound.reached pool actions
  dsimp only
  generalize run (SidecarRegistry.step pool) {} actions = reg at *
  cases bound : reg.customAccountToSession acct with
  | some sess =>
    obtain ⟨task, is⟩ := Option.isSome_iff_exists.mp (served acct (by simp [bound]) (by simp))
    have back := (inverse sess acct).mpr bound
    have only : ∀ s, reg.customSessionToAccount s = some acct ↔ s = sess := by
      intro s
      rw [inverse s acct, bound, Option.some.injEq, eq_comm]
    exact .inl ⟨sess, task, rfl, only, unblocked sess (by simp [back]), carried acct (by simp [is]), by simp [live, is]⟩
  | none =>
    have idle : reg.ingressTasks acct = none := by simpa [bound] using owned acct
    have off : reg.providerTransports acct = false := by simpa [idle] using attached acct
    exact .inr ⟨fun sess is => by simp [(inverse sess acct).mp is] at bound, rfl, off, by simp [live, idle]⟩

/-- A reconciliation leaves the registry right exactly where each bound session is one that it walks. -/
theorem reconcile_right (pool : Pool ι) (actions : List (Action ι)) (rows : Rows ι) : (∀ pass : Pass rows,
      ((run (SidecarRegistry.step pool) {} actions).reconcileCustomOwnership pool pass).2 = none →
        Reconciled pool rows pass.turns
          ((run (SidecarRegistry.step pool) {} actions).reconcileCustomOwnership pool pass).1) ↔
    ∀ s, ((run (SidecarRegistry.step pool) {} actions).customSessionToAccount s).isSome →
      s ∈ rows.ownership.desiredSessions := by
  have inv := Sound.reached pool actions
  generalize run (SidecarRegistry.step pool) {} actions = reg at inv ⊢
  refine ⟨fun right s bound => ?_, fun desired pass => inv.reconciled pass desired⟩
  by_contra unwanted
  let pass : Pass rows := ⟨rows.ownership.desiredSessions, .refl _, fun _ => {}⟩
  obtain ⟨returned, others⟩ := inv.walk_failing rows pass.order
  have ran : reg.reconcileCustomOwnership pool pass = walk pool rows.ownership (fun _ => {}) pass.order reg := by
    rw [reconcileCustomOwnership, if_pos (inv.enabled s bound)]
  obtain ⟨acct, is⟩ := Option.isSome_iff_exists.mp bound
  have owned := (right pass (ran ▸ returned)).owned s
  rw [ran] at owned
  have unreserved : ∀ onb ∈ rows.sessions, onb.sidecarAccountId ≠ s := fun onb mem same => by
    refine unwanted (List.mem_dedup.mpr (List.mem_append_right _ ?_))
    exact Rows.reserved.mpr ⟨onb, mem, same⟩
  obtain ⟨-, health, pairing, ans, -⟩ := owned unreserved acct ((others s unwanted).trans is)
  cases ans

end Registry

namespace Sample

def bound : Registry ℕ := run (step ⟨true, true, fun _ => ""⟩) {} [.bind 0 1 ""]

theorem archived_stays_bound :
    ¬∀ pass : Pass (⟨[], []⟩ : Rows ℕ), (bound.reconcileCustomOwnership ⟨true, true, fun _ => ""⟩ pass).2 = none →
      Registry.Reconciled ⟨true, true, fun _ => ""⟩ ⟨[], []⟩ pass.turns
        (bound.reconcileCustomOwnership ⟨true, true, fun _ => ""⟩ pass).1 := by
  intro right
  have owned := (right ⟨[], .refl _, fun _ => {}⟩ rfl).owned 0 (by simp) 1 rfl
  obtain ⟨-, health, pairing, ans, -⟩ := owned
  cases ans

end Sample
end Clawdi.SidecarRegistry
