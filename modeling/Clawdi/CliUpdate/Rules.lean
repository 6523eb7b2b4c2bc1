import Clawdi.CliUpdate.Updates

namespace Clawdi.CliUpdate

/-- What can be found out about an installed tree. -/
structure Host (τ V ι : Type) where
  trusted : τ → Bool
  identity : τ → Option ι
  version : τ → Option V

/-- The active link, the receipt and the installed trees, each also as it last passed a verification. -/
structure Machine (τ V ι : Type) where
  link : Option (Prefix V) := none
  receipt : Option (Receipt V ι) := none
  trees : Prefix V → Option τ := fun _ => none
  verified : Prefix V → Option τ := fun _ => none
  now : ℕ := 0

/-- What an operation takes, what npm leaves and reports, and what is left of removed prefixes. -/
structure Answer (τ V : Type) where
  elapsed : ℕ := 0
  tree : Option τ := none
  succeeds : Bool := true
  left : V → Option τ := fun _ => none

variable {τ V ι : Type} [DecidableEq V]
namespace Machine
variable (m : Machine τ V ι)

def wait (elapsed : ℕ) : Machine τ V ι := { m with now := m.now + elapsed }
def state : Option (State V ι) := m.receipt.bind Receipt.parse
def swap (tgt : Prefix V) : Machine τ V ι := { m with link := some tgt }

def write (st : State V ι) : Machine τ V ι :=
  { m with receipt := some (.state st) }

def probe (host : Host τ V ι) (m : Machine τ V ι) (tgt : Prefix V) : Option V × Machine τ V ι :=
  match m.trees tgt with
  | none => (none, m)
  | some tree =>
    match host.version tree with
    | none => (none, m)
    | some ver => (some ver, { m with verified := Function.update m.verified tgt (some tree) })

def install (ver : V) (tree : Option τ) : Machine τ V ι :=
  { m with trees := Function.update m.trees (.package ver) tree }

def prune (keep : List (Prefix V)) (left : V → Option τ) : Machine τ V ι :=
  { m with
    trees
      | .package ver =>
        if .package ver ∈ keep then m.trees (.package ver)
        else (m.trees (.package ver)).bind fun _ => left ver
      | .image name => m.trees (.image name) }

def inspect (host : Host τ V ι) (m : Machine τ V ι) (tgt : Prefix V) : Inspection ι :=
  match m.trees tgt with
  | none => ⟨true, none⟩
  | some tree => ⟨host.trusted tree, host.identity tree⟩

end Machine

def Host.execute (host : Host τ V ι) (m : Machine τ V ι) (ans : Answer τ V) : (op : Op V ι) → Res op × Machine τ V ι
  | .receipt => (m.receipt, m)
  | .link => (m.link, m)
  | .now => (m.now, m)
  | .inspect tgt => (m.inspect host tgt, m)
  | .probe tgt => m.probe host tgt
  | .swap tgt => ((), m.swap tgt)
  | .unlink => ((), { m with link := none })
  | .write st => ((), m.write st)
  | .install ver => (ans.succeeds, m.install ver ans.tree)
  | .prune keep => ((), m.prune keep ans.left)

structure Process (τ V ι : Type) where
  call : Call V
  start : Machine τ V ι
  program : Program (Op V ι) Res (Except (Failure V) (Outcome V ι))

structure System (τ V ι : Type) where
  machine : Machine τ V ι
  running : Option (Process τ V ι) := none

inductive Event (τ V : Type) where
  | call (call : Call V)
  | proceed (ans : Answer τ V)
  /-- The call stops, or the caller has its result. -/
  | stop
  | wait (elapsed : ℕ)

def System.step [DecidableEq ι] (host : Host τ V ι) (s : System τ V ι) : Event τ V → System τ V ι
  | .call call =>
    match s.running with
    | none => { s with running := some ⟨call, s.machine, call.update.run⟩ }
    | some _ => s
  | .proceed ans =>
    match s.running with
    | some ⟨call, start, .perform op next⟩ =>
      let done := host.execute (s.machine.wait ans.elapsed) ans op
      ⟨done.2, some ⟨call, start, next done.1⟩⟩
    | _ => s
  | .stop => { s with running := none }
  | .wait elapsed => { s with machine := s.machine.wait elapsed }

open Program
variable {τ V ι : Type}

/-- A target has the tree that was last verified, and it is one of this version. -/
structure Sound (host : Host τ V ι) (m : Machine τ V ι) (tgt : Prefix V) (ver : V) : Prop where
  named : ∀ v, tgt = .package v → v = ver
  tree : ∃ tree, m.trees tgt = some tree ∧ m.verified tgt = some tree ∧
    host.trusted tree = true ∧ (host.identity tree).isSome ∧ host.version tree = some ver

structure SoundState (host : Host τ V ι) (m : Machine τ V ι) (st : State V ι) : Prop where
  active : Sound host m st.activeTarget st.version
  previous : ∀ p ∈ st.previous, Sound host m p.activeTarget p.version
  apart : ∀ p ∈ st.previous, p.version ≠ st.version
  badPrevious : ∀ b ∈ st.bad, ∀ p ∈ st.previous, b.version ≠ p.version
  badActive : ∀ b ∈ st.bad, b.version = st.version → b.retryAt ≤ m.now

structure Consistent (host : Host τ V ι) (m : Machine τ V ι) : Prop where
  link : ∀ tgt ∈ m.link, ∃ ver, Sound host m tgt ver
  state : ∀ st, m.receipt = some (.state st) → SoundState host m st
  bootstrap : ∀ tgt, m.receipt = some (.bootstrap tgt) →
    m.link = some tgt.activeTarget ∧ Sound host m tgt.activeTarget tgt.version

structure Later (m m' : Machine τ V ι) : Prop where
  link : m'.link = m.link
  receipt : m'.receipt = m.receipt
  trees : m'.trees = m.trees
  verified : ∀ tgt tree, m.trees tgt = some tree → m.verified tgt = some tree → m'.verified tgt = some tree
  now : m.now ≤ m'.now

lemma Later.refl (m : Machine τ V ι) : Later m m :=
  ⟨rfl, rfl, rfl, fun _ _ _ verified => verified, Nat.le_refl m.now⟩

lemma Later.trans {m n o : Machine τ V ι} (first : Later m n) (snd : Later n o) : Later m o where
  link := snd.link.trans first.link
  receipt := snd.receipt.trans first.receipt
  trees := snd.trees.trans first.trees
  verified tgt tree here verified := by
    apply snd.verified tgt tree
    · rw [first.trees]
      exact here
    · exact first.verified tgt tree here verified
  now := Nat.le_trans first.now snd.now

lemma later_wait (m : Machine τ V ι) (elapsed : ℕ) : Later m (m.wait elapsed) :=
  ⟨rfl, rfl, rfl, fun _ _ _ verified => verified, Nat.le_add_right m.now elapsed⟩

section
variable {host : Host τ V ι} {m m' : Machine τ V ι}

lemma Sound.later {tgt ver} (inv : Sound host m tgt ver) (later : Later m m') : Sound host m' tgt ver where
  named := inv.named
  tree := by
    obtain ⟨tree, here, verified, rest⟩ := inv.tree
    refine ⟨tree, ?_, later.verified tgt tree here verified, rest⟩
    rw [later.trees]
    exact here

lemma SoundState.later {st} (inv : SoundState host m st) (later : Later m m') : SoundState host m' st where
  active := inv.active.later later
  previous p named := (inv.previous p named).later later
  apart := inv.apart
  badPrevious := inv.badPrevious
  badActive b bad same := Nat.le_trans (inv.badActive b bad same) later.now

lemma Consistent.later (agree : Consistent host m) (later : Later m m') : Consistent host m' where
  link tgt linked := by
    rw [later.link] at linked
    obtain ⟨ver, inv⟩ := agree.link tgt linked
    exact ⟨ver, inv.later later⟩
  state st wrote := by
    rw [later.receipt] at wrote
    exact (agree.state st wrote).later later
  bootstrap tgt wrote := by
    rw [later.receipt] at wrote
    obtain ⟨linked, inv⟩ := agree.bootstrap tgt wrote
    exact ⟨later.link.trans linked, inv.later later⟩

end

def Protected (m : Machine τ V ι) (tgt : Prefix V) : Prop :=
  m.link = some tgt ∨ ∃ st, m.receipt = some (.state st) ∧
    (tgt = st.activeTarget ∨ ∃ p ∈ st.previous, tgt = p.activeTarget)

def Due (m : Machine τ V ι) (ver : V) : Prop :=
  ∀ st, m.receipt = some (.state st) → ∀ b ∈ st.bad, b.version = ver → b.retryAt ≤ m.now

def Allowed (host : Host τ V ι) (m : Machine τ V ι) : Op V ι → Prop
  | .swap tgt => (∀ t, m.receipt ≠ some (.bootstrap t)) ∧
      ∃ ver, Sound host m tgt ver ∧ Due m ver
  | .unlink => ∀ t, m.receipt ≠ some (.bootstrap t)
  | .write st => SoundState host m st
  | .install ver => m.link ≠ some (.package ver) ∧
      ∀ st, m.receipt = some (.state st) → st.activeTarget ≠ .package ver
  | .prune keep => ∀ tgt, Protected m tgt → tgt ∈ keep
  | _ => True

def Op.clear [DecidableEq V] (m : Machine τ V ι) : Op V ι → Bool
  | .install ver => m.state.all fun st => st.previous.all fun p => p.version ≠ ver
  | _ => true

section
variable {host : Host τ V ι} {m m' : Machine τ V ι}

lemma Due.later {ver} (due : Due m ver) (later : Later m m') : Due m' ver := by
  intro st wrote b bad same
  rw [later.receipt] at wrote
  exact Nat.le_trans (due st wrote b bad same) later.now

lemma Protected.earlier {tgt} (later : Later m m') (protects : Protected m' tgt) : Protected m tgt := by
  rw [Protected, later.link, later.receipt] at protects
  exact protects

lemma Allowed.later {op} (allowed : Allowed host m op) (later : Later m m') : Allowed host m' op := by
  cases op with
  | swap tgt =>
    obtain ⟨adopted, ver, inv, due⟩ := allowed
    refine ⟨?_, ver, inv.later later, due.later later⟩
    rw [later.receipt]
    exact adopted
  | unlink =>
    rw [Allowed, later.receipt]
    exact allowed
  | write st => exact SoundState.later allowed later
  | install ver =>
    rw [Allowed, later.link, later.receipt]
    exact allowed
  | prune keep => exact fun tgt protects => allowed tgt (protects.earlier later)
  | receipt | link | now | inspect _ | probe _ => exact trivial

lemma later_probe [DecidableEq V] (tgt : Prefix V) : Later m (m.probe host tgt).2 := by
  rw [Machine.probe]
  split
  · exact Later.refl m
  · rename_i tree here
    split
    · exact Later.refl m
    · refine ⟨rfl, rfl, rfl, ?_, Nat.le_refl m.now⟩
      intro alt tree' there verified
      show Function.update m.verified tgt (some tree) alt = some tree'
      by_cases same : alt = tgt
      · subst same
        rw [Function.update_self, ← here, there]
      · rw [Function.update_of_ne same, verified]

lemma Consistent.replace (agree : Consistent host m) {trees : Prefix V → Option τ}
    (kept : ∀ tgt, Protected m tgt → trees tgt = m.trees tgt) : Consistent host { m with trees := trees } := by
  have still : ∀ tgt ver, Protected m tgt → Sound host m tgt ver →
      Sound host { m with trees := trees } tgt ver := by
    intro tgt ver protects inv
    obtain ⟨tree, here, rest⟩ := inv.tree
    refine ⟨inv.named, tree, ?_, rest⟩
    rw [← here]
    exact kept tgt protects
  constructor
  · intro tgt linked
    obtain ⟨ver, inv⟩ := agree.link tgt linked
    exact ⟨ver, still tgt ver (.inl linked) inv⟩
  · intro st wrote
    have inv := agree.state st wrote
    refine ⟨?_, ?_, inv.apart, inv.badPrevious, inv.badActive⟩
    · exact still _ _ (.inr ⟨st, wrote, .inl rfl⟩) inv.active
    · intro p named
      exact still _ _ (.inr ⟨st, wrote, .inr ⟨p, named, rfl⟩⟩) (inv.previous p named)
  · intro tgt wrote
    obtain ⟨linked, inv⟩ := agree.bootstrap tgt wrote
    exact ⟨linked, still _ _ (.inl linked) inv⟩

end

variable [DecidableEq V]
section

omit [DecidableEq V]

variable {host : Host τ V ι} {m m' : Machine τ V ι}

lemma Sound.keep {tgt ver} (inv : Sound host m tgt ver)
    (trees : m'.trees = m.trees) (verified : m'.verified = m.verified) : Sound host m' tgt ver where
  named := inv.named
  tree := by
    rw [trees, verified]
    exact inv.tree

lemma SoundState.keep {st} (inv : SoundState host m st)
    (trees : m'.trees = m.trees) (verified : m'.verified = m.verified) (now : m'.now = m.now) :
    SoundState host m' st where
  active := inv.active.keep trees verified
  previous p named := (inv.previous p named).keep trees verified
  apart := inv.apart
  badPrevious := inv.badPrevious
  badActive := by
    rw [now]
    exact inv.badActive

lemma consistent_swap {tgt} (agree : Consistent host m)
    (allowed : Allowed host m (.swap tgt)) : Consistent host (m.swap tgt) where
  link := by
    obtain ⟨_, ver, inv, _⟩ := allowed
    rintro t ⟨⟩
    exact ⟨ver, inv.keep rfl rfl⟩
  state st wrote := (agree.state st wrote).keep rfl rfl rfl
  bootstrap t wrote := absurd wrote (allowed.1 t)

lemma consistent_unlink (agree : Consistent host m) (allowed : Allowed host m .unlink) :
    Consistent host { m with link := none } where
  link _ := nofun
  state st wrote := (agree.state st wrote).keep rfl rfl rfl
  bootstrap t wrote := absurd wrote (allowed t)

lemma consistent_write {st} (agree : Consistent host m)
    (inv : SoundState host m st) : Consistent host (m.write st) where
  link tgt linked := by
    obtain ⟨ver, inv⟩ := agree.link tgt linked
    exact ⟨ver, inv.keep rfl rfl⟩
  state _ := by
    rintro ⟨⟩
    exact inv.keep rfl rfl rfl
  bootstrap _ := nofun

end

lemma consistent_install {host : Host τ V ι} {m : Machine τ V ι} {ver : V}
    (agree : Consistent host m) (allowed : Allowed host m (.install ver))
    (clear : (Op.install ver).clear m = true) (tree : Option τ) : Consistent host (m.install ver tree) := by
  apply agree.replace
  intro tgt protects
  apply Function.update_of_ne
  rintro rfl
  rcases protects with linked | ⟨st, wrote, active | ⟨p, named, prev⟩⟩
  · exact allowed.1 linked
  · exact allowed.2 st wrote active.symm
  · have inv := (agree.state st wrote).previous p named
    have same : ver = p.version := inv.named ver prev.symm
    have apart : p.version ≠ ver := by
      simpa [Op.clear, Machine.state, wrote, Receipt.parse, Option.mem_def.mp named] using clear
    exact apart same.symm

lemma consistent_prune {host : Host τ V ι} {m : Machine τ V ι} {keep : List (Prefix V)}
    (agree : Consistent host m) (allowed : Allowed host m (.prune keep)) (left : V → Option τ) :
    Consistent host (m.prune keep left) := by
  apply agree.replace
  intro tgt protects
  cases tgt with
  | package ver => exact if_pos (allowed _ protects)
  | image name => rfl

lemma Consistent.execute {host : Host τ V ι} {m : Machine τ V ι} {op : Op V ι}
    (agree : Consistent host m) (allowed : Allowed host m op) (clear : op.clear m = true)
    (ans : Answer τ V) : Consistent host (host.execute m ans op).2 := by
  cases op with
  | swap tgt => exact consistent_swap agree allowed
  | unlink => exact consistent_unlink agree allowed
  | write st => exact consistent_write agree allowed
  | install ver => exact consistent_install agree allowed clear ans.tree
  | prune keep => exact consistent_prune agree allowed ans.left
  | probe tgt => exact agree.later (later_probe tgt)
  | receipt | link | now | inspect _ => exact agree

structure Gives (host : Host τ V ι) (m : Machine τ V ι) (op : Op V ι) (res : Res op)
    (m' : Machine τ V ι) : Prop where
  clear : op.clear m = true
  consistent : Consistent host m'
  executed : ∃ ans, host.execute (m.wait ans.elapsed) ans op = (res, m')

def rules (host : Host τ V ι) : Rules (Machine τ V ι) (Op V ι) Res where
  allowed := Allowed host
  gives := Gives host

end Clawdi.CliUpdate
