import Clawdi.SkillSync.Ledger
import Mathlib.Logic.Function.Basic

namespace Clawdi.SkillSync.Materialize
open Serve (isValidSkillKey)
open Transition (run Always)

deriving instance DecidableEq for ProjectSkillMaterialization

variable (ledger : Ledger) (ident : Materialization) (mat : ProjectSkillMaterialization)

def assertValidMaterializationIdentity : Except String Unit := do
  if ident.agentType = "" then throw "Materialized skill agent type is required"
  if !isValidSkillKey ident.localSkillKey then throw "Invalid materialized skill key"

def readProjectSkillMaterialization : Except String (Option ProjectSkillMaterialization) := do
  assertValidMaterializationIdentity ident
  return ledger.materializations.get ident

def recordProjectSkillMaterialization : Except String Ledger := do
  assertValidMaterializationIdentity mat.place
  if mat.sourceProjectId = "" then throw "Source project ID is required"
  if !isValidSkillKey mat.sourceSkillKey then throw "Invalid source project skill key"
  if mat.contentHash = "" then throw "Materialized skill hash is required"
  if mat.reconcileAgentId = some "" then throw "Reconcile agent ID must not be empty"
  return { ledger with materializations := ledger.materializations.put mat }

def sameSource (cur mat : ProjectSkillMaterialization) : Bool :=
  cur.sourceProjectId = mat.sourceProjectId ∧ cur.sourceSkillKey = mat.sourceSkillKey ∧
    cur.contentHash = mat.contentHash ∧
    cur.reconcileAgentId = mat.reconcileAgentId

/-- What `commitProjectSkillMaterialization` does when the activation fails. -/
def restore (prev : Option ProjectSkillMaterialization) : Ledger :=
  if (ledger.materializations.get mat.place).any (sameSource · mat) then
    { ledger with
      materializations := match prev with
        | some prev => ledger.materializations.put prev
        | none => ledger.materializations.remove (·.place = mat.place) }
  else ledger

/-- A call of `commitProjectSkillMaterialization` that has not ended. -/
structure Call where
  materialization : ProjectSkillMaterialization
  previous : Option ProjectSkillMaterialization
  recorded : Bool
  deriving DecidableEq

structure World where
  original : Option ProjectSkillMaterialization
  ledger : Ledger
  calls : ℕ → Option Call
  succeeded : List ProjectSkillMaterialization

inductive Action
  | read (id : ℕ) (mat : ProjectSkillMaterialization)
  | record (id : ℕ)
  | succeed (id : ℕ)
  | fail (id : ℕ)

def Action.id : Action → ℕ
  | .read id _ | .record id | .succeed id | .fail id => id

def World.new (place : Materialization) (ledger : Ledger) : World where
  original := ledger.materializations.get place
  ledger := ledger
  calls := fun _ => none
  succeeded := []

namespace World
variable (place : Materialization) (w : World)

def entry : Option ProjectSkillMaterialization := w.ledger.materializations.get place
def expected : Option ProjectSkillMaterialization := w.succeeded.head?.or w.original
def during (id : ℕ) (call : Option Call) : World := { w with calls := Function.update w.calls id call }

def step : Action → World
  | .read id mat =>
    if w.calls id = none ∧ mat.place = place then
      match readProjectSkillMaterialization w.ledger mat.place with
      | .error _ => w
      | .ok prev => w.during id (some ⟨mat, prev, false⟩)
    else w
  | .record id =>
    match w.calls id with
    | some ⟨mat, prev, false⟩ =>
      match recordProjectSkillMaterialization w.ledger mat with
      | .error _ => w.during id none
      | .ok ledger => { w.during id (some ⟨mat, prev, true⟩) with ledger }
    | _ => w
  | .succeed id =>
    match w.calls id with
    | some ⟨mat, _, true⟩ => { w.during id none with succeeded := mat :: w.succeeded }
    | _ => w
  | .fail id =>
    match w.calls id with
    | some ⟨mat, prev, true⟩ => { w.during id none with ledger := restore w.ledger mat prev }
    | _ => w

/-- The call has recorded its entry, and its activation runs. -/
def Activates (id : ℕ) (call : Call) : Prop := w.calls id = some call ∧ call.recorded = true

/-- The entry that another call has recorded, whose activation still runs. -/
def UnderWay (id : ℕ) (e : Option ProjectSkillMaterialization) : Prop :=
  ∃ alt ≠ id, ∃ running, w.Activates alt running ∧ e = some running.materialization

/-- A call succeeds while the entry is its own or a running call's, and one that fails over its own
entry has read the expected entry or a running call's. -/
def Undisturbed : Action → Prop
  | .succeed id => ∀ call, w.Activates id call →
    w.entry place = some call.materialization ∨ w.UnderWay id (w.entry place)
  | .fail id => ∀ call, w.Activates id call → w.entry place = some call.materialization →
    call.previous = w.expected ∨ w.UnderWay id call.previous
  | _ => True

/-! ## One step -/

structure Sound : Prop where
  placed : ∀ id call, w.calls id = some call → call.materialization.place = place ∧
    ∀ prev ∈ call.previous, prev.place = place
  accounted : w.entry place = w.expected ∨
    ∃ id call, w.Activates id call ∧ w.entry place = some call.materialization

variable {place : Materialization} {w : World} {id alt : ℕ} {call : Call}

lemma sound_new (ledger : Ledger) : (World.new place ledger).Sound place where
  placed := by simp [World.new]
  accounted := .inl rfl

variable {ledger : Ledger} {mat : ProjectSkillMaterialization} {prev : Option ProjectSkillMaterialization}

lemma record_ok {next} (ok : recordProjectSkillMaterialization ledger mat = .ok next) :
    next = { ledger with materializations := ledger.materializations.put mat } := by
  unfold recordProjectSkillMaterialization at ok
  simp only [Bind.bind, Except.bind, Pure.pure, Except.pure, throw, throwThe, MonadExceptOf.throw] at ok
  repeat' split at ok
  all_goals first | exact (Except.ok.inj ok).symm | cases ok

lemma read_ok (ok : readProjectSkillMaterialization ledger place = .ok prev) :
    prev = ledger.materializations.get place := by
  unfold readProjectSkillMaterialization at ok
  cases valid : assertValidMaterializationIdentity place with
  | error => simp [valid, Bind.bind, Except.bind] at ok
  | ok => simpa [valid, Bind.bind, Except.bind, Pure.pure, Except.pure] using ok.symm

lemma sameSource_iff {cur : ProjectSkillMaterialization} (placed : cur.place = mat.place) :
    sameSource cur mat = true ↔ cur = mat := by
  cases cur
  cases mat
  simp_all [sameSource, ProjectSkillMaterialization.place]

lemma restore_own (own : ledger.materializations.get mat.place = some mat)
    (placed : ∀ e ∈ prev, e.place = mat.place) : (restore ledger mat prev).materializations.get mat.place = prev := by
  have match_ : (ledger.materializations.get mat.place).any (sameSource · mat) = true := by simp [own, sameSource]
  unfold restore
  rw [if_pos match_]
  cases prev with
  | none => exact Table.get_eq_none.mpr fun row kept => by simpa using (Table.mem_remove.mp kept).2
  | some prev => exact Table.get_put_of_eq _ (placed prev rfl)

lemma restore_other (other : ledger.materializations.get mat.place ≠ some mat) :
    restore ledger mat prev = ledger := by
  refine if_neg fun same => other ?_
  obtain ⟨cur, hit, same⟩ := (Option.any_eq_true _ _).mp same
  exact hit.trans (congrArg some ((sameSource_iff (Table.get_eq_some.mp hit).2).mp same))

lemma activates_during {call} {alt : ℕ} {running} : (w.during id call).Activates alt running ↔
      if alt = id then call = some running ∧ running.recorded = true else w.Activates alt running := by
  by_cases same : alt = id <;> simp [Activates, during, same]

lemma Sound.during (inv : w.Sound place) {call} (placed : ∀ started, call = some started →
      started.materialization.place = place ∧ ∀ prev ∈ started.previous, prev.place = place) :
    ∀ alt started, (w.during id call).calls alt = some started → started.materialization.place = place ∧
      ∀ prev ∈ started.previous, prev.place = place := by
  intro alt started hit
  by_cases own : alt = id
  · subst own
    exact placed started (by simpa [World.during] using hit)
  · exact inv.placed alt started (by simpa [World.during, own] using hit)

lemma Sound.quiet (inv : w.Sound place) {call} (placed : ∀ started, call = some started →
      started.materialization.place = place ∧ ∀ prev ∈ started.previous, prev.place = place)
    (pre : ∀ started, ¬w.Activates id started) : (w.during id call).Sound place := by
  refine ⟨inv.during placed, inv.accounted.imp_right ?_⟩
  rintro ⟨alt, running, active, same⟩
  have apart : alt ≠ id := fun own => pre running (own ▸ active)
  exact ⟨alt, running, activates_during.mpr (by rwa [if_neg apart]), same⟩

lemma UnderWay.remains {e} (shared : w.UnderWay id e) :
    ∃ alt call, (w.during id none).Activates alt call ∧ e = some call.materialization := by
  obtain ⟨alt, apart, running, active, same⟩ := shared
  exact ⟨alt, running, activates_during.mpr (by rwa [if_neg apart]), same⟩

lemma inactive_of_reading (hit : w.calls id = some ⟨mat, prev, false⟩)
    (started : Call) : ¬w.Activates id started := by
  rintro ⟨same, noted⟩
  rw [hit] at same
  cases same
  cases noted

lemma Sound.recorded (inv : w.Sound place) (hit : w.calls id = some ⟨mat, prev, false⟩)
    (ok : recordProjectSkillMaterialization w.ledger mat = .ok ledger) :
    World.Sound place { w.during id (some ⟨mat, prev, true⟩) with ledger } := by
  have placed := inv.placed id _ hit
  have entered : ledger.materializations.get place = some mat := by
    rw [record_ok ok]
    exact Table.get_put_of_eq _ placed.1
  refine ⟨inv.during fun started same => ?_, .inr ⟨id, ⟨mat, prev, true⟩, ⟨by simp [World.during], rfl⟩, entered⟩⟩
  cases same
  exact placed

lemma Sound.succeeded (inv : w.Sound place) (active : w.Activates id call)
    (calm : w.Undisturbed place (.succeed id)) :
    World.Sound place { w.during id none with succeeded := call.materialization :: w.succeeded } :=
  ⟨inv.during (by simp), (calm call active).imp_right UnderWay.remains⟩

lemma Sound.failed (inv : w.Sound place) (active : w.Activates id call)
    (calm : w.Undisturbed place (.fail id)) : World.Sound place
      { w.during id none with ledger := restore w.ledger call.materialization call.previous } := by
  obtain ⟨rfl, placed⟩ := inv.placed id call active.1
  refine ⟨inv.during (by simp), ?_⟩
  by_cases own : w.entry call.materialization.place = some call.materialization
  · have back : World.entry call.materialization.place { w.during id none with
        ledger := restore w.ledger call.materialization call.previous } = call.previous := restore_own own placed
    rw [back]
    exact (calm call active own).imp_right UnderWay.remains
  · have kept : World.entry call.materialization.place { w.during id none with
        ledger := restore w.ledger call.materialization call.previous } = w.entry call.materialization.place := by
      show (restore _ _ _).materializations.get _ = _
      rw [restore_other own]
      rfl
    rw [kept]
    refine inv.accounted.imp_right ?_
    rintro ⟨alt, running, runs, same⟩
    refine UnderWay.remains ⟨alt, ?_, running, runs, same⟩
    rintro rfl
    obtain rfl := Option.some.inj (active.1.symm.trans runs.1)
    exact own same

lemma Sound.step (inv : w.Sound place) (act : Action) (calm : w.Undisturbed place act) :
    (w.step place act).Sound place := by
  cases act with
  | read id mat =>
    simp only [World.step]
    split
    · rename_i free
      cases ok : readProjectSkillMaterialization w.ledger mat.place with
      | error => exact inv
      | ok prev =>
        refine inv.quiet ?_ fun started active => by simp [Activates, free.1] at active
        rintro started same
        cases same
        refine ⟨free.2, fun e held => ?_⟩
        rw [read_ok ok] at held
        exact (Table.get_eq_some.mp held).2.trans free.2
    · exact inv
  | record id =>
    simp only [World.step]
    split
    · rename_i mat prev hit
      cases ok : recordProjectSkillMaterialization w.ledger mat with
      | error => exact inv.quiet (fun _ same => by cases same) (inactive_of_reading hit)
      | ok ledger => exact inv.recorded hit ok
    · exact inv
  | succeed id =>
    simp only [World.step]
    split
    · rename_i mat prev hit
      exact inv.succeeded ⟨hit, rfl⟩ calm
    · exact inv
  | fail id =>
    simp only [World.step]
    split
    · rename_i mat prev hit
      exact inv.failed ⟨hit, rfl⟩ calm
    · exact inv

end World

/-! ## Every run -/

def inbox : Materialization := ⟨"codex", "inbox"⟩

def version (contentHash : String) : ProjectSkillMaterialization :=
  ⟨"codex", "inbox", "project", "inbox", contentHash, none⟩

end Clawdi.SkillSync.Materialize
