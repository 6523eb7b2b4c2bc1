import Mathlib.Data.List.Nodup
import Clawdi.Lib.Transition

namespace Clawdi.SyncEvents
open List
open Transition

inductive SyncEventValue where
  | str (v : String)
  | int (v : Int)
  deriving DecidableEq

/-- The text under `type`, which every caller sets, and the other keys in the order `sort_keys` writes them. -/
structure SyncEventPayload where
  type : String
  fields : List (String × SyncEventValue) := []
  deriving DecidableEq

abbrev PendingEvent (ι : Type) := ι × SyncEventPayload

structure Subscriber (ι : Type) where
  userId : ι
  queue : List SyncEventPayload := []
  maxsize : ℕ := 64
  visibleProjectIds : Option (List ι) := none
  environmentId : Option ι := none
  deriving DecidableEq

structure Process (ι : Type) where
  id : String
  subscribers : List (Subscriber ι)
  deriving DecidableEq

structure PostgresNotification (ι : Type) where
  origin : String
  userId : ι
  event : SyncEventPayload
  deriving DecidableEq

/-- One database session: `pending` is in its `info`, `notified` what PostgreSQL holds of each open scope,
innermost first, and `scopes` the events queued there. -/
structure World (ι : Type) where
  processes : List (Process ι)
  pending : List (PendingEvent ι) := []
  notified : List (List (PostgresNotification ι)) := [[]]
  scopes : List (List (PendingEvent ι)) := [[]]
  committed : Option Bool := none

inductive Op (ι : Type) where
  | queue (ev : PendingEvent ι) (deduplicate : Bool)
  | beginNested
  | releaseNested
  | rollbackNested
  | commit
  | rollback

variable {ι : Type} [DecidableEq ι] (uuid : String → Option ι)

def payloadUuid : Option SyncEventValue → Option ι
  | some (.str v) => uuid v
  | _ => none

def Subscriber.admits (sub : Subscriber ι) (payload : SyncEventPayload) : Bool :=
  if payload.type ∈ ["runtime_manifest_changed", "runtime_vaults_changed"] then
    match payloadUuid uuid (payload.fields.lookup "environment_id") with
    | none => false
    | some env => sub.environmentId.all (· = env)
  else match sub.visibleProjectIds with
    | none => true
    | some ids => (payloadUuid uuid (payload.fields.lookup "project_id")).any (· ∈ ids)

def Subscriber.putNowait (sub : Subscriber ι) (payload : SyncEventPayload) : Subscriber ι :=
  if 0 < sub.maxsize ∧ sub.maxsize ≤ sub.queue.length then sub
  else { sub with queue := sub.queue ++ [payload] }

def Subscriber.wants (sub : Subscriber ι) (ev : PendingEvent ι) : Bool := sub.userId = ev.1 ∧ sub.admits uuid ev.2

def broadcast (p : Process ι) (ev : PendingEvent ι) : Process ι :=
  { p with subscribers := p.subscribers.map fun sub =>
      if sub.wants uuid ev then sub.putNowait ev.2 else sub }

def onPostgresNotification (p : Process ι) (notification : PostgresNotification ι) : Process ι :=
  if notification.origin = p.id then p else broadcast uuid p (notification.userId, notification.event)

variable (size : PostgresNotification ι → ℕ) (self : String)

def queueForCommit (w : World ι) (ev : PendingEvent ι) (deduplicate : Bool) : World ι :=
  { w with
    pending := if deduplicate ∧ ev ∈ w.pending then w.pending else w.pending ++ [ev]
    scopes := match w.scopes with
      | [] => []
      | scope :: outer =>
        if deduplicate ∧ ev ∈ (scope :: outer).flatten then scope :: outer
        else (scope ++ [ev]) :: outer }

/-- The notification's text in bytes is `size`; a text that is too long raises, which is `none`. -/
def onSessionBeforeCommit (w : World ι) : Option (World ι) :=
  let notifications := w.pending.map fun ev => ⟨self, ev.1, ev.2⟩
  if notifications.any (7900 < size ·) then none
  else some { w with notified := match w.notified with
    | [] => []
    | scope :: outer => (scope ++ notifications) :: outer }

def onSessionCommit (w : World ι) : World ι :=
  { w with
    pending := []
    processes := w.processes.map fun p => if p.id = self then w.pending.foldl (broadcast uuid) p else p }

def onSessionRollback (w : World ι) : World ι := { w with pending := [] }

def merge {α : Type} : List (List α) → List (List α)
  | inner :: outer :: rest => (outer ++ inner) :: rest
  | scopes => scopes

def releaseNested (w : World ι) : Option (World ι) := do
  let w ← onSessionBeforeCommit size self w
  return { onSessionCommit uuid self w with notified := merge w.notified, scopes := merge w.scopes }

/-- PostgreSQL hands the notifications of the transaction to every listener in order, and those
    with the same text once. -/
def commitRoot (w : World ι) : Option (World ι) := do
  let w ← onSessionBeforeCommit size self w
  let delivered := { w with
    processes := w.processes.map fun p => w.notified.flatten.eraseDups.foldl (onPostgresNotification uuid) p
    committed := some true }
  return onSessionCommit uuid self delivered

/-- A commit releases the open savepoints on its way to the outermost transaction. -/
def commit : ℕ → World ι → World ι
  | 0, w => (commitRoot uuid size self w).getD w
  | depth + 1, w => match releaseNested uuid size self w with
    | none => w
    | some w => commit depth w

def step (w : World ι) (op : Op ι) : World ι :=
  if w.committed.isSome then w else match op with
  | .queue ev deduplicate => queueForCommit w ev deduplicate
  | .beginNested => { w with notified := [] :: w.notified, scopes := [] :: w.scopes }
  | .releaseNested => if 1 < w.scopes.length then (releaseNested uuid size self w).getD w else w
  | .rollbackNested =>
    if 1 < w.scopes.length then
      onSessionRollback { w with notified := w.notified.tail, scopes := w.scopes.tail }
    else w
  | .commit => commit uuid size self (w.scopes.length - 1) w
  | .rollback => onSessionRollback { w with notified := [[]], scopes := [[]], committed := some false }

/-- The session when its transaction begins. -/
structure World.Fresh (w : World ι) : Prop where
  pending : w.pending = []
  notified : w.notified = [[]]
  scopes : w.scopes = [[]]
  committed : w.committed = none

/-- The events queued in scopes that were not rolled back, in order. -/
def World.queued (w : World ι) : List (PendingEvent ι) := w.scopes.reverse.flatten

def Subscriber.receives (evs : List (PendingEvent ι)) (sub : Subscriber ι) : Subscriber ι :=
  ((evs.filter (sub.wants uuid)).map Prod.snd).foldl Subscriber.putNowait sub

def Process.receives (evs : List (PendingEvent ι)) (p : Process ι) : Process ι :=
  { p with subscribers := p.subscribers.map (·.receives uuid evs) }

/-- No subscriber has an event before the outermost commit, and after it each has what it wants. -/
def Follows (start w : World ι) : Prop :=
  w.processes =
    if w.committed = some true then start.processes.map (·.receives uuid w.queued) else start.processes

instance Follows.decidable (start w : World ι) : Decidable (Follows uuid start w) :=
  inferInstanceAs (Decidable (w.processes = _))

/-- No event is pending at a savepoint's end, and only with `deduplicate` is one queued again. -/
def Op.Kept (w : World ι) : Op ι → Prop
  | .queue ev deduplicate => deduplicate = true ∨ ev ∉ w.pending
  | .beginNested | .rollback => True
  | .releaseNested | .commit => 1 < w.scopes.length → w.pending = []
  | .rollbackNested => 1 < w.scopes.length → ∀ scope ∈ w.scopes.tail, scope = []

@[simp] lemma putNowait_wants (sub : Subscriber ι) (payload : SyncEventPayload) :
    (sub.putNowait payload).wants uuid = sub.wants uuid := by
  unfold Subscriber.putNowait
  split <;> rfl

lemma receives_cons (ev : PendingEvent ι) (evs : List (PendingEvent ι)) (sub : Subscriber ι) :
    sub.receives uuid (ev :: evs) = (if sub.wants uuid ev then sub.putNowait ev.2 else sub).receives uuid evs := by
  unfold Subscriber.receives
  by_cases wanted : sub.wants uuid ev
  · simp [wanted]
  · simp [wanted]

lemma foldl_broadcast (evs : List (PendingEvent ι)) (p : Process ι) :
    evs.foldl (broadcast uuid) p = p.receives uuid evs := by
  induction evs generalizing p with
  | nil => simp [Process.receives, Subscriber.receives]
  | cons ev evs again =>
    rw [foldl_cons, again]
    simp only [Process.receives, broadcast, map_map]
    congr 1
    exact map_congr_left fun sub _ => (receives_cons uuid ev evs sub).symm

lemma foldl_onPostgresNotification (p : Process ι) (evs : List (PendingEvent ι)) :
    (evs.map fun ev => ⟨self, ev.1, ev.2⟩).foldl (onPostgresNotification uuid) p =
      if p.id = self then p else p.receives uuid evs := by
  rw [← foldl_broadcast, foldl_map]
  induction evs generalizing p with
  | nil => simp
  | cons ev evs again =>
    rw [foldl_cons, foldl_cons, again]
    by_cases own : p.id = self
    · simp [onPostgresNotification, own]
    · simp [onPostgresNotification, own, Ne.symm own, broadcast]

lemma eraseDups_of_nodup {α : Type} [DecidableEq α] {l : List α} (nodup : l.Nodup) : l.eraseDups = l := by
  induction l with
  | nil => rfl
  | cons a l again =>
    have fresh : ∀ b ∈ l, (!b == a) = true := by
      intro b mem
      simpa using fun same : b = a => (nodup_cons.mp nodup).1 (same ▸ mem)
    rw [eraseDups_cons, filter_eq_self.mpr fresh, again (nodup_cons.mp nodup).2]

/-- The open transaction of a session that met the condition so far. -/
structure Clean (w : World ι) : Prop where
  pending : w.pending = w.queued
  nodup : w.pending.Nodup
  notified : w.notified = w.scopes.map fun _ => []
  scopes : w.scopes ≠ []

structure Sound (start w : World ι) : Prop where
  follows : Follows uuid start w
  clean : w.committed = none → Clean w

lemma World.Fresh.sound {w : World ι} (fresh : w.Fresh) : Sound uuid w w where
  follows := by simp [Follows, fresh.committed]
  clean _ :=
    { pending := by simp [World.queued, fresh.scopes, fresh.pending]
      nodup := by simp [fresh.pending]
      notified := by simp [fresh.notified, fresh.scopes]
      scopes := by simp [fresh.scopes] }

section Steps
variable {uuid size self} {start w : World ι}

lemma Sound.unsent {later : World ι} (inv : Sound uuid start w) (opened : w.committed = none)
    (still : later.processes = w.processes) (same : later.committed = none) (clean : Clean later) :
    Sound uuid start later where
  follows := by simpa [Follows, opened, same, still] using inv.follows
  clean _ := clean

lemma Clean.queueForCommit (clean : Clean w) {ev deduplicate}
    (kept : deduplicate = true ∨ ev ∉ w.pending) : Clean (queueForCommit w ev deduplicate) := by
  obtain ⟨scope, outer, scopes⟩ := exists_cons_of_ne_nil clean.scopes
  have alike : ev ∈ (scope :: outer).flatten ↔ ev ∈ w.pending := by
    simp [clean.pending, World.queued, scopes, or_comm]
  by_cases again : deduplicate = true ∧ ev ∈ w.pending
  · have still : deduplicate = true ∧ ev ∈ (scope :: outer).flatten := ⟨again.1, alike.mpr again.2⟩
    have same : SyncEvents.queueForCommit w ev deduplicate = w := by
      simp only [SyncEvents.queueForCommit, scopes, if_pos again, if_pos still]
      rw [← scopes]
    rwa [same]
  · have new : ev ∉ w.pending := fun mem => kept.elim (fun on => again ⟨on, mem⟩) (· mem)
    have apart : ¬(deduplicate = true ∧ ev ∈ (scope :: outer).flatten) := fun both =>
      again ⟨both.1, alike.mp both.2⟩
    simp only [SyncEvents.queueForCommit, scopes, if_neg again, if_neg apart]
    constructor
    · simp [World.queued, clean.pending, scopes]
    · exact nodup_append.mpr ⟨clean.nodup, nodup_singleton ev, fun alt mem last single same =>
        new (mem_singleton.mp single ▸ same ▸ mem)⟩
    · simp [clean.notified, scopes]
    · simp

lemma releaseNested_idle (clean : Clean w) (idle : w.pending = []) : releaseNested uuid size self w =
      some { w with notified := merge w.notified, scopes := merge w.scopes } := by
  obtain ⟨scope, outer, scopes⟩ := exists_cons_of_ne_nil clean.scopes
  have notified := clean.notified
  rw [scopes] at notified
  simp [releaseNested, onSessionBeforeCommit, onSessionCommit, idle, notified]

omit [DecidableEq ι] in
lemma Clean.merge (clean : Clean w) : Clean { w with notified := merge w.notified, scopes := merge w.scopes } := by
  obtain ⟨pend, nodup, notified, some⟩ := clean
  match scopes : w.scopes with
  | [] => exact absurd scopes some
  | [scope] => exact ⟨by simp [pend, World.queued, scopes, SyncEvents.merge], nodup,
      by simp [notified, scopes, SyncEvents.merge], by simp [SyncEvents.merge]⟩
  | inner :: outer :: rest => exact ⟨by simp [pend, World.queued, scopes, SyncEvents.merge], nodup,
      by simp [notified, scopes, SyncEvents.merge], by simp [SyncEvents.merge]⟩

omit [DecidableEq ι] in
lemma Clean.rollbackNested (clean : Clean w) (inside : ∀ scope ∈ w.scopes.tail, scope = [])
    (nested : 1 < w.scopes.length) :
    Clean (onSessionRollback { w with notified := w.notified.tail, scopes := w.scopes.tail }) where
  pending := by
    refine (flatten_eq_nil_iff.mpr fun scope mem => inside scope ?_).symm
    exact mem_reverse.mp mem
  nodup := nodup_nil
  notified := by simp [onSessionRollback, clean.notified]
  scopes none := by
    have := congrArg length none
    simp only [onSessionRollback, length_tail, length_nil] at this
    omega

lemma Sound.commitRoot (inv : Sound uuid start w) (opened : w.committed = none)
    (outermost : w.scopes.length = 1) : Sound uuid start ((commitRoot uuid size self w).getD w) := by
  obtain ⟨pend, nodup, notified, -⟩ := inv.clean opened
  obtain ⟨scope, scopes⟩ := length_eq_one_iff.mp outermost
  have still : w.processes = start.processes := by simpa [Follows, opened] using inv.follows
  by_cases oversize : (w.pending.map fun ev => (⟨self, ev.1, ev.2⟩ : PostgresNotification ι)).any (7900 < size ·)
  · simpa [SyncEvents.commitRoot, onSessionBeforeCommit, if_pos oversize] using inv
  · have apart : (w.pending.map fun ev => (⟨self, ev.1, ev.2⟩ : PostgresNotification ι)).Nodup :=
      nodup.map fun one alt same => by cases one; cases alt; simp_all
    have sent : SyncEvents.commitRoot uuid size self w = some (onSessionCommit uuid self
        { w with
          notified := [w.pending.map fun ev => ⟨self, ev.1, ev.2⟩]
          processes := w.processes.map fun p =>
            (w.pending.map fun ev => ⟨self, ev.1, ev.2⟩).eraseDups.foldl (onPostgresNotification uuid) p
          committed := some true }) := by
      simp [SyncEvents.commitRoot, onSessionBeforeCommit, if_neg oversize, notified, scopes]
    rw [sent, Option.getD_some]
    refine ⟨?_, fun opened => nomatch opened⟩
    simp only [Follows, onSessionCommit, eraseDups_of_nodup apart, if_true, map_map, still]
    refine map_congr_left fun p _ => ?_
    have all : w.pending = World.queued { w with pending := [], committed := some true } := pend
    simp only [Function.comp, foldl_onPostgresNotification]
    by_cases own : p.id = self
    · rw [if_pos own, if_pos own, foldl_broadcast]
      exact congrArg (p.receives uuid) all
    · have apart : (p.receives uuid w.pending).id ≠ self := own
      rw [if_neg own, if_neg apart]
      exact congrArg (p.receives uuid) all

lemma Sound.commit (depth : ℕ) (inv : Sound uuid start w) (opened : w.committed = none)
    (length : w.scopes.length = depth + 1) (idle : 0 < depth → w.pending = []) :
    Sound uuid start (commit uuid size self depth w) := by
  induction depth generalizing w with
  | zero => exact inv.commitRoot opened length
  | succ depth again =>
    have clean := inv.clean opened
    have empty := idle (Nat.succ_pos depth)
    simp only [SyncEvents.commit, releaseNested_idle clean empty]
    refine again (inv.unsent opened rfl opened clean.merge) opened ?_ fun _ => empty
    match scopes : w.scopes with
    | [] | [scope] => simp [scopes] at length
    | inner :: outer :: rest => simpa [merge, scopes] using length

lemma Sound.step (inv : Sound uuid start w) {op : Op ι} (kept : op.Kept w) :
    Sound uuid start (step uuid size self w op) := by
  unfold SyncEvents.step
  by_cases opened : w.committed = none
  · have clean := inv.clean opened
    have some : 0 < w.scopes.length := length_pos_of_ne_nil clean.scopes
    rw [if_neg (by simp [opened])]
    cases op with
    | queue ev deduplicate => exact inv.unsent opened rfl opened (clean.queueForCommit kept)
    | beginNested =>
      have clean : Clean { w with notified := [] :: w.notified, scopes := [] :: w.scopes } :=
        ⟨by simp [World.queued, clean.pending], clean.nodup, by simp [clean.notified], cons_ne_nil _ _⟩
      exact inv.unsent opened rfl opened clean
    | releaseNested =>
      by_cases nested : 1 < w.scopes.length
      · simp only [if_pos nested, releaseNested_idle clean (kept nested), Option.getD_some]
        exact inv.unsent opened rfl opened clean.merge
      · simpa only [if_neg nested] using inv
    | rollbackNested =>
      by_cases nested : 1 < w.scopes.length
      · simp only [if_pos nested]
        exact inv.unsent opened rfl opened (clean.rollbackNested (kept nested) nested)
      · simpa only [if_neg nested] using inv
    | commit => exact inv.commit _ opened (by omega) fun deep => kept (by omega)
    | rollback =>
      refine ⟨?_, fun opened => nomatch opened⟩
      simpa [Follows, onSessionRollback, opened] using inv.follows
  · rwa [if_pos (Option.isSome_iff_ne_none.mpr opened)]

end Steps

/-- In every run that meets the condition, the events follow the outermost commit, in every state. -/
theorem sync_events_follow {start : World ι} (fresh : start.Fresh) (script rest : List (Op ι))
    (kept : Always (step uuid size self) (fun w op => op.Kept w) start (script ++ rest)) :
    Follows uuid start (run (step uuid size self) start script) :=
  have inv : Sound uuid start (run (step uuid size self) start script) :=
    Always.invariant (fun _ _ inv kept => inv.step kept) (fresh.sound uuid) (Always.append.mp kept).1
  inv.follows

namespace Sample

def changed : PendingEvent String :=
  ("00000000-0000-0000-0000-000000000001",
    { type := "skill_changed", fields := [("project_id", .str "00000000-0000-0000-0000-000000000007")] })

def subscriber : Subscriber String :=
  { userId := changed.1, visibleProjectIds := some ["00000000-0000-0000-0000-000000000007"] }

def start : World String := { processes := [⟨"1-a", [subscriber]⟩, ⟨"2-b", [subscriber]⟩] }
def after (script : List (Op String)) : World String := run (step some (fun _ => 150) "1-a") start script

end Sample

theorem sync_events_follow_committed : Follows some Sample.start
      (Sample.after [.beginNested, .rollbackNested, .queue Sample.changed false, .commit]) :=
  sync_events_follow some (fun _ => 150) "1-a" ⟨rfl, rfl, rfl, rfl⟩ _ []
    ⟨trivial, fun _ scope mem => mem_singleton.mp mem, .inr not_mem_nil,
      fun nested => absurd nested (by decide), trivial⟩

/-- A released savepoint delivers early, and a rolled back one loses outer events. -/
theorem savepoints_break_delivery : ¬Follows some Sample.start
        (Sample.after [.queue Sample.changed false, .beginNested, .releaseNested, .rollback]) ∧
      ¬Follows some Sample.start
        (Sample.after [.queue Sample.changed false, .beginNested, .rollbackNested, .commit]) := by
  decide

end Clawdi.SyncEvents
