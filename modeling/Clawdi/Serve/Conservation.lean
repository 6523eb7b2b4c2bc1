import Clawdi.Lib.Transition
import Clawdi.Serve.QueueCases
import Mathlib.Data.Finset.Max

namespace Clawdi.Serve
open Transition List

inductive Fate
  | queued
  | replaced (newer : QueueItem)
  | completed (call : QueueItem)
  | dropped (reason : QueueDropReason)

def isItem (item alt : QueueItem) : Bool := alt.identity = item.identity

variable {item : QueueItem} {w : World}

@[simp] lemma isItem_iff {alt} : isItem item alt = true ↔ alt.identity = item.identity := by simp [isItem]

lemma countP_bumped (item current : QueueItem) :
    [current.bumped].countP (isItem item) = [current].countP (isItem item) := rfl

@[simp] lemma item?_evicted (item : QueueItem) : (Drop.evicted item).item? = some item := rfl

variable (reason : QueueDropReason) (evicted : List QueueItem)

@[simp] lemma item?_permanent : (Drop.permanent reason).item? = none := rfl

def World.fates (w : World) (item : QueueItem) : List Fate :=
  ((w.queue.items.filter (isItem item)).map fun _ => .queued) ++
    ((w.history.replaced.filter (isItem item ·.old)).map fun record => .replaced record.newer) ++
    ((w.history.completed.filter (isItem item ·.removed)).map fun record =>
      .completed record.call) ++
    ((w.history.drops.filter fun drop => drop.item?.any (isItem item)).map fun drop =>
      .dropped drop.reason)

def World.accounted (w : World) (item : QueueItem) : Nat :=
  w.queue.items.countP (isItem item) + w.history.replaced.countP (isItem item ·.old) +
    w.history.completed.countP (isItem item ·.removed) +
    w.history.drops.countP fun drop => drop.item?.any (isItem item)

lemma World.length_fates (w : World) (item : QueueItem) : (w.fates item).length = w.accounted item := by
  unfold World.fates World.accounted
  simp only [length_append, length_map, countP_eq_length_filter]

/-- An item that was put in the queue since the file was loaded, by the load or by `enqueue`. -/
def History.accepted (history : History) : List QueueItem := history.loaded ++ history.enqueued

/-- Every item accepted since the load is accounted for once, and every drop is counted once. -/
structure Conserved (w : World) : Prop where
  counted : ∀ item, w.history.accepted.countP (isItem item) = w.accounted item
  ascending : w.history.enqueued.Pairwise (·.version < ·.version)
  later : ∀ row ∈ w.history.loaded, ∀ item ∈ w.history.enqueued, row.version < item.version
  fresh : ∀ item ∈ w.history.accepted, item.version < w.queue.nextVersion
  fenced : ∀ item ∈ w.history.enqueued, Fenced item
  replaced : ∀ record ∈ w.history.replaced, record.newer ∈ w.history.enqueued ∧
    sameKey record.old record.newer ∧ record.old.version < record.newer.version
  completed : ∀ record ∈ w.history.completed,
    sameKey record.removed record.call ∧ record.removed.version = record.call.version
  recorded : ∀ reason, w.queue.droppedByReason reason + w.history.drained reason =
    (((w.history.earlierDrops ++ w.history.drops).countP (·.reason = reason) : Nat) : Number) +
      w.history.restored reason

lemma Conserved.mem_accepted (conserved : Conserved w) (mem : item ∈ w.queue.items) :
    ∃ acc ∈ w.history.accepted, acc.identity = item.identity := by
  have hit : 0 < w.queue.items.countP (isItem item) := countP_pos_iff.mpr ⟨item, mem, by simp⟩
  have total := conserved.counted item
  unfold World.accounted at total
  have positive : 0 < w.history.accepted.countP (isItem item) := by omega
  obtain ⟨acc, taken, same⟩ := countP_pos_iff.mp positive
  exact ⟨acc, taken, by simpa using same⟩

lemma Conserved.version_lt (conserved : Conserved w) (mem : item ∈ w.queue.items) :
    item.version < w.queue.nextVersion := by
  obtain ⟨acc, taken, same⟩ := conserved.mem_accepted mem
  have ver : acc.version = item.version := by simpa using congrArg QueueItem.version same
  rw [← ver]
  exact conserved.fresh acc taken

lemma Conserved.new (maxItems : Nat) : Conserved (World.new maxItems) where
  counted := fun _ => rfl
  ascending := List.Pairwise.nil
  later := by simp [World.new]
  fresh := by simp [World.new, History.accepted]
  fenced := by simp [World.new]
  replaced := by simp [World.new]
  completed := by simp [World.new]
  recorded := by simp [World.new, RetryQueue.new]

lemma Conserved.waiters (conserved : Conserved w) (waiters : List Waiter) : Conserved { w with waiters } :=
  ⟨conserved.counted, conserved.ascending, conserved.later, conserved.fresh, conserved.fenced,
    conserved.replaced, conserved.completed, conserved.recorded⟩

lemma le_maxVersion {items} (mem : item ∈ items) : item.version ≤ RetryQueue.maxVersion items := by
  have grows : ∀ (rows : List QueueItem) (least : Number),
      least ≤ rows.foldl (fun greatest row => max greatest row.version) least ∧
      ∀ row ∈ rows, row.version ≤ rows.foldl (fun greatest row => max greatest row.version) least := by
    intro rows
    induction rows with
    | nil => simp
    | cons first rows ih =>
      intro least
      obtain ⟨reached, bounded⟩ := ih (max least first.version)
      refine ⟨(le_max_left _ _).trans reached, ?_⟩
      intro row among
      rcases mem_cons.mp among with rfl | among
      · exact (le_max_right _ _).trans reached
      · exact bounded row among
  exact (grows items 0).2 item mem

lemma load_recorded (lines : List Line) (q : RetryQueue) (reason : QueueDropReason) :
    (lines.foldl RetryQueue.loadLine q).droppedByReason reason = q.droppedByReason reason +
        ((((lines.filter fun line => (isQueueItem line).isNone).map fun _ =>
          Drop.invalidLine).countP (·.reason = reason) : Nat) : Number) := by
  induction lines generalizing q with
  | nil => simp
  | cons line lines ih =>
    rw [foldl_cons, ih]
    unfold RetryQueue.loadLine
    cases acc : isQueueItem line with
    | some row => simp [acc]
    | none =>
      rw [filter_cons_of_pos (by simp [acc]), map_cons, countP_cons]
      by_cases same : reason = QueueDropReason.invalidPersisted
      · simp only [RetryQueue.recordDrop, same, Drop.reason, decide_true, if_true]
        push_cast
        ring
      · have alt : ¬QueueDropReason.invalidPersisted = reason := fun equal => same equal.symm
        simp [RetryQueue.recordDrop, Drop.reason, same, alt]

lemma Conserved.load (conserved : Conserved w) (file : Option (List Line)) : Conserved (step w (.load file)) where
  counted := by
    intro item
    simp [step, History.load, History.accepted, World.accounted]
  ascending := List.Pairwise.nil
  later := by simp [step, History.load]
  fresh := by
    intro item mem
    cases file with
    | none => simp [step, History.load, History.accepted, RetryQueue.load] at mem
    | some lines =>
      have loaded : item ∈ (w.queue.load (some lines)).items := by
        simpa [step, History.load, History.accepted] using mem
      exact lt_of_le_of_lt (le_maxVersion loaded) (lt_add_one _)
  fenced := by simp [step, History.load]
  replaced := by simp [step, History.load]
  completed := by simp [step, History.load]
  recorded := by
    intro reason
    have pre := conserved.recorded reason
    cases file with
    | none => simpa [step, History.load, RetryQueue.load] using pre
    | some lines =>
      have lost := load_recorded lines { w.queue with items := [] } reason
      simp only [step, History.load, RetryQueue.load, Option.getD_some, append_nil, countP_append] at pre lost ⊢
      push_cast at pre ⊢
      linarith

lemma countP_evicted (item : QueueItem) (evicted : List QueueItem) :
    (evicted.map Drop.evicted).countP (fun drop => drop.item?.any (isItem item)) = evicted.countP (isItem item) := by
  rw [countP_map]
  rfl

lemma countP_replaced (item newer : QueueItem) (olds : List QueueItem) :
    (olds.map fun old => ({ old, newer } : Replacement)).countP (isItem item ·.old) =
      olds.countP (isItem item) := by
  rw [countP_map]
  rfl

lemma countP_evicted_reason : (evicted.map Drop.evicted).countP (·.reason = reason) =
      evicted.countP (RetryQueue.capacityReason · = reason) := by
  rw [countP_map]
  rfl

section
variable (conserved : Conserved w)
include conserved

lemma Conserved.enqueue (item : QueueItemInput) : Conserved (w.enqueue item) := by
  have evicts := w.queue.enqueue_evicts item
  let stamped := stampVersion item w.queue.nextVersion
  have split := FirstMatch.perm_toList (sameKey · (stampVersion item w.queue.nextVersion)) w.queue.items
  constructor
  · intro alt
    have total := conserved.counted alt
    have moved := evicts.perm.countP_eq (isItem alt)
    have parts := split.countP_eq (isItem alt)
    unfold World.accounted History.accepted at total ⊢
    unfold World.enqueue History.enqueue
    simp only [RetryQueue.placed, countP_append, RetryQueue.enqueue_stamped,
      countP_evicted, countP_replaced] at moved parts total ⊢
    omega
  · refine pairwise_append.mpr ⟨conserved.ascending, pairwise_singleton _ _, ?_⟩
    intro old mem last same
    rw [mem_singleton.mp same]
    exact conserved.fresh old (mem_append_right _ mem)
  · intro row mem last among
    rcases mem_append.mp among with pre | new
    · exact conserved.later row mem last pre
    · rw [mem_singleton.mp new]
      exact conserved.fresh row (mem_append_left _ mem)
  · intro acc mem
    have next : (w.enqueue item).queue.nextVersion = w.queue.nextVersion + 1 := evicts.nextVersion
    rw [next]
    have grown : acc ∈ w.history.accepted ++ [stamped] := by
      rw [History.accepted, append_assoc]
      exact mem
    rcases mem_append.mp grown with pre | new
    · exact (conserved.fresh acc pre).trans (lt_add_one _)
    · rw [mem_singleton.mp new]
      exact lt_add_one _
  · intro acc mem
    rcases mem_append.mp mem with pre | new
    · exact conserved.fenced acc pre
    · rw [mem_singleton.mp new]
      exact stampVersion_fenced item w.queue.nextVersion
  · intro record mem
    rcases mem_append.mp mem with pre | new
    · obtain ⟨newer, same, grows⟩ := conserved.replaced record pre
      exact ⟨mem_append_left _ newer, same, grows⟩
    · obtain ⟨old, hit, rfl⟩ := mem_map.mp new
      have hit : w.queue.items.find? (sameKey · stamped) = some old := by simpa using hit
      refine ⟨mem_append_right _ (mem_singleton_self _), ?_, ?_⟩
      · exact List.find?_some (p := (sameKey · stamped)) hit
      · exact conserved.version_lt (mem_of_find?_eq_some hit)
  · exact conserved.completed
  · intro reason
    have pre := conserved.recorded reason
    have lost := evicts.recorded reason
    unfold World.enqueue History.enqueue
    simp only [countP_append, countP_evicted_reason] at pre ⊢
    rw [lost]
    push_cast at pre ⊢
    simp only [RetryQueue.placed]
    linarith

lemma Conserved.bumpAttempts (item : QueueItem) : Conserved (step w (.bumpAttempts item)) := by
  rcases w.queue.bumpAttempts_cases item with kept | ⟨cur, hit, same, bumped⟩
  · have unchanged : step w (.bumpAttempts item) = w := by simp only [step, kept]
    rw [unchanged]
    exact conserved
  · have moved := FirstMatch.perm hit
    have after : step w (.bumpAttempts item) =
        { w with
          queue :=
            { w.queue with
              items := w.queue.items.eraseP (sameKey · item) ++
                [cur.bumped] } } := by
      simp only [step, bumped]
    rw [after]
    refine ⟨?_, conserved.ascending, conserved.later, conserved.fresh, conserved.fenced,
      conserved.replaced, conserved.completed, conserved.recorded⟩
    intro alt
    have total := conserved.counted alt
    have count := moved.countP_eq (isItem alt)
    unfold World.accounted History.accepted at total ⊢
    simp only [countP_append, countP_bumped] at total ⊢
    simp only [countP_cons, countP_nil] at count ⊢
    omega

lemma Conserved.markDone (item : QueueItem) : Conserved (w.markDoneIfVersion item) := by
  rcases w.markDone_cases item with kept | ⟨removed, hit, same, done⟩
  · rw [kept]
    exact conserved
  · have moved := FirstMatch.perm hit
    rw [done]
    refine ⟨?_, conserved.ascending, conserved.later, conserved.fresh, conserved.fenced,
      conserved.replaced, ?_, conserved.recorded⟩
    · intro alt
      have total := conserved.counted alt
      have count := moved.countP_eq (isItem alt)
      unfold World.accounted History.accepted at total ⊢
      simp only [countP_append, countP_cons, countP_nil] at count total ⊢
      omega
    · intro record mem
      rcases mem_append.mp mem with pre | new
      · exact conserved.completed record pre
      · rw [mem_singleton.mp new]
        exact ⟨List.find?_some (p := (sameKey · item)) hit, same⟩

lemma Conserved.drain : Conserved (step w .drainDroppedDelta) := by
  refine ⟨conserved.counted, conserved.ascending, conserved.later, conserved.fresh,
    conserved.fenced, conserved.replaced, conserved.completed, ?_⟩
  intro reason
  have pre := conserved.recorded reason
  simp only [step, RetryQueue.drainDroppedDelta] at pre ⊢
  linarith

lemma Conserved.restore (deltas : QueueDropDeltas) : Conserved (step w (.restoreDroppedDelta deltas)) := by
  refine ⟨conserved.counted, conserved.ascending, conserved.later, conserved.fresh,
    conserved.fenced, conserved.replaced, conserved.completed, ?_⟩
  intro reason
  have pre := conserved.recorded reason
  simp only [step, RetryQueue.restoreDroppedDelta] at pre ⊢
  by_cases positive : 0 < deltas reason
  · rw [if_pos positive, max_eq_right positive.le]
    linarith
  · rw [if_neg positive, max_eq_left (not_lt.mp positive)]
    linarith

lemma Conserved.permanent (reason : PermanentReason) : Conserved (step w (.recordPermanentDrop reason)) := by
  refine ⟨?_, conserved.ascending, conserved.later, conserved.fresh,
    conserved.fenced, conserved.replaced, conserved.completed, ?_⟩
  · intro item
    have total := conserved.counted item
    unfold World.accounted History.accepted at total ⊢
    simpa [step, countP_append] using total
  · intro alt
    have pre := conserved.recorded alt
    simp only [step, RetryQueue.recordDrop, countP_append, countP_cons, countP_nil, Drop.reason] at pre ⊢
    by_cases same : alt = reason.reason
    · simp only [same, if_true, decide_true] at pre ⊢
      push_cast at pre ⊢
      linarith
    · have different : ¬reason.reason = alt := fun equal => same equal.symm
      simp only [same, different, if_false, decide_false, Bool.false_eq_true] at pre ⊢
      push_cast at pre ⊢
      linarith

lemma Conserved.enqueueWhenAvailable (item : QueueItemInput) : Conserved (w.enqueueWhenAvailable item) := by
  rcases w.enqueueWhenAvailable_cases item with taken | waits
  · rw [taken]
    exact conserved.enqueue item
  · rw [waits]
    exact conserved.waiters _

end

lemma Conserved.step {w} (conserved : Conserved w) (act : Action) : Conserved (step w act) := by
  cases act with
  | load file => exact conserved.load file
  | enqueue item => exact conserved.enqueue item
  | enqueueWhenAvailable item => exact conserved.enqueueWhenAvailable item
  | resume idx =>
    cases hit : w.waiters[idx]? with
    | none =>
      simp only [Serve.step, hit]
      exact conserved
    | some waiter =>
      simp only [Serve.step, hit]
      by_cases waiting : waiter.registered = true
      · rw [if_pos waiting]
        exact conserved
      · rw [if_neg waiting]
        exact (conserved.waiters _).enqueueWhenAvailable waiter.item
  | abort idx => exact conserved.waiters _
  | markDoneIfVersion item => exact conserved.markDone item
  | bumpAttempts item => exact conserved.bumpAttempts item
  | drainDroppedDelta => exact conserved.drain
  | restoreDroppedDelta deltas => exact conserved.restore deltas
  | recordPermanentDrop reason => exact conserved.permanent reason

lemma reachable_conserved {maxItems : Nat} (reached : Reachable step (· = World.new maxItems) w) : Conserved w :=
  reached.invariant (by rintro start rfl; exact Conserved.new maxItems)
    fun start act conserved => conserved.step act

lemma Conserved.accepted_once (conserved : Conserved w)
    (mem : item ∈ w.history.enqueued) : w.history.accepted.countP (isItem item) = 1 := by
  have apart : ∀ alt : QueueItem, alt.version ≠ item.version → ¬isItem item alt = true := by
    intro alt different same
    apply different
    simpa using congrArg QueueItem.version (isItem_iff.mp same)
  have rows : w.history.loaded.countP (isItem item) = 0 := by
    rw [countP_eq_zero]
    intro row loaded
    exact apart row (conserved.later row loaded item mem).ne
  obtain ⟨pre, after, split⟩ := append_of_mem mem
  have order := conserved.ascending
  rw [split] at order
  have parts := pairwise_append.mp order
  have front : pre.countP (isItem item) = 0 := by
    rw [countP_eq_zero]
    intro alt early
    exact apart alt (parts.2.2 alt early item mem_cons_self).ne
  have back : after.countP (isItem item) = 0 := by
    rw [countP_eq_zero]
    intro alt late
    exact apart alt ((pairwise_cons.mp parts.2.1).1 alt late).ne'
  rw [History.accepted, split, countP_append, countP_append, countP_cons, rows, front, back]
  simp

def Fate.Final : Fate → Prop
  | .replaced _ => False
  | _ => True

def Fate.Sound (w : World) (item : QueueItem) : Fate → Prop
  | .queued => ∃ queued ∈ w.queue.items, queued.identity = item.identity
  | .replaced newer => newer ∈ w.history.enqueued ∧ sameKey item newer ∧ item.version < newer.version
  | .completed call => sameKey item call ∧ call.version = item.version
  | .dropped reason => reason = RetryQueue.capacityReason item

lemma Conserved.fate_sound (conserved : Conserved w) {fate} (mem : fate ∈ w.fates item) : fate.Sound w item := by
  unfold World.fates at mem
  simp only [mem_append, mem_map, mem_filter, isItem_iff] at mem
  rcases mem with ((⟨queued, ⟨among, same⟩, rfl⟩ | ⟨record, ⟨among, same⟩, rfl⟩) |
    ⟨record, ⟨among, same⟩, rfl⟩) | ⟨drop, ⟨among, same⟩, rfl⟩
  · exact ⟨queued, among, same⟩
  · obtain ⟨newer, key, grows⟩ := conserved.replaced record among
    refine ⟨newer, ?_, ?_⟩
    · rw [sameKey_left_of_identity same]
      exact key
    · rw [← version_of_identity same]
      exact grows
  · obtain ⟨key, ver⟩ := conserved.completed record among
    refine ⟨?_, ?_⟩
    · rw [sameKey_left_of_identity same]
      exact key
    · rw [← version_of_identity same, ver]
  · cases drop with
    | evicted evicted =>
      have ident : evicted.identity = item.identity := by simpa using same
      show RetryQueue.capacityReason evicted = RetryQueue.capacityReason item
      unfold RetryQueue.capacityReason
      rw [← isSkillOperation_identity evicted, ident, isSkillOperation_identity]
    | invalidLine | permanent => simp [Drop.item?] at same

lemma Conserved.one_fate (conserved : Conserved w) (mem : item ∈ w.history.enqueued) :
    ∃ fate, w.fates item = [fate] ∧ fate.Sound w item := by
  have once := conserved.accepted_once mem
  rw [conserved.counted item, ← World.length_fates, length_eq_one_iff] at once
  obtain ⟨fate, only⟩ := once
  exact ⟨fate, only, conserved.fate_sound (by rw [only]; exact mem_singleton_self fate)⟩

lemma Conserved.heir (conserved : Conserved w) (mem : item ∈ w.history.enqueued) :
    ∃ heir ∈ w.history.enqueued, sameKey item heir ∧ item.version ≤ heir.version ∧
      ∃ fate, w.fates heir = [fate] ∧ fate.Final ∧ fate.Sound w heir := by
  let line := w.history.enqueued.toFinset.filter fun alt => sameKey item alt
  have nonempty : line.Nonempty := ⟨item, by simp [line, mem, sameKey_refl]⟩
  obtain ⟨heir, inLine, newest⟩ := line.exists_max_image QueueItem.version nonempty
  have parts : heir ∈ w.history.enqueued ∧ sameKey item heir = true := by simpa [line] using inLine
  obtain ⟨fate, only, inv⟩ := conserved.one_fate parts.1
  refine ⟨heir, parts.1, parts.2, newest item ?_, fate, only, ?_, inv⟩
  · simp [line, mem, sameKey_refl]
  · cases fate with
    | replaced newer =>
      obtain ⟨taken, key, grows⟩ := inv
      have chained : sameKey item newer :=
        sameKey_trans (conserved.fenced heir parts.1) (conserved.fenced item mem)
          (conserved.fenced newer taken) parts.2 key
      have bounded := newest newer (by simp [line, taken, chained])
      exact absurd grows (not_lt.mpr bounded)
    | queued | completed | dropped => exact trivial

def World.Holds (w : World) (item : QueueItem) : Prop :=
  ∃ queued ∈ w.queue.items, sameKey item queued ∧ item.version ≤ queued.version

def World.Completes (w : World) (item : QueueItem) : Prop :=
  ∃ record ∈ w.history.completed, sameKey item record.removed ∧
    item.version ≤ record.removed.version ∧ record.call.version = record.removed.version

def World.Drops (w : World) (item : QueueItem) : Prop :=
  ∃ evicted, .evicted evicted ∈ w.history.drops ∧ sameKey item evicted ∧ item.version ≤ evicted.version

lemma Conserved.kept (conserved : Conserved w) (mem : item ∈ w.history.enqueued) :
    w.Holds item ∨ w.Completes item ∨ w.Drops item := by
  obtain ⟨heir, taken, key, newer, fate, only, final, inv⟩ := conserved.heir mem
  have among : fate ∈ w.fates heir := by
    rw [only]
    exact mem_singleton_self fate
  unfold World.fates at among
  simp only [mem_append, mem_map, mem_filter, isItem_iff] at among
  rcases among with ((⟨queued, ⟨held, same⟩, rfl⟩ | ⟨record, ⟨held, same⟩, rfl⟩) |
    ⟨record, ⟨held, same⟩, rfl⟩) | ⟨drop, ⟨held, same⟩, rfl⟩
  · left
    refine ⟨queued, held, ?_, ?_⟩
    · rw [← sameKey_of_identity same]
      exact key
    · rw [version_of_identity same]
      exact newer
  · exact final.elim
  · right; left
    refine ⟨record, held, ?_, ?_, (conserved.completed record held).2.symm⟩
    · rw [← sameKey_of_identity same]
      exact key
    · rw [version_of_identity same]
      exact newer
  · right; right
    cases drop with
    | evicted evicted =>
      have ident : evicted.identity = heir.identity := by simpa using same
      refine ⟨evicted, held, ?_, ?_⟩
      · rw [← sameKey_of_identity ident]
        exact key
      · rw [version_of_identity ident]
        exact newer
    | invalidLine | permanent => simp [Drop.item?] at same

/-- Every item ends in the queue, in its completion or in a recorded eviction, and drops are counted once. -/
theorem retry_queue_conservation {maxItems : Nat} {w : World}
    (reached : Reachable step (· = World.new maxItems) w) : (∀ item ∈ w.history.enqueued,
      (∃ fate, w.fates item = [fate] ∧ fate.Sound w item) ∧ (w.Holds item ∨ w.Completes item ∨ w.Drops item)) ∧
      ∀ reason, w.queue.droppedByReason reason + w.history.drained reason =
        (((w.history.earlierDrops ++ w.history.drops).countP (·.reason = reason) : Nat) :
          Number) + w.history.restored reason := by
  have conserved := reachable_conserved reached
  refine ⟨?_, conserved.recorded⟩
  intro item mem
  exact ⟨conserved.one_fate mem, conserved.kept mem⟩

namespace Sample

def edit : QueueItemInput :=
  { enqueuedAt := "t", attempts := 0, operation := .skillPush "notes" "agent" "project" "hash" }

def pushed : QueueItem := stampVersion edit 1
def editedAgain : World := run step (World.new 1) [.enqueue edit, .markDoneIfVersion pushed, .enqueue edit]

lemma editedAgain_reached : Reachable step (· = World.new 1) editedAgain :=
  ⟨World.new 1, [.enqueue edit, .markDoneIfVersion pushed, .enqueue edit], rfl, rfl⟩

end Sample

open Sample

theorem retry_queue_conservation_edited : ∃ fate, editedAgain.fates pushed = [fate] ∧ fate.Sound editedAgain pushed :=
  ((retry_queue_conservation editedAgain_reached).1 pushed (by decide +kernel)).1

/-- The item was completed while a newer one is queued, and a load drops without a record. -/
theorem conditions_overlap : (pushed ∈ editedAgain.history.enqueued ∧
      editedAgain.Holds pushed ∧ editedAgain.Completes pushed) ∧
    ((run step (World.new 1) [.enqueue edit]).queue.items = [pushed] ∧
      (run step (World.new 1) [.enqueue edit, .load none]).queue.items = [] ∧ ∀ reason, (run step (World.new 1)
        [.enqueue edit, .load none]).queue.droppedByReason reason = 0) := by
  refine ⟨⟨by decide +kernel, ?_, ?_⟩, by decide +kernel, rfl, fun reason => rfl⟩
  · exact ⟨stampVersion edit 2, by decide +kernel, by decide +kernel, by decide +kernel⟩
  · exact ⟨{ removed := pushed, call := pushed }, mem_cons_self, by decide +kernel, le_refl _, rfl⟩

end Clawdi.Serve
