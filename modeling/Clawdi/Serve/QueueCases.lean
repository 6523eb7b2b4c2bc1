import Clawdi.Lib.FirstMatch
import Clawdi.Serve.RetryQueue
import Mathlib.Tactic.Linarith
import Mathlib.Tactic.Ring

namespace Clawdi.Serve
namespace RetryQueue

lemma loadRow_cases (items : List QueueItem) (row : QueueItem) :
    ((∀ item ∈ items, sameKey item row = false) ∧ loadRow items row = items ++ [row]) ∨
    (∃ pre old after, items = pre ++ old :: after ∧ sameKey old row = true ∧
      (∀ item ∈ pre, sameKey item row = false) ∧ old.version ≤ row.version ∧
      loadRow items row = pre ++ row :: after) ∨
    (∃ old, items.find? (sameKey · row) = some old ∧ row.version < old.version ∧ loadRow items row = items) := by
  induction items with
  | nil =>
    left
    exact ⟨by simp, rfl⟩
  | cons first items ih =>
    by_cases same : sameKey first row = true
    · by_cases older : first.version ≤ row.version
      · right; left
        exact ⟨[], first, items, rfl, same, by simp, older, by simp [loadRow, same, older]⟩
      · right; right
        exact ⟨first, by simp [same], not_le.mp older, by simp [loadRow, same, older]⟩
    · have kept : loadRow (first :: items) row = first :: loadRow items row := by simp [loadRow, same]
      have apart : sameKey first row = false := by simpa using same
      rcases ih with ⟨none, appended⟩ | ⟨pre, old, after, rfl, matched, earlier, older, put⟩ |
        ⟨old, hit, newer, unchanged⟩
      · left
        refine ⟨?_, by rw [kept, appended]; rfl⟩
        intro item mem
        rcases List.mem_cons.mp mem with rfl | mem
        · exact apart
        · exact none item mem
      · right; left
        refine ⟨first :: pre, old, after, rfl, matched, ?_, older, by rw [kept, put]; rfl⟩
        intro item mem
        rcases List.mem_cons.mp mem with rfl | mem
        · exact apart
        · exact earlier item mem
      · right; right
        exact ⟨old, by simp [apart, hit], newer, by rw [kept, unchanged]⟩

lemma load_items (lines : List Line) (q : RetryQueue) :
    (lines.foldl loadLine q).items = (lines.filterMap isQueueItem).foldl loadRow q.items := by
  induction lines generalizing q with
  | nil => rfl
  | cons line lines ih =>
    rw [List.foldl_cons, ih, List.filterMap_cons]
    unfold loadLine
    cases isQueueItem line with
    | none | some => rfl

variable (q : RetryQueue) (item : QueueItem)

structure Evicts (res : RetryQueue × List QueueItem) : Prop where
  sublist : res.1.items.Sublist q.items
  perm : q.items.Perm (res.2 ++ res.1.items)
  nextVersion : res.1.nextVersion = q.nextVersion
  recorded : ∀ reason, res.1.droppedByReason reason =
    q.droppedByReason reason + (res.2.countP (capacityReason · = reason) : Nat)

lemma Evicts.none : Evicts q (q, []) where
  sublist := List.Sublist.refl _
  perm := List.Perm.refl _
  nextVersion := rfl
  recorded := by simp

lemma Evicts.one {q : RetryQueue} {item evicted} {rest} (hit : q.items.find? (sameModule item) = some evicted)
    (later : Evicts (recordDrop { q with items := q.items.eraseP (sameModule item) }
      (capacityReason evicted)) rest) : Evicts q (rest.1, evicted :: rest.2) where
  sublist := later.sublist.trans List.eraseP_sublist
  perm := (FirstMatch.perm hit).trans (later.perm.cons evicted)
  nextVersion := later.nextVersion
  recorded := by
    intro reason
    have pre := later.recorded reason
    show rest.1.droppedByReason reason = _
    rw [pre, List.countP_cons]
    by_cases same : reason = capacityReason evicted
    · simp only [recordDrop, same, if_true, decide_true]
      push_cast
      ring
    · have alt : ¬capacityReason evicted = reason := fun equal => same equal.symm
      simp [recordDrop, same, alt]

lemma evictLoop_evicts (passes : Nat) (q : RetryQueue) : Evicts q (evictLoop item passes q) := by
  induction passes generalizing q with
  | zero => exact Evicts.none q
  | succ passes ih =>
    unfold evictLoop
    by_cases full : q.maxItems < q.moduleDepth item
    · rw [if_pos full]
      cases hit : q.items.find? (sameModule item) with
      | none => exact Evicts.none q
      | some evicted => exact Evicts.one hit (ih _)
    · rw [if_neg full]
      exact Evicts.none q

def placed (stamped : QueueItem) : RetryQueue :=
  { q with
    items := q.items.eraseP (sameKey · stamped) ++ [stamped]
    nextVersion := q.nextVersion + 1 }

lemma enqueue_evicts (item : QueueItemInput) : Evicts (q.placed (stampVersion item q.nextVersion))
      ((q.enqueue item).queue, (q.enqueue item).evicted) :=
  evictLoop_evicts _ _ _

@[simp] lemma enqueue_stamped (item : QueueItemInput) :
    (q.enqueue item).stamped = stampVersion item q.nextVersion := rfl

lemma markDone_cases : q.markDoneIfVersion item = (q, false) ∨
    ∃ removed, q.items.find? (sameKey · item) = some removed ∧ removed.version = item.version ∧
      q.markDoneIfVersion item = ({ q with items := q.items.eraseP (sameKey · item) }, true) := by
  unfold markDoneIfVersion
  cases hit : q.items.find? (sameKey · item) with
  | none =>
    left
    rfl
  | some old =>
    by_cases same : old.version = item.version
    · right
      exact ⟨old, rfl, same, by simp [same]⟩
    · left
      simp [same]

lemma bumpAttempts_cases : q.bumpAttempts item = q ∨ ∃ cur, q.items.find? (sameKey · item) = some cur ∧
      cur.version = item.version ∧
      q.bumpAttempts item =
        { q with
          items := q.items.eraseP (sameKey · item) ++
            [cur.bumped] } := by
  unfold bumpAttempts
  cases hit : q.items.find? (sameKey · item) with
  | none =>
    left
    rfl
  | some cur =>
    by_cases same : cur.version = item.version
    · right
      exact ⟨cur, rfl, same, by simp [same]⟩
    · left
      simp [same]

end RetryQueue

lemma World.markDone_cases (w : World) (item : QueueItem) : w.markDoneIfVersion item = w ∨
    ∃ removed, w.queue.items.find? (sameKey · item) = some removed ∧ removed.version = item.version ∧
      w.markDoneIfVersion item =
        { queue := { w.queue with items := w.queue.items.eraseP (sameKey · item) }
          waiters := notifyCapacityWaiters w.waiters
          history :=
            { w.history with
              completed := w.history.completed ++ [{ removed, call := item }] } } := by
  unfold World.markDoneIfVersion
  rcases w.queue.markDone_cases item with kept | ⟨removed, hit, same, done⟩
  · left
    rw [kept]
  · right
    refine ⟨removed, hit, same, ?_⟩
    rw [done, hit]
    rfl

lemma World.enqueueWhenAvailable_cases (w : World) (item : QueueItemInput) :
    w.enqueueWhenAvailable item = w.enqueue item ∨ w.enqueueWhenAvailable item =
      { w with waiters := w.waiters ++ [{ item, registered := true }] } := by
  unfold World.enqueueWhenAvailable RetryQueue.enqueueWhenAvailable
  simp only
  split
  · rename_i res taken
    split at taken
    · left
      cases taken
      rfl
    · cases taken
  · right
    rfl

end Clawdi.Serve
