import Clawdi.Serve.QueueCases
import Clawdi.SkillSync.Process
import Mathlib.Data.List.Dedup

namespace Clawdi.SkillSync
open List
open Serve (RetryQueue QueueItem QueueItemInput Operation OperationInput sameKey stampVersion Line)

def skillKeys (items : List QueueItem) : List String := items.filterMap fun item => item.operation.skillKey?
abbrev SkillsDistinct (items : List QueueItem) : Prop := (skillKeys items).Nodup

variable {item row : QueueItem} {items : List QueueItem}

lemma sameKey_of_skill {skillKey} (key : row.operation.skillKey? = some skillKey) :
    sameKey item row = decide (item.operation.skillKey? = some skillKey) := by
  unfold sameKey
  cases one : item.operation <;> cases alt : row.operation <;>
    simp_all [Operation.skillKey?]

lemma skillKey_of_session (sess : row.operation.skillKey? = none)
    (same : sameKey item row = true) : item.operation.skillKey? = none := by
  unfold sameKey at same
  cases one : item.operation <;> cases alt : row.operation <;>
    simp_all [Operation.skillKey?]

lemma skillKey_of_sameKey (same : sameKey item row = true) :
    item.operation.skillKey? = row.operation.skillKey? := by
  cases key : row.operation.skillKey? with
  | none => exact skillKey_of_session key same
  | some skillKey =>
    rw [sameKey_of_skill key] at same
    exact of_decide_eq_true same

lemma SkillsDistinct.sublist {fewer : List QueueItem} (distinct : SkillsDistinct items)
    (part : fewer.Sublist items) : SkillsDistinct fewer :=
  List.Nodup.sublist (part.filterMap _) distinct

lemma SkillsDistinct.append (distinct : SkillsDistinct items)
    (apart : ∀ item ∈ items, ∀ skillKey, row.operation.skillKey? = some skillKey →
      item.operation.skillKey? ≠ some skillKey) : SkillsDistinct (items ++ [row]) := by
  unfold SkillsDistinct skillKeys
  rw [filterMap_append]
  cases key : row.operation.skillKey? with
  | none => simpa [SkillsDistinct, skillKeys, key] using distinct
  | some skillKey =>
    simp only [filterMap_cons, key, filterMap_nil]
    refine List.Nodup.append distinct (nodup_singleton _) ?_
    intro alt mem isKey
    rw [mem_singleton] at isKey
    subst isKey
    obtain ⟨item, inItems, ofItem⟩ := mem_filterMap.mp mem
    exact apart item inItems alt key ofItem

lemma SkillsDistinct.erased {skillKey} (distinct : SkillsDistinct items)
    (key : row.operation.skillKey? = some skillKey) :
    ∀ item ∈ items.eraseP (sameKey · row), item.operation.skillKey? ≠ some skillKey := by
  have apart : items.Pairwise fun one alt =>
      ¬(one.operation.skillKey? = some skillKey ∧ alt.operation.skillKey? = some skillKey) := by
    refine (pairwise_filterMap.mp distinct).imp ?_
    intro one alt differ both
    exact differ skillKey both.1 skillKey both.2 rfl
  have together : ∀ one alt, sameKey one row = true → sameKey alt row = true →
      one.operation.skillKey? = some skillKey ∧ alt.operation.skillKey? = some skillKey := by
    intro one alt isOne isOther
    rw [sameKey_of_skill key] at isOne isOther
    exact ⟨of_decide_eq_true isOne, of_decide_eq_true isOther⟩
  intro item mem ofKey
  have gone : sameKey item row = false := FirstMatch.none_left apart together item mem
  rw [sameKey_of_skill key, ofKey] at gone
  simp at gone

lemma loadRow_skills (row : QueueItem) (distinct : SkillsDistinct items) :
    SkillsDistinct (RetryQueue.loadRow items row) := by
  rcases RetryQueue.loadRow_cases items row with ⟨none, appended⟩ |
    ⟨pre, old, after, rfl, matched, _, _, put⟩ | ⟨_, _, _, kept⟩
  · rw [appended]
    apply distinct.append
    intro item mem skillKey key ofKey
    have apart := none item mem
    rw [sameKey_of_skill key, ofKey] at apart
    simp at apart
  · rw [put]
    have same := skillKey_of_sameKey matched
    unfold SkillsDistinct skillKeys at distinct ⊢
    rw [filterMap_append, filterMap_cons] at distinct ⊢
    rwa [← same]
  · rw [kept]
    exact distinct

lemma load_skills (q : RetryQueue) (file : Option (List Line)) : SkillsDistinct (q.load file).items := by
  cases file with
  | none => exact nodup_nil
  | some lines =>
    have rows := RetryQueue.load_items lines { q with items := [] }
    show SkillsDistinct (lines.foldl RetryQueue.loadLine { q with items := [] }).items
    rw [rows]
    generalize lines.filterMap Serve.isQueueItem = loaded
    have start : SkillsDistinct ([] : List QueueItem) := nodup_nil
    revert start
    generalize ([] : List QueueItem) = items
    induction loaded generalizing items with
    | nil => exact fun start => start
    | cons row loaded ih => exact fun start => ih _ (loadRow_skills row start)

lemma enqueue_skills (q : RetryQueue) (input : QueueItemInput)
    (distinct : SkillsDistinct q.items) : SkillsDistinct (q.enqueue input).queue.items := by
  have placed : SkillsDistinct (q.items.eraseP (sameKey · (stampVersion input q.nextVersion)) ++
      [stampVersion input q.nextVersion]) := by
    apply (distinct.sublist eraseP_sublist).append
    intro item mem skillKey key
    exact distinct.erased key item mem
  exact placed.sublist (q.enqueue_evicts input).sublist

lemma markDone_skills (q : RetryQueue) (item : QueueItem) (distinct : SkillsDistinct q.items) :
    SkillsDistinct (q.markDoneIfVersion item).1.items := by
  rcases q.markDone_cases item with kept | ⟨_, _, _, done⟩
  · rw [kept]
    exact distinct
  · rw [done]
    exact distinct.sublist eraseP_sublist

lemma bumpAttempts_skills (q : RetryQueue) (item : QueueItem)
    (distinct : SkillsDistinct q.items) : SkillsDistinct (q.bumpAttempts item).items := by
  rcases q.bumpAttempts_cases item with kept | ⟨cur, hit, _, bumped⟩
  · rw [kept]
    exact distinct
  · rw [bumped]
    apply (distinct.sublist eraseP_sublist).append
    intro alt mem skillKey key
    have matched := List.find?_some hit
    have same := skillKey_of_sameKey matched
    rw [show cur.bumped.operation = cur.operation from rfl, same] at key
    exact distinct.erased key alt mem

open Serve (RetryQueue QueueItem QueueItemInput Operation isValidSkillKey)

structure Holds (eng : Engine) (skillKey hash : String) : Prop where
  valid : isValidSkillKey skillKey = true
  own : eng.lock.materialized eng.opts skillKey = false
  free : eng.home.reserved skillKey = false
  content : eng.home.skill skillKey = .present hash

structure Gone (eng : Engine) (skillKey : String) : Prop where
  valid : isValidSkillKey skillKey = true
  gone : eng.lock.materialized eng.opts skillKey = true ∨ reservedOrAbsent eng skillKey = true

/-- No opposite operation is queued, and no claim is outside the map of pushed hashes. -/
def Settled (eng : Engine) (skillKey : String) (q : RetryQueue) : Prop :=
  (∀ hash, Holds eng skillKey hash → eng.lastPushedHash.hash skillKey = some hash →
    (∀ op, pendingOperation q skillKey = some op → isSkillDelete op = false) ∧
    (staleClaim eng skillKey = true → pendingOperation q skillKey =
      some (.skillPush skillKey (some eng.opts.environmentId) (some eng.projectId) hash))) ∧
  (isValidSkillKey skillKey = true → eng.lock.materialized eng.opts skillKey = false →
    reservedOrAbsent eng skillKey = true → eng.lastPushedHash.hash skillKey = none →
    eng.lock.claimsOf eng.opts skillKey ≠ [] → pendingOperation q skillKey =
      some (.skillDelete skillKey (some eng.opts.environmentId) (some eng.projectId)))

/-- A queue that takes one more item, with at most one operation for each skill. -/
structure Ready (q : RetryQueue) : Prop where
  distinct : SkillsDistinct q.items
  room : 0 < q.maxItems

section
variable {q : RetryQueue} {skillKey : String}

end

section
variable {eng : Engine} {skillKey : String}

end

section
variable {eng : Engine} {skillKey enqueuedAt : String} {q after : RetryQueue}

lemma cleanup_unclaimed (unclaimed : eng.lock.claimsOf eng.opts skillKey = []) :
    enqueueMaterializedSkillClaimCleanup eng skillKey enqueuedAt q = q := by
  unfold enqueueMaterializedSkillClaimCleanup
  rw [unclaimed]
  rfl

variable {hash : String}

end
end Clawdi.SkillSync
