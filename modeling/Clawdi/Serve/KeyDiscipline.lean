import Clawdi.Lib.Transition
import Clawdi.Serve.QueueCases

namespace Clawdi.Serve
open Transition List

abbrev Distinct (items : List QueueItem) : Prop := items.Pairwise fun a b => ¬sameKey a b
abbrev AtMostOne (items : List QueueItem) (incoming : QueueItem) : Prop := items.countP (sameKey · incoming) ≤ 1

abbrev RowAdmitted (items : List QueueItem) (row : QueueItem) : Prop :=
  AtMostOne items row ∨ ((items.find? (sameKey · row)).any fun old => row.version < old.version) = true

variable (w : World)

def Admitted : Action → Prop
  | .load none => True
  | .load (some lines) => Always RetryQueue.loadRow RowAdmitted [] (lines.filterMap isQueueItem)
  | .enqueue item | .enqueueWhenAvailable item => AtMostOne w.queue.items (stampVersion item w.queue.nextVersion)
  | .resume idx =>
    ∀ waiter ∈ w.waiters[idx]?, AtMostOne w.queue.items (stampVersion waiter.item w.queue.nextVersion)
  | _ => True

instance Admitted.decidable (w : World) : ∀ act, Decidable (Admitted w act)
  | .load none => inferInstanceAs (Decidable True)
  | .load (some lines) =>
    inferInstanceAs (Decidable (Always RetryQueue.loadRow RowAdmitted [] (lines.filterMap isQueueItem)))
  | .enqueue item => inferInstanceAs (Decidable (AtMostOne w.queue.items (stampVersion item w.queue.nextVersion)))
  | .enqueueWhenAvailable item =>
    inferInstanceAs (Decidable (AtMostOne w.queue.items (stampVersion item w.queue.nextVersion)))
  | .resume idx =>
    inferInstanceAs (Decidable (∀ waiter ∈ w.waiters[idx]?,
        AtMostOne w.queue.items (stampVersion waiter.item w.queue.nextVersion)))
  | .abort _ => inferInstanceAs (Decidable True)
  | .markDoneIfVersion _ => inferInstanceAs (Decidable True)
  | .bumpAttempts _ => inferInstanceAs (Decidable True)
  | .drainDroppedDelta => inferInstanceAs (Decidable True)
  | .restoreDroppedDelta _ => inferInstanceAs (Decidable True)
  | .recordPermanentDrop _ => inferInstanceAs (Decidable True)

variable {item : QueueItem} {items : List QueueItem}

lemma Distinct.append (distinct : Distinct items)
    (apart : ∀ alt ∈ items, sameKey alt item = false) : Distinct (items ++ [item]) := by
  refine pairwise_append.mpr ⟨distinct, pairwise_singleton _ _, ?_⟩
  intro alt mem last same
  rw [mem_singleton.mp same, apart alt mem]
  decide

lemma Distinct.replaced (distinct : Distinct items) (single : AtMostOne items item) :
    Distinct (items.eraseP (sameKey · item) ++ [item]) := by
  have rest : Distinct (items.eraseP (sameKey · item)) := distinct.sublist eraseP_sublist
  exact rest.append (FirstMatch.none_left_of_countP single)

lemma Distinct.atMostOne (distinct : Distinct items) (mem : item ∈ items) : AtMostOne items item := by
  obtain ⟨pre, after, rfl⟩ := append_of_mem mem
  have parts := pairwise_append.mp distinct
  have front : pre.countP (sameKey · item) = 0 := by
    rw [countP_eq_zero]
    intro alt early
    exact parts.2.2 alt early item mem_cons_self
  have back : after.countP (sameKey · item) = 0 := by
    rw [countP_eq_zero]
    intro alt late
    rw [sameKey_comm]
    exact (pairwise_cons.mp parts.2.1).1 alt late
  rw [AtMostOne, countP_append, countP_cons, front, back, sameKey_refl]
  decide

lemma loadRow_distinct (items : List QueueItem) (row : QueueItem) (distinct : Distinct items)
    (admitted : RowAdmitted items row) : Distinct (RetryQueue.loadRow items row) := by
  rcases RetryQueue.loadRow_cases items row with ⟨none, appended⟩ |
    ⟨pre, old, after, rfl, matched, earlier, older, put⟩ | ⟨old, hit, newer, kept⟩
  · rw [appended]
    exact distinct.append none
  · have single : AtMostOne (pre ++ old :: after) row := by
      rcases admitted with single | newer
      · exact single
      · have hit : (pre ++ old :: after).find? (sameKey · row) = some old :=
          FirstMatch.find_middle earlier matched
        rw [hit] at newer
        exact absurd (of_decide_eq_true newer) (not_lt.mpr older)
    have apart : ∀ alt ∈ after, sameKey alt row = false := by
      intro alt late
      have left := FirstMatch.none_left_of_countP single alt
      rw [FirstMatch.eraseP_middle earlier matched] at left
      exact left (mem_append_right pre late)
    have parts := pairwise_append.mp distinct
    have tail := pairwise_cons.mp parts.2.1
    rw [put]
    refine pairwise_append.mpr ⟨parts.1, pairwise_cons.mpr ⟨?_, tail.2⟩, ?_⟩
    · intro alt late
      rw [sameKey_comm, apart alt late]
      decide
    · intro alt early last mem
      rcases mem_cons.mp mem with rfl | late
      · rw [earlier alt early]
        decide
      · exact parts.2.2 alt early last (mem_cons_of_mem old late)
  · rw [kept]
    exact distinct

variable (q : RetryQueue)

lemma load_distinct (lines : List Line)
    (admitted : Always RetryQueue.loadRow RowAdmitted [] (lines.filterMap isQueueItem)) :
    Distinct (q.load (some lines)).items := by
  have rows := RetryQueue.load_items lines { q with items := [] }
  show Distinct (lines.foldl RetryQueue.loadLine { q with items := [] }).items
  rw [rows]
  exact admitted.invariant loadRow_distinct List.Pairwise.nil

lemma enqueue_distinct (item : QueueItemInput) (distinct : Distinct q.items)
    (single : AtMostOne q.items (stampVersion item q.nextVersion)) : Distinct (q.enqueue item).queue.items :=
  (distinct.replaced single).sublist (RetryQueue.enqueue_evicts q item).sublist

lemma World.markDone_distinct (item : QueueItem) (distinct : Distinct w.queue.items) :
    Distinct (w.markDoneIfVersion item).queue.items := by
  rcases w.markDone_cases item with kept | ⟨removed, hit, same, done⟩
  · rw [kept]
    exact distinct
  · rw [done]
    exact distinct.sublist eraseP_sublist

lemma sameKey_bumped (alt cur : QueueItem) : sameKey alt cur.bumped = sameKey alt cur := rfl

lemma bumpAttempts_distinct (item : QueueItem) (distinct : Distinct q.items) :
    Distinct (q.bumpAttempts item).items := by
  rcases q.bumpAttempts_cases item with kept | ⟨cur, hit, same, bumped⟩
  · rw [kept]
    exact distinct
  · obtain ⟨pre, after, split, matched, earlier, erased⟩ := FirstMatch.splits hit
    have mem : cur ∈ q.items := mem_of_find?_eq_some hit
    have single := distinct.atMostOne mem
    rw [bumped]
    rw [erased]
    rw [split] at distinct single
    have rest : Distinct (pre ++ after) := by
      refine distinct.sublist ?_
      exact List.Sublist.append_left (sublist_cons_self cur after) pre
    refine rest.append ?_
    intro alt left
    rw [sameKey_bumped]
    have parts := pairwise_append.mp distinct
    rcases mem_append.mp left with early | late
    · simpa using parts.2.2 alt early cur mem_cons_self
    · rw [sameKey_comm]
      simpa using (pairwise_cons.mp parts.2.1).1 alt late

lemma World.enqueueWhenAvailable_distinct (item : QueueItemInput) (distinct : Distinct w.queue.items)
    (single : AtMostOne w.queue.items (stampVersion item w.queue.nextVersion)) :
    Distinct (w.enqueueWhenAvailable item).queue.items := by
  rcases w.enqueueWhenAvailable_cases item with taken | waits
  · rw [taken]
    exact enqueue_distinct w.queue item distinct single
  · rw [waits]
    exact distinct

lemma step_distinct (act : Action) (distinct : Distinct w.queue.items) (admitted : Admitted w act) :
    Distinct (step w act).queue.items := by
  cases act with
  | load file =>
    cases file with
    | none => exact List.Pairwise.nil
    | some lines => exact load_distinct w.queue lines admitted
  | enqueue item => exact enqueue_distinct w.queue item distinct admitted
  | enqueueWhenAvailable item => exact w.enqueueWhenAvailable_distinct item distinct admitted
  | resume idx =>
    cases hit : w.waiters[idx]? with
    | none =>
      simp only [step, hit]
      exact distinct
    | some waiter =>
      have single := admitted waiter (by rw [hit]; rfl)
      by_cases waiting : waiter.registered = true
      · simp only [step, hit, waiting, if_true]
        exact distinct
      · simp only [step, hit, waiting, Bool.false_eq_true, if_false]
        exact World.enqueueWhenAvailable_distinct _ waiter.item distinct single
  | markDoneIfVersion item => exact w.markDone_distinct item distinct
  | bumpAttempts item => exact bumpAttempts_distinct w.queue item distinct
  | _ => exact distinct

abbrev StillQueued (item : QueueItem) : Prop := ∃ queued ∈ q.items, queued.identity = item.identity

def Leaves (item : QueueItem) : Prop :=
  ∃ pre queued after, q.items = pre ++ queued :: after ∧ queued.identity = item.identity ∧
    q.markDoneIfVersion item = ({ q with items := pre ++ after }, true)

lemma Distinct.leaves {q : RetryQueue} (distinct : Distinct q.items)
    (still : StillQueued q item) : Leaves q item := by
  obtain ⟨queued, mem, same⟩ := still
  have matched : sameKey queued item = true := by
    rw [sameKey_of_identity same]
    exact sameKey_refl queued
  obtain ⟨pre, after, split⟩ := append_of_mem mem
  have earlier : ∀ alt ∈ pre, sameKey alt item = false := by
    intro alt early
    rw [sameKey_of_identity same]
    rw [split] at distinct
    simpa using (pairwise_append.mp distinct).2.2 alt early queued mem_cons_self
  have hit : q.items.find? (sameKey · item) = some queued := by
    rw [split]
    exact FirstMatch.find_middle earlier matched
  have ver : queued.version = item.version := by simpa using congrArg QueueItem.version same
  have erased : q.items.eraseP (sameKey · item) = pre ++ after := by
    rw [split]
    exact FirstMatch.eraseP_middle earlier matched
  refine ⟨pre, queued, after, split, same, ?_⟩
  simp only [RetryQueue.markDoneIfVersion, hit, ver, ne_eq, not_true_eq_false, if_false, erased]

/-- Where incoming items meet at most one queued item, a key has one item and a peeked one completes. -/
theorem processed_item_leaves (maxItems : Nat) (first later : List Action)
    (admitted : Always step Admitted (World.new maxItems) (first ++ later)) :
    let earlier := run step (World.new maxItems) first
    let now := run step (World.new maxItems) (first ++ later)
    Distinct now.queue.items ∧
      ∀ eligible item, earlier.queue.peek eligible = some item → StillQueued now.queue item →
        Leaves now.queue item := by
  let unique : World → Prop := fun w => Distinct w.queue.items
  have start : unique (World.new maxItems) := List.Pairwise.nil
  have distinct : unique (run step (World.new maxItems) (first ++ later)) := admitted.invariant step_distinct start
  exact ⟨distinct, fun eligible item peeked still => distinct.leaves still⟩

namespace Sample
variable (src : String) (ver : Number)

def legacyLine : Line :=
  .object
    [("kind", .text "session_push"), ("enqueued_at", .text "t"), ("attempts", .number 0),
      ("version", .number ver), ("local_session_id", .text "chat"), ("content_hash", .text "h")]

def fencedLine : Line :=
  .object
    [("kind", .text "session_push"), ("enqueued_at", .text "t"), ("attempts", .number 0),
      ("version", .number ver), ("local_session_id", .text "chat"), ("content_hash", .text "h"),
      ("api_origin", .text "https://api"), ("environment_id", .text "env"),
      ("adapter", .text "codex"), ("source_session_key", .text src)]

def fencedInput : QueueItemInput :=
  { enqueuedAt := "t"
    attempts := 0
    operation :=
      .sessionPush none "chat" "h"
        { apiOrigin := "https://api", environmentId := "env", adapter := .codex
          sourceSessionKey := src } }

def mixedFile : List Line := [fencedLine "a" 1, fencedLine "b" 2, legacyLine 3]
def afterMixed : World := run step (World.new 500) [.load (some mixedFile)]
def second : QueueItem := stampVersion (fencedInput "b") 2
def loads : List Action := [.load (some [fencedLine "a" 1, fencedLine "b" 2])]
def edits : List Action := [.enqueue (fencedInput "a"), .bumpAttempts second]

end Sample

open Sample

theorem processed_item_leaves_second : Leaves (run step (World.new 500) (loads ++ edits)).queue second :=
  (processed_item_leaves 500 loads edits (by decide +kernel)).2
    (fun item => item = second) second (by decide +kernel) (by decide +kernel)

/-- The file leaves two rows of one key, and the second cannot be completed. -/
theorem mixed_file_not_distinct : ¬Distinct afterMixed.queue.items ∧
      afterMixed.queue.peek (fun item => item = second) = some second ∧
      (afterMixed.queue.markDoneIfVersion second).2 = false := by
  decide +kernel

end Clawdi.Serve
