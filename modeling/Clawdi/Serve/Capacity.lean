import Clawdi.Serve.KeyDiscipline
import Mathlib.Data.List.Nodup

namespace Clawdi.Serve
open Transition List Function

lemma isSkillOperation_of_sameKey {a b} (same : sameKey a b = true) : isSkillOperation a = isSkillOperation b := by
  unfold sameKey at same
  unfold isSkillOperation
  cases left : a.operation <;> cases right : b.operation <;> simp_all

namespace RetryQueue

lemma moduleDepth_eq (q : RetryQueue) (item : QueueItem) : q.moduleDepth item = q.items.countP (sameModule item) :=
  countP_eq_length_filter.symm

lemma moduleDepth_erase {q : RetryQueue} {item hit} {p : QueueItem → Bool}
    (first : q.items.find? p = some hit) : q.moduleDepth item =
      (q.items.eraseP p).countP (sameModule item) + if sameModule item hit then 1 else 0 := by
  rw [moduleDepth_eq, (FirstMatch.perm first).countP_eq, countP_cons]

lemma sameModule_of_sameKey {item existing alt} (same : sameKey existing alt = true) :
    sameModule item existing = sameModule item alt := by
  unfold sameModule
  rw [isSkillOperation_of_sameKey same]

lemma placed_depth (q : RetryQueue) (stamped item : QueueItem) :
    (q.placed stamped).moduleDepth item = q.moduleDepth item +
        if sameModule item stamped && !q.items.any (sameKey · stamped) then 1 else 0 := by
  rw [moduleDepth_eq]
  show (q.items.eraseP (sameKey · stamped) ++ [stamped]).countP (sameModule item) = _
  cases hit : q.items.find? (sameKey · stamped) with
  | none =>
    have fresh : q.items.any (sameKey · stamped) = false := by simpa using hit
    rw [FirstMatch.eraseP_of_none hit, fresh, moduleDepth_eq]
    simp
  | some existing =>
    have same : sameKey existing stamped = true := List.find?_some (p := fun queued => sameKey queued stamped) hit
    have queued : q.items.any (sameKey · stamped) = true := any_eq_true.mpr ⟨existing, mem_of_find?_eq_some hit, same⟩
    rw [moduleDepth_erase hit, sameModule_of_sameKey same, queued]
    simp

lemma evictLoop_room {q : RetryQueue} {item}
    (room : q.moduleDepth item ≤ q.maxItems) (passes : Nat) : evictLoop item passes q = (q, []) := by
  cases passes with
  | zero => rfl
  | succ passes =>
    unfold evictLoop
    rw [if_neg (Nat.not_lt.mpr room)]

lemma evictIfFull_cases {q : RetryQueue} {item} (bounded : q.moduleDepth item ≤ q.maxItems + 1) :
    (q.moduleDepth item ≤ q.maxItems ∧ q.evictIfFull item = (q, [])) ∨
    (q.moduleDepth item = q.maxItems + 1 ∧ ∃ evicted, q.items.find? (sameModule item) = some evicted ∧
        q.evictIfFull item = (recordDrop { q with items := q.items.eraseP (sameModule item) }
            (capacityReason evicted), [evicted])) := by
  by_cases room : q.moduleDepth item ≤ q.maxItems
  · left
    exact ⟨room, evictLoop_room room _⟩
  · right
    have full : q.moduleDepth item = q.maxItems + 1 := by omega
    have some_item : 0 < q.items.countP (sameModule item) := by
      rw [← moduleDepth_eq]
      omega
    obtain ⟨here, mem, ofModule⟩ := countP_pos_iff.mp some_item
    cases hit : q.items.find? (sameModule item) with
    | none =>
      have gone := List.find?_eq_none.mp hit here mem
      exact absurd ofModule gone
    | some evicted =>
      have evictedModule : sameModule item evicted = true := List.find?_some hit
      have fewer := @moduleDepth_erase _ item _ _ hit
      rw [if_pos evictedModule] at fewer
      let removed := recordDrop { q with items := q.items.eraseP (sameModule item) } (capacityReason evicted)
      have roomLeft : removed.moduleDepth item ≤ removed.maxItems := by
        rw [moduleDepth_eq]
        show (q.items.eraseP (sameModule item)).countP (sameModule item) ≤ q.maxItems
        omega
      obtain ⟨passes, length⟩ : ∃ passes, q.items.length = passes + 1 := by
        have nonempty : 0 < q.items.length := length_pos_of_mem mem
        exact ⟨q.items.length - 1, by omega⟩
      refine ⟨full, evicted, rfl, ?_⟩
      show evictLoop item q.items.length q = _
      rw [length]
      unfold evictLoop
      rw [if_pos (by omega), hit]
      show (_, _) = (_, _)
      have rest : evictLoop item passes removed = (removed, []) := evictLoop_room roomLeft passes
      simp only [removed] at rest
      simp only [rest]

end RetryQueue

/-! ## What a step moves -/

variable {α : Type}

def recent (read : History → List α) (w next : World) : List α := (read next.history).drop (read w.history).length

def retried (q : RetryQueue) : Action → Option QueueItem
  | .bumpAttempts item => (q.items.find? (sameKey · item)).filter fun cur => cur.version = item.version
  | _ => none

def leaving (w : World) (act : Action) : List QueueItem :=
  (recent History.replaced w (step w act)).map Replacement.old ++
    (recent History.completed w (step w act)).map Completion.removed ++
    (retried w.queue act).toList

def joining (w : World) (act : Action) : List QueueItem :=
  recent History.enqueued w (step w act) ++ ((retried w.queue act).map QueueItem.bumped).toList

def evictedBy (w : World) (act : Action) : List QueueItem :=
  (recent History.drops w (step w act)).filterMap Drop.item?

/-- The last time an item was enqueued or retried; the items of the file are taken to have been
enqueued in its order. -/
structure Entry where
  item : QueueItem
  touched : Nat

variable {read : History → List α} (es : List Entry) (items : List QueueItem)

def without : List Entry := items.foldl (fun kept item => kept.eraseP fun e => decide (e.item = item)) es

structure Clocked where
  world : World
  entries : List Entry
  clock : Nat

namespace Clocked

def offered (s : Clocked) (act : Action) : List Entry :=
  without s.entries (leaving s.world act) ++ (joining s.world act).map fun item => { item, touched := s.clock }

def step (s : Clocked) (act : Action) : Clocked :=
  { world := Serve.step s.world act
    entries := without (s.offered act) (evictedBy s.world act)
    clock := s.clock + 1 }

def load (maxItems : Nat) (file : Option (List Line)) : Clocked :=
  let world := Serve.step (World.new maxItems) (.load file)
  { world
    entries := world.queue.items.zipIdx.map fun place => { item := place.1, touched := place.2 }
    clock := world.queue.items.length }

end Clocked

inductive Move (w : World) (act : Action) (next : World) : Prop
  | quiet (items : next.queue.items = w.queue.items)
      (maxItems : next.queue.maxItems = w.queue.maxItems)
      (leaves : leaving w act = []) (joins : joining w act = [])
      (evicts : evictedBy w act = [])
      (waiters : ∀ waiter ∈ next.waiters, waiter ∈ w.waiters ∨
        w.queue.maxItems ≤ w.queue.moduleDepth (stampVersion waiter.item 0))
  | took (item : QueueItemInput) (q : next.queue = (w.queue.enqueue item).queue)
      (leaves : leaving w act = (w.queue.items.find? (sameKey · (stampVersion item w.queue.nextVersion))).toList)
      (joins : joining w act = [stampVersion item w.queue.nextVersion])
      (evicts : evictedBy w act = (w.queue.enqueue item).evicted)
      (waiters : ∀ waiter ∈ next.waiters, waiter ∈ w.waiters)
      (allowed : act = .enqueue item ∨ (w.queue.enqueueWhenAvailable item).isSome)
  | finished (item removed : QueueItem)
      (hit : w.queue.items.find? (sameKey · item) = some removed)
      (q : next.queue = { w.queue with items := w.queue.items.eraseP (sameKey · item) })
      (leaves : leaving w act = [removed]) (joins : joining w act = [])
      (evicts : evictedBy w act = [])
      (waiters : ∀ waiter ∈ next.waiters, waiter.registered = false)
  | moved (item cur : QueueItem)
      (hit : w.queue.items.find? (sameKey · item) = some cur)
      (q : next.queue = { w.queue with items := w.queue.items.eraseP (sameKey · item) ++ [cur.bumped] })
      (leaves : leaving w act = [cur]) (joins : joining w act = [cur.bumped])
      (evicts : evictedBy w act = [])
      (waiters : next.waiters = w.waiters)

variable {next w : World}

@[simp] lemma recent_same (same : read next.history = read w.history) : recent read w next = [] := by
  unfold recent
  rw [same]
  exact drop_length

@[simp] lemma recent_append {more} (grown : read next.history = read w.history ++ more) :
    recent read w next = more := by
  unfold recent
  rw [grown]
  exact drop_left

lemma filterMap_evicted (evicted : List QueueItem) : (evicted.map Drop.evicted).filterMap Drop.item? = evicted := by
  rw [filterMap_map]
  exact filterMap_some

lemma evictedBy_quiet {act} (same : (Serve.step w act).history.drops = w.history.drops) : evictedBy w act = [] := by
  unfold evictedBy
  rw [recent_same same]
  rfl

lemma Move.of_enqueue {act item} (same : Serve.step w act = next) (quiet : retried w.queue act = none)
    (q : next.queue = (w.queue.enqueue item).queue)
    (history : next.history = w.history.enqueue w.queue (w.queue.enqueue item))
    (waiters : ∀ waiter ∈ next.waiters, waiter ∈ w.waiters)
    (allowed : act = .enqueue item ∨ (w.queue.enqueueWhenAvailable item).isSome) : Move w act next := by
  have replaced : recent History.replaced w next = _ := recent_append (by rw [history]; rfl)
  have completed : recent History.completed w next = [] := recent_same (by rw [history]; rfl)
  have enqueued : recent History.enqueued w next = _ := recent_append (by rw [history]; rfl)
  have drops : recent History.drops w next = _ := recent_append (by rw [history]; rfl)
  apply Move.took item q
  · unfold leaving
    rw [same, replaced, completed, quiet]
    simp [comp_def]
  · unfold joining
    rw [same, enqueued, quiet]
    simp
  · unfold evictedBy
    rw [same, drops, filterMap_evicted]
  · exact waiters
  · exact allowed

lemma RetryQueue.full_of_waits {q : RetryQueue} {item}
    (waits : q.enqueueWhenAvailable item = none) : q.maxItems ≤ q.moduleDepth (stampVersion item 0) := by
  unfold RetryQueue.enqueueWhenAvailable at waits
  simp only [ite_eq_right_iff, reduceCtorEq, imp_false, Bool.or_eq_true, decide_eq_true_eq, not_or, not_lt] at waits
  exact waits.2

lemma Move.of_whenAvailable {act} (item : QueueItemInput) (waiters : List Waiter)
    (quiet : retried w.queue act = none)
    (same : Serve.step w act = World.enqueueWhenAvailable { w with waiters } item)
    (fewer : ∀ waiter ∈ waiters, waiter ∈ w.waiters) : Move w act (Serve.step w act) := by
  cases turn : w.queue.enqueueWhenAvailable item with
  | some res =>
    have taken : res = w.queue.enqueue item := by
      unfold RetryQueue.enqueueWhenAvailable at turn
      by_cases room : (w.queue.items.any (sameKey · (stampVersion item w.queue.nextVersion)) ||
          decide (w.queue.moduleDepth (stampVersion item w.queue.nextVersion) < w.queue.maxItems)) = true
      · simpa [room] using turn.symm
      · simp [room] at turn
    subst taken
    rw [World.enqueueWhenAvailable, turn] at same
    rw [same]
    exact Move.of_enqueue same quiet rfl rfl fewer (.inr (by rw [turn]; rfl))
  | none =>
    have waits : Serve.step w act =
        { w with waiters := waiters ++ [{ item, registered := true }] } := by
      rw [same, World.enqueueWhenAvailable, turn]
    apply Move.quiet
    · rw [waits]
    · rw [waits]
    · unfold leaving
      rw [quiet, recent_same (by rw [waits]), recent_same (by rw [waits])]
      rfl
    · unfold joining
      rw [quiet, recent_same (by rw [waits])]
      rfl
    · exact evictedBy_quiet (by rw [waits])
    · intro waiter mem
      rw [waits] at mem
      rcases mem_append.mp mem with old | new
      · left
        exact fewer waiter old
      · right
        rw [mem_singleton.mp new]
        exact RetryQueue.full_of_waits turn

lemma Move.of_same {act} (items : (Serve.step w act).queue.items = w.queue.items)
    (maxItems : (Serve.step w act).queue.maxItems = w.queue.maxItems) (quiet : retried w.queue act = none)
    (enqueued : (Serve.step w act).history.enqueued = w.history.enqueued)
    (replaced : (Serve.step w act).history.replaced = w.history.replaced)
    (completed : (Serve.step w act).history.completed = w.history.completed) (drops : evictedBy w act = [])
    (waiters : ∀ waiter ∈ (Serve.step w act).waiters, waiter ∈ w.waiters) : Move w act (Serve.step w act) := by
  apply Move.quiet items maxItems
  · unfold leaving
    rw [quiet, recent_same replaced, recent_same completed]
    rfl
  · unfold joining
    rw [quiet, recent_same enqueued]
    rfl
  · exact drops
  · intro waiter mem
    left
    exact waiters waiter mem

lemma Move.of_unchanged {act} (quiet : retried w.queue act = none)
    (same : Serve.step w act = w) : Move w act (Serve.step w act) := by
  apply Move.of_same <;> try rw [same]
  · exact quiet
  · exact evictedBy_quiet (by rw [same])
  · intro waiter mem
    exact mem

lemma Move.of_markDone (w : World) (item : QueueItem) :
    Move w (.markDoneIfVersion item) (Serve.step w (.markDoneIfVersion item)) := by
  rcases World.markDone_cases w item with same | ⟨removed, hit, -, done⟩
  · exact Move.of_unchanged rfl same
  · have same : Serve.step w (.markDoneIfVersion item) = _ := done
    have completed : recent History.completed w (Serve.step w (.markDoneIfVersion item)) =
        [{ removed, call := item }] := recent_append (by rw [same])
    apply Move.finished item removed hit
    · rw [same]
    · unfold leaving
      rw [completed, recent_same (by rw [same])]
      rfl
    · unfold joining
      rw [recent_same (by rw [same])]
      rfl
    · exact evictedBy_quiet (by rw [same])
    · intro waiter mem
      rw [same] at mem
      obtain ⟨old, -, rfl⟩ := mem_map.mp mem
      rfl

lemma Move.of_bump (w : World) (item : QueueItem) :
    Move w (.bumpAttempts item) (Serve.step w (.bumpAttempts item)) := by
  cases hit : w.queue.items.find? (sameKey · item) with
  | none =>
    have unmoved : retried w.queue (.bumpAttempts item) = none := by simp [retried, hit]
    exact Move.of_unchanged unmoved (by simp [Serve.step, RetryQueue.bumpAttempts, hit])
  | some cur =>
    by_cases ver : cur.version = item.version
    · have moves : retried w.queue (.bumpAttempts item) = some cur := by
        simp [retried, hit, ver]
      have same : Serve.step w (.bumpAttempts item) = { w with queue := w.queue.bumpAttempts item } := rfl
      apply Move.moved item cur hit
      · simp [same, RetryQueue.bumpAttempts, hit, ver]
      · unfold leaving
        rw [moves, recent_same (by rw [same]), recent_same (by rw [same])]
        rfl
      · unfold joining
        rw [moves, recent_same (by rw [same])]
        rfl
      · exact evictedBy_quiet (by rw [same])
      · rfl
    · have unmoved : retried w.queue (.bumpAttempts item) = none := by simp [retried, hit, ver]
      exact Move.of_unchanged unmoved (by simp [Serve.step, RetryQueue.bumpAttempts, hit, ver])

lemma step_moves (w : World) {act} (later : ∀ file, act ≠ .load file) : Move w act (Serve.step w act) := by
  cases act with
  | load file => exact absurd rfl (later file)
  | enqueue item => exact Move.of_enqueue rfl rfl rfl rfl (fun waiter mem => mem) (.inl rfl)
  | enqueueWhenAvailable item => exact Move.of_whenAvailable item w.waiters rfl rfl fun waiter mem => mem
  | resume idx =>
    cases hit : w.waiters[idx]? with
    | none => exact Move.of_unchanged rfl (by simp [Serve.step, hit])
    | some waiter =>
      by_cases reg : waiter.registered = true
      · exact Move.of_unchanged rfl (by simp [Serve.step, hit, reg])
      · exact Move.of_whenAvailable waiter.item (w.waiters.eraseIdx idx) rfl (by simp [Serve.step, hit, reg])
          fun alt mem => mem_of_mem_eraseIdx mem
  | abort idx =>
    exact Move.of_same rfl rfl rfl rfl rfl rfl (evictedBy_quiet rfl) fun waiter mem => mem_of_mem_eraseIdx mem
  | markDoneIfVersion item => exact Move.of_markDone w item
  | bumpAttempts item => exact Move.of_bump w item
  | drainDroppedDelta | restoreDroppedDelta =>
    exact Move.of_same rfl rfl rfl rfl rfl rfl (evictedBy_quiet rfl) fun waiter mem => mem
  | recordPermanentDrop reason =>
    have drops : recent History.drops w (Serve.step w (.recordPermanentDrop reason)) =
        [.permanent reason.reason] := recent_append rfl
    exact Move.of_same rfl rfl rfl rfl rfl rfl (by unfold evictedBy; rw [drops]; rfl) fun waiter mem => mem

/-! ## What every step keeps -/

lemma without_sublist : (without es items).Sublist es := by
  induction items generalizing es with
  | nil => exact List.Sublist.refl es
  | cons item items ih => exact (ih _).trans eraseP_sublist

lemma without_first {es : List Entry} {items} {p : QueueItem → Bool}
    {hit} (timed : es.map Entry.item = items) (first : items.find? p = some hit) :
    (without es [hit]).map Entry.item = items.eraseP p := by
  rw [FirstMatch.eraseP_eq first, ← timed, eraseP_map]
  rfl

lemma without_toList {es : List Entry} {items} (p : QueueItem → Bool) (timed : es.map Entry.item = items) :
    (without es (items.find? p).toList).map Entry.item = items.eraseP p := by
  cases first : items.find? p with
  | none =>
    rw [FirstMatch.eraseP_of_none first]
    exact timed
  | some hit => exact without_first timed first

namespace RetryQueue
variable {q : RetryQueue} {item : QueueItemInput}

lemma enqueue_cases (bounded : ∀ alt, q.moduleDepth alt ≤ q.maxItems)
    (item : QueueItemInput) : ((q.placed (stampVersion item q.nextVersion)).moduleDepth
        (stampVersion item q.nextVersion) ≤ q.maxItems ∧
      (q.enqueue item).queue = q.placed (stampVersion item q.nextVersion) ∧
      (q.enqueue item).evicted = []) ∨ ((q.placed (stampVersion item q.nextVersion)).moduleDepth
        (stampVersion item q.nextVersion) = q.maxItems + 1 ∧
      ∃ evicted, (q.placed (stampVersion item q.nextVersion)).items.find?
          (sameModule (stampVersion item q.nextVersion)) = some evicted ∧
        (q.enqueue item).queue.items = (q.placed (stampVersion item q.nextVersion)).items.eraseP
            (sameModule (stampVersion item q.nextVersion)) ∧
        (q.enqueue item).queue.maxItems = q.maxItems ∧ (q.enqueue item).evicted = [evicted]) := by
  let stamped := stampVersion item q.nextVersion
  have oneOver : (q.placed stamped).moduleDepth stamped ≤
      (q.placed stamped).maxItems + 1 := by
    rw [placed_depth]
    have within := bounded stamped
    show _ ≤ q.maxItems + 1
    split <;> omega
  have whole : ((q.enqueue item).queue, (q.enqueue item).evicted) = (q.placed stamped).evictIfFull stamped := rfl
  rcases evictIfFull_cases oneOver with ⟨room, kept⟩ | ⟨full, evicted, hit, removed⟩
  · left
    rw [kept] at whole
    exact ⟨room, congrArg Prod.fst whole, congrArg Prod.snd whole⟩
  · right
    rw [removed] at whole
    refine ⟨full, evicted, hit, ?_, ?_, congrArg Prod.snd whole⟩
    · exact congrArg (fun res => res.1.items) whole
    · exact congrArg (fun res => res.1.maxItems) whole

lemma enqueue_maxItems (bounded : ∀ alt, q.moduleDepth alt ≤ q.maxItems)
    (item : QueueItemInput) : (q.enqueue item).queue.maxItems = q.maxItems := by
  rcases enqueue_cases bounded item with ⟨-, same, -⟩ | ⟨-, evicted, -, -, maxItems, -⟩
  · rw [same]
    rfl
  · exact maxItems

lemma sameModule_eq {a b} (same : sameModule a b = true) : sameModule a = sameModule b := by
  have kinds : isSkillOperation b = isSkillOperation a := by simpa [sameModule] using same
  funext alt
  unfold sameModule
  rw [kinds]

lemma enqueue_depth (bounded : ∀ alt, q.moduleDepth alt ≤ q.maxItems)
    (item : QueueItemInput) (alt : QueueItem) : (q.enqueue item).queue.moduleDepth alt ≤ q.maxItems ∧
      q.moduleDepth alt ≤ (q.enqueue item).queue.moduleDepth alt := by
  let stamped := stampVersion item q.nextVersion
  have pre := bounded alt
  have grown := placed_depth q stamped alt
  rcases enqueue_cases bounded item with ⟨room, same, -⟩ | ⟨full, evicted, hit, same, -, -⟩
  · rw [same]
    by_cases own : sameModule alt stamped = true
    · have depth : (q.placed stamped).moduleDepth alt =
          (q.placed stamped).moduleDepth stamped := by
        rw [moduleDepth_eq, moduleDepth_eq, sameModule_eq own]
      constructor
      · rw [depth]
        exact room
      · rw [grown]
        omega
    · rw [grown]
      simp only [own, Bool.false_and, Bool.false_eq_true, if_false]
      omega
  · have after : (q.enqueue item).queue.moduleDepth alt +
        (if sameModule alt evicted then 1 else 0) = (q.placed stamped).moduleDepth alt := by
      rw [moduleDepth_erase hit, moduleDepth_eq, same]
    have ofModule : sameModule stamped evicted = true := List.find?_some hit
    by_cases own : sameModule alt stamped = true
    · have depth : (q.placed stamped).moduleDepth alt = q.maxItems + 1 := by
        rw [← full, moduleDepth_eq, moduleDepth_eq, sameModule_eq own]
      have sameEvicted : sameModule alt evicted = true := by
        rw [sameModule_eq own]
        exact ofModule
      rw [if_pos sameEvicted, depth] at after
      omega
    · have otherEvicted : sameModule alt evicted = false := by
        cases matched : sameModule alt evicted with
        | false => rfl
        | true =>
          have through := sameModule_eq ofModule
          rw [sameModule_eq matched, ← through] at own
          exact absurd (by simp [sameModule]) own
      simp only [otherEvicted, Bool.false_eq_true, if_false] at after
      simp only [own, Bool.false_and, Bool.false_eq_true, if_false] at grown
      omega

end RetryQueue

structure Kept (maxItems : Nat) (s : Clocked) : Prop where
  capacity : s.world.queue.maxItems = maxItems
  timed : s.entries.map Entry.item = s.world.queue.items
  ordered : s.entries.Pairwise fun first snd => first.touched < snd.touched
  past : ∀ e ∈ s.entries, e.touched < s.clock
  bounded : ∀ item, s.world.queue.moduleDepth item ≤ maxItems
  awake : ∀ waiter ∈ s.world.waiters, waiter.registered = true →
    maxItems ≤ s.world.queue.moduleDepth (stampVersion waiter.item 0)

structure WithinCapacity (maxItems : Nat) (s : Clocked) (act : Action) : Prop where
  bounded : ∀ item, (s.step act).world.queue.moduleDepth item ≤ maxItems
  ofModule : ∀ item, act = .enqueue item → ∀ evicted ∈ evictedBy s.world act,
    isSkillOperation evicted = isSkillOperation (stampVersion item s.world.queue.nextVersion)
  onlyEnqueue : (∀ item, act ≠ .enqueue item) → evictedBy s.world act = []
  oldest : ∀ evicted ∈ evictedBy s.world act, ∃ e ∈ s.offered act, e.item = evicted ∧ ∀ alt ∈ s.offered act,
      isSkillOperation alt.item = isSkillOperation evicted → e.touched ≤ alt.touched
  awake : ∀ waiter ∈ (s.step act).world.waiters, waiter.registered = true →
    maxItems ≤ (s.step act).world.queue.moduleDepth (stampVersion waiter.item (s.step act).world.queue.nextVersion)
  timed : (s.step act).entries.map Entry.item = (s.step act).world.queue.items

def OneAtMost : Prop := items = [] ∨ ∃ item, items = [item]

lemma Move.joins_one {act} (move : Move w act next) : OneAtMost (joining w act) := by
  cases move with
  | quiet _ _ _ joins | finished _ _ _ _ _ joins => exact .inl joins
  | took _ _ _ joins | moved _ _ _ _ _ joins => exact .inr ⟨_, joins⟩

namespace Kept
variable {maxItems : Nat} {s : Clocked} {act : Action}
section
variable (kept : Kept maxItems s)
include kept

lemma offered_ordered (one : OneAtMost (joining s.world act)) :
    (s.offered act).Pairwise fun first snd => first.touched < snd.touched := by
  have remaining : (without s.entries (leaving s.world act)).Pairwise _ := kept.ordered.sublist (without_sublist _ _)
  have joined : ((joining s.world act).map fun item =>
      ({ item, touched := s.clock } : Entry)).Pairwise
      fun first snd => first.touched < snd.touched := by
    rcases one with none | ⟨item, only⟩
    · rw [none]
      exact List.Pairwise.nil
    · rw [only]
      exact pairwise_singleton _ _
  apply pairwise_append.mpr
  refine ⟨remaining, joined, ?_⟩
  intro old mem new joined
  obtain ⟨item, -, rfl⟩ := mem_map.mp joined
  exact kept.past old ((without_sublist _ _).mem mem)

lemma offered_past : ∀ e ∈ s.offered act, e.touched < s.clock + 1 := by
  intro e mem
  rcases mem_append.mp mem with old | new
  · have earlier := kept.past e ((without_sublist _ _).mem old)
    omega
  · obtain ⟨item, -, rfl⟩ := mem_map.mp new
    exact Nat.lt_succ_self s.clock

lemma offered_items {p : QueueItem → Bool} (leaves : leaving s.world act = (s.world.queue.items.find? p).toList) :
    (s.offered act).map Entry.item = s.world.queue.items.eraseP p ++ joining s.world act := by
  unfold Clocked.offered
  rw [map_append, leaves, without_toList p kept.timed, map_map]
  simp [comp_def]

lemma bounded_queue (alt : QueueItem) : s.world.queue.moduleDepth alt ≤ s.world.queue.maxItems := by
  rw [kept.capacity]
  exact kept.bounded alt

lemma of_step (one : OneAtMost (joining s.world act))
    (capacity : (Serve.step s.world act).queue.maxItems = s.world.queue.maxItems)
    (timed : (s.step act).entries.map Entry.item = (Serve.step s.world act).queue.items)
    (bounded : ∀ item, (Serve.step s.world act).queue.moduleDepth item ≤ maxItems)
    (awake : ∀ waiter ∈ (Serve.step s.world act).waiters, waiter.registered = true →
      maxItems ≤ (Serve.step s.world act).queue.moduleDepth (stampVersion waiter.item 0)) :
    Kept maxItems (s.step act) where
  capacity := capacity.trans kept.capacity
  timed := timed
  ordered := (kept.offered_ordered one).sublist (without_sublist _ _)
  past := by
    intro e mem
    exact kept.offered_past e ((without_sublist _ _).mem mem)
  bounded := bounded
  awake := awake

lemma offered_stays (leaves : leaving s.world act = []) :
    (s.offered act).map Entry.item = s.world.queue.items ++ joining s.world act := by
  unfold Clocked.offered
  rw [leaves, map_append, map_map]
  show s.entries.map Entry.item ++ _ = _
  rw [kept.timed]
  simp [comp_def]

end

variable {items : List QueueItem}

lemma timed_of_none (evicts : evictedBy s.world act = []) (offered : (s.offered act).map Entry.item = items) :
    (s.step act).entries.map Entry.item = items := by
  show (without (s.offered act) (evictedBy s.world act)).map Entry.item = items
  rw [evicts]
  exact offered

lemma step (kept : Kept maxItems s) (move : Move s.world act (Serve.step s.world act)) :
    Kept maxItems (s.step act) := by
  have one := move.joins_one
  cases move with
  | quiet items capacity leaves joins evicts waiters =>
    have depth : ∀ item, (Serve.step s.world act).queue.moduleDepth item =
        s.world.queue.moduleDepth item := by
      intro item
      rw [RetryQueue.moduleDepth_eq, RetryQueue.moduleDepth_eq, items]
    apply kept.of_step one capacity
    · apply timed_of_none evicts
      rw [kept.offered_stays leaves, joins, append_nil, items]
    · intro item
      rw [depth]
      exact kept.bounded item
    · intro waiter mem reg
      rw [depth]
      rcases waiters waiter mem with old | full
      · exact kept.awake waiter old reg
      · rw [kept.capacity] at full
        exact full
  | took item q leaves joins evicts waiters allowed =>
    have bounded := kept.bounded_queue
    let stamped := stampVersion item s.world.queue.nextVersion
    have offered : (s.offered act).map Entry.item = (s.world.queue.placed stamped).items := by
      rw [kept.offered_items leaves, joins]
      rfl
    apply kept.of_step one
    · rw [q]
      exact RetryQueue.enqueue_maxItems bounded item
    · rw [q]
      rcases RetryQueue.enqueue_cases bounded item with
        ⟨-, same, none⟩ | ⟨-, evicted, hit, same, -, one⟩
      · rw [same]
        exact timed_of_none (evicts.trans none) offered
      · rw [same]
        show (without (s.offered act) (evictedBy s.world act)).map Entry.item = _
        rw [evicts, one]
        exact without_first offered hit
    · intro alt
      rw [q, ← kept.capacity]
      exact (RetryQueue.enqueue_depth bounded item alt).1
    · intro waiter mem reg
      have full := kept.awake waiter (waiters waiter mem) reg
      rw [q]
      exact full.trans (RetryQueue.enqueue_depth bounded item _).2
  | finished item removed hit q leaves joins evicts waiters =>
    have fewer : ∀ alt, (Serve.step s.world act).queue.moduleDepth alt ≤
        s.world.queue.moduleDepth alt := by
      intro alt
      rw [RetryQueue.moduleDepth_erase hit, RetryQueue.moduleDepth_eq, q]
      exact Nat.le_add_right _ _
    apply kept.of_step one
    · rw [q]
    · apply timed_of_none evicts
      rw [kept.offered_items (by rw [leaves, hit]; rfl), joins, append_nil, q]
    · intro alt
      exact (fewer alt).trans (kept.bounded alt)
    · intro waiter mem reg
      rw [waiters waiter mem] at reg
      cases reg
  | moved item cur hit q leaves joins evicts waiters =>
    have depth : ∀ alt, (Serve.step s.world act).queue.moduleDepth alt =
        s.world.queue.moduleDepth alt := by
      intro alt
      rw [RetryQueue.moduleDepth_erase hit, RetryQueue.moduleDepth_eq, q, countP_append, countP_singleton]
      rfl
    apply kept.of_step one
    · rw [q]
    · apply timed_of_none evicts
      rw [kept.offered_items (by rw [leaves, hit]; rfl), joins, q]
    · intro alt
      rw [depth]
      exact kept.bounded alt
    · intro waiter mem reg
      rw [waiters] at mem
      rw [depth]
      exact kept.awake waiter mem reg

lemma evicts_none (kept : Kept maxItems s) {item}
    (room : (s.world.queue.enqueueWhenAvailable item).isSome) : (s.world.queue.enqueue item).evicted = [] := by
  rcases RetryQueue.enqueue_cases kept.bounded_queue item with ⟨-, -, none⟩ | ⟨full, -⟩
  · exact none
  · rw [RetryQueue.placed_depth] at full
    have within := kept.bounded_queue (stampVersion item s.world.queue.nextVersion)
    have own : RetryQueue.sameModule (stampVersion item s.world.queue.nextVersion)
        (stampVersion item s.world.queue.nextVersion) = true := by
      simp [RetryQueue.sameModule]
    unfold RetryQueue.enqueueWhenAvailable at room
    cases queued : s.world.queue.items.any
        (sameKey · (stampVersion item s.world.queue.nextVersion)) with
    | true =>
      simp only [own, queued, Bool.not_true, Bool.and_false, Bool.false_eq_true, if_false] at full
      omega
    | false =>
      simp only [queued, Bool.false_or, decide_eq_true_eq] at room
      split at room
      · simp only [own, queued, Bool.not_false, Bool.and_true, if_true] at full
        omega
      · cases room

lemma oldest (kept : Kept maxItems s) (one : OneAtMost (joining s.world act))
    {stamped evicted} (offered : (s.offered act).map Entry.item = items)
    (hit : items.find? (RetryQueue.sameModule stamped) = some evicted) :
    ∃ e ∈ s.offered act, e.item = evicted ∧ ∀ alt ∈ s.offered act,
      isSkillOperation alt.item = isSkillOperation evicted → e.touched ≤ alt.touched := by
  rw [← offered, List.find?_map] at hit
  obtain ⟨e, first, rfl⟩ := Option.map_eq_some_iff.mp hit
  have ofModule : RetryQueue.sameModule stamped e.item = true :=
    List.find?_some (p := RetryQueue.sameModule stamped ∘ Entry.item) first
  refine ⟨e, mem_of_find?_eq_some first, rfl, ?_⟩
  intro alt mem kind
  have matched : (RetryQueue.sameModule stamped ∘ Entry.item) alt = true := by
    simpa [RetryQueue.sameModule, kind] using ofModule
  rcases FirstMatch.first_least (kept.offered_ordered one) first mem matched with same | later
  · rw [same]
  · exact Nat.le_of_lt later

lemma promises (kept : Kept maxItems s) (later : ∀ file, act ≠ .load file) : WithinCapacity maxItems s act := by
  have move := step_moves s.world later
  have next : Kept maxItems (s.step act) := kept.step move
  have one := move.joins_one
  have none_evicted : evictedBy s.world act = [] → WithinCapacity maxItems s act := by
    intro none
    exact
      { bounded := next.bounded
        ofModule := by simp [none]
        onlyEnqueue := fun _ => none
        oldest := by simp [none]
        awake := next.awake
        timed := next.timed }
  cases move with
  | quiet _ _ _ _ evicts | finished _ _ _ _ _ _ evicts | moved _ _ _ _ _ _ evicts => exact none_evicted evicts
  | took item q leaves joins evicts waiters allowed =>
    rcases RetryQueue.enqueue_cases kept.bounded_queue item with
      ⟨-, -, none⟩ | ⟨-, evicted, hit, -, -, only⟩
    · exact none_evicted (evicts.trans none)
    · have only : evictedBy s.world act = [evicted] := evicts.trans only
      have direct : act = .enqueue item := by
        rcases allowed with direct | room
        · exact direct
        · rw [evicts, kept.evicts_none room] at only
          cases only
      have offered : (s.offered act).map Entry.item =
          (s.world.queue.placed (stampVersion item s.world.queue.nextVersion)).items := by
        rw [kept.offered_items leaves, joins]
        rfl
      have ofModule : RetryQueue.sameModule (stampVersion item s.world.queue.nextVersion) evicted :=
        List.find?_some hit
      refine
        { bounded := next.bounded
          ofModule := ?_
          onlyEnqueue := fun alt => absurd direct (alt item)
          oldest := ?_
          awake := next.awake
          timed := next.timed }
      · intro asked same removed mem
        rw [direct] at same
        cases same
        rw [only, mem_singleton] at mem
        rw [mem]
        simpa [RetryQueue.sameModule] using ofModule
      · intro removed mem
        rw [only, mem_singleton] at mem
        rw [mem]
        exact kept.oldest one offered hit

lemma load (maxItems : Nat) (file : Option (List Line))
    (bounded : ∀ item, (Clocked.load maxItems file).world.queue.moduleDepth item ≤ maxItems) :
    Kept maxItems (Clocked.load maxItems file) where
  capacity := by
    cases file with
    | none => rfl
    | some lines =>
      have keeps : ∀ (lines : List Line) (q : RetryQueue),
          (lines.foldl RetryQueue.loadLine q).maxItems = q.maxItems := by
        intro lines
        induction lines with
        | nil => exact fun q => rfl
        | cons line lines ih =>
          intro q
          rw [foldl_cons, ih]
          unfold RetryQueue.loadLine
          cases isQueueItem line <;> rfl
      exact keeps lines _
  timed := by
    show (List.map _ (List.zipIdx _)).map Entry.item = _
    rw [map_map]
    exact zipIdx_map_fst 0 _
  ordered := by
    apply List.Pairwise.map
    · intro first snd pre
      exact pre
    · have times : (List.range' 0 (Clocked.load maxItems file).world.queue.items.length).Pairwise
          (· < ·) := pairwise_lt_range' 1
      rw [← zipIdx_map_snd 0] at times
      exact pairwise_map.mp times
  past := by
    intro e mem
    obtain ⟨place, placed, rfl⟩ := mem_map.mp mem
    exact snd_lt_of_mem_zipIdx placed
  bounded := bounded
  awake := by simp [Clocked.load, Serve.step, World.new]

end Kept

/-- No module ever holds more than the bound, an enqueue evicts the oldest item of its own module, and
no waiter sleeps while its module has room. -/
theorem capacity_kept (maxItems : Nat) (file : Option (List Line)) (acts : List Action)
    (bounded : ∀ item, (Clocked.load maxItems file).world.queue.moduleDepth item ≤ maxItems)
    (later : ∀ act ∈ acts, ∀ file, act ≠ .load file) :
    Always Clocked.step (WithinCapacity maxItems) (Clocked.load maxItems file) acts := by
  have allowed : Always Clocked.step (fun _ act => ∀ file, act ≠ .load file)
      (Clocked.load maxItems file) acts :=
    Always.of_mem (fun act mem _ => later act mem) _
  have keeps : ∀ s act, Kept maxItems s → (∀ file, act ≠ .load file) →
      Kept maxItems (s.step act) := by
    intro s act kept later
    exact kept.step (step_moves s.world later)
  have concludes : ∀ s act, Kept maxItems s → (∀ file, act ≠ .load file) →
      WithinCapacity maxItems s act := by
    intro s act kept later
    exact kept.promises later
  exact Always.strengthen keeps concludes (Kept.load maxItems file bounded) allowed

namespace Sample

def skillInput (key : String) : QueueItemInput :=
  { enqueuedAt := "t", attempts := 0, operation := .skillPush key "agent" "project" "hash" }

def crowded : List Action :=
  [.enqueue (skillInput "a"), .enqueueWhenAvailable (skillInput "b"),
    .bumpAttempts (stampVersion (skillInput "a") 2), .enqueue (skillInput "c"), .abort 0]

end Sample

theorem capacity_kept_crowded :
    Always Clocked.step (WithinCapacity 1) (Clocked.load 1 (some [Sample.fencedLine "x" 1])) Sample.crowded := by
  apply capacity_kept
  · intro item
    exact (length_filter_le _ _).trans (by decide +kernel)
  · intro act mem file same
    rw [same] at mem
    simp [Sample.crowded] at mem

end Clawdi.Serve
