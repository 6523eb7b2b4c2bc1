import Clawdi.Lib.Table
import Clawdi.Lib.Transition
import Mathlib.Logic.Function.Basic

namespace Clawdi.RateLimits.Shared
open Transition (run Always)

/-- The bounds of a namespace; times are microseconds. -/
structure Limits where
  limit : ℕ
  window : ℤ
  maxBuckets : ℕ
  positive : 0 < limit ∧ 0 < window ∧ 0 < maxBuckets

structure SharedRateLimitBucket (η : Type) where
  keyHash : η
  attempts : List ℤ
  expiresAt : ℤ

structure Answer (κ : Type) where
  key : κ
  current : ℤ
  retryAfterSeconds : Option ℤ

/-- `creating` is the call that holds the lock of bucket creation; `dropped` remembers the attempts
that were trimmed or pruned. -/
structure World (κ η : Type) where
  buckets : Table (SharedRateLimitBucket.keyHash (η := η))
  creating : Option (κ × ℤ)
  answers : List (Answer κ)
  dropped : η → List ℤ

/-- A call that finds its bucket, and the statements of one that does not. -/
inductive Action (κ η : Type) where
  | consume (key : κ) (cur : ℤ)
  | enter (key : κ) (cur : ℤ)
  | prune (keyHash : η)
  | create

variable {κ η : Type} [DecidableEq η] (limits : Limits) (hash : κ → η)

def ceilSeconds (microseconds : ℤ) : ℤ := -(-microseconds / 1000000)
def recent (cur : ℤ) (attempts : List ℤ) : List ℤ := attempts.filter (cur - limits.window < ·)

def attempt (bucket : SharedRateLimitBucket η) (cur : ℤ) : SharedRateLimitBucket η × Option ℤ :=
  let attempts := recent limits cur bucket.attempts
  if limits.limit ≤ attempts.length then
    ({ bucket with attempts, expiresAt := attempts.getLastD cur + limits.window },
      some (max 1 (ceilSeconds (attempts.headD cur + limits.window - cur))))
  else ({ bucket with attempts := attempts ++ [cur], expiresAt := cur + limits.window }, none)

namespace World

def new : World κ η := ⟨.empty, none, [], fun _ => []⟩

variable (w : World κ η)

def settle (key : κ) (cur : ℤ) (bucket : SharedRateLimitBucket η) : World κ η :=
  let trimmed := bucket.attempts.filter fun attempt => !(cur - limits.window < attempt)
  { w with
    buckets := w.buckets.put (attempt limits bucket cur).1
    answers := ⟨key, cur, (attempt limits bucket cur).2⟩ :: w.answers
    dropped := Function.update w.dropped bucket.keyHash (trimmed ++ w.dropped bucket.keyHash) }

def step : Action κ η → World κ η
  | .consume key cur =>
    match w.buckets.get (hash key) with
    | none => w
    | some bucket => w.settle limits key cur bucket
  | .enter key cur =>
    match w.creating, w.buckets.get (hash key) with
    | none, none => { w with creating := some (key, cur) }
    | _, _ => w
  | .prune keyHash =>
    match w.creating, w.buckets.get keyHash with
    | some (_, cur), some bucket =>
      if bucket.expiresAt ≤ cur then
        { w with
          buckets := w.buckets.remove (·.keyHash = keyHash)
          dropped := Function.update w.dropped keyHash (bucket.attempts ++ w.dropped keyHash) }
      else w
    | _, _ => w
  | .create =>
    match w.creating with
    | none => w
    | some (key, cur) =>
      if limits.maxBuckets ≤ w.buckets.rows.length then
        { w with
          creating := none
          answers := ⟨key, cur, some (ceilSeconds limits.window)⟩ :: w.answers }
      else { w.settle limits key cur ⟨hash key, [], cur + limits.window⟩ with creating := none }

variable (keyHash : η)

def attempts : List ℤ := ((w.buckets.get keyHash).map SharedRateLimitBucket.attempts).getD []

def Untrimmed (key : κ) (cur : ℤ) : Prop :=
  (recent limits cur (w.attempts (hash key))).length < limits.limit →
    ∀ attempt ∈ w.dropped (hash key), attempt ≤ cur - limits.window ∨ cur + limits.window ≤ attempt

def Undisturbed : Action κ η → Prop
  | .consume key cur => w.Untrimmed limits hash key cur
  | .create => ∀ call ∈ w.creating, w.Untrimmed limits hash call.1 call.2
  | _ => True

def within (start : ℤ) (cur : ℤ) : Bool := start ≤ cur ∧ cur < start + limits.window

def admitted (p : ℤ → Bool) : ℕ :=
  w.answers.countP fun ans => ans.retryAfterSeconds.isNone && hash ans.key = keyHash && p ans.current

structure Sound : Prop where
  bound : w.buckets.rows.length ≤ limits.maxBuckets
  free : ∀ call ∈ w.creating, w.buckets.get (hash call.1) = none
  kept : ∀ keyHash p, w.admitted hash keyHash p = (w.attempts keyHash).countP p + (w.dropped keyHash).countP p

variable {limits : Limits} {hash : κ → η} {w : World κ η} {key : κ} {cur : ℤ} {bucket : SharedRateLimitBucket η}

omit [DecidableEq η] in
lemma attempt_cases (limits : Limits) (bucket : SharedRateLimitBucket η) (cur : ℤ) :
    (attempt limits bucket cur).1.keyHash = bucket.keyHash ∧
      ((limits.limit ≤ (recent limits cur bucket.attempts).length ∧
          (attempt limits bucket cur).1.attempts = recent limits cur bucket.attempts ∧
          (attempt limits bucket cur).2.isNone = false) ∨ ((recent limits cur bucket.attempts).length < limits.limit ∧
          (attempt limits bucket cur).1.attempts = recent limits cur bucket.attempts ++ [cur] ∧
          (attempt limits bucket cur).2.isNone = true)) := by
  by_cases full : limits.limit ≤ (recent limits cur bucket.attempts).length
  · simp [attempt, full]
  · simp [attempt, full, not_le.mp full]

lemma attempts_settle : (w.settle limits key cur bucket).attempts keyHash =
    if keyHash = bucket.keyHash then (attempt limits bucket cur).1.attempts else w.attempts keyHash := by
  have named := (attempt_cases limits bucket cur).1
  by_cases same : keyHash = bucket.keyHash
  · subst same
    simp only [attempts, settle, Table.get_put_of_eq _ named, if_true, Option.map_some, Option.getD_some]
  · have apart : (attempt limits bucket cur).1.keyHash ≠ keyHash := fun own => same (own.symm.trans named)
    simp only [attempts, settle, Table.get_put_of_ne _ apart, if_neg same]

lemma admitted_settle (same : hash key = bucket.keyHash) (keyHash : η) (p : ℤ → Bool) :
    (w.settle limits key cur bucket).admitted hash keyHash p = w.admitted hash keyHash p +
      if keyHash = bucket.keyHash ∧ (recent limits cur bucket.attempts).length < limits.limit ∧ p cur = true
      then 1 else 0 := by
  obtain ⟨-, ⟨full, -, refused⟩ | ⟨room, -, passed⟩⟩ := attempt_cases limits bucket cur
  · simp [admitted, settle, refused, not_lt.mpr full]
  · simp [admitted, settle, List.countP_cons, passed, room, same, @eq_comm _ keyHash]

lemma Sound.settle (inv : w.Sound limits hash) (held : w.attempts bucket.keyHash = bucket.attempts)
    (same : hash key = bucket.keyHash) (apart : ∀ call ∈ w.creating, hash call.1 ≠ bucket.keyHash)
    (bound : (w.buckets.put (attempt limits bucket cur).1).rows.length ≤ limits.maxBuckets) :
    (w.settle limits key cur bucket).Sound limits hash := by
  refine ⟨bound, fun call creating => ?_, fun keyHash p => ?_⟩
  · have alt : (attempt limits bucket cur).1.keyHash ≠ hash call.1 := fun own =>
      apart call creating (own.symm.trans (attempt_cases limits bucket cur).1)
    exact (Table.get_put_of_ne _ alt).trans (inv.free call creating)
  · rw [admitted_settle same, attempts_settle, inv.kept]
    by_cases own : keyHash = bucket.keyHash
    · subst own
      have parts := List.countP_eq_countP_filter_add bucket.attempts p fun attempt => cur - limits.window < attempt
      have trimmed : (w.settle limits key cur bucket).dropped bucket.keyHash = _ := Function.update_self _ _ _
      rw [trimmed, if_pos rfl, held, parts, List.countP_append]
      obtain ⟨-, ⟨full, kept, -⟩ | ⟨room, kept, -⟩⟩ := attempt_cases limits bucket cur
      · rw [kept, if_neg (fun all => not_lt.mpr full all.2.1)]
        simp only [recent]
        omega
      · rw [kept, List.countP_append, List.countP_singleton]
        simp only [recent, true_and] at room ⊢
        simp only [room, true_and]
        omega
    · have others : (w.settle limits key cur bucket).dropped keyHash = w.dropped keyHash :=
        Function.update_of_ne own _ _
      rw [others, if_neg own, if_neg (fun all => own all.1)]
      omega

lemma rows_put (buckets : Table (SharedRateLimitBucket.keyHash (η := η))) (after : SharedRateLimitBucket η) :
    (buckets.put after).rows.length ≤ buckets.rows.length + 1 ∧
      (∀ row, buckets.get after.keyHash = some row → (buckets.put after).rows.length ≤ buckets.rows.length) := by
  refine ⟨Nat.succ_le_succ (List.length_filter_le _ _), fun row hit => ?_⟩
  obtain ⟨mem, same⟩ := Table.get_eq_some.mp hit
  exact List.length_filter_lt_length_iff_exists.mpr ⟨row, mem, by simp [same]⟩

lemma sound_new : (new : World κ η).Sound limits hash where
  bound := Nat.zero_le _
  free := nofun
  kept := fun _ _ => rfl

lemma Sound.step (inv : w.Sound limits hash) (act : Action κ η) : (w.step limits hash act).Sound limits hash := by
  cases act with
  | consume key cur =>
    simp only [World.step]
    split
    · exact inv
    · rename_i bucket hit
      have named := (Table.get_eq_some.mp hit).2
      have was : w.buckets.get (attempt limits bucket cur).1.keyHash = some bucket := by
        rw [(attempt_cases limits bucket cur).1, named, hit]
      refine inv.settle ?_ named.symm (fun call creating own => ?_)
        (((rows_put w.buckets _).2 bucket was).trans inv.bound)
      · rw [attempts, named, hit]
        rfl
      · have absent := inv.free call creating
        rw [own, named, hit] at absent
        cases absent
  | enter key cur =>
    simp only [World.step]
    split
    · rename_i absent
      refine ⟨inv.bound, fun call creating => ?_, inv.kept⟩
      cases creating
      exact absent
    · exact inv
  | prune keyHash =>
    simp only [World.step]
    split
    · rename_i creator cur bucket creating hit
      split
      · refine ⟨(List.length_filter_le _ _).trans inv.bound, fun call entered => ?_, fun alt p => ?_⟩
        · have absent := Table.get_eq_none.mp (inv.free call entered)
          exact Table.get_eq_none.mpr fun row kept => absent row (Table.mem_remove.mp kept).1
        · refine (inv.kept alt p).trans ?_
          by_cases own : alt = keyHash
          · subst own
            have gone : (w.buckets.remove (·.keyHash = alt)).get alt = none :=
              Table.get_eq_none.mpr fun row kept => by simpa using (Table.mem_remove.mp kept).2
            simp [attempts, hit, gone, List.countP_append]
          · have still : (w.buckets.remove (·.keyHash = keyHash)).get alt = w.buckets.get alt :=
              Table.get_remove fun row _ named => decide_eq_false (named ▸ own)
            simp only [attempts, still, Function.update_of_ne own]
      · exact inv
    · exact inv
  | create =>
    simp only [World.step]
    split
    · exact inv
    · rename_i key cur creating
      have idle : ({ w with creating := none } : World κ η).Sound limits hash :=
        ⟨inv.bound, by rintro _ ⟨⟩, inv.kept⟩
      split
      · refine ⟨inv.bound, by rintro _ ⟨⟩, fun keyHash p => ?_⟩
        rw [admitted, List.countP_cons_of_neg (by simp)]
        exact inv.kept keyHash p
      · rename_i few
        have absent := inv.free _ creating
        have held : w.attempts (hash key) = [] := by simp [attempts, absent]
        exact idle.settle held rfl (by rintro _ ⟨⟩) ((rows_put w.buckets _).1.trans (not_le.mp few))

/-- The namespace is full, or a limit of calls of the key was admitted since its window began. -/
def Exhausted (limits : Limits) (hash : κ → η) (w : World κ η) (key : κ) (cur : ℤ) : Prop :=
  w.buckets.rows.length = limits.maxBuckets ∨ limits.limit ≤ w.admitted hash (hash key) (cur - limits.window < ·)

lemma Sound.admits (inv : w.Sound limits hash) (held : w.attempts (hash key) = bucket.attempts) :
    (attempt limits bucket cur).2 = none ∨ w.Exhausted limits hash key cur := by
  obtain ⟨-, ⟨full, -⟩ | ⟨-, -, passed⟩⟩ := attempt_cases limits bucket cur
  · refine .inr (.inr ?_)
    rw [inv.kept, held, List.countP_eq_length_filter]
    exact full.trans (Nat.le_add_right _ _)
  · exact .inl (Option.isNone_iff_eq_none.mp passed)

end World

theorem refusals_justified (limits : Limits) (hash : κ → η) (acts : List (Action κ η)) (act : Action κ η) :
    let w := run (World.step limits hash) World.new acts
    (w.step limits hash act).answers = w.answers ∨ ∃ ans, (w.step limits hash act).answers = ans :: w.answers ∧
      (ans.retryAfterSeconds = none ∨ w.Exhausted limits hash ans.key ans.current) := by
  intro w
  have inv : w.Sound limits hash := Transition.run_invariant (fun _ act inv => inv.step act) World.sound_new acts
  cases act with
  | consume key cur =>
    simp only [World.step]
    split
    · exact .inl rfl
    · rename_i bucket hit
      exact .inr ⟨_, rfl, inv.admits (by rw [World.attempts, hit]; rfl)⟩
  | enter | prune =>
    simp only [World.step]
    repeat' split
    all_goals exact .inl rfl
  | create =>
    simp only [World.step]
    split
    · exact .inl rfl
    · rename_i key cur creating
      split
      · rename_i full
        exact .inr ⟨_, rfl, .inr (.inl (inv.bound.antisymm full))⟩
      · exact .inr ⟨_, rfl, inv.admits (by simp [World.attempts, inv.free _ creating])⟩

instance (limits : Limits) (hash : κ → η) (w : World κ η) : ∀ act, Decidable (w.Undisturbed limits hash act)
  | .consume key cur => inferInstanceAs (Decidable ((recent limits cur (w.attempts (hash key))).length <
      limits.limit → ∀ attempt ∈ w.dropped (hash key), _ ∨ _))
  | .create =>
      inferInstanceAs (Decidable (∀ call ∈ w.creating, (recent limits call.2 (w.attempts (hash call.1))).length <
      limits.limit → ∀ attempt ∈ w.dropped (hash call.1), _ ∨ _))
  | .enter _ _ | .prune _ => .isTrue trivial

def inOrder : List (Action Unit Unit) := [.enter () 0, .create, .consume () 1, .consume () 11]

end Clawdi.RateLimits.Shared
