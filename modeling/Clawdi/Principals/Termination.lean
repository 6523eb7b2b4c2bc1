import Clawdi.Principals.Fence

namespace Clawdi.Principals
open Transition Table Bool
variable {set : String} {w after : World} {ident : Identity} {op : Op}
  {row : PrincipalLifecycle} {evs : List AuthorityEvent}

def Rejects {α : Type} (ans : Except Refusal α) : Prop := ∃ refusal, ans = .error refusal

def Terminated (w : World) (ident : Identity) : Prop :=
  (∀ set issuer : Option String, (∀ name ∈ issuer.or set, name = ident.issuer) →
    Rejects (assertClerkPrincipalActive w set issuer ident.subject)) ∧
  ∀ user ∈ w.users, user.clerkId = ident.subject → (∀ name ∈ user.clerkIssuer, name = ident.issuer) →
    Rejects (assertUserAuthorityActive w user.id)

lemma rejects_of_not_ok {α : Type} {ans : Except Refusal α} (never : ∀ v, ans ≠ .ok v) : Rejects ans := by
  cases ans with
  | error refusal => exact ⟨refusal, rfl⟩
  | ok v => exact absurd rfl (never v)

lemma fenced_iff : w.fenced ident = true ↔ ∃ row ∈ w.lifecycles, row.identity = ident := by
  rw [World.fenced, Option.isSome_iff_exists]
  exact exists_congr fun row => get_eq_some

lemma Fences.terminated (fences : Fences w) (fenced : w.fenced ident = true) : Terminated w ident := by
  obtain ⟨lifecycle, mem, key⟩ := fenced_iff.mp fenced
  constructor
  · intro cfg issuer resolved
    apply rejects_of_not_ok
    intro ans active
    unfold assertClerkPrincipalActive at active
    cases chosen : issuer.or cfg with
    | none =>
      simp only [chosen, bind_eq_ok, raiseIf_eq_ok] at active
      obtain ⟨_, gone, _⟩ := active
      apply gone
      rw [List.any_eq_true]
      exact ⟨lifecycle, mem, by simp [key]⟩
    | some name =>
      simp only [chosen, bind_eq_ok, raiseIf_eq_ok] at active
      obtain ⟨_, gone, _⟩ := active
      have same : name = ident.issuer := resolved name (by rw [chosen]; rfl)
      rw [same] at gone
      exact gone fenced
  · intro user stored subject own
    obtain ⟨issuer, known, owner⟩ := fences.bound lifecycle mem user stored (by rw [key, subject])
    have mine : lifecycle.userId = some user.id := by
      apply owner
      rw [key]
      exact own issuer known
    apply rejects_of_not_ok
    intro ans active
    have hit : w.users.rows.find? (fun alt => alt.id = user.id) = some user := by
      apply find_only stored
      intro alt inside
      rw [decide_eq_true_eq]
      exact ⟨fences.userIds alt inside user stored, fun same => by rw [same]⟩
    simp only [assertUserAuthorityActive, hit, bind_eq_ok, raiseIf_eq_ok] at active
    obtain ⟨_, _, enabled⟩ := active
    apply enabled
    rw [userDisabled, or_eq_true, List.any_eq_true]
    exact .inl ⟨lifecycle, mem, by simp [mine]⟩

section

structure LifecycleStep (w : World) (op : Op) (after : World) : Prop where
  kept : ∀ row ∈ w.lifecycles, row.cleanupCompletedAt.isSome = true → row ∈ after.lifecycles
  fenced : ∀ row ∈ w.lifecycles, ∃ now ∈ after.lifecycles, now.identity = row.identity
  completed : ∀ now ∈ after.lifecycles, now.cleanupCompletedAt.isSome = true → now ∈ w.lifecycles ∨
    ∃ row ∈ w.lifecycles, row.identity = now.identity ∧ row.cleanupCompletedAt = none ∧
      ∃ exp at_ fails, op = .complete row.id exp at_ fails ∧ (exp = none ∨ exp = row.cleanupClaimId)
  timed : (∀ row ∈ w.lifecycles, row.cleanupCompletedAt = none →
      row.nextCleanupAttemptAt.isSome = true ∧ row.cleanupClaimId.isSome = row.cleanupClaimedAt.isSome) →
    ∀ now ∈ after.lifecycles, now.cleanupCompletedAt = none →
      now.nextCleanupAttemptAt.isSome = true ∧ now.cleanupClaimId.isSome = now.cleanupClaimedAt.isSome

lemma LifecycleStep.same (lifecycles : after.lifecycles = w.lifecycles) : LifecycleStep w op after := by
  constructor
  · intro row mem _
    rw [lifecycles]
    exact mem
  · intro row mem
    exact ⟨row, by rw [lifecycles]; exact mem, rfl⟩
  · intro now mem _
    rw [lifecycles] at mem
    exact .inl mem
  · intro timed now mem
    rw [lifecycles] at mem
    exact timed now mem

lemma LifecycleStep.put {now} (lifecycles : after.lifecycles = w.lifecycles.put now)
    (stored : row ∈ w.lifecycles) (key : now.identity = row.identity) (open_ : row.cleanupCompletedAt = none)
    (completed : now.cleanupCompletedAt.isSome = true → ∃ exp at_ fails,
      op = .complete row.id exp at_ fails ∧ (exp = none ∨ exp = row.cleanupClaimId))
    (timed : now.cleanupCompletedAt = none → row.nextCleanupAttemptAt.isSome = true →
      now.nextCleanupAttemptAt.isSome = true ∧ now.cleanupClaimId.isSome = now.cleanupClaimedAt.isSome) :
    LifecycleStep w op after := by
  constructor
  · intro alt mem closed
    rw [lifecycles, mem_put]
    right
    refine ⟨mem, ?_⟩
    intro same
    have equal := eq_of_key mem stored (same.trans key)
    rw [equal, open_] at closed
    exact absurd closed false_ne_true
  · intro alt mem
    by_cases same : alt.identity = now.identity
    · exact ⟨now, by rw [lifecycles]; exact mem_put_self _ _, same.symm⟩
    · exact ⟨alt, by rw [lifecycles, mem_put]; exact .inr ⟨mem, same⟩, rfl⟩
  · intro alt mem closed
    rw [lifecycles, mem_put] at mem
    rcases mem with rfl | ⟨mem, _⟩
    · exact .inr ⟨row, stored, key.symm, open_, completed closed⟩
    · exact .inl mem
  · intro pre alt mem still
    rw [lifecycles, mem_put] at mem
    rcases mem with rfl | ⟨mem, _⟩
    · exact timed still (pre row stored open_).1
    · exact pre alt mem still

lemma putUser_lifecycles (user : Option User) : (putUser w user).lifecycles = w.lifecycles := by
  cases user <;> rfl

lemma countAttempt_rest (row : PrincipalLifecycle) : row.countAttempt.cleanupCompletedAt = row.cleanupCompletedAt ∧
      row.countAttempt.nextCleanupAttemptAt = row.nextCleanupAttemptAt := by
  unfold PrincipalLifecycle.countAttempt
  split <;> exact ⟨rfl, rfl⟩

lemma fence_lifecycles {ev}
    (done : fenceClerkUserDeleted set w ev = .ok after) : LifecycleStep w (.fence ev) after := by
  simp only [fenceClerkUserDeleted, bind_eq_ok] at done
  obtain ⟨_, _, done⟩ := done
  split at done
  · simp only [bind_eq_ok, pure_eq_ok] at done
    obtain ⟨_, _, rfl⟩ := done
    exact LifecycleStep.same rfl
  · split at done
    · cases done
      exact LifecycleStep.same rfl
    · rename_i _ gone
      simp only [bind_eq_ok, pure_eq_ok] at done
      obtain ⟨user, _, rfl⟩ := done
      have different : ∀ row ∈ w.lifecycles, row.identity ≠ ev.identity := get_eq_none.mp gone
      constructor
      · intro row mem _
        rw [putUser_lifecycles]
        exact mem_put.mpr (.inr ⟨mem, different row mem⟩)
      · intro row mem
        refine ⟨row, ?_, rfl⟩
        rw [putUser_lifecycles]
        exact mem_put.mpr (.inr ⟨mem, different row mem⟩)
      · intro now mem closed
        rw [putUser_lifecycles] at mem
        rcases mem_put.mp mem with rfl | ⟨old, _⟩
        · exact absurd closed false_ne_true
        · exact .inl old
      · intro pre now mem still
        rw [putUser_lifecycles] at mem
        rcases mem_put.mp mem with rfl | ⟨old, _⟩
        · exact ⟨rfl, rfl⟩
        · exact pre now old still

variable {lifecycleId : ℕ} {exp : Option ℕ}

lemma complete_lifecycles {at_ : ℕ} {fails}
    (done : completePrincipalCleanup w lifecycleId exp at_ fails = .ok after) :
    LifecycleStep w (.complete lifecycleId exp at_ fails) after := by
  unfold completePrincipalCleanup at done
  split at done
  · cases done
  · rename_i row hit
    obtain ⟨stored, id⟩ := Fences.lifecycleOf_spec hit
    split at done
    · cases done
      exact LifecycleStep.same rfl
    · rename_i still
      simp only [bind_eq_ok, pure_eq_ok, raiseIf_eq_ok] at done
      obtain ⟨_, claimed, _, _, rfl⟩ := done
      refine LifecycleStep.put rfl stored (Fences.countAttempt_same row).2.1 (by simpa using still) ?_ ?_
      · intro _
        refine ⟨exp, at_, fails, by rw [id], ?_⟩
        cases exp with
        | none => exact .inl rfl
        | some claim =>
          right
          by_contra alt
          exact claimed ⟨rfl, fun same => alt same.symm⟩
      · intro closed
        cases closed

lemma claim_lifecycles {claimedAt leaseSeconds : ℕ} {locked : List ℕ} :
    LifecycleStep w (.claim claimedAt leaseSeconds locked)
      (claimPrincipalCleanup w claimedAt leaseSeconds locked) := by
  unfold claimPrincipalCleanup
  split
  · exact LifecycleStep.same rfl
  · rename_i row due
    obtain ⟨stored, claimable⟩ := Fences.dueCleanup_spec due
    have still : row.cleanupCompletedAt = none := by
      rw [PrincipalLifecycle.claimable, and_eq_true] at claimable
      simpa using claimable.1
    refine LifecycleStep.put rfl stored rfl still ?_ ?_
    · intro closed
      have open_ : row.cleanupCompletedAt.isSome = true := closed
      rw [still] at open_
      exact absurd open_ false_ne_true
    · intro _ next
      exact ⟨next, rfl⟩

lemma fail_lifecycles {at_ : ℕ} : LifecycleStep w (.fail lifecycleId exp at_)
      (recordPrincipalCleanupFailure w lifecycleId exp at_) := by
  unfold recordPrincipalCleanupFailure
  split
  · exact LifecycleStep.same rfl
  · rename_i row hit
    obtain ⟨stored, _⟩ := Fences.lifecycleOf_spec hit
    split
    · exact LifecycleStep.same rfl
    · rename_i refused
      have still : row.cleanupCompletedAt = none := by
        by_contra closed
        exact refused (.inl (Option.isSome_iff_ne_none.mpr closed))
      refine LifecycleStep.put rfl stored (Fences.countAttempt_same row).2.1 still ?_ ?_
      · intro closed
        have counted : row.countAttempt.cleanupCompletedAt.isSome = true := closed
        rw [(countAttempt_rest row).1, still] at counted
        exact absurd counted false_ne_true
      · intro _ _
        exact ⟨rfl, rfl⟩

lemma perform_lifecycles (done : perform set w op = .ok after) : LifecycleStep w op after := by
  cases op with
  | deliver ev =>
    simp only [perform, projectClerkUserAuthority, bind_eq_ok] at done
    obtain ⟨_, _, done⟩ := done
    apply LifecycleStep.same
    split at done
    · cases done
      rfl
    · split at done
      · cases done
        rfl
      · simp only [bind_eq_ok, pure_eq_ok] at done
        obtain ⟨user, _, rfl⟩ := done
        exact putUser_lifecycles user
  | suspend cmd =>
    simp only [perform, setClerkPrincipalSuspension, bind_eq_ok] at done
    obtain ⟨_, _, _, _, done⟩ := done
    apply LifecycleStep.same
    split at done
    · cases done
      rfl
    · simp only [bind_eq_ok, pure_eq_ok] at done
      obtain ⟨_, _, rfl⟩ := done
      rfl
  | fence ev => exact fence_lifecycles done
  | claim claimedAt leaseSeconds locked =>
    cases done
    exact claim_lifecycles
  | complete lifecycleId exp at_ fails => exact complete_lifecycles done
  | fail lifecycleId exp at_ =>
    cases done
    exact fail_lifecycles
  | begin req issuer subject =>
    simp only [perform] at done
    apply LifecycleStep.same
    split at done <;> cases done <;> rfl
  | create id =>
    simp only [perform] at done
    apply LifecycleStep.same
    split at done
    · cases done
      rfl
    · split at done <;> cases done <;> rfl
  | bind id =>
    simp only [perform] at done
    apply LifecycleStep.same
    split at done
    · cases done
      rfl
    · split at done
      · cases done
        exact putUser_lifecycles _
      · cases done
        rfl
  | abort id =>
    cases done
    exact LifecycleStep.same rfl

lemma step_lifecycles (set : String) (w : World) (op : Op) : LifecycleStep w op (step set w op) := by
  unfold step
  split
  · exact LifecycleStep.same rfl
  · cases done : perform set w op with
    | ok after => exact perform_lifecycles done
    | error refusal => exact LifecycleStep.same rfl

lemma fenced_step (fenced : w.fenced ident = true) : (step set w op).fenced ident = true := by
  obtain ⟨row, mem, key⟩ := fenced_iff.mp fenced
  obtain ⟨now, inside, same⟩ := (step_lifecycles set w op).fenced row mem
  exact fenced_iff.mpr ⟨now, inside, same.trans key⟩

end
end Clawdi.Principals
