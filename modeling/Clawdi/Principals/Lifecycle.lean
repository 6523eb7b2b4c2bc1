import Clawdi.Principals.Termination

namespace Clawdi.Principals
open Transition List Table Option
variable {set : String} {w after : World} {ident : Identity} {op : Op}
  {row : PrincipalLifecycle} {ev : AuthorityEvent} {evs : List AuthorityEvent}

section

def accepted (set : String) (w : World) : Op → List AuthorityEvent
  | .deliver ev =>
    if w.held ev.identity then []
    else
      match projectClerkUserAuthority set w ev with
      | .ok _ => [ev]
      | .error _ => []
  | _ => []

def delivered (set : String) : World → List Op → List AuthorityEvent
  | _, [] => []
  | w, op :: ops => accepted set w op ++ delivered set (step set w op) ops

def Latest (ident : Identity) (evs : List AuthorityEvent) : Option ClerkPrincipalAuthority → Prop
  | none => ∀ ev ∈ evs, ev.identity ≠ ident
  | some was => ∃ ev ∈ evs, ev.identity = ident ∧ was = ev.row ∧
      ∀ alt ∈ evs, alt.identity = ident → alt.authorityUpdatedAt ≤ ev.authorityUpdatedAt

namespace Latest
variable {was : Option ClerkPrincipalAuthority}

lemma other (latest : Latest ident evs was) (different : ev.identity ≠ ident) : Latest ident (evs ++ [ev]) was := by
  cases was with
  | none =>
    intro late inside
    rcases mem_append.mp inside with old | new
    · exact latest late old
    · rw [mem_singleton.mp new]
      exact different
  | some row =>
    obtain ⟨last, mem, key, wrote, greatest⟩ := latest
    refine ⟨last, mem_append_left _ mem, key, wrote, ?_⟩
    intro late inside same
    rcases mem_append.mp inside with old | new
    · exact greatest late old same
    · rw [mem_singleton.mp new] at same
      exact absurd same different

lemma late {row} (latest : Latest ident evs (some row))
    (order : ev.authorityUpdatedAt ≤ row.authorityUpdatedAt) : Latest ident (evs ++ [ev]) (some row) := by
  obtain ⟨last, mem, key, wrote, greatest⟩ := latest
  refine ⟨last, mem_append_left _ mem, key, wrote, ?_⟩
  intro late inside same
  rcases mem_append.mp inside with old | new
  · exact greatest late old same
  · rw [mem_singleton.mp new]
    rw [wrote] at order
    exact order

lemma newer (latest : Latest ev.identity evs was)
    (order : ∀ row, was = some row → row.authorityUpdatedAt < ev.authorityUpdatedAt) :
    Latest ev.identity (evs ++ [ev]) (some ev.row) := by
  refine ⟨ev, by simp, rfl, rfl, ?_⟩
  intro alt inside same
  rcases mem_append.mp inside with old | new
  · cases was with
    | none => exact absurd same (latest alt old)
    | some row =>
      obtain ⟨last, _, _, wrote, greatest⟩ := latest
      have below := order row rfl
      rw [wrote] at below
      have above := greatest alt old same
      have same_time : last.row.authorityUpdatedAt = last.authorityUpdatedAt := rfl
      omega
  · rw [mem_singleton.mp new]

end Latest

def Projected (w : World) (evs : List AuthorityEvent) : Prop :=
  ∀ ident, w.fenced ident = false → Latest ident evs (w.authorities.get ident)

lemma Projected.same (proj : Projected w evs) (authorities : after.authorities = w.authorities)
    (fenced : ∀ ident, w.fenced ident = true → after.fenced ident = true) : Projected after evs := by
  intro ident free
  rw [authorities]
  apply proj
  by_contra pre
  rw [fenced ident (by simpa using pre)] at free
  exact absurd free Bool.noConfusion

lemma project_cases (done : projectClerkUserAuthority set w ev = .ok after) :
    (after = w ∧ (w.fenced ev.identity = true ∨ ∃ was, w.authorities.get ev.identity = some was ∧
      ev.authorityUpdatedAt ≤ was.authorityUpdatedAt)) ∨
    (after.authorities = w.authorities.put ev.row ∧ after.lifecycles = w.lifecycles ∧
      ∀ was, w.authorities.get ev.identity = some was → was.authorityUpdatedAt < ev.authorityUpdatedAt) := by
  simp only [projectClerkUserAuthority, bind_eq_ok] at done
  obtain ⟨_, _, done⟩ := done
  split at done
  · rename_i fenced
    cases done
    exact .inl ⟨rfl, .inl fenced⟩
  · split at done
    · rename_i late
      cases done
      cases hit : w.authorities.get ev.identity with
      | none => simp [hit] at late
      | some was => exact .inl ⟨rfl, .inr ⟨was, rfl, by simpa [hit] using late⟩⟩
    · rename_i newer
      simp only [bind_eq_ok, pure_eq_ok] at done
      obtain ⟨user, _, rfl⟩ := done
      right
      refine ⟨by cases user <;> rfl, putUser_lifecycles user, ?_⟩
      intro was hit
      rw [hit, any_some, decide_eq_true_eq] at newer
      omega

lemma projected_deliver (proj : Projected w evs)
    (done : projectClerkUserAuthority set w ev = .ok after) : Projected after (evs ++ [ev]) := by
  intro ident free
  have pre : Latest ident evs (w.authorities.get ident) := by
    apply proj
    rcases project_cases done with ⟨rfl, _⟩ | ⟨_, lifecycles, _⟩
    · exact free
    · rw [World.fenced, ← lifecycles]
      exact free
  by_cases mine : ev.identity = ident
  · subst mine
    rcases project_cases done with ⟨rfl, fenced | ⟨was, hit, order⟩⟩ | ⟨wrote, _, newer⟩
    · rw [fenced] at free
      exact absurd free Bool.noConfusion
    · rw [hit] at pre ⊢
      exact pre.late order
    · rw [wrote, get_put_of_eq]
      · exact pre.newer newer
      · rfl
  · rcases project_cases done with ⟨rfl, _⟩ | ⟨wrote, _, _⟩
    · exact pre.other mine
    · rw [wrote, get_put_of_ne]
      · exact pre.other mine
      · exact mine

lemma putUser_authorities (user : Option User) : (putUser w user).authorities = w.authorities := by
  cases user <;> rfl

lemma perform_authorities (done : perform set w op = .ok after)
    (notDelivery : ∀ ev, op ≠ .deliver ev) : after.authorities = w.authorities := by
  cases op with
  | deliver ev => exact absurd rfl (notDelivery ev)
  | suspend cmd =>
    simp only [perform, setClerkPrincipalSuspension, bind_eq_ok] at done
    obtain ⟨_, _, _, _, done⟩ := done
    split at done
    · cases done
      rfl
    · simp only [bind_eq_ok, pure_eq_ok] at done
      obtain ⟨_, _, rfl⟩ := done
      rfl
  | fence ev =>
    simp only [perform, fenceClerkUserDeleted, bind_eq_ok] at done
    obtain ⟨_, _, done⟩ := done
    split at done
    · simp only [bind_eq_ok, pure_eq_ok] at done
      obtain ⟨_, _, rfl⟩ := done
      rfl
    · split at done
      · cases done
        rfl
      · simp only [bind_eq_ok, pure_eq_ok] at done
        obtain ⟨user, _, rfl⟩ := done
        exact putUser_authorities user
  | claim claimedAt leaseSeconds locked =>
    cases done
    unfold claimPrincipalCleanup
    split <;> rfl
  | complete lifecycleId exp at_ fails =>
    simp only [perform, completePrincipalCleanup] at done
    split at done
    · cases done
    · split at done
      · cases done
        rfl
      · simp only [bind_eq_ok, pure_eq_ok] at done
        obtain ⟨_, _, _, _, rfl⟩ := done
        rfl
  | fail lifecycleId exp at_ =>
    cases done
    unfold recordPrincipalCleanupFailure
    split
    · rfl
    · split <;> rfl
  | begin req issuer subject =>
    simp only [perform] at done
    split at done <;> cases done <;> rfl
  | create id =>
    simp only [perform] at done
    split at done
    · cases done
      rfl
    · split at done <;> cases done <;> rfl
  | bind id =>
    simp only [perform] at done
    split at done
    · cases done
      rfl
    · split at done
      · cases done
        exact putUser_authorities _
      · cases done
        rfl
  | abort id =>
    cases done
    rfl

lemma projected_step (proj : Projected w evs) (op : Op) : Projected (step set w op) (evs ++ accepted set w op) := by
  have keepsFence : ∀ ident, w.fenced ident = true →
      (step set w op).fenced ident = true := fun ident fenced => fenced_step fenced
  by_cases delivery : ∃ ev, op = .deliver ev
  · obtain ⟨ev, rfl⟩ := delivery
    rw [step, accepted]
    by_cases waits : w.held ev.identity = true
    · rw [if_pos (by simpa [Op.exclusive] using waits), if_pos waits, append_nil]
      exact proj
    · rw [if_neg (by simpa [Op.exclusive] using waits), if_neg waits]
      cases done : projectClerkUserAuthority set w ev with
      | ok after =>
        simp only [perform, done]
        exact projected_deliver proj done
      | error refusal =>
        simp only [perform, done, append_nil]
        exact proj
  · have nothing : accepted set w op = [] := by
      cases op with
      | deliver ev => exact absurd ⟨ev, rfl⟩ delivery
      | _ => rfl
    rw [nothing, append_nil]
    apply proj.same _ keepsFence
    unfold step
    split
    · rfl
    · cases done : perform set w op with
      | ok after => exact perform_authorities done fun ev same => delivery ⟨ev, same⟩
      | error refusal => rfl

lemma projected_run (ops : List Op) (proj : Projected w evs) :
    Projected (run (step set) w ops) (evs ++ delivered set w ops) := by
  induction ops generalizing w evs with
  | nil => simpa [delivered] using proj
  | cons op ops ih =>
    rw [run_cons, delivered, ← append_assoc]
    exact ih (projected_step proj op)

end

structure Initial (w : World) : Prop where
  userIds : ∀ a ∈ w.users, ∀ b ∈ w.users, a.id = b.id → a = b
  userFresh : ∀ a ∈ w.users, a.id < w.next
  lifecycles : w.lifecycles = Table.empty
  authorities : w.authorities = Table.empty

lemma Initial.fences (init : Initial w) : Fences w := by
  have none : ∀ row ∈ w.lifecycles, False := by
    intro row mem
    rw [init.lifecycles] at mem
    exact not_mem_empty row mem
  refine ⟨init.userIds, init.userFresh, ?_, ?_, ?_, ?_⟩
  all_goals
    intro row mem
    exact absurd mem fun inside => none row inside

lemma Initial.projected (init : Initial w) : Projected w [] := by
  intro ident _
  rw [init.authorities, get_empty]
  intro ev mem
  cases mem

def BanIsLatest (w : World) (evs : List AuthorityEvent) (ident : Identity) : Prop :=
  (∀ ev ∈ evs, ev.identity = ident →
    (∀ alt ∈ evs, alt.identity = ident → alt.authorityUpdatedAt ≤ ev.authorityUpdatedAt) →
      w.banned ident = ev.banned) ∧
  ((∀ ev ∈ evs, ev.identity ≠ ident) → w.banned ident = false)

def DistinctTimestamps (ops : List Op) : Prop :=
  ∀ a b : AuthorityEvent, Op.deliver a ∈ ops → Op.deliver b ∈ ops → a.identity = b.identity →
    a.authorityUpdatedAt = b.authorityUpdatedAt → a.banned = b.banned

lemma mem_delivered {ops} (mem : ev ∈ delivered set w ops) : Op.deliver ev ∈ ops := by
  induction ops generalizing w with
  | nil => cases mem
  | cons op ops ih =>
    rcases mem_append.mp mem with now | later
    · have same : op = .deliver ev := by
        cases op with
        | deliver sent =>
          rw [accepted] at now
          split at now
          · cases now
          · split at now
            · rw [mem_singleton.mp now]
            · cases now
        | _ => cases now
      rw [same]
      exact mem_cons_self
    · exact mem_cons_of_mem _ (ih later)

lemma Latest.ban {evs} (latest : Latest ident evs (w.authorities.get ident))
    (apart : ∀ a ∈ evs, ∀ b ∈ evs, a.identity = b.identity →
      a.authorityUpdatedAt = b.authorityUpdatedAt → a.banned = b.banned) : BanIsLatest w evs ident := by
  unfold BanIsLatest World.banned
  cases hit : w.authorities.get ident with
  | none =>
    rw [hit] at latest
    exact ⟨fun ev mem same => absurd same (latest ev mem), fun _ => rfl⟩
  | some was =>
    rw [hit] at latest
    obtain ⟨last, mem, key, rfl, greatest⟩ := latest
    constructor
    · intro ev inside same isGreatest
      have below := greatest ev inside same
      have above := isGreatest last mem key
      exact apart last mem ev inside (key.trans same.symm) (by omega)
    · intro gone
      exact absurd key (gone last mem)

variable {refusal : Refusal}

lemma loadClerkUser_error {bindLegacy allow}
    (refused : loadClerkUserForIssuer w ident bindLegacy allow = .error refusal) :
    ∃ user ∈ w.users, user.clerkId = ident.subject ∧
      ∃ issuer, user.clerkIssuer = some issuer ∧ issuer ≠ ident.issuer := by
  unfold loadClerkUserForIssuer at refused
  cases hit : w.users.get ident.subject with
  | none => simp [hit] at refused
  | some user =>
    obtain ⟨mem, key⟩ := get_eq_some.mp hit
    cases bound : user.clerkIssuer with
    | none => simp [hit, bound] at refused
    | some issuer =>
      by_cases same : issuer = ident.issuer
      · simp [hit, bound, same] at refused
      · exact ⟨user, mem, key, issuer, bound, same⟩

lemma deliver_refused (refused : projectClerkUserAuthority set w ev = .error refusal) :
    ev.identity.issuer ≠ set ∨ ∃ user ∈ w.users, user.clerkId = ev.identity.subject ∧
      ∃ issuer, user.clerkIssuer = some issuer ∧ issuer ≠ ev.identity.issuer := by
  by_cases own : ev.identity.issuer = set
  · right
    have passes : raiseIf (ev.identity.issuer ≠ set) Refusal.identityConflict = .ok () :=
      raiseIf_eq_ok.mpr (by simpa using own)
    simp only [projectClerkUserAuthority, passes, bind, Except.bind, pure, Except.pure] at refused
    split at refused
    · cases refused
    · split at refused
      · cases refused
      · cases loaded : loadClerkUserForIssuer w ev.identity true false with
        | ok user => simp [loaded] at refused
        | error conflict => exact loadClerkUser_error loaded
  · exact .inl own

/-- What a transaction may do to a cleanup: the fence's row stays once it is closed, and an open one
is closed by a completion that carries its current claim, or none. -/
def CleanupKept (w : World) (op : Op) (after : World) : Prop :=
  (∀ row ∈ w.lifecycles, row.cleanupCompletedAt.isSome = true → row ∈ after.lifecycles) ∧
  ∀ now ∈ after.lifecycles, now.cleanupCompletedAt.isSome = true → now ∈ w.lifecycles ∨
    ∃ row ∈ w.lifecycles, row.identity = now.identity ∧ row.cleanupCompletedAt = none ∧
      ∃ exp at_ fails, op = .complete row.id exp at_ fails ∧ (exp = none ∨ exp = row.cleanupClaimId)

def Reclaimable (w : World) : Prop :=
  ∀ row ∈ w.lifecycles, row.cleanupCompletedAt = none → ∀ leaseSeconds, ∃ due, ∀ claimedAt, due ≤ claimedAt →
    row.claimable claimedAt leaseSeconds = true

def Timed (w : World) : Prop :=
  ∀ row ∈ w.lifecycles, row.cleanupCompletedAt = none →
    row.nextCleanupAttemptAt.isSome = true ∧ row.cleanupClaimId.isSome = row.cleanupClaimedAt.isSome

lemma Timed.reclaimable (timed : Timed w) : Reclaimable w := by
  intro row mem open_ leaseSeconds
  obtain ⟨next, claimed⟩ := timed row mem open_
  cases claim : row.cleanupClaimId with
  | none =>
    obtain ⟨at_, known⟩ := isSome_iff_exists.mp next
    refine ⟨at_, ?_⟩
    intro claimedAt due
    simp [PrincipalLifecycle.claimable, open_, claim, known, due]
  | some held =>
    rw [claim] at claimed
    obtain ⟨at_, known⟩ := isSome_iff_exists.mp claimed.symm
    refine ⟨at_ + leaseSeconds, ?_⟩
    intro claimedAt due
    simp [PrincipalLifecycle.claimable, open_, claim, known, due]

lemma Initial.timed (init : Initial w) : Timed w := by
  intro row mem
  rw [init.lifecycles] at mem
  exact absurd mem (not_mem_empty row)

lemma fenced_run (ops : List Op) (fenced : w.fenced ident = true) : (run (step set) w ops).fenced ident = true := by
  have keeps : ∀ w op, (fun w : World => w.fenced ident = true) w →
      (fun w : World => w.fenced ident = true) (step set w op) := fun w op held => fenced_step held
  exact run_invariant keeps fenced ops

/-- Termination is absorbing, bans follow the latest event, and a cleanup is closed once, by its claim
or without one, and stays claimable until then. -/
theorem principal_termination_absorbing (set : String) (start : World) (init : Initial start)
    (ops : List Op) (apart : DistinctTimestamps ops) :
    (∀ pre, pre <+: ops → ∀ ident, (run (step set) start pre).fenced ident = true →
      Terminated (run (step set) start ops) ident) ∧ (∀ ident, (run (step set) start ops).fenced ident = false →
      BanIsLatest (run (step set) start ops) (delivered set start ops) ident) ∧
    (∀ ev refusal, projectClerkUserAuthority set (run (step set) start ops) ev =
        .error refusal → ev.identity.issuer ≠ set ∨
      ∃ user ∈ (run (step set) start ops).users, user.clerkId = ev.identity.subject ∧
        ∃ issuer, user.clerkIssuer = some issuer ∧ issuer ≠ ev.identity.issuer) ∧
    (∀ op, CleanupKept (run (step set) start ops) op (step set (run (step set) start ops) op)) ∧
    Reclaimable (run (step set) start ops) := by
  have keeps : ∀ w op, Fences w → Fences (step set w op) := fun w op held => held.step op
  have fences : Fences (run (step set) start ops) := run_invariant keeps init.fences ops
  refine ⟨?_, ?_, fun ev refusal refused => deliver_refused refused, ?_, ?_⟩
  · rintro pre ⟨rest, rfl⟩ ident fenced
    apply fences.terminated
    rw [run_append]
    exact fenced_run rest fenced
  · intro ident free
    have proj : Projected (run (step set) start ops) ([] ++ delivered set start ops) :=
      projected_run ops init.projected
    apply (proj ident free).ban
    intro a memberA b memberB
    exact apart a b (mem_delivered memberA) (mem_delivered memberB)
  · intro op
    have kept := step_lifecycles set (run (step set) start ops) op
    exact ⟨kept.kept, kept.completed⟩
  · have times : ∀ w op, Timed w → Timed (step set w op) :=
      fun w op held => (step_lifecycles set w op).timed held
    exact (run_invariant times init.timed ops).reclaimable

section

def sampleStart : World :=
  ⟨Table.empty.put ⟨0, "user_1", none⟩, Table.empty, Table.empty, Table.empty, Table.empty, [], 1⟩

def sampleIdentity : Identity := ⟨"clerk", "user_1"⟩

def sampleOps : List Op :=
  [.deliver ⟨sampleIdentity, true, 20, "m2", "b"⟩, .deliver ⟨sampleIdentity, false, 10, "m1", "a"⟩,
   .fence ⟨sampleIdentity, "m3", "c", 30, 30⟩, .claim 31 60 []]

lemma sampleStart_initial : Initial sampleStart := by refine ⟨?_, ?_, rfl, rfl⟩ <;> decide

lemma sampleOps_distinct : DistinctTimestamps sampleOps := by
  intro a b memberA memberB _ same
  simp only [sampleOps, mem_cons, Op.deliver.injEq, reduceCtorEq, not_mem_nil, or_false] at memberA memberB
  rcases memberA with rfl | rfl <;> rcases memberB with rfl | rfl <;> simp_all

theorem principal_termination_absorbing_sample :
    Terminated (run (step "clerk") sampleStart sampleOps) sampleIdentity :=
  (principal_termination_absorbing "clerk" sampleStart sampleStart_initial sampleOps sampleOps_distinct).1
    sampleOps (prefix_refl _) sampleIdentity (by decide +kernel)

/-- The receiver of the deletion event completes the cleanup while a worker holds its claim. -/
theorem receiver_completes_claimed_cleanup :
    ¬∀ (ops : List Op) (op : Op), ∀ row ∈ (run (step "clerk") sampleStart ops).lifecycles.rows,
      ∀ now ∈ (step "clerk" (run (step "clerk") sampleStart ops) op).lifecycles.rows,
        row.identity = now.identity → row.cleanupCompletedAt = none → now.cleanupCompletedAt.isSome = true →
          ∃ claim, row.cleanupClaimId = some claim ∧ ∃ at_ fails, op = .complete row.id (some claim) at_ fails := by
  intro holder
  have closed : ∃ row ∈ (run (step "clerk") sampleStart sampleOps).lifecycles.rows,
      ∃ now ∈ (step "clerk" (run (step "clerk") sampleStart sampleOps)
        (.complete 1 none 32 false)).lifecycles.rows,
        row.identity = now.identity ∧ row.cleanupCompletedAt = none ∧
          now.cleanupCompletedAt.isSome = true := by decide +kernel
  obtain ⟨row, mem, now, inside, same, open_, done⟩ := closed
  obtain ⟨claim, _, at_, fails, claimed⟩ := holder sampleOps _ row mem now inside same open_ done
  rw [Op.complete.injEq] at claimed
  exact absurd claimed.2.1 (by simp)

end
end Clawdi.Principals
