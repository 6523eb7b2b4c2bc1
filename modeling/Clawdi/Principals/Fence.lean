import Clawdi.Lib.Transition
import Clawdi.Principals.Operations

namespace Clawdi.Principals
open Transition List Table Nat
variable {set : String} {w after : World} {ident : Identity} {user old : User}
  {row lifecycle : PrincipalLifecycle}

structure Rebinds (w : World) (issuer : String) (user : User) : Prop where
  stored : ∃ old ∈ w.users, old.id = user.id ∧ old.clerkId = user.clerkId ∧
    (old = user ∨ old.clerkIssuer = none ∧ user.clerkIssuer = some issuer)

variable {bindLegacy allow : Bool}

lemma loadClerkUser_spec (loaded : loadClerkUserForIssuer w ident bindLegacy allow = .ok (some user)) :
    Rebinds w ident.issuer user ∧ user.clerkId = ident.subject := by
  unfold loadClerkUserForIssuer at loaded
  cases hit : w.users.get ident.subject with
  | none => simp [hit] at loaded
  | some old =>
    obtain ⟨mem, key⟩ := get_eq_some.mp hit
    cases bound : old.clerkIssuer with
    | none =>
      simp only [hit, bound, Except.ok.injEq, Option.some.injEq] at loaded
      cases bindLegacy with
      | false =>
        subst loaded
        exact ⟨⟨old, mem, rfl, rfl, .inl rfl⟩, key⟩
      | true =>
        subst loaded
        exact ⟨⟨old, mem, rfl, rfl, .inr ⟨bound, rfl⟩⟩, key⟩
    | some issuer =>
      simp only [hit, bound] at loaded
      split at loaded
      · cases loaded
        exact ⟨⟨user, mem, rfl, rfl, .inl rfl⟩, key⟩
      · split at loaded <;> cases loaded

lemma loadClerkUser_none (loaded : loadClerkUserForIssuer w ident bindLegacy allow = .ok none)
    (mem : old ∈ w.users) (key : old.clerkId = ident.subject) :
    ∃ issuer, old.clerkIssuer = some issuer ∧ issuer ≠ ident.issuer := by
  have hit : w.users.get ident.subject = some old := get_eq_some.mpr ⟨mem, key⟩
  unfold loadClerkUserForIssuer at loaded
  cases bound : old.clerkIssuer with
  | none => simp [hit, bound] at loaded
  | some issuer =>
    simp only [hit, bound] at loaded
    by_cases same : issuer = ident.issuer
    · simp [same] at loaded
    · exact ⟨issuer, rfl, same⟩

lemma loadClerkUser_bound (loaded : loadClerkUserForIssuer w ident true allow = .ok (some user)) :
    user.clerkIssuer = some ident.issuer := by
  unfold loadClerkUserForIssuer at loaded
  cases hit : w.users.get ident.subject with
  | none => simp [hit] at loaded
  | some old =>
    cases bound : old.clerkIssuer with
    | none =>
      simp only [hit, bound, Except.ok.injEq, Option.some.injEq, if_true] at loaded
      rw [← loaded]
    | some issuer =>
      simp only [hit, bound] at loaded
      split at loaded
      · rename_i same
        cases loaded
        rw [bound, same]
      · split at loaded <;> cases loaded

structure Fences (w : World) : Prop where
  userIds : ∀ a ∈ w.users, ∀ b ∈ w.users, a.id = b.id → a = b
  userFresh : ∀ a ∈ w.users, a.id < w.next
  lifecycleIds : ∀ a ∈ w.lifecycles, ∀ b ∈ w.lifecycles, a.id = b.id → a = b
  lifecycleFresh : ∀ a ∈ w.lifecycles, a.id < w.next
  alone : ∀ lifecycle ∈ w.lifecycles, w.held lifecycle.identity = false
  bound : ∀ lifecycle ∈ w.lifecycles, ∀ user ∈ w.users, user.clerkId = lifecycle.identity.subject →
    ∃ issuer, user.clerkIssuer = some issuer ∧
      (issuer = lifecycle.identity.issuer → lifecycle.userId = some user.id)

namespace Fences
variable {id claimedAt : ℕ} {issuer : Option String} {leaseSeconds : ℕ} {subject : String}

lemma lifecycleOf_spec (hit : w.lifecycleOf id = some row) : row ∈ w.lifecycles ∧ row.id = id :=
  ⟨mem_of_find?_eq_some hit, by simpa using List.find?_some hit⟩

lemma rebind {issuer} (fences : Fences w) (rebinds : Rebinds w issuer user) : Fences (putUser w (some user)) := by
  obtain ⟨old, was, id, key, same⟩ := rebinds.stored
  have apart : ∀ alt ∈ w.users, alt.clerkId ≠ user.clerkId → alt.id ≠ user.id := by
    intro alt mem different equal
    have rows := fences.userIds alt mem old was (equal.trans id.symm)
    exact different (by rw [rows, key])
  refine ⟨?_, ?_, fences.lifecycleIds, fences.lifecycleFresh, fences.alone, ?_⟩
  · intro a memberA b memberB equal
    rcases mem_put.mp memberA with rfl | ⟨inA, differA⟩
    · rcases mem_put.mp memberB with rfl | ⟨inB, differB⟩
      · rfl
      · exact absurd equal.symm (apart b inB differB)
    · rcases mem_put.mp memberB with rfl | ⟨inB, differB⟩
      · exact absurd equal (apart a inA differA)
      · exact fences.userIds a inA b inB equal
  · intro a mem
    rcases mem_put.mp mem with rfl | ⟨mem, _⟩
    · have bound := fences.userFresh old was
      show a.id < w.next
      omega
    · exact fences.userFresh a mem
  · intro lifecycle fenced a mem subject
    rcases mem_put.mp mem with rfl | ⟨mem, _⟩
    · obtain ⟨issuer, known, owner⟩ := fences.bound lifecycle fenced old was (key.trans subject)
      rcases same with rfl | ⟨legacy, _⟩
      · exact ⟨issuer, known, owner⟩
      · rw [legacy] at known
        cases known
    · exact fences.bound lifecycle fenced a mem subject

lemma putUser {loaded issuer} (fences : Fences w)
    (rebinds : ∀ user, loaded = some user → Rebinds w issuer user) : Fences (Principals.putUser w loaded) := by
  cases loaded with
  | none => exact fences
  | some user => exact fences.rebind (rebinds user rfl)

lemma putLifecycle (row : PrincipalLifecycle) (fences : Fences w) (was : lifecycle ∈ w.lifecycles)
    (id : row.id = lifecycle.id) (key : row.identity = lifecycle.identity)
    (uid : row.userId = lifecycle.userId) {next : ℕ} (later : w.next ≤ next) :
    Fences { w with lifecycles := w.lifecycles.put row, next := next } := by
  have pre : ∀ a ∈ w.lifecycles.put row, ∃ b ∈ w.lifecycles, b.id = a.id ∧
      b.identity = a.identity ∧ b.userId = a.userId := by
    intro a mem
    rcases mem_put.mp mem with rfl | ⟨mem, _⟩
    · exact ⟨lifecycle, was, id.symm, key.symm, uid.symm⟩
    · exact ⟨a, mem, rfl, rfl, rfl⟩
  refine ⟨fences.userIds, ?_, ?_, ?_, ?_, ?_⟩
  · intro a mem
    exact (fences.userFresh a mem).trans_le later
  · intro a memberA b memberB equal
    obtain ⟨c, memberC, idC, keyC, _⟩ := pre a memberA
    obtain ⟨d, memberD, idD, keyD, _⟩ := pre b memberB
    have rows := fences.lifecycleIds c memberC d memberD (idC.trans (equal.trans idD.symm))
    exact eq_of_key memberA memberB (by rw [← keyC, ← keyD, rows])
  · intro a mem
    obtain ⟨b, memberB, idB, _, _⟩ := pre a mem
    have bound := fences.lifecycleFresh b memberB
    show a.id < next
    omega
  · intro a mem
    obtain ⟨b, memberB, _, keyB, _⟩ := pre a mem
    rw [← keyB]
    exact fences.alone b memberB
  · intro a mem user inside subject
    obtain ⟨b, memberB, _, keyB, userB⟩ := pre a mem
    rw [← keyB] at subject ⊢
    rw [← userB]
    exact fences.bound b memberB user inside subject

lemma ofRequests {requests} (fences : Fences w)
    (allowed : ∀ req ∈ requests, req ∈ w.requests ∨ w.fenced req.identity = false) :
    Fences { w with requests := requests } := by
  refine ⟨fences.userIds, fences.userFresh, fences.lifecycleIds, fences.lifecycleFresh, ?_, fences.bound⟩
  intro lifecycle mem
  have pre := fences.alone lifecycle mem
  simp only [World.held, any_eq_false, decide_eq_true_eq] at pre ⊢
  intro req inside same
  rcases allowed req inside with old | free
  · exact pre req old same
  · rw [same, World.fenced, get_key mem] at free
    exact absurd free Bool.noConfusion

lemma finish (fences : Fences w) (id : ℕ) : Fences (w.finish id) := by
  apply fences.ofRequests
  intro req mem
  exact .inl (mem_of_mem_filter mem)

lemma addLifecycle (fences : Fences w) (id : row.id = w.next) (alone : w.held row.identity = false)
    (owner : ∀ user ∈ w.users, user.clerkId = row.identity.subject → ∃ issuer, user.clerkIssuer = some issuer ∧
        (issuer = row.identity.issuer → row.userId = some user.id))
    (rcpts : Table ClerkWebhookEventReceipt.messageId) :
    Fences { w with lifecycles := w.lifecycles.put row, receipts := rcpts, next := w.next + 1 } := by
  have apart : ∀ alt ∈ w.lifecycles, alt.id ≠ row.id := by
    intro alt mem
    have bound := fences.lifecycleFresh alt mem
    omega
  refine ⟨fences.userIds, ?_, ?_, ?_, ?_, ?_⟩
  · intro a mem
    exact (fences.userFresh a mem).trans (lt_succ_self _)
  · intro a memberA b memberB equal
    rcases mem_put.mp memberA with rfl | ⟨inA, _⟩
    · rcases mem_put.mp memberB with rfl | ⟨inB, _⟩
      · rfl
      · exact absurd equal.symm (apart b inB)
    · rcases mem_put.mp memberB with rfl | ⟨inB, _⟩
      · exact absurd equal (apart a inA)
      · exact fences.lifecycleIds a inA b inB equal
  · intro a mem
    rcases mem_put.mp mem with rfl | ⟨inA, _⟩
    · show a.id < w.next + 1
      omega
    · exact (fences.lifecycleFresh a inA).trans (lt_succ_self _)
  · intro a mem
    rcases mem_put.mp mem with rfl | ⟨inA, _⟩
    · exact alone
    · exact fences.alone a inA
  · intro a mem
    rcases mem_put.mp mem with rfl | ⟨inA, _⟩
    · exact owner
    · exact fences.bound a inA

lemma deliver {ev} (fences : Fences w) (done : projectClerkUserAuthority set w ev = .ok after) : Fences after := by
  simp only [projectClerkUserAuthority, bind_eq_ok] at done
  obtain ⟨_, _, done⟩ := done
  split at done
  · cases done
    exact fences
  · split at done
    · cases done
      exact fences
    · simp only [bind_eq_ok, pure_eq_ok] at done
      obtain ⟨loaded, isLoaded, rfl⟩ := done
      have wrote : Fences { w with authorities := w.authorities.put ev.row } :=
        ⟨fences.userIds, fences.userFresh, fences.lifecycleIds, fences.lifecycleFresh, fences.alone, fences.bound⟩
      apply wrote.putUser
      intro user isUser
      rw [isUser] at isLoaded
      exact ⟨(loadClerkUser_spec isLoaded).1.stored⟩

lemma suspend {cmd} (fences : Fences w)
    (done : setClerkPrincipalSuspension set w cmd = .ok after) : Fences after := by
  have wrote : ∀ suspensions, Fences { w with suspensions := suspensions } := fun suspensions =>
    ⟨fences.userIds, fences.userFresh, fences.lifecycleIds, fences.lifecycleFresh, fences.alone, fences.bound⟩
  simp only [setClerkPrincipalSuspension, bind_eq_ok] at done
  obtain ⟨_, _, _, _, done⟩ := done
  split at done
  · cases done
    exact wrote _
  · simp only [bind_eq_ok, pure_eq_ok] at done
    obtain ⟨_, _, rfl⟩ := done
    exact wrote _

lemma fence {ev : DeletionEvent} (fences : Fences w) (alone : w.held ev.identity = false)
    (done : fenceClerkUserDeleted set w ev = .ok after) : Fences after := by
  have rcpts : ∀ rcpts, Fences { w with receipts := rcpts } := fun rcpts =>
    ⟨fences.userIds, fences.userFresh, fences.lifecycleIds, fences.lifecycleFresh, fences.alone, fences.bound⟩
  simp only [fenceClerkUserDeleted, bind_eq_ok] at done
  obtain ⟨_, _, done⟩ := done
  split at done
  · simp only [bind_eq_ok, pure_eq_ok] at done
    obtain ⟨_, _, rfl⟩ := done
    exact fences
  · split at done
    · cases done
      exact rcpts _
    · simp only [bind_eq_ok, pure_eq_ok] at done
      obtain ⟨loaded, isLoaded, rfl⟩ := done
      -- first the user row is bound, then the fence is written beside it
      have rebound : Fences (Principals.putUser w loaded) := by
        apply fences.putUser
        intro user isUser
        rw [isUser] at isLoaded
        exact (loadClerkUser_spec isLoaded).1
      have owner : ∀ user ∈ (Principals.putUser w loaded).users, user.clerkId = ev.identity.subject →
          ∃ issuer, user.clerkIssuer = some issuer ∧
            (issuer = ev.identity.issuer → loaded.map (fun user => user.id) = some user.id) := by
        intro user mem subject
        cases loaded with
        | none =>
          obtain ⟨issuer, known, foreign⟩ := loadClerkUser_none isLoaded mem subject
          exact ⟨issuer, known, fun same => absurd same foreign⟩
        | some bound =>
          have key := (loadClerkUser_spec isLoaded).2
          have same : user = bound := eq_of_key mem (mem_put_self _ _) (subject.trans key.symm)
          subst same
          exact ⟨ev.identity.issuer, loadClerkUser_bound isLoaded, fun _ => rfl⟩
      have next : (Principals.putUser w loaded).next = w.next := by cases loaded <;> rfl
      have added := @addLifecycle _ ⟨w.next, ev.identity, loaded.map fun user => user.id,
        ev.eventOccurredAt, 0, none, some ev.now, none, none⟩ rebound next.symm
        (by cases loaded <;> exact alone) owner
        (w.receipts.put ⟨ev.messageId, w.next, ev.payloadSha256, ev.eventOccurredAt⟩)
      cases loaded <;> exact added

lemma dueCleanup_spec {locked : List ℕ} (due : dueCleanup w claimedAt leaseSeconds locked = some row) :
    row ∈ w.lifecycles ∧ row.claimable claimedAt leaseSeconds = true := by
  obtain ⟨mem, sel⟩ := mem_select.mp (mem_of_head? due)
  rw [Bool.and_eq_true] at sel
  exact ⟨mem, sel.1⟩

lemma countAttempt_same (row : PrincipalLifecycle) :
    row.countAttempt.id = row.id ∧ row.countAttempt.identity = row.identity ∧
      row.countAttempt.userId = row.userId := by
  unfold PrincipalLifecycle.countAttempt
  split <;> exact ⟨rfl, rfl, rfl⟩

lemma claim {locked : List ℕ} (fences : Fences w) :
    Fences (claimPrincipalCleanup w claimedAt leaseSeconds locked) := by
  unfold claimPrincipalCleanup
  split
  · exact fences
  · rename_i row due
    exact putLifecycle (row.claim w.next claimedAt) fences (dueCleanup_spec due).1 rfl rfl rfl (le_succ _)

lemma complete {lifecycleId now : ℕ} {exp : Option ℕ} {fails} (fences : Fences w)
    (done : completePrincipalCleanup w lifecycleId exp now fails = .ok after) : Fences after := by
  unfold completePrincipalCleanup at done
  split at done
  · cases done
  · rename_i row hit
    split at done
    · cases done
      exact fences
    · simp only [bind_eq_ok, pure_eq_ok] at done
      obtain ⟨_, _, _, _, rfl⟩ := done
      obtain ⟨id, key, uid⟩ := countAttempt_same row
      exact putLifecycle (row.countAttempt.markCleanupComplete now) fences (lifecycleOf_spec hit).1 id key uid le_rfl

lemma fail (lifecycleId now : ℕ) (exp : Option ℕ) (fences : Fences w) :
    Fences (recordPrincipalCleanupFailure w lifecycleId exp now) := by
  unfold recordPrincipalCleanupFailure
  split
  · exact fences
  · rename_i row hit
    split
    · exact fences
    · obtain ⟨id, key, uid⟩ := countAttempt_same row
      exact putLifecycle { row.countAttempt with
        nextCleanupAttemptAt := some (now + backoffSeconds row.countAttempt.cleanupAttempts)
        cleanupClaimId := none
        cleanupClaimedAt := none } fences (lifecycleOf_spec hit).1 id key uid le_rfl

lemma not_fenced_of_assert {resolved}
    (active : assertClerkPrincipalActive w (some set) issuer subject = .ok (some resolved)) :
    w.fenced ⟨resolved, subject⟩ = false := by
  unfold assertClerkPrincipalActive at active
  cases chosen : issuer.or (some set) with
  | none => cases issuer <;> simp at chosen
  | some name =>
    simp only [chosen, bind_eq_ok, pure_eq_ok, Option.some.injEq] at active
    obtain ⟨_, free, _, _, _, _, rfl⟩ := active
    rw [raiseIf_eq_ok] at free
    simpa using free

lemma begin {req : ℕ} (fences : Fences w)
    (done : perform set w (.begin req issuer subject) = .ok after) : Fences after := by
  simp only [Principals.perform] at done
  split at done
  · rename_i resolved active
    cases done
    apply fences.ofRequests
    intro alt mem
    rcases mem_cons.mp mem with rfl | pre
    · exact .inr (not_fenced_of_assert active)
    · exact .inl pre
  · cases done
    exact fences
  · cases done

lemma requestOf_held {req} (hit : w.requestOf id = some req) : w.held req.identity = true := by
  rw [World.held, any_eq_true]
  exact ⟨req, mem_of_find?_eq_some hit, by simp⟩

lemma create (fences : Fences w) (done : perform set w (.create id) = .ok after) : Fences after := by
  simp only [Principals.perform] at done
  split at done
  · cases done
    exact fences
  · rename_i req hit
    have fin := fences.finish id
    split at done
    · cases done
      exact fin
    · cases done
      have apart : ∀ alt ∈ w.users, alt.id ≠ w.next := by
        intro alt mem
        have bound := fences.userFresh alt mem
        omega
      refine ⟨?_, ?_, fences.lifecycleIds, ?_, fin.alone, ?_⟩
      · intro a memberA b memberB equal
        rcases mem_put.mp memberA with rfl | ⟨inA, _⟩
        · rcases mem_put.mp memberB with rfl | ⟨inB, _⟩
          · rfl
          · exact absurd equal.symm (apart b inB)
        · rcases mem_put.mp memberB with rfl | ⟨inB, _⟩
          · exact absurd equal (apart a inA)
          · exact fences.userIds a inA b inB equal
      · intro a mem
        rcases mem_put.mp mem with rfl | ⟨inA, _⟩
        · exact lt_succ_self _
        · exact (fences.userFresh a inA).trans (lt_succ_self _)
      · intro a mem
        exact (fences.lifecycleFresh a mem).trans (lt_succ_self _)
      · intro lifecycle mem user inside subject
        rcases mem_put.mp inside with rfl | ⟨old, _⟩
        · refine ⟨req.identity.issuer, rfl, ?_⟩
          intro same
          -- the principal the request shares is not fenced
          have key : lifecycle.identity = req.identity := Identity.ext same.symm subject.symm
          have free := fences.alone lifecycle mem
          rw [key, requestOf_held hit] at free
          exact absurd free.symm Bool.false_ne_true
        · exact fences.bound lifecycle mem user old subject

lemma bind (fences : Fences w) (done : perform set w (.bind id) = .ok after) : Fences after := by
  simp only [Principals.perform] at done
  split at done
  · cases done
    exact fences
  · have fin := fences.finish id
    split at done
    · rename_i loaded isLoaded
      cases done
      apply fin.putUser
      intro user isUser
      rw [isUser] at isLoaded
      exact ⟨(loadClerkUser_spec isLoaded).1.stored⟩
    · cases done
      exact fin

lemma perform {op : Op} (fences : Fences w) (free : (op.exclusive w).any w.held = false)
    (done : perform set w op = .ok after) : Fences after := by
  cases op with
  | deliver ev => exact fences.deliver done
  | suspend cmd => exact fences.suspend done
  | fence ev => exact fences.fence free done
  | claim claimedAt leaseSeconds locked =>
    cases done
    exact fences.claim
  | complete lifecycleId exp now fails => exact fences.complete done
  | fail lifecycleId exp now =>
    cases done
    exact fences.fail lifecycleId now exp
  | begin req issuer subject => exact fences.begin done
  | create id => exact fences.create done
  | bind id => exact fences.bind done
  | abort id =>
    cases done
    exact fences.finish id

lemma step (fences : Fences w) (op : Op) : Fences (step set w op) := by
  unfold Principals.step
  split
  · exact fences
  · rename_i free
    cases done : Principals.perform set w op with
    | ok after => exact fences.perform (by simpa using free) done
    | error refusal => exact fences

end Fences
end Clawdi.Principals
