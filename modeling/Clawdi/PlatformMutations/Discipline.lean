import Clawdi.PlatformMutations.Sessions

namespace Clawdi.PlatformMutations
open Program
variable (reqHash : PlatformOwner × Payload → ℕ) (req : MutationRequest)

def Allowed (view : View) : Statement → Prop
  | .ask (.findOwner _) => view.found = none
  | .findRow slot => slot = req.slot ∧ view.found = none
  | .write _ => view.found = some none
  | .addRow row => view.found = some none ∧ row.slot = req.slot ∧
      row.requestHash = reqHash req.payload ∧ row.ownerUserId = view.user
  | .commit => (view.txn.written = [] ∧ view.txn.row = none) ∨
      (view.txn.row ≠ none ∧ view.txn.flushed = true)
  | .deleteRow _ => False
  | _ => True

def Unexpired : (stmt : Statement) → stmt.Result → Prop
  | .findRow _, (row, now) => ∀ hit ∈ row, now < hit.expiresAt
  | _, _ => True

def rules : Rules View Statement Statement.Result where
  allowed := Allowed reqHash req
  gives view stmt res view' := Unexpired stmt res ∧ view' = view.after stmt res

def Final (outcome : Except HttpError Response) (view : View) : Prop :=
  match view.found with
  | none => ∃ error, outcome = .error error
  | some none => True
  | some (some row) => outcome = .error .internal ∨
      if row.requestHash = reqHash req.payload ∧ row.ownerUserId = view.user
      then outcome = .ok (replayResponse row.response) ∧ view.audited = false
      else outcome = .error idempotencyConflict

def Safe {α : Type} (handler : Handler α) (post : α → View → Prop) (view : View) : Prop :=
  Ensures (rules reqHash req) handler post (fun error => Final reqHash req (.error error)) view

variable {reqHash req} {α β : Type} {view : View} {user : ℕ}
variable {handler : Handler α} {f : α → Handler β} {post : α → View → Prop}

lemma safe_bind {post : β → View → Prop} : Safe reqHash req (handler >>= f) post view ↔
      Safe reqHash req handler (fun a => Safe reqHash req (f a) post) view :=
  ensures_bind

lemma safe_perform {stmt : Statement} {post : stmt.Result → View → Prop} (allowed : Allowed reqHash req view stmt)
    (next : ∀ res, Unexpired stmt res → post res (view.after stmt res)) :
    Safe reqHash req (perform stmt) post view := by
  refine ensures_operation.mpr ⟨allowed, ?_⟩
  rintro res _ ⟨unexpired, rfl⟩
  exact next res unexpired

lemma Safe.mono {later : α → View → Prop} (safe : Safe reqHash req handler post view)
    (implies : ∀ a view, post a view → later a view) : Safe reqHash req handler later view :=
  Ensures.mono safe implies fun _ _ holds => holds

lemma Safe.then {last : β → View → Prop} (safe : Safe reqHash req handler post view)
    (rest : ∀ a view, post a view → Safe reqHash req (f a) last view) : Safe reqHash req (handler >>= f) last view :=
  safe_bind.mpr (safe.mono rest)

variable {error : HttpError} {question : Question}

lemma safe_throw (final : Final reqHash req (.error error) view) : Safe reqHash req (throw error) post view := final

structure Working (user : ℕ) (view : View) : Prop where
  found : view.found = some none
  owner : view.user = some user
  row : view.txn.row = none

lemma Working.final (busy : Working user view) (outcome : Except HttpError Response) :
    Final reqHash req outcome view := by
  rw [Final, busy.found]
  trivial

def Question.Plain : Question → Prop
  | .findOwner _ => False
  | _ => True

lemma View.answered_plain (plain : question.Plain) (ans : question.Answer) : view.answered question ans = view := by
  cases question <;> first | exact plain.elim | rfl

lemma safe_ask {f : question.Answer → Handler α} (plain : question.Plain)
    (rest : ∀ ans, Safe reqHash req (f ans) post view) : Safe reqHash req (ask question >>= f) post view := by
  apply safe_perform
  · cases question <;> first | exact plain.elim | trivial
  · intro (ans : question.Answer) _
    have same : view.answered question ans = view := View.answered_plain plain ans
    have safe := rest ans
    rw [← same] at safe
    exact safe

lemma safe_flush {post : Unit → View → Prop} (fails : Final reqHash req (.error .internal) view)
    (next : post () (view.after .flush true)) : Safe reqHash req flush post view := by
  rw [flush, safe_bind]
  apply safe_perform
  · exact trivial
  rintro (_ | _) _
  · exact safe_throw fails
  · exact next

def Works (reqHash : PlatformOwner × Payload → ℕ) (req : MutationRequest) (user : ℕ) (handler : Handler α) : Prop :=
  ∀ view, Working user view → Safe reqHash req handler (fun _ => Working user) view

lemma Works.bind (works : Works reqHash req user handler)
    (rest : ∀ a, Works reqHash req user (f a)) : Works reqHash req user (handler >>= f) :=
  fun view busy => (works view busy).then fun a view' => rest a view'

lemma works_pure (a : α) : Works reqHash req user (pure a) := fun _ busy => busy

lemma works_throw (error : HttpError) : Works reqHash req user (throw error : Handler α) :=
  fun _ busy => safe_throw (busy.final _)

lemma works_ask {f : question.Answer → Handler α} (plain : question.Plain)
    (rest : ∀ ans, Works reqHash req user (f ans)) : Works reqHash req user (ask question >>= f) :=
  fun view busy => safe_ask plain fun ans => rest ans view busy

variable (id : ℕ) (change : Change)

lemma works_change : Works reqHash req user (perform (.write change)) := by
  intro view busy
  apply safe_perform
  · exact busy.found
  · rintro (_ | _) _
    · exact busy
    · exact ⟨busy.found, busy.owner, busy.row⟩

lemma works_flushed : Works reqHash req user (perform .flush) := by
  intro view busy
  apply safe_perform
  · exact trivial
  · rintro (_ | _) _
    · exact busy
    · exact ⟨busy.found, busy.owner, busy.row⟩

lemma works_flush : Works reqHash req user flush :=
  fun _ busy => safe_flush (busy.final _) ⟨busy.found, busy.owner, busy.row⟩

lemma works_rollback : Works reqHash req user (perform .rollback) := by
  intro view busy
  apply safe_perform
  · exact trivial
  · intro _ _
    exact ⟨busy.found, busy.owner, rfl⟩

lemma works_write : Works reqHash req user (write change) := by
  apply (works_change change).bind
  intro kept
  split
  · exact works_throw _
  · exact works_pure _

lemma works_writeIf (condition : Prop) [Decidable condition] (change : Change) :
    Works reqHash req user (writeIf condition change) := by
  rw [writeIf]
  split
  · exact works_write change
  · exact works_pure ()

lemma safe_assertUserAuthorityActive (busy : Working user view) (id : ℕ) :
    Safe reqHash req (assertUserAuthorityActive id) (fun _ later => later = view) view := by
  refine safe_ask trivial fun active => ?_
  split
  · exact safe_throw (busy.final _)
  · rfl

lemma works_reactivateAgentAndProject (aid : ℕ) : Works reqHash req user (reactivateAgentAndProject id aid) := by
  refine works_ask trivial fun provable => ?_
  split
  · apply (works_write _).bind
    intro _
    apply (works_write _).bind
    intro _
    exact works_write _
  · exact works_throw _

lemma works_refreshAgentEnvironment (agent : AgentEnvironment) (body : PlatformAgentCreate) :
    Works reqHash req user (refreshAgentEnvironment id agent body) := by
  apply (works_write _).bind
  intro _
  split
  · refine works_ask trivial fun proj => ?_
    apply (works_write _).bind
    intro _
    apply (works_write _).bind
    intro _
    apply (works_write _).bind
    intro _
    exact works_write _
  · exact works_write _

lemma works_createAgentRows (sortOrder : ℕ) (body : PlatformAgentCreate) (name : Option String) :
    Works reqHash req user (createAgentRows id sortOrder body name) := by
  have goesOn : ∀ (change : Change) (rest : Handler Bool), Works reqHash req user rest →
      Works reqHash req user (do
        let kept : Bool ← perform (.write change)
        if kept = false then return false
        rest) := by
    intro change rest works
    apply (works_change change).bind
    intro kept
    split
    · exact works_pure _
    · exact works
  refine works_ask trivial fun proj => ?_
  apply goesOn
  apply goesOn
  apply goesOn
  apply goesOn
  apply goesOn
  apply goesOn
  exact works_flushed

structure Unwritten (user : ℕ) (view : View) : Prop extends Working user view where
  written : view.txn.written = []

lemma safe_reject {res} {id : Option ℕ} (wrote : view.txn.written = []) (row : view.txn.row = none)
    (final : ∀ later : View, later.found = view.found → later.user = view.user →
      Final reqHash req (.error error) later ∧ Final reqHash req (.error .internal) later) :
    Safe reqHash req (reject req id error res : Handler α) post view := by
  rw [reject, recordPlatformAudit, commitSession, safe_bind]
  apply safe_perform
  · exact trivial
  intro _ _
  rw [safe_bind, safe_bind]
  apply safe_flush
  · exact (final (view.after (.addAudit _) _) rfl rfl).2
  · apply safe_perform
    · exact .inl ⟨wrote, row⟩
    · intro _ _
      exact (final (((view.after (.addAudit _) _).after .flush true).after .commit _) rfl rfl).1

lemma Unwritten.reject {res} {id : Option ℕ} {post : α → View → Prop}
    (unwritten : Unwritten user view) : Safe reqHash req (reject req id error res : Handler α) post view := by
  apply safe_reject unwritten.written unwritten.row
  intro later hit _
  rw [Final, Final, hit, unwritten.found]
  exact ⟨trivial, trivial⟩

end Clawdi.PlatformMutations
