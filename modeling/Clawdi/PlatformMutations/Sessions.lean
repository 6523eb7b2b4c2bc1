import Clawdi.PlatformMutations.Mutations
import Clawdi.Lib.Table
import Clawdi.Lib.Transition
import Mathlib.Data.Prod.Lex

namespace Clawdi.PlatformMutations

structure Txn where
  locks : List Slot := []
  written : List Change := []
  audits : List Audit := []
  deleted : List Slot := []
  row : Option PlatformMutationIdempotency := none
  flushed : Bool := false

/-- A request's session; `user` and `found` remember what the owner's lookup and the lookup of
the key answered, `audited` that it has added an audit. -/
structure View where
  user : Option ℕ := none
  found : Option (Option PlatformMutationIdempotency) := none
  audited : Bool := false
  txn : Txn := {}

def View.answered (view : View) : (question : Question) → question.Answer → View
  | .findOwner _, .user user => { view with user := some user }
  | _, _ => view

def View.after (view : View) : (stmt : Statement) → stmt.Result → View
  | .ask question, ans => view.answered question ans
  | .write change, true => { view with txn := { view.txn with written := view.txn.written ++ [change] } }
  | .write _, false => view
  | .addAudit audit, _ =>
    { view with audited := true, txn := { view.txn with audits := view.txn.audits ++ [audit] } }
  | .lockKey slot, _ => { view with txn := { view.txn with locks := slot :: view.txn.locks } }
  | .findRow _, (row, now) => { view with found := some (row.filter fun row => now < row.expiresAt) }
  | .deleteRow slot, _ => { view with txn := { view.txn with deleted := slot :: view.txn.deleted } }
  | .addRow row, _ => { view with txn := { view.txn with row := some row } }
  | .flush, true => { view with txn := { view.txn with flushed := view.txn.row.isSome } }
  | .flush, false => view
  | .commit, _ | .rollback, _ => { view with txn := {} }

structure Process where
  id : ℕ
  request : MutationRequest
  program : Program Statement Statement.Result (Except HttpError Response)
  view : View

def Process.slot (proc : Process) : Slot := proc.request.slot

def Process.outcome (proc : Process) : Option (Except HttpError Response) :=
  match proc.program with
  | .done out => some out
  | .perform _ _ => none

def Process.close (proc : Process)
    (program : Program Statement Statement.Result (Except HttpError Response)) : Process :=
  let view := { proc.view with txn := {} }
  { proc with program, view }

def Process.after (proc : Process) {stmt : Statement} (res : stmt.Result)
    (program : Program Statement Statement.Result (Except HttpError Response)) : Process :=
  { proc with program, view := proc.view.after stmt res }

structure Stored where
  row : PlatformMutationIdempotency
  request : ℕ

def Stored.slot (was : Stored) : Slot := was.row.slot

/-- `effects` and `audits` are what requests have committed, `pruning` the rows that the pruning
transaction has chosen. -/
structure World where
  rows : Table Stored.slot := .empty
  effects : List (ℕ × Change) := []
  audits : List (ℕ × Audit) := []
  requests : Table Process.id := .empty
  pruning : List ℕ := []

namespace World
variable (w : World) (proc : Process)

def another (p : Process → Bool) : Bool := w.requests.rows.any fun alt => alt.id ≠ proc.id && p alt

def inserted (slot : Slot) (proc : Process) : Bool :=
  proc.view.txn.flushed && proc.view.txn.row.any fun row => row.slot = slot

def locked (slot : Slot) (proc : Process) : Bool := slot ∈ proc.view.txn.locks

def occupied (txn : Txn) (row : PlatformMutationIdempotency) : Bool :=
  (w.rows.get row.slot).isSome && row.slot ∉ txn.deleted

def commit : World :=
  let txn := proc.view.txn
  let kept := w.rows.remove fun was => was.slot ∈ txn.deleted
  { w with
    rows := match txn.row with
      | some row => kept.put ⟨row, proc.id⟩
      | none => kept
    effects := w.effects ++ txn.written.map fun change => (proc.id, change)
    audits := w.audits ++ txn.audits.map fun audit => (proc.id, audit) }

/-- The statement's result and what it commits; `none` while it waits for another transaction. -/
def execute (answers : (question : Question) → question.Answer) (now : ℕ) (conflict : Bool) :
    (stmt : Statement) → Option (stmt.Result × World)
  | .ask .now => some (now, w)
  | .ask question => some (answers question, w)
  | .write _ => some (!conflict, w)
  | .findRow slot => some (((w.rows.get slot).map Stored.row, now), w)
  | .lockKey slot => if w.another proc (locked slot) then none else some ((), w)
  | .flush =>
    match proc.view.txn.row with
    | none => some (!conflict, w)
    | some row =>
      if w.another proc (inserted row.slot) then none
      else some (!conflict && !w.occupied proc.view.txn row, w)
  | .commit => some ((), w.commit proc)
  | .addAudit _ | .deleteRow _ | .addRow _ | .rollback => some ((), w)

def perform (answers : (question : Question) → question.Answer) (now : ℕ) (conflict : Bool) : World :=
  match proc.program with
  | .done out => { w with requests := w.requests.put (proc.close (.done out)) }
  | .perform stmt next =>
    match w.execute proc answers now conflict stmt with
    | none => w
    | some (res, w') => { w' with requests := w'.requests.put (proc.after res (next res)) }

def crash : World :=
  { w with requests := w.requests.put (proc.close (.done (.error .internal))) }

end World

inductive Event where
  | arrive (id : ℕ) (req : MutationRequest)
  | perform (id : ℕ) (answers : (question : Question) → question.Answer) (now : ℕ)
    (conflict : Bool)
  | crash (id : ℕ)
  | pruneSelect (now limit : ℕ)
  | pruneDelete

variable (reqHash : PlatformOwner × Payload → ℕ)

def step (w : World) : Event → World
  | .arrive id req =>
    if (w.requests.get id).isSome then w
    else
      let program := (handle reqHash req).run
      { w with requests := w.requests.put ⟨id, req, program, {}⟩ }
  | .perform id answers now conflict =>
    match w.requests.get id with
    | none => w
    | some proc => w.perform proc answers now conflict
  | .crash id =>
    match w.requests.get id with
    | none => w
    | some proc => w.crash proc
  | .pruneSelect now limit =>
    let expired := w.rows.select (fun was => was.row.expiresAt < now)
      fun was => toLex (was.row.expiresAt, was.request)
    { w with pruning := (expired.take limit).map Stored.request }
  | .pruneDelete => { w with rows := w.rows.remove fun was => was.request ∈ w.pruning, pruning := [] }

def Retained (w : World) : Event → Prop
  | .perform _ _ now _ | .pruneSelect now _ => ∀ was ∈ w.rows, now < was.row.expiresAt
  | _ => True

instance Retained.decidable (w : World) : (ev : Event) → Decidable (Retained w ev)
  | .perform _ _ now _ | .pruneSelect now _ => inferInstanceAs (Decidable (∀ was ∈ w.rows, now < was.row.expiresAt))
  | .arrive _ _ | .crash _ | .pruneDelete => .isTrue trivial

end Clawdi.PlatformMutations
