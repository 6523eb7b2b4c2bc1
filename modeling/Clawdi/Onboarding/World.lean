import Clawdi.Onboarding.Requests
import Mathlib.Logic.Function.Basic
import Mathlib.Data.List.Range

namespace Clawdi.Onboarding
open Function (update)

/-- What a request has in its database session: its copies of sessions, as loaded and as edited. -/
structure Local where
  copies : ℕ → Option (Session × Session) := fun _ => none
  locks : List (ℕ × Session) := []
  reported : List ℕ := []

namespace Local
variable (l : Local) (id : ℕ) (row : Session)

def load : Session :=
  match l.copies id with
  | some copy => copy.2
  | none => row

def keep (l : Local) (id : ℕ) (row : Session) : Local :=
  match l.copies id with
  | some _ => l
  | none => { l with copies := update l.copies id (some (row, row)) }

def lock : Local :=
  { l.keep id row with locks := (id, row) :: l.locks }

def set (change : Change) : Local :=
  { l with
    copies := update l.copies id
      ((l.copies id).map fun copy => (copy.1, change.apply copy.2)) }

def commit : Local where
  copies id := (l.copies id).map fun copy => (copy.2, copy.2)

def create (sess : Session) : Local where
  copies := update l.commit.copies id (some (sess, sess))

def report (sidecar : ℕ) (pairing : PairingStatus) : Local :=
  if pairing.released then { l with reported := sidecar :: l.reported } else l

def dirty : Bool :=
  match l.copies id with
  | some copy => copy.1 ≠ copy.2
  | none => false

def flush : Session :=
  match l.copies id with
  | none => row
  | some (loaded, edited) =>
    { row with
      state := if edited.state = loaded.state then row.state else edited.state
      channelAccount :=
        if edited.channelAccount = loaded.channelAccount then row.channelAccount
        else edited.channelAccount
      expiresAt :=
        if edited.expiresAt = loaded.expiresAt then row.expiresAt else edited.expiresAt }

end Local

def Exclusive (one alt : Session) : Prop :=
  one.state.open → alt.state.open → one.sidecarAccountId ≠ alt.sidecarAccountId ∧
      ¬(one.userId = alt.userId ∧ one.name = alt.name)
deriving Decidable

def Unique (sessions : List Session) : Prop := sessions.Pairwise Exclusive

instance (sessions : List Session) : Decidable (Unique sessions) :=
  inferInstanceAs (Decidable (sessions.Pairwise Exclusive))

structure Process where
  call : Call
  memory : Local := {}
  program : Program Op Res (Except Stop Unit) := call.request.run

/-- The committed sessions, their locks, the allocation lock and the requests under way. -/
structure World (π : Type) where
  sessions : List Session := []
  rowLocks : ℕ → Option π := fun _ => none
  allocation : Option π := none
  processes : π → Option Process := fun _ => none

structure Answer where
  row : Option ℕ := none
  capabilities : Except SidecarFailure Capabilities := .error .unavailable
  health : Except SidecarFailure Health := .error .unavailable
  pairing : Except SidecarFailure PairingStatus := .error .unavailable
  holds : Bool := true
  number : ℕ := 0

inductive Event (π : Type) where
  | call (p : π) (call : Call)
  | proceed (p : π) (ans : Answer)
  /-- A request stops anywhere. -/
  | abort (p : π)

structure Turn (π α : Type) where
  result : α
  memory : Local
  world : World π

variable {π : Type} [DecidableEq π]
namespace World
variable (w : World π) (p : π)

def release : World π :=
  { w with
    rowLocks := fun id => if w.rowLocks id = some p then none else w.rowLocks id
    allocation := if w.allocation = some p then none else w.allocation }

def setProcess (proc : Option Process) : World π :=
  { w with processes := update w.processes p proc }

def finish : World π := (w.release p).setProcess p none

def taken (id : ℕ) : Bool :=
  match w.rowLocks id with
  | some holder => holder ≠ p
  | none => false

/-- An operation of a request. -/
def execute (l : Local) (ans : Answer) : (op : Op) → Option (Turn π (Res op))
  | .find query =>
    match ans.row with
    | some id => (w.sessions[id]?.filter query).map fun row =>
        ⟨some (id, l.load id row), l.keep id row, w⟩
    | none => if w.sessions.any query then none else some ⟨none, l, w⟩
  | .exist query => some ⟨w.sessions.any query, l, w⟩
  | .list query => some ⟨(List.range w.sessions.length).filter fun id => w.sessions[id]?.any query, l, w⟩
  | .lock id query skipLocked =>
    if w.taken p id then if skipLocked then some ⟨none, l, w⟩ else none
    else match w.sessions[id]?.filter query with
      | none => some ⟨none, l, w⟩
      | some row => some ⟨some (l.load id row), l.lock id row,
          { w with rowLocks := update w.rowLocks id (some p) }⟩
  | .lockAllocation =>
    if w.allocation = none ∨ w.allocation = some p then
      some ⟨(), l, { w with allocation := some p }⟩
    else none
  | .insert sess =>
    if Unique (w.sessions ++ [sess]) ∧ ∀ alt ∈ w.sessions,
        ¬(alt.userId = sess.userId ∧ alt.requestId = sess.requestId) then
      some ⟨w.sessions.length, l.create w.sessions.length sess,
        { w.release p with sessions := w.sessions ++ [sess] }⟩
    else none
  | .set id change => some ⟨(), l.set id change, w⟩
  | .commit =>
    if (List.range w.sessions.length).any fun id => l.dirty id && w.taken p id then none
    else if Unique (w.sessions.mapIdx l.flush) then
      some ⟨(), l.commit, { w.release p with sessions := w.sessions.mapIdx l.flush }⟩
    else none
  | .rollback => some ⟨(), {}, w.release p⟩
  | .capabilities _ => some ⟨ans.capabilities, l, w⟩
  | .health _ => some ⟨ans.health, l, w⟩
  | .pairing sidecar _ =>
    match ans.pairing with
    | .ok pairing => some ⟨.ok pairing, l.report sidecar pairing, w⟩
    | .error err => some ⟨.error err, l, w⟩
  | .newAccount sidecar => some ⟨⟨ans.number, sidecar⟩, l, w⟩
  | .fresh | .now | .rounds => some ⟨ans.number, l, w⟩
  | .ask => some ⟨ans.holds, l, w⟩

def proceed (ans : Answer) : Process → World π
  | ⟨_, _, .done _⟩ => w.finish p
  | ⟨call, memory, .perform op next⟩ =>
    match w.execute p memory ans op with
    | none => w
    | some turn => turn.world.setProcess p (some ⟨call, turn.memory, next turn.result⟩)

def step (w : World π) : Event π → World π
  | .call p call => if w.processes p = none then w.setProcess p (some { call }) else w
  | .proceed p ans =>
    match w.processes p with
    | none => w
    | some proc => w.proceed p ans proc
  | .abort p => if w.processes p = none then w else w.finish p

end World
end Clawdi.Onboarding
