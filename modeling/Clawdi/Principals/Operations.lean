import Clawdi.Lib.Outcome
import Clawdi.Lib.Table
import Mathlib

namespace Clawdi.Principals

inductive Refusal where
  | terminated
  | suspended
  | identityConflict
  | webhookConflict
  | claimLost
  | lifecycleDisappeared
  | cleanupFailed

@[ext]
structure Identity where
  issuer : String
  subject : String
  deriving DecidableEq

structure User where
  id : ℕ
  clerkId : String
  clerkIssuer : Option String
  deriving DecidableEq

def User.identity? (user : User) : Option Identity := user.clerkIssuer.map fun issuer => ⟨issuer, user.clerkId⟩

structure PrincipalLifecycle where
  id : ℕ
  identity : Identity
  userId : Option ℕ
  terminatedAt : ℕ
  cleanupAttempts : ℕ
  cleanupCompletedAt : Option ℕ
  nextCleanupAttemptAt : Option ℕ
  cleanupClaimId : Option ℕ
  cleanupClaimedAt : Option ℕ

structure ClerkPrincipalAuthority where
  identity : Identity
  banned : Bool
  authorityUpdatedAt : ℕ
  messageId : String
  payloadSha256 : String

structure ClerkPrincipalSuspension where
  identity : Identity
  userId : Option ℕ
  suspendedAt : ℕ
  reason : String

structure ClerkWebhookEventReceipt where
  messageId : String
  lifecycleId : ℕ
  payloadSha256 : String
  eventOccurredAt : ℕ

structure Request where
  id : ℕ
  identity : Identity

structure World where
  users : Table User.clerkId
  lifecycles : Table PrincipalLifecycle.identity
  authorities : Table ClerkPrincipalAuthority.identity
  suspensions : Table ClerkPrincipalSuspension.identity
  receipts : Table ClerkWebhookEventReceipt.messageId
  requests : List Request
  next : ℕ

namespace World
variable (w : World) (ident : Identity)

def fenced : Bool := (w.lifecycles.get ident).isSome
def banned : Bool := (w.authorities.get ident).any fun auth => auth.banned
def held : Bool := w.requests.any fun req => req.identity = ident
def lifecycleOf (id : ℕ) : Option PrincipalLifecycle := w.lifecycles.rows.find? fun row => row.id = id

end World

section
variable (w : World)

def assertClerkPrincipalActive (set issuer : Option String) (subject : String) : Except Refusal (Option String) := do
  match issuer.or set with
  | none =>
    -- a PEM-only deployment still honours what was stored under an earlier issuer
    raiseIf (w.lifecycles.rows.any fun row => row.identity.subject = subject) .terminated
    raiseIf (w.suspensions.rows.any fun row => row.identity.subject = subject) .suspended
    return none
  | some issuer =>
    raiseIf (w.fenced ⟨issuer, subject⟩) .terminated
    raiseIf ((w.suspensions.get ⟨issuer, subject⟩).isSome) .suspended
    raiseIf (w.banned ⟨issuer, subject⟩) .suspended
    return some issuer

def userSuspended (user : User) : Bool :=
  w.suspensions.rows.any fun row => row.userId = some user.id || user.identity? = some row.identity

def userDisabled (user : User) : Bool :=
  w.lifecycles.rows.any (fun row => row.userId = some user.id) ||
    w.authorities.rows.any fun row => user.identity? = some row.identity && row.banned

def assertUserAuthorityActive (uid : ℕ) : Except Refusal Unit :=
  match w.users.rows.find? fun user => user.id = uid with
  | none => .error .terminated
  | some user => do
    raiseIf (userSuspended w user) .suspended
    raiseIf (userDisabled w user) .terminated

def loadClerkUserForIssuer (ident : Identity) (bindLegacy allowIssuerMismatch : Bool) :
    Except Refusal (Option User) :=
  match w.users.get ident.subject with
  | none => .ok none
  | some user =>
    match user.clerkIssuer with
    | some issuer =>
      if issuer = ident.issuer then .ok (some user)
      else if allowIssuerMismatch then .ok none
      else .error .identityConflict
    | none => .ok (some (if bindLegacy then { user with clerkIssuer := some ident.issuer } else user))

end

/-- A signed `user.updated` event, reduced to what it says about the ban. -/
structure AuthorityEvent where
  identity : Identity
  banned : Bool
  authorityUpdatedAt : ℕ
  messageId : String
  payloadSha256 : String

def putUser (w : World) (user : Option User) : World :=
  match user with
  | none => w
  | some user => { w with users := w.users.put user }

variable (set : String) (ev : AuthorityEvent)

def AuthorityEvent.row : ClerkPrincipalAuthority :=
  ⟨ev.identity, ev.banned, ev.authorityUpdatedAt, ev.messageId, ev.payloadSha256⟩

def projectClerkUserAuthority (w : World) (ev : AuthorityEvent) : Except Refusal World := do
  raiseIf (ev.identity.issuer ≠ set) .identityConflict
  if w.fenced ev.identity then return w
  if (w.authorities.get ev.identity).any fun row => ev.authorityUpdatedAt ≤ row.authorityUpdatedAt then
    return w
  let user ← loadClerkUserForIssuer w ev.identity true false
  return putUser { w with authorities := w.authorities.put ev.row } user

structure SuspensionCommand where
  identity : Identity
  suspended : Bool
  reason : String
  now : ℕ

def setClerkPrincipalSuspension (w : World) (cmd : SuspensionCommand) : Except Refusal World := do
  raiseIf (cmd.identity.issuer ≠ set) .identityConflict
  raiseIf (w.fenced cmd.identity ∧ cmd.suspended) .terminated
  if cmd.suspended = false then
    return { w with suspensions := w.suspensions.remove fun row => row.identity = cmd.identity }
  let user ← loadClerkUserForIssuer w cmd.identity false true
  let suspendedAt := ((w.suspensions.get cmd.identity).map fun row => row.suspendedAt).getD cmd.now
  return { w with suspensions :=
    w.suspensions.put ⟨cmd.identity, user.map fun user => user.id, suspendedAt, cmd.reason⟩ }

/-- A signed `user.deleted` event. -/
structure DeletionEvent where
  identity : Identity
  messageId : String
  payloadSha256 : String
  eventOccurredAt : ℕ
  now : ℕ

def fenceClerkUserDeleted (w : World) (ev : DeletionEvent) : Except Refusal World := do
  raiseIf (ev.identity.issuer ≠ set) .identityConflict
  match w.receipts.get ev.messageId with
  | some rcpt =>
    raiseIf (¬((w.lifecycleOf rcpt.lifecycleId).any fun row => row.identity = ev.identity) ∨
      rcpt.payloadSha256 ≠ ev.payloadSha256) .webhookConflict
    return w
  | none =>
    let rcpt := fun lifecycleId : ℕ => ClerkWebhookEventReceipt.mk ev.messageId lifecycleId
      ev.payloadSha256 ev.eventOccurredAt
    match w.lifecycles.get ev.identity with
    | some lifecycle => return { w with receipts := w.receipts.put (rcpt lifecycle.id) }
    | none =>
      -- the row is locked again before it is bound, and may belong to another issuer by then
      let user ← loadClerkUserForIssuer w ev.identity true true
      let lifecycle : PrincipalLifecycle := ⟨w.next, ev.identity, user.map fun user => user.id,
        ev.eventOccurredAt, 0, none, some ev.now, none, none⟩
      return putUser { w with
        lifecycles := w.lifecycles.put lifecycle
        receipts := w.receipts.put (rcpt w.next)
        next := w.next + 1 } user

def cleanupBackoffCap : ℕ := 15 * 60

variable (row : PrincipalLifecycle)

def PrincipalLifecycle.markCleanupComplete (completedAt : ℕ) : PrincipalLifecycle :=
  { row with cleanupCompletedAt := some completedAt, nextCleanupAttemptAt := none,
             cleanupClaimId := none, cleanupClaimedAt := none }

def PrincipalLifecycle.countAttempt : PrincipalLifecycle :=
  if row.cleanupClaimId.isNone then { row with cleanupAttempts := row.cleanupAttempts + 1 } else row

variable (w : World) (claimedAt leaseSeconds : ℕ)
variable (row : PrincipalLifecycle) (lifecycleId : ℕ) (locked : List ℕ) (expectedClaimId : Option ℕ)

def completePrincipalCleanup (now : ℕ) (cleanupFails : Bool) : Except Refusal World :=
  match w.lifecycleOf lifecycleId with
  | none => .error .lifecycleDisappeared
  | some row => do
    if row.cleanupCompletedAt.isSome then return w
    raiseIf (expectedClaimId.isSome ∧ row.cleanupClaimId ≠ expectedClaimId) .claimLost
    let here := row.userId.any fun uid => w.users.rows.any fun user => user.id = uid
    raiseIf (here ∧ cleanupFails) .cleanupFailed
    return { w with lifecycles := w.lifecycles.put (row.countAttempt.markCleanupComplete now) }

def PrincipalLifecycle.claimable (claimedAt leaseSeconds : ℕ) : Bool :=
  row.cleanupCompletedAt.isNone &&
    match row.cleanupClaimId with
    | none => row.nextCleanupAttemptAt.any (· ≤ claimedAt)
    | some _ => row.cleanupClaimedAt.any fun pre => pre + leaseSeconds ≤ claimedAt

def PrincipalLifecycle.claim (claimId claimedAt : ℕ) : PrincipalLifecycle :=
  { row with cleanupClaimId := some claimId, cleanupClaimedAt := some claimedAt,
             cleanupAttempts := row.cleanupAttempts + 1 }

/-- The row that `SKIP LOCKED` leaves first; `locked` are the rows of other transactions. -/
def dueCleanup : Option PrincipalLifecycle :=
  (w.lifecycles.select (fun row => row.claimable claimedAt leaseSeconds && decide (row.id ∉ locked))
    fun row => toLex (row.nextCleanupAttemptAt.getD 0, row.id)).head?

def claimPrincipalCleanup : World :=
  match dueCleanup w claimedAt leaseSeconds locked with
  | none => w
  | some row => { w with lifecycles := w.lifecycles.put (row.claim w.next claimedAt), next := w.next + 1 }

def backoffSeconds (atts : ℕ) : ℕ := min (2 ^ min (atts - 1) 10) cleanupBackoffCap

def recordPrincipalCleanupFailure (now : ℕ) : World :=
  match w.lifecycleOf lifecycleId with
  | none => w
  | some row =>
    if row.cleanupCompletedAt.isSome ∨ (expectedClaimId.isSome ∧ row.cleanupClaimId ≠ expectedClaimId) ∨
        (expectedClaimId.isNone ∧ row.cleanupClaimId.isSome) then w
    else
      let counted := row.countAttempt
      { w with lifecycles := w.lifecycles.put { counted with
          nextCleanupAttemptAt := some (now + backoffSeconds counted.cleanupAttempts)
          cleanupClaimId := none
          cleanupClaimedAt := none } }

inductive Op where
  | deliver (ev : AuthorityEvent)
  | suspend (cmd : SuspensionCommand)
  | fence (ev : DeletionEvent)
  | claim (claimedAt leaseSeconds : ℕ) (locked : List ℕ)
  | complete (lifecycleId : ℕ) (expectedClaimId : Option ℕ) (now : ℕ) (cleanupFails : Bool)
  | fail (lifecycleId : ℕ) (expectedClaimId : Option ℕ) (now : ℕ)
  /-- A request asserts its principal and keeps the shared lock until it ends. -/
  | begin (req : ℕ) (issuer : Option String) (subject : String)
  | create (req : ℕ)
  | bind (req : ℕ)
  | abort (req : ℕ)

def Op.exclusive : Op → Option Identity
  | .deliver ev => some ev.identity
  | .suspend cmd => some cmd.identity
  | .fence ev => some ev.identity
  | .complete lifecycleId _ _ _ | .fail lifecycleId _ _ => (w.lifecycleOf lifecycleId).map fun row => row.identity
  | _ => none

def World.requestOf (id : ℕ) : Option Request := w.requests.find? fun req => req.id = id

def World.finish (id : ℕ) : World :=
  { w with requests := w.requests.filter fun req => req.id ≠ id }

def perform (set : String) (w : World) : Op → Except Refusal World
  | .deliver ev => projectClerkUserAuthority set w ev
  | .suspend cmd => setClerkPrincipalSuspension set w cmd
  | .fence ev => fenceClerkUserDeleted set w ev
  | .claim claimedAt leaseSeconds locked => .ok (claimPrincipalCleanup w claimedAt leaseSeconds locked)
  | .complete lifecycleId exp now fails => completePrincipalCleanup w lifecycleId exp now fails
  | .fail lifecycleId exp now => .ok (recordPrincipalCleanupFailure w lifecycleId exp now)
  | .begin req issuer subject =>
    match assertClerkPrincipalActive w (some set) issuer subject with
    | .ok (some resolved) => .ok { w with requests := ⟨req, ⟨resolved, subject⟩⟩ :: w.requests }
    | .ok none => .ok w
    | .error refusal => .error refusal
  | .create id =>
    match w.requestOf id with
    | none => .ok w
    | some req =>
      -- the unique constraint on `clerk_id` makes the slower insert roll back
      if (w.users.get req.identity.subject).isSome then .ok (w.finish id)
      else .ok { w.finish id with
        users := w.users.put ⟨w.next, req.identity.subject, some req.identity.issuer⟩
        next := w.next + 1 }
  | .bind id =>
    match w.requestOf id with
    | none => .ok w
    | some req =>
      match loadClerkUserForIssuer w req.identity true false with
      | .ok user => .ok (putUser (w.finish id) user)
      | .error _ => .ok (w.finish id)
  | .abort id => .ok (w.finish id)

/-- An exclusive transaction waits for the requests that share its lock; one that raises is rolled
back. -/
def step (set : String) (w : World) (op : Op) : World :=
  if (op.exclusive w).any w.held then w
  else
    match perform set w op with
    | .ok after => after
    | .error _ => w

end Clawdi.Principals
