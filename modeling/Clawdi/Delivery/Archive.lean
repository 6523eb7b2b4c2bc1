import Clawdi.Delivery.Workers
import Clawdi.Lib.RowLocks

namespace Clawdi.Delivery.Archive
open World (View safeDeliveryProviderResponse expired)

abbrev Row := Cell Nat ChannelDelivery.id

inductive Process
  | idle
  | claiming (id : Nat) (token : LeaseToken)
  | claimed (id : Nat) (token : LeaseToken)
  | prepared (id : Nat) (token : LeaseToken)
  | ready (id : Nat) (token : LeaseToken) (prov : String)
  | sending (id : Nat) (token : LeaseToken) (prov : String)
  | ended (id : Nat) (token : LeaseToken) (prov : String) (out : Outcome)
  | finalizing (id : Nat) (prov : String) (out : Outcome)
  | cancelled (id : Nat) (token : LeaseToken)
  | reaping (ids : List Nat) (now : Nat)
  | archiving (loaded : List ChannelDelivery) (error : String) (useSafeDiagnostics : Bool)
  | leaving

structure Database where
  store : Store Nat ChannelDelivery.id
  processes : List Process
  nextUuid : Nat
  now : Nat

namespace Database

def start : Database :=
  { store := Table.empty, processes := [], nextUuid := 0, now := 0 }

variable (db : Database) (proc : Nat) (chosen : ChannelDelivery → Bool)
variable (stage : Process) (error : String) (useSafeDiagnostics : Bool)

def goto : Database :=
  { db with processes := db.processes.set proc stage }

def enqueue (id acctId mid : Nat) (link : Option Nat) : Database :=
  match db.store.get id with
  | some _ => db
  | none =>
    { db with
      store := db.store.put <| Cell.of
        { id := id, accountId := acctId, botAgentLinkId := link, messageId := mid
          status := .pending, attempts := 0, maxAttempts := 5, nextAttemptAt := db.now
          lockedAt := none, lockedBy := none, lastError := none, providerResponse := none
          createdAt := db.now } }

section
variable (db : Database) (proc : Nat)

def nextRow (view : View) : Option Row :=
  (db.store.select (fun row => row.free proc && view.claimable db.now row.committed)
    (fun row => view.order row.committed)).head?

def claim (workerId : String) (view : View) : Database :=
  match db.nextRow proc view with
  | none => db
  | some row =>
    { db.goto proc (.claiming row.committed.id ⟨workerId, db.nextUuid⟩) with
      store := db.store.lock proc fun alt => alt.committed.id = row.committed.id
      nextUuid := db.nextUuid + 1 }

def save (id : Nat) (f : ChannelDelivery → ChannelDelivery) (keeps : ∀ row, (f row).id = row.id) : Database :=
  { db with store := db.store.write proc (fun row => row.committed.id = id) f keeps }

def owns (id : Nat) (token : LeaseToken) (row : ChannelDelivery) : Bool :=
  row.id = id && row.status = .inProgress && row.lockedBy = some token

end

def flushed (loaded cur : ChannelDelivery) : ChannelDelivery :=
  let failed := loaded.failDelivery error useSafeDiagnostics
  { cur with
    status := failed.status
    lockedAt := if loaded.lockedAt = none then cur.lockedAt else failed.lockedAt
    lockedBy := if loaded.lockedBy = none then cur.lockedBy else failed.lockedBy
    lastError := if failed.lastError = loaded.lastError then cur.lastError else failed.lastError }

def openDeliveries : List ChannelDelivery :=
  ((db.store.rows.map (Cell.current proc)).filter fun delivery =>
    chosen delivery && !delivery.status.terminal).insertionSort fun first snd =>
      first.id ≤ snd.id

/-- The deliveries' part of `archive_bot_agent_link` and of `archive_channel_account`. -/
def archive : Database :=
  db.goto proc (.archiving (db.openDeliveries proc chosen) error useSafeDiagnostics)

def archiveBotAgentLink (link : Nat) (useSafeDiagnostics : Bool) : Database :=
  db.archive proc (fun delivery => delivery.botAgentLinkId = some link)
    "channel agent link archived" useSafeDiagnostics

def archiveChannelAccount (acct : Nat) (prov : String) : Database :=
  db.archive proc (fun delivery => delivery.accountId = acct)
    "channel account archived" (decide (prov ∈ channelProviders))

def commit : Database :=
  { db.goto proc stage with store := db.store.commit proc }

end Database

inductive Action
  | enqueue (id acctId mid : Nat) (link : Option Nat)
  | start
  | claim (proc : Nat) (workerId : String) (view : View)
  | flush (proc : Nat)
  | prepare (proc : Nat)
  | check (proc : Nat) (lookups : Lookups)
  | sent (proc : Nat) (out : Outcome)
  | cancel (proc : Nat)
  | finalize (proc : Nat)
  | release (proc : Nat)
  | reap (proc limit : Nat)
  | archiveBotAgentLink (proc link : Nat) (useSafeDiagnostics : Bool)
  | archiveChannelAccount (proc acct : Nat) (prov : String)
  | commit (proc : Nat)
  | abort (proc : Nat)
  | wait (duration : Nat)

open Database
variable (db : Database) (proc : Nat)

def flush : Process → Database
  | .claiming id token =>
    (db.save proc id (fun row => row.claimed token db.now) fun _ => rfl).goto proc (.claimed id token)
  | .finalizing id prov (.sent providerMessageId) =>
    (db.save proc id (fun row => row.succeeded (safeDeliveryProviderResponse prov providerMessageId))
      fun _ => rfl).goto proc .leaving
  | .finalizing id prov (.raised err) =>
    (db.save proc id (fun row => row.applyDeliveryError err.exception (some prov) db.now)
      (fun row => row.applyDeliveryError_id _ _ _)).goto proc .leaving
  | .reaping ids now =>
    { db.goto proc .leaving with
      store := db.store.write proc (fun row => row.committed.id ∈ ids)
        (fun row => row.returned now) fun _ => rfl }
  | .archiving (loaded :: rest) error useSafeDiagnostics =>
    if db.store.waits proc (fun row => row.committed.id = loaded.id) then db
    else
      (db.save proc loaded.id (flushed error useSafeDiagnostics loaded) fun _ => rfl).goto
        proc (.archiving rest error useSafeDiagnostics)
  | _ => db

variable (id : Nat) (token : LeaseToken)

def finalize (prov : String) (out : Outcome) : Database :=
  let owned := fun row : Row => owns id token row.committed
  if db.store.waits proc owned then db
  else if db.store.rows.any owned then
    { db.goto proc (.finalizing id prov out) with
      store := db.store.lock proc owned }
  else db.goto proc .leaving

def release : Database :=
  let owned := fun row : Row => owns id token row.committed
  if db.store.waits proc owned then db
  else
    { db.goto proc .leaving with
      store := db.store.write proc owned (fun row => row.returned db.now)
        fun _ => rfl }

def reap (limit : Nat) : Database :=
  let ids := ((db.store.select (fun row => row.free proc && expired db.now row.committed)
    (fun row => row.committed.id)).take limit).map fun row => row.committed.id
  { db.goto proc (.reaping ids db.now) with
    store := db.store.lock proc fun row => row.committed.id ∈ ids }

/-- The checks of `_prepare_channel_delivery_send` and what they write of the row. -/
def check (lookups : Lookups) : Database :=
  match (db.store.get id).map (Cell.current proc) with
  | none => db.goto proc .leaving
  | some owned =>
    match prepareChecks lookups owned with
    | .error exc =>
      (db.save proc id (fun row => row.applyDeliveryError exc (some (lookups.provider owned.accountId)) db.now)
        (fun row => row.applyDeliveryError_id _ _ _)).goto proc .leaving
    | .ok prov =>
      (db.save proc id (fun row => { row with lockedAt := some db.now })
        fun _ => rfl).goto proc (.ready id token prov)

def step (db : Database) : Action → Database
  | .enqueue id acctId mid link => db.enqueue id acctId mid link
  | .start => { db with processes := db.processes ++ [.idle] }
  | .claim proc workerId view =>
    match db.processes[proc]? with
    | some .idle => db.claim proc workerId view
    | _ => db
  | .flush proc =>
    match db.processes[proc]? with
    | some stage => flush db proc stage
    | none => db
  -- the row is locked by the claim of the same transaction
  | .prepare proc =>
    match db.processes[proc]? with
    | some (.claimed id token) =>
      if db.store.rows.any fun row => owns id token (row.current proc) then
        db.goto proc (.prepared id token)
      else db.goto proc .leaving
    | _ => db
  | .check proc lookups =>
    match db.processes[proc]? with
    | some (.prepared id token) => check db proc id token lookups
    | _ => db
  | .sent proc out =>
    match db.processes[proc]? with
    | some (.sending id token prov) => db.goto proc (.ended id token prov out)
    | _ => db
  | .cancel proc =>
    match db.processes[proc]? with
    | some (.sending id token _) => db.goto proc (.cancelled id token)
    | _ => db
  | .finalize proc =>
    match db.processes[proc]? with
    | some (.ended id token prov out) => finalize db proc id token prov out
    | _ => db
  | .release proc =>
    match db.processes[proc]? with
    | some (.cancelled id token) => release db proc id token
    | _ => db
  | .reap proc limit =>
    match db.processes[proc]? with
    | some .idle => reap db proc limit
    | _ => db
  | .archiveBotAgentLink proc link useSafeDiagnostics =>
    match db.processes[proc]? with
    | some .idle | some (.archiving [] _ _) => db.archiveBotAgentLink proc link useSafeDiagnostics
    | _ => db
  | .archiveChannelAccount proc acct prov =>
    match db.processes[proc]? with
    | some .idle | some (.archiving [] _ _) => db.archiveChannelAccount proc acct prov
    | _ => db
  | .commit proc =>
    match db.processes[proc]? with
    | some (.ready id token prov) => db.commit proc (.sending id token prov)
    | some .leaving | some (.archiving [] _ _) => db.commit proc .idle
    | _ => db
  | .abort proc => { db.goto proc .idle with store := db.store.rollback proc }
  | .wait duration => { db with now := db.now + duration }

end Clawdi.Delivery.Archive
