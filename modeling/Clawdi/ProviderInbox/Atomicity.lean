import Clawdi.Lib.Transition
import Mathlib

namespace Clawdi.ProviderState
open Transition (run run_invariant)

def maxCredsBytes : Nat := 4 * 1024 * 1024
def maxSignalKeyIdBytes : Nat := 512
def maxSignalKeyValueBytes : Nat := 1024 * 1024
def maxSignalKeyMutations : Nat := 2048
def maxSignalKeyCount : Nat := 250000
def maxSignalKeyBytes : Nat := 512 * 1024 * 1024
def maxRetryMessageBytes : Nat := 2 * 1024 * 1024
def maxRetryMessages : Nat := 10000
def maxRetryMessagesBytes : Nat := 256 * 1024 * 1024
def retryMessageTtlMs : Nat := 7 * 24 * 60 * 60 * 1000
def retryCacheTtlMs : Nat := 60 * 60 * 1000
def maxRetryCacheKeyBytes : Nat := 512
def maxRetryCacheValueBytes : Nat := 64 * 1024
def maxRetryCacheEntries : Nat := 10000
def maxRetryCacheBytes : Nat := 16 * 1024 * 1024

def signalCategories : List String :=
  ["pre-key", "session", "sender-key", "sender-key-memory", "app-state-sync-key", "app-state-sync-version",
    "lid-mapping", "device-list", "tctoken", "identity-key"]

structure SignalKey where
  category : String
  keyId : String
  value : String
  byteCount : Nat
deriving DecidableEq

structure RetryEntry where
  cacheKey : String
  value : String
  byteCount : Nat
  expiresAt : Nat
deriving DecidableEq

structure RetryMessage where
  remoteJid : String
  messageId : String
  message : List UInt8
  expiresAt : Nat
deriving DecidableEq

/-- The tables of the state database, each the set of its rows; the last two are only cleared here. -/
structure Rows where
  authCreds : String
  signalKeys : Finset SignalKey := ∅
  retryCache : Finset RetryEntry := ∅
  retryMessages : Finset RetryMessage := ∅
  physicalAuthQuarantine : List String := []
  providerInbox : List String := []
deriving DecidableEq

/-- The credentials `γ` and their updates `υ`, with what the operations call on them. -/
structure Credentials (γ υ : Type) where
  assign : γ → υ → γ
  validate : γ → Bool
  forPersistence : γ → γ
  serialize : γ → Option String
  parses : String → Bool

structure State (γ : Type) where
  rows : Rows
  creds : γ
  closed : Bool
deriving DecidableEq

/-- A statement or the commit fails, or securing the state files after it. -/
structure Faults where
  write : Bool := false
  secure : Bool := false

/-- A signal key set, with the JSON text of each value; none where `JSON.stringify` gives none. -/
abbrev SignalDataSet := List (String × Option (List (String × Option (Option String))))

structure Prepared where
  category : String
  id : String
  value : Option String
  byteCount : Nat
deriving DecidableEq

inductive Call (γ υ : Type) where
  | resetPhysicalAuth (fresh : γ)
  | storeRetryMessage (remoteJid mid : String) (message : List UInt8) (now : Nat)
  | saveCreds (update : Option υ)
  | setSignalKeys (data : SignalDataSet)
  | clearSignalKeys
  | getRetryCounter (key : String) (now : Nat)
  | setRetryCounter (key : String) (value : Option String) (now : Nat)
  | deleteRetryCounter (key : String)
  | clearRetryCounters

def hasAsciiControlCharacter (text : String) : Bool := text.toList.any fun c => c.toNat < 0x20

def validateSignalKeyId (id : String) : Bool :=
  id ≠ "" && id.utf8ByteSize ≤ maxSignalKeyIdBytes && !hasAsciiControlCharacter id

/-- A JavaScript string counts its UTF-16 units. -/
def validEventString (text : String) : Bool :=
  0 < text.length && (text.toList.map fun c => if c.toNat < 0x10000 then 1 else 2).sum ≤ 4096

def validateRetryMessageIdentity (remoteJid mid : String) : Bool :=
  [remoteJid, mid].all fun text => validEventString text && !hasAsciiControlCharacter text

def validateRetryCacheKey (key : String) : Bool := key ≠ "" && key.utf8ByteSize ≤ maxRetryCacheKeyBytes

def prepare (category id : String) (value : Option (Option String)) : Option Prepared := do
  guard (validateSignalKeyId id)
  let text ← match value with
    | none => some none
    | some text => text.map some
  let byteCount := (text.map String.utf8ByteSize).getD 0
  guard (byteCount ≤ maxSignalKeyValueBytes)
  return ⟨category, id, text, byteCount⟩

def prepareCategory (entry : String × Option (List (String × Option (Option String)))) : Option (List Prepared) := do
  guard (entry.1 ∈ signalCategories)
  match entry.2 with
  | none => return []
  | some values => values.mapM fun item => prepare entry.1 item.1 item.2

def prepareSignalKeys (data : SignalDataSet) : Option (List Prepared) := do
  let prepared ← data.mapM prepareCategory
  guard (prepared.flatten.length ≤ maxSignalKeyMutations)
  return prepared.flatten

/-- `INSERT OR REPLACE`, after the rows that go have been deleted. -/
def upsert {ρ : Type} [DecidableEq ρ] (row : ρ) (stays : ρ → Bool) (table : Finset ρ) : Finset ρ :=
  insert row (table.filter fun old => stays old)

def Prepared.names (entry : Prepared) (key : SignalKey) : Bool := key.category = entry.category ∧ key.keyId = entry.id

def Prepared.row (entry : Prepared) : Option SignalKey :=
  entry.value.map fun value => ⟨entry.category, entry.id, value, entry.byteCount⟩

/-- One statement of a key set, INSERT OR REPLACE or DELETE. -/
def write (keys : Finset SignalKey) (entry : Prepared) : Finset SignalKey :=
  match entry.row with
  | none => keys.filter fun key => !entry.names key
  | some row => upsert row (fun key => !entry.names key) keys

def signalKeysFit (keys : Finset SignalKey) : Prop :=
  keys.card ≤ maxSignalKeyCount ∧ ∑ key ∈ keys, key.byteCount ≤ maxSignalKeyBytes
deriving Decidable

def setSignalKeys (data : SignalDataSet) (rows : Rows) : Option Rows := do
  let prepared ← prepareSignalKeys data
  let keys := prepared.foldl write rows.signalKeys
  guard (signalKeysFit keys)
  return { rows with signalKeys := keys }

def retryEntry (key text : String) (now : Nat) : RetryEntry := ⟨key, text, text.utf8ByteSize, now + retryCacheTtlMs⟩
def RetryEntry.stays (key : String) (now : Nat) (old : RetryEntry) : Bool := now < old.expiresAt ∧ old.cacheKey ≠ key

def retryCacheFits (entries : Finset RetryEntry) : Prop :=
  entries.card ≤ maxRetryCacheEntries ∧ ∑ entry ∈ entries, entry.byteCount ≤ maxRetryCacheBytes
deriving Decidable

def setRetryCounter (key : String) (value : Option String) (now : Nat) (rows : Rows) : Option Rows := do
  guard (validateRetryCacheKey key)
  let text ← value
  guard (text.utf8ByteSize ≤ maxRetryCacheValueBytes)
  let entries := upsert (retryEntry key text now) (RetryEntry.stays key now) rows.retryCache
  guard (retryCacheFits entries)
  return { rows with retryCache := entries }

def deleteRetryCounter (key : String) (rows : Rows) : Option Rows := do
  guard (validateRetryCacheKey key)
  return { rows with retryCache := rows.retryCache.filter (·.cacheKey ≠ key) }

def retryMessage (remoteJid mid : String) (message : List UInt8) (now : Nat) : RetryMessage :=
  ⟨remoteJid, mid, message, now + retryMessageTtlMs⟩

def RetryMessage.stays (remoteJid mid : String) (now : Nat) (old : RetryMessage) : Bool :=
  now < old.expiresAt ∧ ¬(old.remoteJid = remoteJid ∧ old.messageId = mid)

def retryMessagesFit (messages : Finset RetryMessage) : Prop :=
  messages.card ≤ maxRetryMessages ∧ ∑ entry ∈ messages, entry.message.length ≤ maxRetryMessagesBytes
deriving Decidable

def storeRetryMessage (remoteJid mid : String) (message : List UInt8) (now : Nat) (rows : Rows) : Option Rows := do
  guard (validateRetryMessageIdentity remoteJid mid)
  guard (1 ≤ message.length ∧ message.length ≤ maxRetryMessageBytes)
  let messages := upsert (retryMessage remoteJid mid message now) (RetryMessage.stays remoteJid mid now) rows.retryMessages
  guard (retryMessagesFit messages)
  return { rows with retryMessages := messages }

/-- The test of `assertStoredTextBytes`. -/
def RetryEntry.intact (entry : RetryEntry) : Bool :=
  entry.byteCount = entry.value.utf8ByteSize && entry.byteCount ≤ maxRetryCacheValueBytes

variable {γ υ : Type} (cfg : Credentials γ υ)

def saveCreds (creds : γ) (rows : Rows) : Option Rows := do
  guard (cfg.validate creds)
  guard (cfg.validate (cfg.forPersistence creds))
  let value ← cfg.serialize (cfg.forPersistence creds)
  guard (value.utf8ByteSize ≤ maxCredsBytes)
  return { rows with authCreds := value }

def resetPhysicalAuth (fresh : γ) : Option Rows := do
  guard (cfg.validate fresh)
  let value ← cfg.serialize fresh
  return { authCreds := value }

/-- The rows at the end of a call's transaction; none where the call throws before or within it, or
opens none. -/
def writes (creds : γ) (rows : Rows) : Call γ υ → Option Rows
  | .saveCreds _ => saveCreds cfg creds rows
  | .setSignalKeys data => setSignalKeys data rows
  | .clearSignalKeys => some { rows with signalKeys := ∅ }
  | .getRetryCounter key now => do
    guard (∃ entry ∈ rows.retryCache, entry.cacheKey = key ∧ entry.intact ∧ entry.expiresAt ≤ now)
    deleteRetryCounter key rows
  | .setRetryCounter key value now => setRetryCounter key value now rows
  | .deleteRetryCounter key => deleteRetryCounter key rows
  | .clearRetryCounters => some { rows with retryCache := ∅ }
  | .storeRetryMessage remoteJid mid message now => storeRetryMessage remoteJid mid message now rows
  | .resetPhysicalAuth fresh => resetPhysicalAuth cfg fresh

/-- `Object.assign(this.creds, update)` -/
def assigned (creds : γ) : Call γ υ → γ
  | .saveCreds update => update.elim creds (cfg.assign creds)
  | _ => creds

def replaced (creds : γ) : Call γ υ → γ
  | .resetPhysicalAuth fresh => fresh
  | _ => creds

/-- Whether a call throws that opens no transaction. -/
def rejects (rows : Rows) : Call γ υ → Bool
  | .getRetryCounter key _ => !validateRetryCacheKey key ||
    decide (∃ entry ∈ rows.retryCache, entry.cacheKey = key ∧ ¬(entry.intact ∧ cfg.parses entry.value))
  | _ => true

/-- The state after a call and whether the call throws. -/
def perform (state : State γ) (faults : Faults) (call : Call γ υ) : State γ × Bool :=
  if state.closed then (state, true) else
  let state := { state with creds := assigned cfg state.creds call }
  match writes cfg state.creds state.rows call with
  | none => (state, rejects cfg state.rows call)
  | some rows =>
    if faults.write then (state, true)
    else if faults.secure then ({ state with rows }, true)
    else ({ state with rows, creds := replaced state.creds call }, false)

/-- The checks that credentials pass on the way to being stored as `value`. -/
def Storable (creds : γ) (value : String) : Prop :=
  cfg.validate creds ∧ cfg.validate (cfg.forPersistence creds) ∧
    cfg.serialize (cfg.forPersistence creds) = some value ∧ value.utf8ByteSize ≤ maxCredsBytes

/-- The entry that decides what a set leaves under the key of a row. -/
def lastFor (prepared : List Prepared) (key : SignalKey) : Option Prepared :=
  prepared.reverse.find? fun entry => entry.names key

/-- The row is not there yet, or one is that goes. -/
def Unsettled {ρ : Type} (row : ρ) (stays : ρ → Bool) (table : Finset ρ) : Prop :=
  row ∉ table ∨ ∃ old ∈ table, old ≠ row ∧ stays old = false

def Alters (creds : γ) (rows : Rows) : Call γ υ → Prop
  | .saveCreds update => ∃ value, Storable cfg (update.elim creds (cfg.assign creds)) value ∧ value ≠ rows.authCreds
  | .setSignalKeys data => ∃ prepared, prepareSignalKeys data = some prepared ∧
    signalKeysFit (prepared.foldl write rows.signalKeys) ∧
    ∃ key, ∃ entry ∈ lastFor prepared key, ¬(entry.row = some key ↔ key ∈ rows.signalKeys)
  | .clearSignalKeys => rows.signalKeys.Nonempty
  | .getRetryCounter key now => validateRetryCacheKey key ∧
    ∃ entry ∈ rows.retryCache, entry.cacheKey = key ∧ entry.intact ∧ entry.expiresAt ≤ now
  | .setRetryCounter key value now => validateRetryCacheKey key ∧ ∃ text ∈ value,
    text.utf8ByteSize ≤ maxRetryCacheValueBytes ∧
    retryCacheFits (upsert (retryEntry key text now) (RetryEntry.stays key now) rows.retryCache) ∧
    Unsettled (retryEntry key text now) (RetryEntry.stays key now) rows.retryCache
  | .deleteRetryCounter key => validateRetryCacheKey key ∧ ∃ entry ∈ rows.retryCache, entry.cacheKey = key
  | .clearRetryCounters => rows.retryCache.Nonempty
  | .storeRetryMessage remoteJid mid message now => validateRetryMessageIdentity remoteJid mid ∧
    (1 ≤ message.length ∧ message.length ≤ maxRetryMessageBytes) ∧
    retryMessagesFit (upsert (retryMessage remoteJid mid message now) (RetryMessage.stays remoteJid mid now)
      rows.retryMessages) ∧
    Unsettled (retryMessage remoteJid mid message now) (RetryMessage.stays remoteJid mid now) rows.retryMessages
  | .resetPhysicalAuth fresh => cfg.validate fresh ∧ ∃ value ∈ cfg.serialize fresh, { authCreds := value } ≠ rows

/-- A save that changes the credentials in memory is of ones that can be stored and meets no failure,
and securing the files fails after no commit of other rows. -/
def Harmless (state : State γ) (faults : Faults) (call : Call γ υ) : Prop :=
  state.closed ∨ (∀ update, call = .saveCreds (some update) → cfg.assign state.creds update ≠ state.creds →
      (∃ value, Storable cfg (cfg.assign state.creds update) value) ∧ ¬faults.write ∧ ¬faults.secure) ∧
    (faults.secure → ¬faults.write → ¬Alters cfg state.creds state.rows call)

lemma upsert_eq_self {ρ : Type} [DecidableEq ρ] {row : ρ} {stays : ρ → Bool} {table : Finset ρ} :
    upsert row stays table = table ↔ ¬Unsettled row stays table := by
  simp only [upsert, Unsettled, Finset.ext_iff, Finset.mem_insert, Finset.mem_filter]
  constructor
  · rintro same (absent | ⟨old, isIn, other, goes⟩)
    · exact absent ((same row).mp (.inl rfl))
    · rcases (same old).mpr isIn with own | ⟨-, stays⟩
      · exact other own
      · exact Bool.false_ne_true (goes.symm.trans stays)
  · intro settled old
    grind

lemma mem_write {keys : Finset SignalKey} {entry : Prepared} {key : SignalKey} :
    key ∈ write keys entry ↔ if entry.names key then entry.row = some key else key ∈ keys := by
  have own {row} (is : entry.row = some row) : entry.names row = true := by
    obtain ⟨value, -, rfl⟩ := Option.map_eq_some_iff.mp is
    simp [Prepared.names]
  unfold write
  cases is : entry.row with
  | none => grind
  | some row =>
    have named := own is
    simp only [upsert, Finset.mem_insert, Finset.mem_filter]
    grind

lemma mem_writes {keys : Finset SignalKey} {prepared : List Prepared} {key : SignalKey} :
    key ∈ prepared.foldl write keys ↔
      (lastFor prepared key).elim (key ∈ keys) fun entry => entry.row = some key := by
  unfold lastFor
  induction prepared using List.reverseRecOn with
  | nil => rfl
  | append_singleton prepared entry ih =>
    rw [List.foldl_append, List.foldl_cons, List.foldl_nil, mem_write, ih, List.reverse_concat, List.find?_cons]
    cases entry.names key <;> rfl

lemma writes_ne {keys : Finset SignalKey} {prepared : List Prepared} : prepared.foldl write keys ≠ keys ↔
    ∃ key, ∃ entry ∈ lastFor prepared key, ¬(entry.row = some key ↔ key ∈ keys) := by
  rw [Ne, Finset.ext_iff, not_forall]
  refine exists_congr fun key => ?_
  rw [mem_writes]
  cases lastFor prepared key <;> simp

variable {cfg}

lemma alters_iff {creds : γ} {rows : Rows} {call : Call γ υ} :
    (∃ next, writes cfg (assigned cfg creds call) rows call = some next ∧ next ≠ rows) ↔ Alters cfg creds rows call := by
  obtain ⟨authCreds, signalKeys, retryCache, retryMessages, quarantine, inbox⟩ := rows
  have emptied {ρ : Type} {table : Finset ρ} : ∅ ≠ table ↔ table.Nonempty := by
    rw [ne_comm, Finset.nonempty_iff_ne_empty]
  have settled {ρ : Type} [DecidableEq ρ] {row : ρ} {stays : ρ → Bool} {table : Finset ρ} :
      upsert row stays table ≠ table ↔ Unsettled row stays table := by
    rw [Ne, upsert_eq_self, not_not]
  cases call with
  | clearSignalKeys | clearRetryCounters => simp [writes, Alters, emptied]
  | saveCreds update =>
    show (∃ next, saveCreds cfg (update.elim creds (cfg.assign creds)) _ = some next ∧ _) ↔ _
    simp [saveCreds, Alters, Storable, Option.bind_eq_some_iff, Option.guard_eq_some']
  | resetPhysicalAuth fresh =>
    simp [writes, resetPhysicalAuth, Alters, Option.bind_eq_some_iff, Option.guard_eq_some', and_assoc]
  | setSignalKeys data =>
    simp only [Alters, ← writes_ne]
    simp [writes, setSignalKeys, Option.bind_eq_some_iff, Option.guard_eq_some']
    grind
  | getRetryCounter key now =>
    simp only [Alters]
    simp [writes, deleteRetryCounter, Option.bind_eq_some_iff, Option.guard_eq_some']
    grind
  | setRetryCounter key value now =>
    simp only [Alters, ← settled]
    simp [writes, setRetryCounter, Option.bind_eq_some_iff, Option.guard_eq_some']
    grind
  | deleteRetryCounter key =>
    simp [writes, deleteRetryCounter, Alters, Option.bind_eq_some_iff, Option.guard_eq_some']
  | storeRetryMessage remoteJid mid message now =>
    simp only [Alters, ← settled]
    simp [writes, storeRetryMessage, Option.bind_eq_some_iff, Option.guard_eq_some']
    grind

/-- A call that throws has changed nothing exactly where it is harmless, and a key set stores all
of its entries or none. -/
theorem credentials_atomic (cfg : Credentials γ υ) (state : State γ) (faults : Faults) (call : Call γ υ) :
    (((perform cfg state faults call).2 = true → (perform cfg state faults call).1 = state) ↔
      Harmless cfg state faults call) ∧
    ∀ data, call = .setSignalKeys data → (perform cfg state faults call).1.rows = state.rows ∨
      ∃ prepared, prepareSignalKeys data = some prepared ∧ ∀ key,
        key ∈ (perform cfg state faults call).1.rows.signalKeys ↔
          (lastFor prepared key).elim (key ∈ state.rows.signalKeys) fun entry => entry.row = some key := by
  obtain ⟨rows, creds, closed⟩ := state
  constructor
  · unfold perform Harmless
    rw [← alters_iff]
    cases closed with
    | true => simp
    | false =>
      have storable : ∀ update, (∃ value, Storable cfg (cfg.assign creds update) value) ↔
          (writes cfg (cfg.assign creds update) rows (.saveCreds (some update))).isSome := by
        simp [Storable, writes, saveCreds, Option.isSome_iff_exists, Option.bind_eq_some_iff, Option.guard_eq_some']
      have saves : (∀ update, call = .saveCreds (some update) → cfg.assign creds update ≠ creds →
          (∃ value, Storable cfg (cfg.assign creds update) value) ∧ ¬faults.write ∧ ¬faults.secure) ↔
          (assigned cfg creds call ≠ creds →
            (writes cfg (assigned cfg creds call) rows call).isSome ∧ ¬faults.write ∧ ¬faults.secure) := by
        simp only [storable]
        cases call with
        | saveCreds update => cases update <;> simp [assigned]
        | _ => simp [assigned]
      have rejected : assigned cfg creds call ≠ creds → rejects cfg rows call = true := by
        cases call <;> simp [assigned, rejects]
      rw [saves]
      clear saves storable
      dsimp only
      cases writes cfg (assigned cfg creds call) rows call <;> cases faults.write <;> cases faults.secure <;>
        simp <;> grind
  · rintro data rfl
    unfold perform
    cases closed with
    | true => exact .inl rfl
    | false =>
      cases written : writes cfg (assigned cfg creds (.setSignalKeys data)) rows (.setSignalKeys data) with
      | none => exact .inl (by simp [written])
      | some next =>
        cases faults.write with
        | true => exact .inl (by simp [written])
        | false =>
          obtain ⟨prepared, is, -, -, same⟩ : ∃ prepared, prepareSignalKeys data = some prepared ∧ _ := by
            simpa only [writes, setSignalKeys, Option.bind_eq_bind, Option.bind_eq_some_iff] using written
          refine .inr ⟨prepared, is, fun key => ?_⟩
          cases faults.secure <;> simp [written, mem_writes, ← Option.some.inj same]

/-- An update that does not validate stays in memory. -/
theorem invalid_update_stays : ¬∀ call, (perform ⟨fun _ u => u, id, id, fun _ => some "", fun _ => true⟩
      (⟨{ authCreds := "" }, true, false⟩ : State Bool) {} call).2 = true →
    (perform ⟨fun _ u => u, id, id, fun _ => some "", fun _ => true⟩
      (⟨{ authCreds := "" }, true, false⟩ : State Bool) {} call).1 = ⟨{ authCreds := "" }, true, false⟩ := by
  intro atomic
  have kept := atomic (.saveCreds (some false)) rfl
  exact absurd (congrArg State.creds kept) (by decide)

variable (cfg)

lemma writes_authCreds {creds : γ} {rows next : Rows} {call : Call γ υ} (ran : writes cfg creds rows call = some next) :
    next.authCreds = rows.authCreds ∨ ∃ valid, cfg.validate valid ∧ cfg.serialize valid = some next.authCreds := by
  cases call with
  | saveCreds update =>
    simp only [writes, saveCreds, Option.bind_eq_bind, Option.bind_eq_some_iff, Option.guard_eq_some'] at ran
    obtain ⟨-, -, -, valid, text, is, -, -, ran⟩ := ran
    cases ran
    exact .inr ⟨_, valid, is⟩
  | resetPhysicalAuth fresh =>
    simp only [writes, resetPhysicalAuth, Option.bind_eq_bind, Option.bind_eq_some_iff, Option.guard_eq_some'] at ran
    obtain ⟨-, valid, text, is, ran⟩ := ran
    cases ran
    exact .inr ⟨_, valid, is⟩
  | _ =>
    left
    simp [writes, setSignalKeys, setRetryCounter, deleteRetryCounter, storeRetryMessage, Option.bind_eq_some_iff, Option.guard_eq_some'] at ran
    grind

/-- Whatever is in memory, the stored credentials are the first ones or the text of ones that validate. -/
theorem stored_credentials_valid (start : State γ) (calls : List (Faults × Call γ υ)) :
    let state := run (fun state call => (perform cfg state call.1 call.2).1) start calls
    state.rows.authCreds = start.rows.authCreds ∨
      ∃ creds, cfg.validate creds ∧ cfg.serialize creds = some state.rows.authCreds := by
  let Valid (state : State γ) : Prop := state.rows.authCreds = start.rows.authCreds ∨
    ∃ creds, cfg.validate creds ∧ cfg.serialize creds = some state.rows.authCreds
  have keeps : ∀ (state : State γ) (call : Faults × Call γ υ), Valid state →
      Valid (perform cfg state call.1 call.2).1 := by
    intro state call kept
    unfold perform
    split
    · exact kept
    dsimp only
    split
    · exact kept
    · rename_i rows ran
      have valid : rows.authCreds = start.rows.authCreds ∨
          ∃ creds, cfg.validate creds ∧ cfg.serialize creds = some rows.authCreds := by
        obtain same | valid := writes_authCreds cfg ran
        · exact same ▸ kept
        · exact .inr valid
      split_ifs
      · exact kept
      · exact valid
      · exact valid
  exact run_invariant keeps (show Valid start from .inl rfl) calls

end Clawdi.ProviderState
