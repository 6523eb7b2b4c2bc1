import Clawdi.Lib.Outcome
import Clawdi.Lib.Inbox
import Clawdi.Lib.Transition
import Mathlib

namespace Clawdi.ProviderInbox
open List

structure ProviderMessageEventInput where
  eventType : String
  messageId : String
  remoteJid : String
  remoteJidAlt : Option String
  participant : Option String
  participantAlt : Option String
  fromMe : Bool
  pushName : Option String
  messageTimestamp : Option Int
  messageProtoBase64 : String
  deriving DecidableEq

structure ProviderMessageEvent where
  sequence : Nat
  event : ProviderMessageEventInput
  deriving DecidableEq

structure ProviderInboxConfig where
  maxEvents : Nat
  maxBytes : Nat

def maxSafeInteger : Nat := 9007199254740991

variable (w : World) (last : Nat) (character : Char) (value text : String) {limit : Int} (row : Row)
variable (commit : Commit) (throughSequence : Int) (after db : Db) (events : List Prepared)
variable (event : ProviderMessageEventInput)

def utf16Length : Nat := (text.toList.map fun character => if character.toNat < 0x10000 then 1 else 2).sum
def validEventString : Bool := 0 < utf16Length value && utf16Length value ≤ 4096

def base64Digit : Option Nat :=
  if 'A' ≤ character ∧ character ≤ 'Z' then some (character.toNat - 'A'.toNat)
  else if 'a' ≤ character ∧ character ≤ 'z' then some (character.toNat - 'a'.toNat + 26)
  else if '0' ≤ character ∧ character ≤ '9' then some (character.toNat - '0'.toNat + 52)
  else if character = '+' then some 62
  else if character = '/' then some 63
  else none

/-- The text is what encoding its decoded bytes gives: whole groups, and no stray bits before the
padding. -/
def canonicalBase64 : List Char → Bool
  | [] => true
  | [a, b, '=', '='] => (base64Digit a).isSome && (base64Digit b).any (· % 16 = 0)
  | [a, b, c, '='] => (base64Digit a).isSome && (base64Digit b).isSome && (base64Digit c).any (· % 4 = 0)
  | a :: b :: c :: d :: rest =>
    (base64Digit a).isSome && (base64Digit b).isSome && (base64Digit c).isSome &&
      (base64Digit d).isSome && canonicalBase64 rest
  | _ => false

def validBase64 : Bool := 0 < utf16Length value && utf16Length value ≤ 4 * 1024 * 1024 && canonicalBase64 value.toList
def isSafeInteger (value : Int) : Bool := value.natAbs ≤ maxSafeInteger

def validateProviderMessageEventInput (value : ProviderMessageEventInput) : Except String Unit := do
  raiseIf
    (value.eventType ≠ "messages.upsert" ∨ value.fromMe ∨ !validEventString value.messageId ∨
      !validEventString value.remoteJid ∨ !validBase64 value.messageProtoBase64 ∨
      value.messageTimestamp.any fun time => !isSafeInteger time || time < 1)
    "invalid provider inbox event"
  raiseIf
    ([value.remoteJidAlt, value.participant, value.participantAlt, value.pushName].any fun text =>
      text.any fun text => !validEventString text)
    "invalid provider inbox event string"

def jsonCharacterBytes : Nat :=
  if character ∈ ['"', '\\', '\x08', '\t', '\n', '\x0c', '\r'] then 2
  else if character.toNat < 0x20 then 6
  else character.utf8Size

def jsonStringBytes : Nat := 2 + (text.toList.map jsonCharacterBytes).sum

def optionalMember (name : String) (value : Option String) : List (String × Nat) :=
  value.toList.map fun text => (name, jsonStringBytes text)

def jsonMembers : List (String × Nat) :=
  [("eventType", jsonStringBytes event.eventType), ("messageId", jsonStringBytes event.messageId),
    ("remoteJid", jsonStringBytes event.remoteJid)] ++
  optionalMember "remoteJidAlt" event.remoteJidAlt ++
  optionalMember "participant" event.participant ++
  optionalMember "participantAlt" event.participantAlt ++
  [("fromMe", if event.fromMe then 4 else 5)] ++
  optionalMember "pushName" event.pushName ++
  (event.messageTimestamp.toList.map fun time => ("messageTimestamp", (toString time).length)) ++
  [("messageProtoBase64", jsonStringBytes event.messageProtoBase64)]

def jsonByteLength : Nat :=
  let members := jsonMembers event
  2 + (members.map fun member => jsonStringBytes member.1 + 1 + member.2).sum + (members.length - 1)

/-- A row of the inbox; the stored text is kept as the event that it is the text of. -/
structure Row where
  sequence : Nat
  event : ProviderMessageEventInput
  byteCount : Nat

def Row.entry : ProviderMessageEvent := { sequence := row.sequence, event := row.event }
@[simp] lemma Row.entry_sequence : row.entry.sequence = row.sequence := rfl

structure Db where
  inbox : List Row
  lastSequence : Nat

def Db.empty : Db := { inbox := [], lastSequence := 0 }

def Db.insert (byteCount : Nat) : Db :=
  { inbox := db.inbox ++ [{ sequence := db.lastSequence + 1, event, byteCount }]
    lastSequence := db.lastSequence + 1 }

structure Totals where
  eventCount : Nat
  byteCount : Nat

def providerInboxTotals : Totals :=
  { eventCount := db.inbox.length, byteCount := (db.inbox.map Row.byteCount).sum }

def capacityError : String := "provider inbox capacity exceeded"

/-- A transaction is committed, rolled back, or committed before securing the state files fails. -/
inductive Commit
  | committed
  | failed (message : String)
  | unsecured (message : String)

def transaction (operation : Except String Db) : Db × Except String Unit :=
  match operation with
  | .error message => (db, .error message)
  | .ok next =>
    match commit with
    | .committed => (next, .ok ())
    | .failed message => (db, .error message)
    | .unsecured message => (next, .error message)

structure Prepared where
  event : ProviderMessageEventInput
  byteCount : Nat

def prepare (config : ProviderInboxConfig) : Nat → List ProviderMessageEventInput → Except String (List Prepared)
  | _, [] => .ok []
  | batchBytes, event :: events => do
    validateProviderMessageEventInput event
    let byteCount := jsonByteLength event
    raiseIf (config.maxBytes < batchBytes + byteCount) capacityError
    let rest ← prepare config (batchBytes + byteCount) events
    return { event, byteCount } :: rest

def insertAll : Db := events.foldl (fun db prepared => db.insert prepared.event prepared.byteCount) db

def appendProviderEvents (config : ProviderInboxConfig) (commit : Commit)
    (events : List ProviderMessageEventInput) (db : Db) : Db × Except String Unit :=
  if events = [] then (db, .ok ())
  else if config.maxEvents < events.length then (db, .error capacityError)
  else
    match prepare config 0 events with
    | .error message => (db, .error message)
    | .ok prepared =>
      let batchBytes := (prepared.map Prepared.byteCount).sum
      let totals := providerInboxTotals db
      transaction commit db (if config.maxEvents < totals.eventCount + prepared.length ∨
            config.maxBytes < totals.byteCount + batchBytes then .error capacityError
          else .ok (insertAll db prepared))

def parseProviderMessageEvent : Except String ProviderMessageEvent := do
  validateProviderMessageEventInput row.event
  return row.entry

def readRow (config : ProviderInboxConfig) (row : Row) : Except String ProviderMessageEvent := do
  raiseIf (jsonByteLength row.event ≠ row.byteCount ∨ config.maxBytes < jsonByteLength row.event)
    "corrupt provider inbox event byte count"
  parseProviderMessageEvent row

def providerEvents (config : ProviderInboxConfig) (limit : Int) (db : Db) :
    Except String (List ProviderMessageEvent) :=
  if limit < 1 ∨ 100 < limit then .error "provider inbox limit must be between 1 and 100"
  else (db.inbox.take limit.toNat).mapM (readRow config)

def acknowledgeProviderEvents : Db × Except String Unit :=
  if !isSafeInteger throughSequence ∨ throughSequence < 1 then
    (db, .error "provider inbox acknowledgement must be a positive integer")
  else
    transaction commit db (.ok { db with inbox := db.inbox.filter fun row => throughSequence < row.sequence })

def resetPhysicalAuth : Db × Except String Unit := transaction commit db (.ok { db with inbox := [] })

def validateInboxConfig (config : ProviderInboxConfig) : Except String Unit := do
  raiseIf (maxSafeInteger < config.maxEvents ∨ config.maxEvents < 1)
    "provider inbox maxEvents must be positive"
  raiseIf (maxSafeInteger < config.maxBytes ∨ config.maxBytes < 1)
    "provider inbox maxBytes must be positive"

def validatePendingRow : Except String Unit := do
  raiseIf (maxSafeInteger < row.sequence ∨ row.sequence < 1) "provider inbox seq is corrupt"
  raiseIf (jsonByteLength row.event ≠ row.byteCount) "provider inbox event byte count is corrupt"
  let _ ← parseProviderMessageEvent row
  return ()

def validatePendingProviderEvents (config : ProviderInboxConfig) (db : Db) : Except String Unit := do
  let _ ← db.inbox.mapM validatePendingRow
  let totals := providerInboxTotals db
  raiseIf (config.maxEvents < totals.eventCount ∨ config.maxBytes < totals.byteCount) capacityError

def Commit.secured : Commit → Commit
  | .unsecured _ => .committed
  | commit => commit

/-- The batch of an append that returns, or that throws only because securing the files failed. -/
def accepted (config : ProviderInboxConfig) (commit : Commit) (events : List ProviderMessageEventInput) (db : Db) :
    List ProviderMessageEventInput :=
  if (appendProviderEvents config commit.secured events db).2.isOk then events else []

/-- The durable inbox, the limits of the process that has it open, and for the properties only the
batches that appends accepted, what resets removed and the pages that the reader was given. -/
structure World where
  db : Db
  opened : Option ProviderInboxConfig
  accepted : List ProviderMessageEventInput
  discarded : List Nat
  pages : List (List ProviderMessageEvent)

def World.new : World :=
  { db := Db.empty, opened := none, accepted := [], discarded := [], pages := [] }

def numbered (last : Nat) (events : List ProviderMessageEventInput) : List ProviderMessageEvent :=
  (events.zipIdx (last + 1)).map fun place => { sequence := place.2, event := place.1 }

def World.appended : List ProviderMessageEvent := numbered 0 w.accepted
def World.sightings : List ProviderMessageEvent := w.pages.flatten
def World.firstSightings : List ProviderMessageEvent := w.pages.foldl Inbox.noted []

inductive Action
  | start (config : ProviderInboxConfig) (healthy : Bool)
  | stop
  | appendProviderEvents (commit : Commit) (events : List ProviderMessageEventInput)
  | providerEvents (limit : Int)
  | acknowledgeProviderEvents (commit : Commit) (throughSequence : Int)
  | resetPhysicalAuth (commit : Commit)

def entries : List ProviderMessageEvent := db.inbox.map Row.entry

def World.resets : World :=
  { w with
    db := after
    discarded := w.discarded ++ ((entries w.db).filter fun entry => entry ∉ entries after).map
        ProviderMessageEvent.sequence }

/-- A process starts when none holds the database and the stored events pass. -/
def step (w : World) : Action → World
  | .start config healthy =>
    if w.opened.isNone ∧ healthy then
      match validateInboxConfig config, validatePendingProviderEvents config w.db with
      | .ok _, .ok _ => { w with opened := some config }
      | _, _ => w
    else w
  | .stop => { w with opened := none }
  | .appendProviderEvents commit events =>
    match w.opened with
    | none => w
    | some config =>
      { w with
        db := (appendProviderEvents config commit events w.db).1
        accepted := w.accepted ++ accepted config commit events w.db }
  | .providerEvents limit =>
    match w.opened with
    | none => w
    | some config =>
      match providerEvents config limit w.db with
      | .error _ => w
      | .ok page => { w with pages := w.pages ++ [page] }
  | .acknowledgeProviderEvents commit throughSequence =>
    match w.opened with
    | none => w
    | some _ => { w with db := (acknowledgeProviderEvents commit throughSequence w.db).1 }
  | .resetPhysicalAuth commit =>
    match w.opened with
    | none => w
    | some _ => w.resets (resetPhysicalAuth commit w.db).1

def AcknowledgesSeen : Action → Prop
  | .acknowledgeProviderEvents _ throughSequence => ∃ entry ∈ w.sightings, (entry.sequence : Int) = throughSequence
  | _ => True

instance AcknowledgesSeen.decidable (w : World) : ∀ act, Decidable (AcknowledgesSeen w act)
  | .acknowledgeProviderEvents _ throughSequence =>
    inferInstanceAs (Decidable (∃ entry ∈ w.sightings, (entry.sequence : Int) = throughSequence))
  | .start _ _ => inferInstanceAs (Decidable True)
  | .stop => inferInstanceAs (Decidable True)
  | .appendProviderEvents _ _ => inferInstanceAs (Decidable True)
  | .providerEvents _ => inferInstanceAs (Decidable True)
  | .resetPhysicalAuth _ => inferInstanceAs (Decidable True)

def ReadsAfterAcknowledging : Action → Prop
  | .providerEvents _ => ∀ entry ∈ w.sightings, entry ∉ entries w.db
  | _ => True

structure Row.Intact : Prop where
  byteCount : row.byteCount = jsonByteLength row.event
  valid : validateProviderMessageEventInput row.event = .ok ()

variable {config : ProviderInboxConfig}

lemma prepare_intact {batchBytes : Nat} {events}
    {prepared} (done : prepare config batchBytes events = .ok prepared) :
    prepared.map Prepared.event = events ∧ ∀ event ∈ prepared, event.byteCount = jsonByteLength event.event ∧
        validateProviderMessageEventInput event.event = .ok () := by
  induction events generalizing batchBytes prepared with
  | nil =>
    cases done
    simp
  | cons event events ih =>
    obtain ⟨valid, acc, done⟩ := bind_eq_ok.mp done
    obtain ⟨-, -, done⟩ := bind_eq_ok.mp done
    obtain ⟨rest, later, done⟩ := bind_eq_ok.mp done
    cases done
    obtain ⟨same, intact⟩ := ih later
    refine ⟨by rw [map_cons, same], ?_⟩
    intro alt mem
    rcases mem_cons.mp mem with rfl | mem
    · exact ⟨rfl, acc⟩
    · exact intact alt mem

def rowsFrom (last : Nat) : List Prepared → List Row
  | [] => []
  | prepared :: rest =>
    { sequence := last + 1, event := prepared.event, byteCount := prepared.byteCount } :: rowsFrom (last + 1) rest

lemma insertAll_eq :
    insertAll db events =
      { inbox := db.inbox ++ rowsFrom db.lastSequence events
        lastSequence := db.lastSequence + events.length } := by
  induction events generalizing db with
  | nil => simp [insertAll, rowsFrom]
  | cons prepared events ih =>
    have rest : insertAll db (prepared :: events) =
        insertAll (db.insert prepared.event prepared.byteCount) events := rfl
    rw [rest, ih]
    simp only [Db.insert, rowsFrom, append_assoc, cons_append, nil_append, length_cons, Db.mk.injEq, true_and]
    omega

lemma rowsFrom_bounds :
    ∀ row ∈ rowsFrom last events, last < row.sequence ∧ row.sequence ≤ last + events.length := by
  induction events generalizing last with
  | nil => simp [rowsFrom]
  | cons prepared events ih =>
    intro row mem
    rw [length_cons]
    rcases mem_cons.mp mem with rfl | mem
    · simp only
      omega
    · have bounds := ih (last + 1) row mem
      omega

lemma rowsFrom_ascending : (rowsFrom last events).Pairwise (·.sequence < ·.sequence) := by
  induction events generalizing last with
  | nil => exact List.Pairwise.nil
  | cons prepared events ih =>
    refine pairwise_cons.mpr ⟨?_, ih (last + 1)⟩
    intro row mem
    exact (rowsFrom_bounds (last + 1) events row mem).1

lemma rowsFrom_byteCount : (rowsFrom last events).map Row.byteCount = events.map Prepared.byteCount := by
  induction events generalizing last with
  | nil => rfl
  | cons prepared events ih => simp [rowsFrom, ih]

lemma rowsFrom_length : (rowsFrom last events).length = events.length := by
  induction events generalizing last with
  | nil => rfl
  | cons prepared events ih => simp [rowsFrom, ih]

lemma rowsFrom_intact {events} (intact : ∀ event ∈ events, event.byteCount = jsonByteLength event.event ∧
      validateProviderMessageEventInput event.event = .ok ()) : ∀ row ∈ rowsFrom last events, row.Intact := by
  induction events generalizing last with
  | nil => simp [rowsFrom]
  | cons prepared events ih =>
    intro row mem
    rcases mem_cons.mp mem with rfl | mem
    · obtain ⟨count, valid⟩ := intact prepared mem_cons_self
      exact ⟨count, valid⟩
    · exact ih (last + 1) (fun event among => intact event (mem_cons_of_mem _ among)) row mem

inductive AppendResult (config : ProviderInboxConfig) (commit : Commit)
    (events : List ProviderMessageEventInput) (db : Db) :
    Db × Except String Unit → List ProviderMessageEventInput → Prop
  | refused {msg : String} : AppendResult config commit events db (db, .error msg) []
  | nothing : AppendResult config commit events db (db, .ok ()) []
  | stored {prepared : List Prepared} {out : Except String Unit}
      (same : prepared.map Prepared.event = events)
      (intact : ∀ event ∈ prepared, event.byteCount = jsonByteLength event.event ∧
        validateProviderMessageEventInput event.event = .ok ())
      (count : db.inbox.length + prepared.length ≤ config.maxEvents)
      (bytes : (db.inbox.map Row.byteCount).sum + (prepared.map Prepared.byteCount).sum ≤ config.maxBytes)
      (reported : out = .ok () ∨ ∃ msg, commit = .unsecured msg) :
      AppendResult config commit events db (insertAll db prepared, out) events

lemma appendProviderEvents_result (config : ProviderInboxConfig) (commit : Commit)
    (events : List ProviderMessageEventInput) (db : Db) :
    AppendResult config commit events db (appendProviderEvents config commit events db)
      (accepted config commit events db) := by
  unfold accepted appendProviderEvents
  by_cases empty : events = []
  · subst empty
    exact .nothing
  rw [if_neg empty, if_neg empty]
  by_cases many : config.maxEvents < events.length
  · rw [if_pos many, if_pos many]
    exact .refused
  rw [if_neg many, if_neg many]
  cases done : prepare config 0 events with
  | error msg => exact .refused
  | ok prepared =>
    obtain ⟨same, intact⟩ := prepare_intact done
    simp only
    split
    · exact .refused
    · rename_i fits
      simp only [providerInboxTotals, not_or, not_lt] at fits
      cases commit with
      | committed => exact .stored same intact fits.1 fits.2 (.inl rfl)
      | failed msg => exact .refused
      | unsecured msg => exact .stored same intact fits.1 fits.2 (.inr ⟨msg, rfl⟩)

lemma numbered_append (last : Nat) (before events : List ProviderMessageEventInput) :
    numbered last (before ++ events) = numbered last before ++ numbered (last + before.length) events := by
  rw [numbered, zipIdx_append, map_append, Nat.add_right_comm]
  rfl

lemma numbered_rows (last : Nat) (prepared : List Prepared) :
    numbered last (prepared.map Prepared.event) = (rowsFrom last prepared).map Row.entry := by
  induction prepared generalizing last with
  | nil => rfl
  | cons first rest ih =>
    rw [rowsFrom, map_cons, map_cons, ← ih (last + 1)]
    rfl

lemma providerEvents_page {db page}
    (read : providerEvents config limit db = .ok page) : page = (entries db).take limit.toNat := by
  unfold providerEvents at read
  split at read
  · cases read
  · have each : ∀ (rows : List Row) (page : List ProviderMessageEvent),
        rows.mapM (readRow config) = .ok page → page = rows.map Row.entry := by
      intro rows
      induction rows with
      | nil =>
        intro page done
        cases done
        rfl
      | cons row rows ih =>
        intro page done
        rw [mapM_cons] at done
        obtain ⟨entry, first, done⟩ := bind_eq_ok.mp done
        obtain ⟨rest, later, done⟩ := bind_eq_ok.mp done
        cases done
        obtain ⟨-, -, first⟩ := bind_eq_ok.mp first
        obtain ⟨-, -, first⟩ := bind_eq_ok.mp first
        cases first
        rw [ih rest later]
        rfl
    rw [each _ _ read, entries, map_take]

lemma providerEvents_ok {db : Db} (least : 1 ≤ limit) (most : limit ≤ 100) (intact : ∀ row ∈ db.inbox, row.Intact)
    (bytes : (db.inbox.map Row.byteCount).sum ≤ config.maxBytes) :
    providerEvents config limit db = .ok ((entries db).take limit.toNat) := by
  have each : ∀ rows : List Row, (∀ row ∈ rows, row ∈ db.inbox) →
      rows.mapM (readRow config) = .ok (rows.map Row.entry) := by
    intro rows
    induction rows with
    | nil =>
      intro among
      rfl
    | cons row rows ih =>
      intro among
      have stored := among row mem_cons_self
      have inv := intact row stored
      have fits : row.byteCount ≤ config.maxBytes := (le_sum_of_mem (mem_map_of_mem stored)).trans bytes
      have rest := ih fun alt mem => among alt (mem_cons_of_mem row mem)
      have first : readRow config row = .ok row.entry := by
        unfold readRow parseProviderMessageEvent
        rw [inv.valid]
        have same : ¬(jsonByteLength row.event ≠ row.byteCount ∨
            config.maxBytes < jsonByteLength row.event) := by
          rw [← inv.byteCount]
          simpa using fits
        simp only [raiseIf, if_neg same]
        rfl
      rw [mapM_cons, first, rest]
      rfl
  unfold providerEvents
  rw [if_neg (by omega), each _ (fun row mem => mem_of_mem_take mem), entries, map_take]

lemma acknowledge_cases : (acknowledgeProviderEvents commit throughSequence db).1 = db ∨
    (acknowledgeProviderEvents commit throughSequence db).1 =
      { db with inbox := db.inbox.filter fun row => throughSequence < row.sequence } := by
  unfold acknowledgeProviderEvents
  split
  · left
    rfl
  · cases commit with
    | committed | unsecured =>
      right
      rfl
    | failed msg =>
      left
      rfl

lemma reset_cases : (resetPhysicalAuth commit db).1 = db ∨
    (resetPhysicalAuth commit db).1 = { db with inbox := [] } := by
  cases commit with
  | committed | unsecured =>
    right
    rfl
  | failed msg =>
    left
    rfl

lemma validatePending_within {db done} (passed : validatePendingProviderEvents config db = .ok done) :
    db.inbox.length ≤ config.maxEvents ∧ (db.inbox.map Row.byteCount).sum ≤ config.maxBytes := by
  obtain ⟨-, -, passed⟩ := bind_eq_ok.mp passed
  have within := raiseIf_eq_ok.mp passed
  simpa [providerInboxTotals, not_or, not_lt] using within

end Clawdi.ProviderInbox
