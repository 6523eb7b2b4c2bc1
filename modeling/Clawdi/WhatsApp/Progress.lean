import Clawdi.WhatsApp.Delivery
import Mathlib.Logic.Function.Iterate

namespace Clawdi.WhatsApp
open List
section

-- `base64.b64decode` with `validate`; `none` when it raises
variable (b64decode : String → Option Bytes) (payload : JsonObject)

def messageProtoBytes : Except String Bytes :=
  match payload.lookup "messageProtoBase64" with
  | some (.text exact) =>
    match b64decode exact with
    | none => .error "whatsapp inbox event contains invalid message proto"
    | some [] => .error "whatsapp inbox event contains empty message proto"
    | some dec => .ok dec
  | _ => .error "whatsapp inbox event is missing exact message proto"

structure InboxMessageDebug where
  protoBytes : Nat
  protoSha256 : Digest
  textLength : Option Nat
  textSha256 : Option Digest

def inboxMessageDebug (text : Option String) : Except String InboxMessageDebug := do
  let proto ← messageProtoBytes b64decode payload
  return {
    protoBytes := proto.length
    protoSha256 := sha256 proto
    textLength := text.map String.length
    textSha256 := text.map fun text => sha256 text.toUTF8.data.toList }

/-- The part of a turn that a failure ends; `deliver` is false where it raises. -/
def delivery (deliver : PreparedInboundDelivery → Bool) (event : InboxPumpEvent) : Push :=
  match prepareInboundDelivery event with
  | .error _ => .failed
  | .ok prepared =>
    match inboxMessageDebug b64decode prepared.payload prepared.text with
    | .error _ => .failed
    | .ok _ => if deliver prepared then .delivered else .failed

def protoDecodes (event : InboxPumpEvent) : Bool := (messageProtoBytes b64decode event.payload).isOk
def wellFormed (event : InboxPumpEvent) : Bool := (prepareInboundDelivery event).isOk && protoDecodes b64decode event

end

def pushPage (push : InboxPumpEvent → Push) :
    List InboxPumpEvent → InboxPumpResult → InboxPumpResult × List InboxPumpEvent
  | [], res => (res, [])
  | event :: page, res =>
    let (next, goesOn) := pushEvent event (push event) res
    let own := if res.delivered < next.delivered then [event] else []
    if goesOn then
      let (last, others) := pushPage push page next
      (last, own ++ others)
    else (next, own)

@[ext] structure Queue where
  cursor : Nat
  unacked : List InboxPumpEvent
  delivered : List InboxPumpEvent

def Queue.runOnce (push : InboxPumpEvent → Push) (limit : Nat) (q : Queue) : Queue :=
  let page := (q.unacked.filter fun event => q.cursor < event.sequence).take limit
  let (res, delivered) := pushPage push page .new
  match res.ackedThrough with
  | none => { q with delivered := q.delivered ++ delivered }
  | some through =>
    { cursor := through
      unacked := q.unacked.filter fun event => through < event.sequence
      delivered := q.delivered ++ delivered }

def Ascending (evs : List InboxPumpEvent) : Prop := evs.Pairwise fun event later => event.sequence < later.sequence

def Drains (b64decode : String → Option Bytes) (deliver : PreparedInboundDelivery → Bool) (limit afterSequence : Nat)
    (evs : List InboxPumpEvent) : Prop :=
  ∃ rounds, ∀ more, rounds ≤ more →
    (Queue.runOnce (delivery b64decode deliver) limit)^[more] ⟨afterSequence, evs, []⟩ =
      ⟨(evs.getLast?.map InboxPumpEvent.sequence).getD afterSequence, [], evs.filter (wellFormed b64decode)⟩

variable {b64decode : String → Option Bytes} {deliver : PreparedInboundDelivery → Bool}
variable {push : InboxPumpEvent → Push} {limit afterSequence : Nat}
variable {evs page : List InboxPumpEvent} {event : InboxPumpEvent} {res : InboxPumpResult}

lemma prepare_payload {prepared}
    (ok : prepareInboundDelivery event = .ok prepared) : prepared.payload = event.payload := by
  unfold prepareInboundDelivery at ok
  simp only [bind, Except.bind, pure, Except.pure, throw, throwThe, MonadExceptOf.throw] at ok
  repeat' split at ok
  all_goals cases ok
  all_goals rfl

lemma inboxMessageDebug_isOk (payload : JsonObject) (text : Option String) :
    (inboxMessageDebug b64decode payload text).isOk = (messageProtoBytes b64decode payload).isOk := by
  unfold inboxMessageDebug
  cases messageProtoBytes b64decode payload <;> rfl

lemma pushEvent_delivery (event : InboxPumpEvent) (res : InboxPumpResult)
    (succeeds : wellFormed b64decode event = true → ∀ prepared,
      prepareInboundDelivery event = .ok prepared → deliver prepared = true) :
    pushEvent event (delivery b64decode deliver event) res =
      if (prepareInboundDelivery event).isOk = false then
        ({ res with errors := res.errors + 1, ackedThrough := some event.sequence }, true)
      else if wellFormed b64decode event then
        ({ res with delivered := res.delivered + 1, ackedThrough := some event.sequence }, true)
      else ({ res with errors := res.errors + 1 }, false) := by
  unfold pushEvent delivery
  cases ok : prepareInboundDelivery event with
  | error msg => rfl
  | ok prepared =>
    have debugged := @inboxMessageDebug_isOk b64decode prepared.payload prepared.text
    rw [prepare_payload ok] at debugged
    have isOk : (prepareInboundDelivery event).isOk = true := by rw [ok]; rfl
    simp only [wellFormed, isOk, Bool.true_and, protoDecodes, ← debugged] at succeeds ⊢
    rw [prepare_payload ok]
    cases debug : inboxMessageDebug b64decode event.payload prepared.text with
    | error msg => rfl
    | ok details =>
      simp only [debug] at succeeds
      simp [Except.isOk, Except.toBool, succeeds rfl prepared ok]

lemma pushPage_passes (succeeds : ∀ event ∈ page, wellFormed b64decode event = true → ∀ prepared,
      prepareInboundDelivery event = .ok prepared → deliver prepared = true)
    (decodes : ∀ event ∈ page, (prepareInboundDelivery event).isOk = true → protoDecodes b64decode event = true) :
    (pushPage (delivery b64decode deliver) page res).1.ackedThrough =
        (page.getLast?.map InboxPumpEvent.sequence).or res.ackedThrough ∧
      (pushPage (delivery b64decode deliver) page res).2 = page.filter (wellFormed b64decode) := by
  induction page generalizing res with
  | nil => exact ⟨rfl, rfl⟩
  | cons event page ih =>
    have turn := pushEvent_delivery event res (succeeds event mem_cons_self)
    have rest (next : InboxPumpResult) := @ih next (fun alt mem => succeeds alt (mem_cons_of_mem event mem))
      fun alt mem => decodes alt (mem_cons_of_mem event mem)
    have last : ((event :: page).getLast?.map InboxPumpEvent.sequence).or res.ackedThrough =
        (page.getLast?.map InboxPumpEvent.sequence).or (some event.sequence) := by
      rw [List.getLast?_cons]
      cases page.getLast? <;> rfl
    rw [last]
    unfold pushPage
    cases isOk : (prepareInboundDelivery event).isOk with
    | false =>
      have malformed : wellFormed b64decode event = false := by simp [wellFormed, isOk]
      simp only [isOk, if_true] at turn
      simp [turn, rest, malformed]
    | true =>
      have good : wellFormed b64decode event = true := by simp [wellFormed, isOk, decodes event mem_cons_self isOk]
      simp only [isOk, good, if_true, Bool.true_eq_false, if_false] at turn
      simp [turn, rest, good]

lemma delivery_failed (undecodable : protoDecodes b64decode event = false) :
    delivery b64decode deliver event = .failed := by
  unfold delivery
  cases ok : prepareInboundDelivery event with
  | error msg => rfl
  | ok prepared =>
    have debugged := @inboxMessageDebug_isOk b64decode prepared.payload prepared.text
    rw [prepare_payload ok, ← protoDecodes, undecodable] at debugged
    simp only [prepare_payload ok]
    cases debug : inboxMessageDebug b64decode event.payload prepared.text with
    | error msg => rfl
    | ok details =>
      rw [debug] at debugged
      cases debugged

lemma pushPage_stops (ascending : Ascending page)
    (isOk : (prepareInboundDelivery event).isOk = true) (undecodable : protoDecodes b64decode event = false)
    (place : event ∈ page ∨ ∀ alt ∈ page, alt.sequence < event.sequence)
    (pre : ∀ through ∈ res.ackedThrough, through < event.sequence) :
    ∀ through ∈ (pushPage (delivery b64decode deliver) page res).1.ackedThrough, through < event.sequence := by
  induction page generalizing res with
  | nil => exact pre
  | cons first page ih =>
    obtain ⟨behind, others⟩ := pairwise_cons.mp ascending
    have cases := pushEvent_cases first (delivery b64decode deliver first) res
    simp only [pushPage]
    by_cases same : first = event
    · subst same
      rcases cases with ⟨_, _, succeeded⟩ | ⟨stopped, kept⟩
      · exact absurd (delivery_failed undecodable) (succeeded isOk)
      · simpa [stopped, kept] using pre
    · have further (mem : event ∈ first :: page) : event ∈ page :=
        (mem_cons.mp mem).resolve_left (Ne.symm same)
      rcases cases with ⟨goesOn, acked, _⟩ | ⟨stopped, kept⟩
      · rw [if_pos goesOn]
        apply ih others
        · rcases place with mem | below
          · exact .inl (further mem)
          · exact .inr fun alt mem => below alt (mem_cons_of_mem first mem)
        · intro through isThrough
          rw [acked] at isThrough
          cases isThrough
          rcases place with mem | below
          · exact behind event (further mem)
          · exact below first mem_cons_self
      · simpa [stopped, kept] using pre

lemma fetch_eq {cur : Nat} (ahead : ∀ event ∈ evs, cur < event.sequence) :
    (evs.filter fun event => cur < event.sequence).take limit = evs.take limit := by
  rw [filter_eq_self.mpr]
  simpa using ahead

structure Queue.Past (b64decode : String → Option Bytes) (afterSequence : Nat)
    (evs : List InboxPumpEvent) (count : Nat) (q : Queue) : Prop where
  unacked : q.unacked = evs.drop count
  delivered : q.delivered = (evs.take count).filter (wellFormed b64decode)
  cursor : q.cursor = ((evs.take count).getLast?.map InboxPumpEvent.sequence).getD afterSequence

section
variable {count : Nat} {q : Queue}

lemma Queue.Past.ahead (past : q.Past b64decode afterSequence evs count)
    (ascending : Ascending evs) (first : ∀ event ∈ evs, afterSequence < event.sequence) :
    ∀ event ∈ evs.drop count, q.cursor < event.sequence := by
  intro event mem
  rw [past.cursor]
  cases last : (evs.take count).getLast? with
  | none => exact first event (mem_of_mem_drop mem)
  | some handled =>
    rw [Ascending, ← take_append_drop count evs] at ascending
    exact (pairwise_append.mp ascending).2.2 handled (mem_of_getLast? last) event mem

lemma Queue.Past.runOnce (past : q.Past b64decode afterSequence evs count)
    (ascending : Ascending evs) (first : ∀ event ∈ evs, afterSequence < event.sequence)
    (succeeds : ∀ event ∈ evs, wellFormed b64decode event = true → ∀ prepared,
      prepareInboundDelivery event = .ok prepared → deliver prepared = true)
    (decodes : ∀ event ∈ evs, (prepareInboundDelivery event).isOk = true → protoDecodes b64decode event = true) :
    (q.runOnce (delivery b64decode deliver) limit).Past b64decode afterSequence evs (count + limit) := by
  have here : ∀ event ∈ (evs.drop count).take limit, event ∈ evs := fun event mem =>
    mem_of_mem_drop (mem_of_mem_take mem)
  obtain ⟨acked, delivered⟩ := @pushPage_passes b64decode deliver ((evs.drop count).take limit) .new
    (fun event mem => succeeds event (here event mem))
    fun event mem => decodes event (here event mem)
  have page := @fetch_eq limit _ _ (past.ahead ascending first)
  have joined : evs.take (count + limit) = evs.take count ++ (evs.drop count).take limit := take_add
  have dropped : evs.drop (count + limit) = (evs.drop count).drop limit := (drop_drop ..).symm
  have pages := take_append_drop limit (evs.drop count)
  have start : InboxPumpResult.new.ackedThrough = none := rfl
  rw [start, Option.or_none] at acked
  simp only [Queue.runOnce, past.unacked, page, acked, delivered]
  cases last : ((evs.drop count).take limit).getLast? with
  | none =>
    have noPage := List.getLast?_eq_none_iff.mp last
    rw [noPage, append_nil] at joined
    rw [noPage, nil_append] at pages
    refine ⟨?_, ?_, ?_⟩
    · rw [dropped, pages]
      rfl
    · simpa [joined, noPage] using past.delivered
    · simpa [joined] using past.cursor
  | some handled =>
    refine ⟨?_, ?_, ?_⟩
    · show (evs.drop count).filter (fun event => handled.sequence < event.sequence) = _
      rw [dropped]
      have sorted : Ascending (evs.drop count) := ascending.sublist (drop_sublist count evs)
      rw [Ascending, ← pages] at sorted
      obtain ⟨own, _, apart⟩ := pairwise_append.mp sorted
      have handledLast := mem_of_getLast? last
      have below : ∀ event ∈ (evs.drop count).take limit, ¬handled.sequence < event.sequence := by
        obtain ⟨others, split⟩ := List.getLast?_eq_some_iff.mp last
        rw [split] at own ⊢
        intro event mem
        rcases mem_append.mp mem with pre | isLast
        · exact ((pairwise_append.mp own).2.2 event pre handled (by simp)).not_gt
        · exact (mem_singleton.mp isLast) ▸ lt_irrefl handled.sequence
      have above : ∀ event ∈ (evs.drop count).drop limit, handled.sequence < event.sequence :=
        fun event mem => apart handled handledLast event mem
      conv_lhs => rw [← pages]
      rw [filter_append, filter_eq_nil_iff.mpr (by simpa using below),
        filter_eq_self.mpr (by simpa using above), nil_append]
    · show q.delivered ++ _ = _
      rw [joined, filter_append, past.delivered]
    · show handled.sequence = _
      rw [joined, List.getLast?_append, last]
      rfl

lemma past_rounds (ascending : Ascending evs) (first : ∀ event ∈ evs, afterSequence < event.sequence)
    (succeeds : ∀ event ∈ evs, wellFormed b64decode event = true → ∀ prepared,
      prepareInboundDelivery event = .ok prepared → deliver prepared = true)
    (decodes : ∀ event ∈ evs, (prepareInboundDelivery event).isOk = true →
      protoDecodes b64decode event = true) (rounds : Nat) :
    ((Queue.runOnce (delivery b64decode deliver) limit)^[rounds] ⟨afterSequence, evs, []⟩).Past
      b64decode afterSequence evs (rounds * limit) := by
  induction rounds with
  | zero => exact ⟨by simp, by simp, by simp⟩
  | succ rounds ih =>
    rw [Function.iterate_succ_apply', Nat.succ_mul]
    exact ih.runOnce ascending first succeeds decodes

lemma Queue.stuck (isOk : (prepareInboundDelivery event).isOk = true)
    (undecodable : protoDecodes b64decode event = false)
    (stands : Ascending q.unacked ∧ event ∈ q.unacked ∧ q.cursor < event.sequence) :
    Ascending (q.runOnce (delivery b64decode deliver) limit).unacked ∧
      event ∈ (q.runOnce (delivery b64decode deliver) limit).unacked ∧
        (q.runOnce (delivery b64decode deliver) limit).cursor < event.sequence := by
  obtain ⟨ascending, mem, ahead⟩ := stands
  let fetched := q.unacked.filter fun event => q.cursor < event.sequence
  have sorted : Ascending fetched := List.Pairwise.filter _ ascending
  have inFetched : event ∈ fetched := mem_filter.mpr ⟨mem, by simpa using ahead⟩
  have place : event ∈ fetched.take limit ∨ ∀ alt ∈ fetched.take limit, alt.sequence < event.sequence := by
    rw [← take_append_drop limit fetched] at inFetched
    rw [Ascending, ← take_append_drop limit fetched] at sorted
    rcases mem_append.mp inFetched with front | back
    · exact .inl front
    · exact .inr fun alt isFront => (pairwise_append.mp sorted).2.2 alt isFront event back
  have acked := @pushPage_stops b64decode deliver (fetched.take limit) event .new
    (List.Pairwise.sublist (take_sublist limit fetched) sorted) isOk undecodable place
    (by simp [InboxPumpResult.new])
  unfold Queue.runOnce
  simp only
  split
  · exact ⟨ascending, mem, ahead⟩
  · rename_i through isThrough
    have behind := acked through isThrough
    exact ⟨List.Pairwise.filter _ ascending, mem_filter.mpr ⟨mem, by simpa using behind⟩, behind⟩

end

lemma Drains.decodes (drains : Drains b64decode deliver limit afterSequence evs)
    (ascending : Ascending evs) (first : ∀ event ∈ evs, afterSequence < event.sequence)
    (mem : event ∈ evs) (isOk : (prepareInboundDelivery event).isOk = true) :
    protoDecodes b64decode event = true := by
  by_contra undecodable
  rw [Bool.not_eq_true] at undecodable
  obtain ⟨rounds, drained⟩ := drains
  let after (more : Nat) := (Queue.runOnce (delivery b64decode deliver) limit)^[more] ⟨afterSequence, evs, []⟩
  have stands (more : Nat) : Ascending (after more).unacked ∧ event ∈ (after more).unacked ∧
      (after more).cursor < event.sequence := by
    induction more with
    | zero => exact ⟨ascending, mem, first event mem⟩
    | succ more ih =>
      simp only [after, Function.iterate_succ_apply']
      exact Queue.stuck isOk undecodable ih
  have left := (stands rounds).2.1
  simp only [after, drained rounds le_rfl] at left
  cases left

/-- The queue drains if and only if no event has a fault in its message and nowhere else. -/
theorem inbox_drains_iff {b64decode : String → Option Bytes} {deliver : PreparedInboundDelivery → Bool}
    {limit afterSequence : Nat} {evs : List InboxPumpEvent} (positive : 0 < limit)
    (ascending : Ascending evs) (first : ∀ event ∈ evs, afterSequence < event.sequence)
    (succeeds : ∀ event ∈ evs, wellFormed b64decode event = true → ∀ prepared,
      prepareInboundDelivery event = .ok prepared → deliver prepared = true) :
    Drains b64decode deliver limit afterSequence evs ↔
      ∀ event ∈ evs, (prepareInboundDelivery event).isOk = true → protoDecodes b64decode event = true := by
  constructor
  · intro drains event mem isOk
    exact drains.decodes ascending first mem isOk
  · intro decodes
    refine ⟨evs.length, ?_⟩
    intro more enough
    obtain ⟨unacked, delivered, cur⟩ := @past_rounds b64decode deliver limit _ _ ascending first succeeds decodes more
    have whole : evs.length ≤ more * limit := enough.trans (Nat.le_mul_of_pos_right more positive)
    rw [take_of_length_le whole] at delivered cur
    rw [drop_eq_nil_of_le whole] at unacked
    exact Queue.ext cur unacked delivered

section

def sampleB64decode (text : String) : Option Bytes :=
  if text = "CgJoaQ==" then some [10, 2, 104, 105] else none

def pumpEvent (seq : Nat) (proto : JsonObject) : InboxPumpEvent where
  sequence := seq
  externalChatId := "15550001111@s.whatsapp.net"
  payload := ("schemaVersion", .text "clawdi.whatsappBaileysProviderEvent.v1") ::
    ("key", .object [("remoteJid", .text "15550001111@s.whatsapp.net"), ("id", .text "3EB0")]) :: proto
  providerMessageId := some "3EB0"
  text := none

def blockedEvents : List InboxPumpEvent := [pumpEvent 1 [], pumpEvent 2 [("messageProtoBase64", .text "CgJoaQ==")]]

theorem event_without_message_blocks : ¬Drains sampleB64decode (fun _ => true) 100 0 blockedEvents := by
  intro drains
  have ascending : Ascending blockedEvents := by
    unfold Ascending
    decide +kernel
  have decodes := drains.decodes ascending (by decide +kernel) mem_cons_self (by decide +kernel)
  revert decodes
  decide +kernel

def skippedEvents : List InboxPumpEvent :=
  [{ pumpEvent 1 [] with payload := [] }, pumpEvent 2 [("messageProtoBase64", .text "CgJoaQ==")]]

theorem inbox_drains_iff_sample : Drains sampleB64decode (fun _ => true) 100 0 skippedEvents ↔
    ∀ event ∈ skippedEvents, (prepareInboundDelivery event).isOk = true →
      protoDecodes sampleB64decode event = true := by
  have ascending : Ascending skippedEvents := by
    unfold Ascending
    decide +kernel
  exact inbox_drains_iff (by decide) ascending (by decide +kernel) (fun _ _ _ _ _ => rfl)

end
end Clawdi.WhatsApp
