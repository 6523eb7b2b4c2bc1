import Clawdi.WhatsApp.Inbox

namespace Clawdi.WhatsApp
open Transition List Bool
section
variable {reader : Reader}

lemma inboxOrder_sequence {first snd} (ordered : inboxOrder first snd = true) :
    first.inboxSequence ≤ snd.inboxSequence := by
  simp only [inboxOrder, or_eq_true, and_eq_true, decide_eq_true_eq] at ordered
  omega

lemma insertionSort_inboxOrder (msgs : List ChannelMessage) :
    (msgs.insertionSort fun first snd => inboxOrder first snd).Pairwise
      (fun first snd => inboxOrder first snd = true) := by
  have total : Std.Total fun first snd : ChannelMessage => inboxOrder first snd = true := by
    constructor
    intro first snd
    simp only [inboxOrder, or_eq_true, and_eq_true, decide_eq_true_eq]
    omega
  have trans : IsTrans ChannelMessage fun first snd => inboxOrder first snd = true := by
    constructor
    intro first snd third
    simp only [inboxOrder, or_eq_true, and_eq_true, decide_eq_true_eq]
    omega
  exact pairwise_insertionSort _ _

variable {msgs : List ChannelMessage}

lemma waitInbox_ascending (reader : Reader) (cur limit : Nat)
    (unique : (msgs.map ChannelMessage.inboxSequence).Nodup) : (waitInbox reader cur limit msgs).Pairwise
      (fun first snd => first.inboxSequence < snd.inboxSequence) := by
  let chosen := fun msg : ChannelMessage =>
    pending reader msg && decide (cur < msg.inboxSequence)
  have distinct : (((msgs.filter chosen).insertionSort fun first snd =>
      inboxOrder first snd).map ChannelMessage.inboxSequence).Nodup := by
    have perm := (perm_insertionSort (fun first snd : ChannelMessage =>
      inboxOrder first snd = true) (msgs.filter chosen)).map ChannelMessage.inboxSequence
    exact perm.nodup_iff.mpr (unique.sublist (filter_sublist.map _))
  have apart := pairwise_map.mp distinct
  refine ((insertionSort_inboxOrder _).and apart).imp ?_ |>.sublist (take_sublist limit _)
  intro first snd ⟨ordered, differ⟩
  have low := inboxOrder_sequence ordered
  omega

lemma waitInbox_front {cur limit : Nat} (unique : (msgs.map ChannelMessage.inboxSequence).Nodup) {msg last}
    (stored : msg ∈ msgs) (waits : pending reader msg = true) (later : cur < msg.inboxSequence)
    (paged : last ∈ waitInbox reader cur limit msgs)
    (below : msg.inboxSequence ≤ last.inboxSequence) : msg ∈ waitInbox reader cur limit msgs := by
  let sorted := (msgs.filter fun msg =>
    pending reader msg && decide (cur < msg.inboxSequence)).insertionSort fun first snd => inboxOrder first snd
  have listed : msg ∈ sorted := by
    rw [mem_insertionSort, mem_filter, waits]
    exact ⟨stored, by simpa using later⟩
  have all : sorted.Pairwise fun first snd => first.inboxSequence < snd.inboxSequence := by
    have whole := waitInbox_ascending reader cur sorted.length unique
    rwa [waitInbox, take_length] at whole
  show msg ∈ sorted.take limit
  rw [← take_append_drop limit sorted] at all listed
  rcases mem_append.mp listed with front | back
  · exact front
  · have order := (pairwise_append.mp all).2.2 last paged msg back
    omega

end

def World.Handled (w : World) (ev : InboxPumpEvent) : Prop := ev ∈ w.passed ∨ ev ∈ w.rejected

/-- What the pump holds covers the pending rows above its cursor. -/
def Covers (reader : Reader) (msgs : List ChannelMessage) (handled : InboxPumpEvent → Prop) : Pump → Prop
  | .stopped => True
  | .waiting cur => ∀ msg ∈ msgs, pending reader msg = true → cur < msg.inboxSequence
  | .working cur page res =>
    page.Pairwise (fun first snd => first.sequence < snd.sequence) ∧ ∀ msg ∈ msgs, pending reader msg = true →
        cur < msg.inboxSequence ∧ (∀ through ∈ res.ackedThrough, msg.inboxSequence ≤ through → handled msg.event) ∧
          ∀ ev ∈ page, msg.inboxSequence ≤ ev.sequence → msg.event ∈ page ∨ handled msg.event

structure Kept (reader : Reader) (w : World) : Prop where
  sequences : ((w.messages ++ w.inserting.map Prod.snd).map ChannelMessage.inboxSequence).Nodup
  bounded : ∀ msg ∈ w.messages ++ w.inserting.map Prod.snd,
    0 < msg.inboxSequence ∧ msg.inboxSequence < w.nextSequence
  positive : 0 < w.nextSequence
  undelivered : ∀ e ∈ w.inserting, e.2.deliveredAt = none
  marked : ∀ msg ∈ w.messages, msg.deliveredAt.isSome = true → w.Handled msg.event
  covers : Covers reader w.messages w.Handled w.pump

variable {reader : Reader} {w : World}

lemma Covers.append {msgs new} {handled : InboxPumpEvent → Prop} {pump} (covers : Covers reader msgs handled pump)
    (above : ∀ msg ∈ new, pending reader msg = true →
      ∀ seq ∈ pump.taken, seq < msg.inboxSequence) : Covers reader (msgs ++ new) handled pump := by
  cases pump with
  | stopped => exact trivial
  | waiting cur =>
    intro msg stored waits
    rcases mem_append.mp stored with pre | added
    · exact covers msg pre waits
    · exact above msg added waits cur (by simp [Pump.taken])
  | working cur page res =>
    obtain ⟨ascending, pages⟩ := covers
    refine ⟨ascending, ?_⟩
    intro msg stored waits
    rcases mem_append.mp stored with pre | added
    · exact pages msg pre waits
    · have past := above msg added waits
      refine ⟨past cur (by simp [Pump.taken]), ?_, ?_⟩
      · intro through named below
        have less := past through (by simp [Pump.taken, Option.mem_toList.mpr named])
        omega
      · intro ev paged below
        have less := past ev.sequence (by simpa [Pump.taken] using .inr (.inr ⟨ev, paged, rfl⟩))
        omega

lemma Kept.new : Kept reader World.new where
  sequences := by simp [World.new]
  bounded := by simp [World.new]
  positive := Nat.one_pos
  undelivered := by simp [World.new]
  marked := by simp [World.new]
  covers := trivial

lemma Kept.insert (kept : Kept reader w) (tx : Nat) (msg : ChannelMessage) :
    Kept reader (step reader w (.insert tx msg)) where
  sequences := by
    have fresh : w.nextSequence ∉
        (w.messages ++ w.inserting.map Prod.snd).map ChannelMessage.inboxSequence := by
      intro used
      obtain ⟨alt, mem, same⟩ := mem_map.mp used
      have low := (kept.bounded alt mem).2
      omega
    simp only [step, map_append, map_cons, map_nil] at fresh ⊢
    rw [← append_assoc, nodup_append]
    refine ⟨by simpa using kept.sequences, nodup_singleton _, ?_⟩
    intro old pre new last same
    rw [mem_singleton.mp last] at same
    exact fresh (same ▸ pre)
  bounded := by
    intro alt mem
    simp only [step, map_append, map_cons, map_nil, ← append_assoc] at mem ⊢
    rcases mem_append.mp mem with pre | added
    · have bounds := kept.bounded alt pre
      omega
    · rw [mem_singleton.mp added]
      exact ⟨kept.positive, Nat.lt_succ_self _⟩
  positive := Nat.succ_pos _
  undelivered := by
    intro e mem
    rcases mem_append.mp mem with pre | added
    · exact kept.undelivered e pre
    · rw [mem_singleton.mp added]
  marked := kept.marked
  covers := kept.covers

lemma commit_rows (w : World) (tx : Nat) : ((w.commit tx).messages ++ (w.commit tx).inserting.map Prod.snd).Perm
      (w.messages ++ w.inserting.map Prod.snd) := by
  show (w.messages ++ (w.inserting.filter fun e => e.1 = tx).map Prod.snd ++
    (w.inserting.filter fun e => e.1 ≠ tx).map Prod.snd).Perm _
  rw [append_assoc, ← map_append]
  refine List.Perm.append_left _ (List.Perm.map _ ?_)
  simpa using filter_append_perm (fun e => decide (e.1 = tx)) w.inserting

section
variable (kept : Kept reader w)
include kept

lemma Kept.commit (tx : Nat) (admitted : Admitted reader w (.commit tx)) :
    Kept reader (step reader w (.commit tx)) where
  sequences := ((commit_rows w tx).map _).nodup_iff.mpr kept.sequences
  bounded := fun msg mem =>
    kept.bounded msg ((commit_rows w tx).mem_iff.mp mem)
  positive := kept.positive
  undelivered := fun e mem => kept.undelivered e (mem_of_mem_filter mem)
  marked := by
    intro msg stored delivered
    rcases mem_append.mp stored with pre | added
    · exact kept.marked msg pre delivered
    · obtain ⟨e, among, rfl⟩ := mem_map.mp added
      rw [kept.undelivered e (mem_of_mem_filter among)] at delivered
      cases delivered
  covers := by
    refine kept.covers.append ?_
    intro msg added waits
    obtain ⟨e, among, rfl⟩ := mem_map.mp added
    obtain ⟨waiting, same⟩ := mem_filter.mp among
    exact admitted e waiting (of_decide_eq_true same) waits

lemma Kept.rollback (tx : Nat) : Kept reader (step reader w (.rollback tx)) where
  sequences := by
    refine kept.sequences.sublist (List.Sublist.map _ ?_)
    exact List.Sublist.append_left (filter_sublist.map _) _
  bounded := by
    intro msg mem
    apply kept.bounded msg
    rcases mem_append.mp mem with pre | waiting
    · exact mem_append_left _ pre
    · exact mem_append_right _ ((filter_sublist.map Prod.snd).subset waiting)
  positive := kept.positive
  undelivered := fun e mem => kept.undelivered e (mem_of_mem_filter mem)
  marked := kept.marked
  covers := kept.covers

lemma Kept.restart : Kept reader (step reader w .restart) :=
  { kept with
    covers := fun msg stored _ => (kept.bounded msg (mem_append_left _ stored)).1 }

lemma Kept.stop : Kept reader (step reader w .stop) :=
  { kept with covers := trivial }

lemma Kept.fetch (limit : Nat) : Kept reader (step reader w (.fetch limit)) := by
  cases held : w.pump with
  | stopped | working => simpa [step, World.fetch, held] using kept
  | waiting cur =>
    have covers := kept.covers
    rw [held] at covers
    have unique : (w.messages.map ChannelMessage.inboxSequence).Nodup := by
      have both := kept.sequences
      rw [map_append] at both
      exact both.of_append_left
    have pumped : (step reader w (.fetch limit)) =
        { w with
          pump := .working cur ((waitInbox reader cur limit w.messages).map
            ChannelMessage.event) .new } := by
      simp [step, World.fetch, held]
    rw [pumped]
    refine { kept with covers := ⟨?_, ?_⟩ }
    · exact pairwise_map.mpr (waitInbox_ascending _ _ _ unique)
    · intro msg stored waits
      refine ⟨covers msg stored waits, ?_, ?_⟩
      · intro through named
        cases named
      · intro ev paged below
        obtain ⟨last, among, rfl⟩ := mem_map.mp paged
        left
        have later := covers msg stored waits
        exact mem_map_of_mem (waitInbox_front unique stored waits later among below)

end

lemma pushEvent_cases (ev : InboxPumpEvent) (push : Push) (res : InboxPumpResult) :
    ((pushEvent ev push res).2 = true ∧ (pushEvent ev push res).1.ackedThrough = some ev.sequence ∧
        ((prepareInboundDelivery ev).isOk = true → push ≠ .failed)) ∨ ((pushEvent ev push res).2 = false ∧
        (pushEvent ev push res).1.ackedThrough = res.ackedThrough) := by
  unfold pushEvent
  cases prepared : prepareInboundDelivery ev with
  | error reason =>
    left
    refine ⟨rfl, rfl, ?_⟩
    intro isOk
    cases isOk
  | ok delivery =>
    cases push with
    | delivered =>
      left
      exact ⟨rfl, rfl, fun _ => by decide⟩
    | failed | unrecorded =>
      right
      exact ⟨rfl, rfl⟩

lemma push_handled {ev page} {cur : Nat} {res} (out : Push) (held : w.pump = .working cur (ev :: page) res) :
    (∀ alt, w.Handled alt → (w.push out).Handled alt) ∧
      (((prepareInboundDelivery ev).isOk = true → out ≠ .failed) → (w.push out).Handled ev) := by
  simp only [World.push, held, World.Handled]
  constructor
  · intro alt handled
    rcases handled with passed | rejected
    · left
      split
      · exact mem_append_left _ passed
      · exact passed
    · right
      split
      · exact rejected
      · exact mem_append_left _ rejected
  · intro succeeds
    by_cases isOk : (prepareInboundDelivery ev).isOk = true
    · left
      rw [if_pos ⟨isOk, succeeds isOk⟩]
      exact mem_append_right _ (mem_singleton_self ev)
    · right
      rw [if_neg isOk]
      exact mem_append_right _ (mem_singleton_self ev)

lemma Kept.push (kept : Kept reader w) (out : Push) : Kept reader (step reader w (.push out)) := by
  show Kept reader (w.push out)
  cases held : w.pump with
  | stopped | waiting => simpa [World.push, held] using kept
  | working cur page res =>
    cases page with
    | nil => simpa [World.push, held] using kept
    | cons ev page =>
      obtain ⟨grows, handles⟩ := push_handled out held
      have same : (w.push out).messages = w.messages ∧ (w.push out).inserting = w.inserting ∧
          (w.push out).nextSequence = w.nextSequence ∧
          (w.push out).pump = .working cur (if (pushEvent ev out res).2 then page else [])
            (pushEvent ev out res).1 := by
        simp [World.push, held]
      obtain ⟨msgs, inserting, nextSequence, pump⟩ := same
      have covers := kept.covers
      rw [held] at covers
      obtain ⟨ascending, pages⟩ := covers
      obtain ⟨ahead, rest⟩ := pairwise_cons.mp ascending
      refine
        { sequences := by rw [msgs, inserting]; exact kept.sequences
          bounded := by rw [msgs, inserting, nextSequence]; exact kept.bounded
          positive := by rw [nextSequence]; exact kept.positive
          undelivered := by rw [inserting]; exact kept.undelivered
          marked := ?_
          covers := ?_ }
      · rw [msgs]
        intro msg stored delivered
        exact grows _ (kept.marked msg stored delivered)
      · rw [msgs, pump]
        rcases pushEvent_cases ev out res with ⟨goesOn, acked, succeeds⟩ | ⟨ends, acked⟩
        · rw [goesOn, if_pos rfl]
          refine ⟨rest, ?_⟩
          intro msg stored waits
          obtain ⟨later, pre, onPage⟩ := pages msg stored waits
          refine ⟨later, ?_, ?_⟩
          · intro through named below
            rw [acked] at named
            cases named
            rcases onPage ev mem_cons_self below with paged | handled
            · rcases mem_cons.mp paged with here | behind
              · rw [here]
                exact handles succeeds
              · have less := ahead msg.event behind
                change ev.sequence < msg.inboxSequence at less
                omega
            · exact grows _ handled
          · intro alt paged below
            rcases onPage alt (mem_cons_of_mem _ paged) below with paged | handled
            · rcases mem_cons.mp paged with here | behind
              · right
                rw [here]
                exact handles succeeds
              · left
                exact behind
            · right
              exact grows _ handled
        · rw [ends, if_neg Bool.false_ne_true]
          refine ⟨List.Pairwise.nil, ?_⟩
          intro msg stored waits
          obtain ⟨later, pre, -⟩ := pages msg stored waits
          refine ⟨later, ?_, ?_⟩
          · intro through named below
            rw [acked] at named
            exact grows _ (pre through named below)
          · intro alt paged
            cases paged

lemma Kept.ack (kept : Kept reader w) (now : Int) : Kept reader (step reader w (.ack now)) := by
  show Kept reader (w.ack reader now)
  cases held : w.pump with
  | stopped | waiting => simpa [World.ack, held] using kept
  | working cur page res =>
    cases page with
    | cons ev page => simpa [World.ack, held] using kept
    | nil =>
      have covers := kept.covers
      rw [held] at covers
      obtain ⟨-, pages⟩ := covers
      cases acked : res.ackedThrough with
      | none =>
        simp only [World.ack, held, acked]
        exact { kept with covers := fun msg stored waits => (pages msg stored waits).1 }
      | some through =>
        simp only [World.ack, held, acked]
        have seqs : (ackInbox reader through now w.messages).map
            ChannelMessage.inboxSequence = w.messages.map ChannelMessage.inboxSequence := by
          rw [ackInbox, map_map]
          apply map_congr_left
          intro msg _
          by_cases chosen : pending reader msg = true ∧ msg.inboxSequence ≤ through
          · simp only [Function.comp_apply, if_pos chosen]
            rfl
          · simp only [Function.comp_apply, if_neg chosen]
        refine
          { sequences := ?_
            bounded := ?_
            positive := kept.positive
            undelivered := kept.undelivered
            marked := ?_
            covers := ?_ }
        · rw [map_append, seqs, ← map_append]
          exact kept.sequences
        · intro msg mem
          rcases mem_append.mp mem with stored | waiting
          · obtain ⟨old, pre, same⟩ := mem_map.mp (seqs ▸ mem_map_of_mem (f := ChannelMessage.inboxSequence) stored)
            rw [← same]
            exact kept.bounded old (mem_append_left _ pre)
          · exact kept.bounded msg (mem_append_right _ waiting)
        · intro msg stored delivered
          obtain ⟨old, pre, rfl⟩ := mem_map.mp stored
          by_cases chosen : pending reader old = true ∧ old.inboxSequence ≤ through
          · rw [if_pos chosen]
            have handled := (pages old pre chosen.1).2.1 through acked chosen.2
            exact handled
          · rw [if_neg chosen] at delivered ⊢
            exact kept.marked old pre delivered
        · intro msg stored waits
          obtain ⟨old, pre, rfl⟩ := mem_map.mp stored
          by_cases chosen : pending reader old = true ∧ old.inboxSequence ≤ through
          · rw [if_pos chosen] at waits
            simp [pending, ChannelMessage.delivered] at waits
          · rw [if_neg chosen] at waits ⊢
            have past : ¬old.inboxSequence ≤ through := fun below => chosen ⟨waits, below⟩
            exact not_le.mp past

lemma Kept.step (kept : Kept reader w) (act : Action)
    (admitted : Admitted reader w act) : Kept reader (step reader w act) := by
  cases act with
  | insert tx msg => exact kept.insert tx msg
  | commit tx => exact kept.commit tx admitted
  | rollback tx => exact kept.rollback tx
  | restart => exact kept.restart
  | stop => exact kept.stop
  | fetch limit => exact kept.fetch limit
  | push out => exact kept.push out
  | ack now => exact kept.ack now

/-- Where rows show only above what the pump has taken, none is lost or left behind. -/
theorem inbox_loses_nothing (reader : Reader) (acts : List Action)
    (admitted : Always (WhatsApp.step reader) (Admitted reader) World.new acts) :
    let w := run (WhatsApp.step reader) World.new acts
    (∀ msg ∈ w.messages, msg.deliveredAt.isSome = true → msg.event ∈ w.passed ∨ msg.event ∈ w.rejected) ∧
      ∀ cur, w.CaughtUp reader cur → w.inserting = [] → ∀ msg ∈ w.messages, pending reader msg = true →
          ¬msg.inboxSequence ≤ cur := by
  have keeps : ∀ w act, Kept reader w → Admitted reader w act →
      Kept reader (WhatsApp.step reader w act) :=
    fun _ act kept guard => kept.step act guard
  have kept : Kept reader (run (WhatsApp.step reader) World.new acts) := admitted.invariant keeps Kept.new
  refine ⟨kept.marked, ?_⟩
  intro cur ⟨waits, _⟩ _ msg stored isPending
  have covers := kept.covers
  rw [waits] at covers
  exact not_le.mpr (covers msg stored isPending)

namespace Sample

def link : Reader := { accountId := "account", botAgentLinkId := "link" }

def text (name : String) : ChannelMessage :=
  { inboxSequence := 0, accountId := "account", botAgentLinkId := some "link"
    bindingId := some "binding", direction := .inbound, externalChatId := "chat"
    providerMessageId := some name, text := some name
    payload := .object
      [("schemaVersion", .text "clawdi.whatsappBaileysProviderEvent.v1"),
        ("key", .object [("remoteJid", .text "1@s.whatsapp.net")])]
    createdAt := 0, deliveredAt := none }

def inOrder : List Action :=
  [.insert 0 (text "first"), .insert 1 (text "second"), .commit 0, .restart, .fetch 100,
    .push .delivered, .ack 1, .commit 1, .fetch 100, .push .failed, .ack 2, .fetch 100,
    .push .delivered, .ack 3, .fetch 100, .ack 4]

def overtaken : List Action :=
  [.insert 0 (text "first"), .insert 1 (text "second"), .commit 1, .restart, .fetch 100,
    .commit 0, .push .delivered, .ack 1]

end Sample

open Sample

theorem inbox_loses_nothing_inOrder : let w := run (step link) World.new inOrder
    (∀ msg ∈ w.messages, msg.deliveredAt.isSome = true → msg.event ∈ w.passed ∨ msg.event ∈ w.rejected) ∧
      ∀ cur, w.CaughtUp link cur → w.inserting = [] → ∀ msg ∈ w.messages, pending link msg = true →
          ¬msg.inboxSequence ≤ cur :=
  inbox_loses_nothing link inOrder (by decide +kernel)

/-- The acknowledgement of the second row marks the first as delivered, which was never handled. -/
theorem overtaken_row_lost : (run (step link) World.new overtaken).messages.map
        (fun msg => (msg.inboxSequence, msg.deliveredAt)) = [(2, some 1), (1, some 1)] ∧
      (run (step link) World.new overtaken).passed.map InboxPumpEvent.sequence = [2] ∧
      (run (step link) World.new overtaken).rejected = [] := by
  decide +kernel

end Clawdi.WhatsApp
