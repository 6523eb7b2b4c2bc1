import Clawdi.Telegram.Polling

namespace Clawdi.Telegram
open Transition List Bool
variable (reader : Reader) (scopes : Scopes)

/-- Sequences are unique, the readable rows stand in one order, and the received ones were returned. -/
structure Kept (w : World) : Prop where
  sequences : ((w.messages ++ w.inserting).map ChannelMessage.inboxSequence).Nodup
  bounded : ∀ msg ∈ w.messages ++ w.inserting, msg.inboxSequence < w.nextSequence
  agree : ∀ first ∈ w.messages, ∀ snd ∈ w.messages,
    readable reader scopes first = true → readable reader scopes snd = true → Agree first snd
  covered : ∀ msg ∈ w.messages, readable reader scopes msg = true →
    ∀ seen ∈ w.received, telegramUpdateId msg ≤ telegramUpdateId seen →
      msg.inboxSequence ∈ w.returned.map ChannelMessage.inboxSequence
  lossless : w.unseen = []

def Marks (mark : ChannelMessage → ChannelMessage) : Prop :=
  ∀ msg, mark msg = msg ∨ ∃ now, mark msg = msg.delivered now

variable {reader scopes}

lemma delivered_not_readable (msg : ChannelMessage) (now : Int) :
    readable reader scopes (msg.delivered now) = false := by
  simp [readable, pending, ChannelMessage.delivered]

lemma Marks.unchanged {mark : ChannelMessage → ChannelMessage} (marks : Marks mark)
    {msg} (still : readable reader scopes (mark msg) = true) : mark msg = msg := by
  rcases marks msg with same | ⟨now, marked⟩
  · exact same
  · rw [marked, delivered_not_readable] at still
    cases still

lemma Marks.inboxSequence {mark : ChannelMessage → ChannelMessage} (marks : Marks mark)
    (msg : ChannelMessage) : (mark msg).inboxSequence = msg.inboxSequence := by
  rcases marks msg with same | ⟨now, marked⟩
  · rw [same]
  · rw [marked]
    rfl

lemma marks_if (condition : ChannelMessage → Prop) [DecidablePred condition] (now : Int) :
    Marks fun msg => if condition msg then msg.delivered now else msg := by
  intro msg
  by_cases holds : condition msg
  · right
    exact ⟨now, if_pos holds⟩
  · left
    exact if_neg holds

lemma Marks.mem {mark : ChannelMessage → ChannelMessage} (marks : Marks mark) {msgs : List ChannelMessage} {msg}
    (mem : msg ∈ msgs.map mark) (still : readable reader scopes msg = true) : msg ∈ msgs ∧ mark msg = msg := by
  obtain ⟨old, among, rfl⟩ := mem_map.mp mem
  have same := marks.unchanged still
  rw [same]
  exact ⟨among, same⟩

lemma Kept.mark {w} (kept : Kept reader scopes w) {mark : ChannelMessage → ChannelMessage} (marks : Marks mark) :
    Kept reader scopes { w with messages := w.messages.map mark } where
  sequences := by
    have same : (w.messages.map mark).map ChannelMessage.inboxSequence =
        w.messages.map ChannelMessage.inboxSequence := by
      rw [map_map]
      exact map_congr_left fun msg _ => marks.inboxSequence msg
    rw [map_append, same, ← map_append]
    exact kept.sequences
  bounded := by
    intro msg mem
    rcases mem_append.mp mem with pre | waits
    · obtain ⟨old, among, rfl⟩ := mem_map.mp pre
      rw [marks.inboxSequence]
      exact kept.bounded old (mem_append_left _ among)
    · exact kept.bounded msg (mem_append_right _ waits)
  agree := by
    intro first mem snd among readsFirst readsSecond
    exact kept.agree first (marks.mem mem readsFirst).1 snd (marks.mem among readsSecond).1 readsFirst readsSecond
  covered := by
    intro msg mem reads
    exact kept.covered msg (marks.mem mem reads).1 reads
  lossless := kept.lossless

lemma Kept.new : Kept reader scopes World.new where
  sequences := nodup_nil
  bounded := by simp [World.new]
  agree := by simp [World.new]
  covered := by simp [World.new]
  lossless := rfl

lemma Kept.insert {w} (kept : Kept reader scopes w) (msg : ChannelMessage) :
    Kept reader scopes (step reader scopes w (.insert msg)) := by
  simp only [step]
  split
  · exact kept
  · refine ⟨?_, ?_, kept.agree, kept.covered, kept.lossless⟩
    · rw [← append_assoc, map_append]
      refine nodup_append.mpr ⟨kept.sequences, by simp, ?_⟩
      intro old pre next last same
      obtain ⟨existing, among, rfl⟩ := mem_map.mp pre
      have low := kept.bounded existing among
      simp only [map_cons, map_nil, mem_singleton] at last
      omega
    · intro row mem
      rw [← append_assoc] at mem
      rcases mem_append.mp mem with pre | last
      · have low := kept.bounded row pre
        show row.inboxSequence < w.nextSequence + 1
        omega
      · rw [mem_singleton.mp last]
        exact Nat.lt_succ_self _

lemma Kept.rollback {w} (kept : Kept reader scopes w) (inboxSequence : Nat) :
    Kept reader scopes (step reader scopes w (.rollback inboxSequence)) := by
  have sub : (w.messages ++ w.inserting.filter fun msg => msg.inboxSequence ≠ inboxSequence).Sublist
      (w.messages ++ w.inserting) := filter_sublist.append_left w.messages
  refine ⟨?_, ?_, kept.agree, kept.covered, kept.lossless⟩
  · exact kept.sequences.sublist (sub.map ChannelMessage.inboxSequence)
  · intro msg mem
    exact kept.bounded msg (sub.subset mem)

lemma Agree.symm {first snd} (agree : Agree first snd) : Agree snd first := ⟨agree.2, agree.1⟩

lemma Kept.commit {w} (kept : Kept reader scopes w) (inboxSequence : Nat)
    (admitted : Admitted reader scopes w (.commit inboxSequence)) : Kept reader scopes (w.commit inboxSequence) := by
  let chosen := w.inserting.filter fun msg => msg.inboxSequence = inboxSequence
  let rest := w.inserting.filter fun msg => msg.inboxSequence ≠ inboxSequence
  have perm : (w.messages ++ chosen ++ rest).Perm (w.messages ++ w.inserting) := by
    rw [append_assoc]
    refine List.Perm.append_left w.messages ?_
    have parts := filter_append_perm (fun msg : ChannelMessage => msg.inboxSequence = inboxSequence) w.inserting
    simpa [chosen, rest] using parts
  have new : ∀ msg ∈ chosen, msg ∈ w.inserting ∧
      msg.inboxSequence = inboxSequence := by
    intro msg mem
    simpa [chosen] using mem
  refine ⟨?_, ?_, ?_, ?_, kept.lossless⟩
  · exact (perm.map ChannelMessage.inboxSequence).nodup_iff.mpr kept.sequences
  · intro msg mem
    exact kept.bounded msg (perm.mem_iff.mp mem)
  · intro first mem snd among readsFirst readsSecond
    rcases mem_append.mp mem with oldFirst | newFirst
    · rcases mem_append.mp among with oldSecond | newSecond
      · exact kept.agree first oldFirst snd oldSecond readsFirst readsSecond
      · obtain ⟨waits, same⟩ := new snd newSecond
        exact ((admitted snd waits same readsSecond).2 first oldFirst readsFirst).symm
    · obtain ⟨waits, same⟩ := new first newFirst
      rcases mem_append.mp among with oldSecond | newSecond
      · exact (admitted first waits same readsFirst).2 snd oldSecond readsSecond
      · have alt := (new snd newSecond).2
        constructor
        · intro less
          omega
        · intro less
          omega
  · intro msg mem reads seen arrived bound
    rcases mem_append.mp mem with old | added
    · exact kept.covered msg old reads seen arrived bound
    · obtain ⟨waits, same⟩ := new msg added
      have above := (admitted msg waits same reads).1 seen arrived
      omega

lemma inboxOrder_total (first snd : ChannelMessage) :
    inboxOrder first snd = true ∨ inboxOrder snd first = true := by
  simp only [inboxOrder, or_eq_true, and_eq_true, decide_eq_true_eq]
  omega

lemma inboxOrder_trans (first snd third : ChannelMessage) (one : inboxOrder first snd = true)
    (alt : inboxOrder snd third = true) : inboxOrder first third = true := by
  simp only [inboxOrder, or_eq_true, and_eq_true, decide_eq_true_eq] at *
  omega

lemma fetched_ascending {msgs : List ChannelMessage} (seqs : (msgs.map ChannelMessage.inboxSequence).Nodup) :
    ((msgs.filter (readable reader scopes)).insertionSort fun first snd =>
      inboxOrder first snd).Pairwise (·.inboxSequence < ·.inboxSequence) := by
  have total : Std.Total fun first snd : ChannelMessage => inboxOrder first snd = true := ⟨inboxOrder_total⟩
  have transitive : IsTrans ChannelMessage fun first snd => inboxOrder first snd = true := ⟨inboxOrder_trans⟩
  have sorted := pairwise_insertionSort (fun first snd : ChannelMessage => inboxOrder first snd = true)
    (msgs.filter (readable reader scopes))
  have perm := perm_insertionSort (fun first snd : ChannelMessage => inboxOrder first snd = true)
    (msgs.filter (readable reader scopes))
  have apart : ((msgs.filter (readable reader scopes)).map
      ChannelMessage.inboxSequence).Nodup :=
    seqs.sublist (filter_sublist.map ChannelMessage.inboxSequence)
  have distinct := (perm.map ChannelMessage.inboxSequence).nodup_iff.mpr apart
  rw [List.Nodup, pairwise_map] at distinct
  refine (sorted.and distinct).imp ?_
  rintro first snd ⟨ordered, different⟩
  simp only [inboxOrder, or_eq_true, and_eq_true, decide_eq_true_eq] at ordered
  omega

lemma scanned_front (poll : Poll) {msgs : List ChannelMessage}
    (seqs : (msgs.map ChannelMessage.inboxSequence).Nodup)
    {msg last} (mem : msg ∈ msgs) (reads : readable reader scopes msg = true)
    (scanned : last ∈ (poll.scan 0 (poll.fetched reader scopes msgs)).map Prod.fst)
    (order : msg.inboxSequence ≤ last.inboxSequence) :
    msg ∈ (poll.scan 0 (poll.fetched reader scopes msgs)).map Prod.fst := by
  let sorted := (msgs.filter (readable reader scopes)).insertionSort fun first snd =>
    inboxOrder first snd
  have ascending : sorted.Pairwise (·.inboxSequence < ·.inboxSequence) := fetched_ascending seqs
  have front : (poll.scan 0 (poll.fetched reader scopes msgs)).map Prod.fst <+: sorted :=
    (scan_taken poll 0 _).trans (List.take_prefix _ _)
  have among : msg ∈ sorted := mem_insertionSort _ |>.mpr (mem_filter.mpr ⟨mem, reads⟩)
  rw [prefix_iff_eq_take] at front
  rw [front] at scanned ⊢
  rcases Nat.lt_or_eq_of_le order with less | equal
  · exact Inbox.mem_take ascending scanned among less
  · have same := Inbox.ascending_inj ascending among (mem_of_mem_take scanned) equal
    rw [same]
    exact scanned

lemma scanned_readable (poll : Poll) {msgs msg}
    (scanned : msg ∈ (poll.scan 0 (poll.fetched reader scopes msgs)).map Prod.fst) :
    msg ∈ msgs ∧ readable reader scopes msg = true := by
  have fetched := (scan_taken poll 0 _).subset scanned
  have sorted := mem_of_mem_take fetched
  exact mem_filter.mp ((mem_insertionSort _).mp sorted)

variable {verdicts : List (ChannelMessage × Verdict)}

lemma mem_withVerdict {verdict msg} : msg ∈ withVerdict verdict verdicts ↔ (msg, verdict) ∈ verdicts := by
  simp [withVerdict]

lemma offset_above {w : World} {offset : Int} (named : w.offset = some offset) :
    ∃ seen ∈ w.received, offset = telegramUpdateId seen + 1 := by
  obtain ⟨greatest, hit, rfl⟩ := Option.map_eq_some_iff.mp named
  have mem := List.max?_mem hit
  obtain ⟨seen, among, rfl⟩ := mem_map.mp mem
  exact ⟨seen, among, rfl⟩

lemma marks_expire (reader : Reader) (now : Int) (msgs : List ChannelMessage) :
    ∃ mark, Marks mark ∧ expirePending reader now msgs = msgs.map mark :=
  ⟨_, marks_if (fun msg => pending reader msg = true ∧ msg.createdAt < now - telegramUpdateRetention) now, rfl⟩

lemma not_consumed {msg} {now : Int} {msgs : List ChannelMessage}
    (mem : msg ∈ msgs.map fun row => if consumed verdicts row then row.delivered now else row)
    (reads : readable reader scopes msg = true) : consumed verdicts msg = false := by
  obtain ⟨old, among, rfl⟩ := mem_map.mp mem
  by_cases gone : consumed verdicts old = true
  · rw [if_pos gone, delivered_not_readable] at reads
    cases reads
  · rw [if_neg gone]
    simpa using gone

lemma Kept.poll {w} (kept : Kept reader scopes w) (limit : Nat)
    (allowedUpdates : List String) (now : Int) (arrives : Bool) :
    Kept reader scopes (w.poll reader scopes limit allowedUpdates now arrives) := by
  obtain ⟨mark, marks, expired⟩ := marks_expire reader now w.messages
  let req : Poll := { offset := w.offset, limit, allowedUpdates, now }
  let remaining := expirePending reader now w.messages
  let verdicts := req.scan 0 (req.fetched reader scopes remaining)
  have afterExpiry : Kept reader scopes { w with messages := remaining } := by
    show Kept reader scopes { w with messages := expirePending reader now w.messages }
    rw [expired]
    exact kept.mark marks
  have seqs : (remaining.map ChannelMessage.inboxSequence).Nodup := by
    have all := afterExpiry.sequences
    rw [map_append] at all
    exact (nodup_append.mp all).1
  have delivered := marks_if (fun row => consumed verdicts row = true) now
  have afterMarks := afterExpiry.mark delivered
  have scanned : ∀ msg verdict, (msg, verdict) ∈ verdicts →
      msg ∈ remaining ∧ readable reader scopes msg = true := by
    intro msg verdict mem
    exact scanned_readable req (mem_map_of_mem (f := Prod.fst) mem)
  refine ⟨afterMarks.sequences, afterMarks.bounded, afterMarks.agree, ?_, ?_⟩
  · intro msg mem reads seen arrived bound
    have held : msg ∈ remaining := (delivered.mem mem reads).1
    rw [show (w.poll reader scopes limit allowedUpdates now arrives).returned =
      w.returned ++ withVerdict .returned verdicts from rfl, map_append]
    have pre : seen ∈ w.received → msg.inboxSequence ∈ w.returned.map ChannelMessage.inboxSequence ++
          (withVerdict .returned verdicts).map ChannelMessage.inboxSequence := by
      intro old
      exact mem_append_left _ (afterExpiry.covered msg held reads seen old bound)
    have now_or_before : seen ∈ w.received ∨ seen ∈ withVerdict .returned verdicts := by
      cases arrives with
      | false =>
        left
        exact arrived
      | true => exact mem_append.mp arrived
    rcases now_or_before with old | onPage
    · exact pre old
    · apply mem_append_right
      have listed := mem_withVerdict.mp onPage
      obtain ⟨inTable, readsSeen⟩ := scanned seen .returned listed
      have order : msg.inboxSequence ≤ seen.inboxSequence := by
        by_contra after
        have less := (afterExpiry.agree seen inTable msg held readsSeen reads).1 (by omega)
        omega
      have front := scanned_front req seqs held reads (mem_map_of_mem (f := Prod.fst) listed) order
      obtain ⟨⟨row, verdict⟩, inLoop, rfl⟩ := mem_map.mp front
      cases decided : verdict with
      | returned =>
        rw [decided] at inLoop
        exact mem_map_of_mem (mem_withVerdict.mpr inLoop)
      | acknowledged | disallowed =>
        have spared := not_consumed mem reads
        have gone : consumed verdicts row = true := any_eq_true.mpr ⟨_, inLoop, by simp [decided]⟩
        rw [gone] at spared
        cases spared
  · show w.unseen ++ (withVerdict .acknowledged verdicts).filter
      (fun msg => msg.inboxSequence ∉ w.returned.map ChannelMessage.inboxSequence) = []
    rw [kept.lossless, nil_append, filter_eq_nil_iff]
    intro msg acked
    have listed := mem_withVerdict.mp acked
    obtain ⟨held, reads⟩ := scanned msg .acknowledged listed
    have decided := scan_verdict req 0 _ (msg, .acknowledged) listed
    have below : w.offset.any (fun offset => telegramUpdateId msg < offset) = true := by
      by_contra above
      simp only [Poll.verdict, req, above, if_false] at decided
      split at decided <;> cases decided
    obtain ⟨offset, named, less⟩ := (Option.any_eq_true _ _).mp below
    obtain ⟨seen, arrived, rfl⟩ := offset_above named
    have bound : telegramUpdateId msg ≤ telegramUpdateId seen := by
      have smaller := of_decide_eq_true less
      omega
    simpa using afterExpiry.covered msg held reads seen arrived bound

lemma Kept.step {w} (kept : Kept reader scopes w) (act : Action)
    (admitted : Admitted reader scopes w act) : Kept reader scopes (step reader scopes w act) := by
  cases act with
  | insert msg => exact kept.insert msg
  | commit inboxSequence => exact kept.commit inboxSequence admitted
  | rollback inboxSequence => exact kept.rollback inboxSequence
  | poll limit allowedUpdates now arrives => exact kept.poll limit allowedUpdates now arrives
  | expire now =>
    obtain ⟨mark, marks, expired⟩ := marks_expire reader now w.messages
    simp only [Telegram.step, expired]
    exact kept.mark marks
  | drop now => exact kept.mark (marks_if (fun msg => pending reader msg = true) now)

/-- Where rows become readable in order, the offset consumes only what an earlier poll returned. -/
theorem polling_loses_nothing (reader : Reader) (scopes : Scopes) (acts : List Action)
    (admitted : Always (step reader scopes) (Admitted reader scopes) World.new acts) :
    (run (step reader scopes) World.new acts).unseen = [] := by
  have keeps : ∀ w act, Kept reader scopes w → Admitted reader scopes w act →
      Kept reader scopes (step reader scopes w act) :=
    fun _ act kept guard => kept.step act guard
  have kept : Kept reader scopes (run (step reader scopes) World.new acts) := admitted.invariant keeps Kept.new
  exact kept.lossless

namespace Sample

def client : Reader := { accountId := "bot", botAgentLinkId := some "link" }

def active : Scopes :=
  { bindings :=
      [{ id := "binding", accountId := "bot", botAgentLinkId := "link", userId := "user"
         status := "active" }]
    links := [{ id := "link", accountId := "bot", status := "active", archivedAt := none }]
    accounts := [{ id := "bot", status := "active", archivedAt := none }] }

def update (updateId : Int) : ChannelMessage :=
  { inboxSequence := 0, accountId := "bot", botAgentLinkId := some "link"
    bindingId := some "binding", userId := "user", direction := .inbound, externalChatId := "chat"
    providerEventId := some ("update:" ++ toString updateId), providerEventScope := .account
    payload := .object [("update_id", .int updateId), ("message", .object [])]
    createdAt := 0, deliveredAt := none }

def inOrder : List Action :=
  [.insert (update 3), .insert (update 5), .commit 1, .poll 1 [] 0 true, .commit 2,
    .poll 1 [] 0 true, .poll 1 [] 0 true]

def late : List Action :=
  [.insert (update 5), .commit 1, .poll 1 [] 0 true, .insert (update 3), .commit 2, .poll 1 [] 0 true]

end Sample

open Sample

theorem polling_loses_nothing_inOrder : (run (step client active) World.new inOrder).unseen = [] :=
  polling_loses_nothing client active inOrder (by decide +kernel)

/-- The late update was consumed by the offset although no poll ever returned it. -/
theorem late_update_lost : (run (step client active) World.new late).unseen.map telegramUpdateId = [3] ∧
      (run (step client active) World.new late).returned.map telegramUpdateId = [5] := by
  decide +kernel

end Clawdi.Telegram
