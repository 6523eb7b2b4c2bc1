import Clawdi.ProviderInbox.Operations

namespace Clawdi.ProviderInbox
open Transition List Nat

structure InboxSound (w : World) : Prop where
  delivers : Inbox.Delivers ProviderMessageEvent.sequence w.db.lastSequence w.appended
    (entries w.db) w.firstSightings w.discarded
  counted : w.db.lastSequence = w.accepted.length
  used : ∀ num ∈ w.discarded, num ≤ w.db.lastSequence
  sighted : ∀ e ∈ w.sightings, e ∈ w.firstSightings
  intact : ∀ row ∈ w.db.inbox, row.Intact
  within : ∀ config ∈ w.opened, w.db.inbox.length ≤ config.maxEvents ∧
    (w.db.inbox.map Row.byteCount).sum ≤ config.maxBytes

lemma InboxSound.new : InboxSound World.new where
  delivers := Inbox.Delivers.empty
  counted := rfl
  used := by simp [World.new]
  sighted := by simp [World.new, World.sightings]
  intact := by simp [World.new, Db.empty]
  within := by simp [World.new]

variable (config : ProviderInboxConfig) (commit : Commit) (evs : List ProviderMessageEventInput)
variable (db : Db) {e : ProviderMessageEvent}

lemma entries_filter (p : ProviderMessageEvent → Bool) :
    (entries db).filter p = (db.inbox.filter fun row => p row.entry).map Row.entry := by
  rw [entries, filter_map]
  rfl

lemma entries_insertAll (prepared : List Prepared) : entries (insertAll db prepared) =
      entries db ++ (rowsFrom db.lastSequence prepared).map Row.entry := by
  rw [insertAll_eq, entries, map_append]
  rfl

variable {w : World}

lemma World.appended_accept (db : Db) (counted : w.db.lastSequence = w.accepted.length)
    (evs : List ProviderMessageEventInput) :
    World.appended { w with db, accepted := w.accepted ++ evs } = w.appended ++ numbered w.db.lastSequence evs := by
  unfold World.appended
  rw [numbered_append, Nat.zero_add, counted]

lemma InboxSound.append (sound : InboxSound w) {config}
    (opened : w.opened = some config) (commit : Commit) (evs : List ProviderMessageEventInput) :
    InboxSound { w with
      db := (appendProviderEvents config commit evs w.db).1
      accepted := w.accepted ++ accepted config commit evs w.db } := by
  have res := appendProviderEvents_result config commit evs w.db
  generalize appendProviderEvents config commit evs w.db = after at res
  generalize accepted config commit evs w.db = batch at res
  cases res with
  | refused | nothing => rw [append_nil]; exact sound
  | @stored prepared out same intact count bytes reported =>
    have stored := numbered_rows w.db.lastSequence prepared
    rw [same] at stored
    have bounds : ∀ e ∈ numbered w.db.lastSequence evs, w.db.lastSequence < e.sequence ∧
        e.sequence ≤ w.db.lastSequence + prepared.length := by
      intro e mem
      rw [stored] at mem
      obtain ⟨row, among, rfl⟩ := mem_map.mp mem
      exact rowsFrom_bounds w.db.lastSequence prepared row among
    have order : (numbered w.db.lastSequence evs).Pairwise (·.sequence < ·.sequence) := by
      rw [stored]
      exact pairwise_map.mpr (rowsFrom_ascending w.db.lastSequence prepared)
    have top : (insertAll w.db prepared).lastSequence = w.db.lastSequence + prepared.length := by rw [insertAll_eq]
    constructor
    · have grown := sound.delivers.append order (fun e mem => (bounds e mem).1)
        (fun e mem => (bounds e mem).2) (le_add_right _ _) sound.used
      rw [World.appended_accept _ sound.counted]
      show Inbox.Delivers _ (insertAll w.db prepared).lastSequence _ (entries (insertAll w.db prepared)) _ _
      rw [top, entries_insertAll, ← stored]
      exact grown
    · show (insertAll w.db prepared).lastSequence = (w.accepted ++ evs).length
      rw [top, length_append, sound.counted, ← same, length_map]
    · intro num mem
      show num ≤ (insertAll w.db prepared).lastSequence
      rw [top]
      exact (sound.used num mem).trans (le_add_right _ _)
    · exact sound.sighted
    · intro row mem
      have rows : row ∈ w.db.inbox ++ rowsFrom w.db.lastSequence prepared := by
        have inboxed : row ∈ (insertAll w.db prepared).inbox := mem
        rwa [insertAll_eq] at inboxed
      rcases mem_append.mp rows with pre | among
      · exact sound.intact row pre
      · exact rowsFrom_intact w.db.lastSequence intact row among
    · intro limits mem
      have one : limits = config := by
        have named : w.opened = some limits := mem
        rw [opened] at named
        exact (Option.some.inj named).symm
      subst one
      show (insertAll w.db prepared).inbox.length ≤ limits.maxEvents ∧
        ((insertAll w.db prepared).inbox.map Row.byteCount).sum ≤ limits.maxBytes
      rw [insertAll_eq]
      simp only [length_append, map_append, List.sum_append, rowsFrom_length, rowsFrom_byteCount]
      exact ⟨count, bytes⟩

lemma World.firstSightings_read (w : World) (page : List ProviderMessageEvent) :
    World.firstSightings { w with pages := w.pages ++ [page] } = Inbox.noted w.firstSightings page := by
  unfold World.firstSightings
  rw [foldl_append]
  rfl

lemma World.sightings_read (w : World) (page : List ProviderMessageEvent) :
    World.sightings { w with pages := w.pages ++ [page] } = w.sightings ++ page := by
  unfold World.sightings
  simp

lemma InboxSound.read (sound : InboxSound w) (count : Nat) :
    InboxSound { w with pages := w.pages ++ [(entries w.db).take count] } := by
  refine ⟨?_, sound.counted, sound.used, ?_, sound.intact, sound.within⟩
  · rw [World.firstSightings_read]
    exact sound.delivers.read count
  · rw [World.firstSightings_read, World.sightings_read]
    intro e mem
    rcases mem_append.mp mem with pre | onPage
    · exact Inbox.mem_noted.mpr (.inl (sound.sighted e pre))
    · exact Inbox.mem_noted.mpr (.inr onPage)

lemma World.firstSightings_sighted (mem : e ∈ w.firstSightings) : e ∈ w.sightings := by
  have each : ∀ (pages : List (List ProviderMessageEvent)) (seen : List ProviderMessageEvent),
      e ∈ pages.foldl Inbox.noted seen → e ∈ seen ∨ e ∈ pages.flatten := by
    intro pages
    induction pages with
    | nil =>
      intro seen among
      left
      exact among
    | cons page pages ih =>
      intro seen among
      rw [flatten_cons, mem_append]
      rcases ih (Inbox.noted seen page) among with pre | later
      · rcases Inbox.mem_noted.mp pre with old | onPage
        · left
          exact old
        · right; left
          exact onPage
      · right; right
        exact later
  rcases each w.pages [] mem with none | sighted
  · cases none
  · exact sighted

lemma InboxSound.removed (sound : InboxSound w) (p : Row → Bool) : (∀ row ∈ w.db.inbox.filter p, row.Intact) ∧
      ∀ config ∈ w.opened, (w.db.inbox.filter p).length ≤ config.maxEvents ∧
        ((w.db.inbox.filter p).map Row.byteCount).sum ≤ config.maxBytes := by
  refine ⟨fun row mem => sound.intact row (mem_of_mem_filter mem), ?_⟩
  intro config mem
  obtain ⟨count, bytes⟩ := sound.within config mem
  have sub : (w.db.inbox.filter p).Sublist w.db.inbox := filter_sublist
  exact ⟨sub.length_le.trans count, ((sub.map Row.byteCount).sum_le_sum (by simp)).trans bytes⟩

lemma InboxSound.acknowledge (sound : InboxSound w) (commit : Commit) {throughSequence : Int}
    (seen : ∃ e ∈ w.sightings, (e.sequence : Int) = throughSequence) : InboxSound
      { w with db := (acknowledgeProviderEvents commit throughSequence w.db).1 } := by
  rcases acknowledge_cases commit throughSequence w.db with kept | removed
  · rw [kept]
    exact sound
  · rw [removed]
    obtain ⟨last, among, rfl⟩ := seen
    obtain ⟨intact, within⟩ := sound.removed fun row => (last.sequence : Int) < row.sequence
    refine ⟨?_, sound.counted, sound.used, sound.sighted, intact, within⟩
    have left := sound.delivers.acknowledge ⟨last, sound.sighted last among, rfl⟩
    rw [entries_filter] at left
    simp only [Row.entry_sequence, Int.ofNat_lt] at left ⊢
    exact left

lemma InboxSound.reset (sound : InboxSound w) (commit : Commit) :
    InboxSound (w.resets (resetPhysicalAuth commit w.db).1) := by
  rcases reset_cases commit w.db with kept | emptied
  · rw [kept]
    have same : w.resets w.db = w := by
      have none : (entries w.db).filter (fun e => e ∉ entries w.db) = [] := by
        rw [filter_eq_nil_iff]
        intro e mem
        simpa using mem
      unfold World.resets
      rw [none]
      simp
    rw [same]
    exact sound
  · rw [emptied]
    have all : (entries w.db).filter
        (fun e => e ∉ entries { w.db with inbox := [] }) = entries w.db := by
      rw [filter_eq_self]
      intro e mem
      simp [entries]
    unfold World.resets
    rw [all]
    refine ⟨sound.delivers.discard, sound.counted, ?_, sound.sighted, by simp, by simp⟩
    intro num mem
    rcases mem_append.mp mem with pre | now
    · exact sound.used num pre
    · obtain ⟨e, stored, rfl⟩ := mem_map.mp now
      exact sound.delivers.below e (sound.delivers.held.subset stored)

lemma InboxSound.step {w} (sound : InboxSound w) (act : Action)
    (acknowledges : AcknowledgesSeen w act) : InboxSound (step w act) := by
  cases act with
  | start config healthy =>
    simp only [ProviderInbox.step]
    split
    · split
      · rename_i passed
        refine ⟨sound.delivers, sound.counted, sound.used, sound.sighted, sound.intact, ?_⟩
        intro limits mem
        cases mem
        exact validatePending_within passed
      · exact sound
    · exact sound
  | stop => exact ⟨sound.delivers, sound.counted, sound.used, sound.sighted, sound.intact, by simp [ProviderInbox.step]⟩
  | appendProviderEvents commit evs =>
    simp only [ProviderInbox.step]
    split
    · exact sound
    · rename_i config opened
      exact sound.append opened commit evs
  | providerEvents limit =>
    simp only [ProviderInbox.step]
    split
    · exact sound
    · rename_i config opened
      split
      · exact sound
      · rename_i page read
        have front := providerEvents_page read
        subst front
        exact sound.read limit.toNat
  | acknowledgeProviderEvents commit throughSequence =>
    simp only [ProviderInbox.step]
    split
    · exact sound
    · exact sound.acknowledge commit acknowledges
  | resetPhysicalAuth commit =>
    simp only [ProviderInbox.step]
    split
    · exact sound
    · exact sound.reset commit

variable {acts : List Action}

lemma run_sound (acknowledges : Always step AcknowledgesSeen World.new acts) :
    InboxSound (run step World.new acts) :=
  acknowledges.invariant (fun _ act sound guard => sound.step act guard) InboxSound.new

def Grows (w after : World) : Prop := w.accepted <+: after.accepted

lemma step_grows (w : World) (act : Action) : Grows w (step w act) := by
  unfold Grows
  cases act with
  | start config healthy =>
    simp only [step]
    split
    · split <;> exact List.prefix_rfl
    · exact List.prefix_rfl
  | stop => exact List.prefix_rfl
  | appendProviderEvents commit evs =>
    simp only [step]
    split
    · exact List.prefix_rfl
    · exact prefix_append _ _
  | providerEvents limit =>
    simp only [step]
    split
    · exact List.prefix_rfl
    · split <;> exact List.prefix_rfl
  | acknowledgeProviderEvents | resetPhysicalAuth =>
    simp only [step]
    split <;> exact List.prefix_rfl

lemma Grows.refl (w : World) : Grows w w := List.prefix_rfl

lemma Grows.trans {first snd third} (one : Grows first snd) (alt : Grows snd third) : Grows first third :=
  List.IsPrefix.trans one alt

lemma Grows.later {w after : World} (grows : Grows w after) (mem : e ∈ after.appended)
    (new : e ∉ w.appended) : w.accepted.length < e.sequence := by
  obtain ⟨rest, whole⟩ := grows
  rw [World.appended, ← whole, numbered_append] at mem
  rcases mem_append.mp mem with pre | late
  · exact absurd pre new
  · obtain ⟨place, isPlace, rfl⟩ := mem_map.mp late
    have least := (mem_zipIdx isPlace).1
    simp only
    omega

lemma later_spared {first later} (acknowledges : Always step AcknowledgesSeen World.new (first ++ later))
    {seen} (read : seen ∈ (run step World.new first).sightings)
    (commit : Commit) (stored : e ∈ entries (run step World.new (first ++ later)).db)
    (new : e ∉ (run step World.new first).appended) :
    e ∈ entries (acknowledgeProviderEvents commit seen.sequence (run step World.new (first ++ later)).db).1 := by
  have split := Always.append.mp acknowledges
  have earlier := run_sound split.1
  have now := run_sound acknowledges
  have grows : Grows (run step World.new first) (run step World.new (first ++ later)) := by
    rw [run_append]
    have keeps : ∀ (w : World) (act : Action), True → True := fun _ _ _ => trivial
    have related : ∀ w act, True → Grows w (step w act) := fun w act _ => step_grows w act
    exact run_related Grows.refl (fun _ _ _ => Grows.trans) keeps related trivial later
  have low := earlier.delivers.below seen (earlier.delivers.known seen (earlier.sighted seen read))
  rw [earlier.counted] at low
  have high := lt_of_le_of_lt low (grows.later (now.delivers.held.subset stored) new)
  rcases acknowledge_cases commit seen.sequence (run step World.new (first ++ later)).db with kept | removed
  · rw [kept]
    exact stored
  · rw [removed]
    obtain ⟨row, among, rfl⟩ := mem_map.mp stored
    refine mem_map_of_mem (mem_filter.mpr ⟨among, decide_eq_true ?_⟩)
    exact Int.ofNat_lt.mpr high

lemma sightings_once (acknowledges : Always step AcknowledgesSeen World.new acts)
    (reads : Always step ReadsAfterAcknowledging World.new acts) :
    (run step World.new acts).sightings = (run step World.new acts).firstSightings := by
  let inv : World → Prop := fun st => InboxSound st ∧ st.sightings = st.firstSightings
  have keeps : ∀ w act, inv w → AcknowledgesSeen w act ∧ ReadsAfterAcknowledging w act →
      inv (step w act) := by
    rintro w act ⟨sound, once⟩ ⟨acked, fresh⟩
    refine ⟨sound.step act acked, ?_⟩
    cases act with
    | providerEvents limit =>
      simp only [step]
      split
      · exact once
      · split
        · exact once
        · rename_i config opened _ page read
          have front := providerEvents_page read
          have unseen : page.filter (· ∉ w.firstSightings) = page := by
            rw [filter_eq_self]
            intro e mem
            rw [front] at mem
            have stored : e ∈ entries w.db := mem_of_mem_take mem
            refine decide_eq_true fun sighted => ?_
            rw [← once] at sighted
            exact fresh e sighted stored
          rw [World.firstSightings_read, World.sightings_read, Inbox.noted, unseen, once]
    | start config healthy =>
      simp only [step]
      split
      · split <;> exact once
      · exact once
    | stop => exact once
    | appendProviderEvents | acknowledgeProviderEvents | resetPhysicalAuth =>
      simp only [step]
      split <;> exact once
  have holds : inv (run step World.new acts) := (acknowledges.and reads).invariant keeps ⟨InboxSound.new, rfl⟩
  exact holds.2

lemma rejected_unchanged (rejected : (appendProviderEvents config commit evs db).2 ≠ .ok ())
    (secured : ∀ msg, commit ≠ .unsecured msg) : (appendProviderEvents config commit evs db).1 = db := by
  have res := appendProviderEvents_result config commit evs db
  generalize appendProviderEvents config commit evs db = after at res rejected
  generalize accepted config commit evs db = batch at res
  cases res with
  | refused => rfl
  | nothing => exact absurd rfl rejected
  | stored same intact count bytes reported =>
    rcases reported with acc | ⟨msg, failed⟩
    · exact absurd acc rejected
    · exact absurd failed (secured msg)

theorem provider_inbox_delivery (first later : List Action)
    (acknowledges : Always step AcknowledgesSeen World.new (first ++ later)) : let earlier := run step World.new first
    let now := run step World.new (first ++ later)
    (now.appended.filter (·.sequence ∉ now.discarded) = now.firstSightings.filter (·.sequence ∉ now.discarded) ++
          (entries now.db).filter (· ∉ now.firstSightings) ∧
      now.firstSightings.Pairwise (·.sequence < ·.sequence) ∧
      ∀ e, e ∈ now.sightings ↔ e ∈ now.firstSightings) ∧
    (Always step ReadsAfterAcknowledging World.new (first ++ later) → now.sightings = now.firstSightings) ∧
    (∀ config ∈ now.opened, ∀ limit : Int, 1 ≤ limit → limit ≤ 100 →
      providerEvents config limit now.db = .ok ((entries now.db).take limit.toNat)) ∧
    (∀ seen ∈ earlier.sightings, ∀ commit, ∀ e ∈ entries now.db, e ∉ earlier.appended →
      e ∈ entries (acknowledgeProviderEvents commit seen.sequence now.db).1) ∧
    (∀ config ∈ now.opened, now.db.inbox.length ≤ config.maxEvents ∧
      (now.db.inbox.map Row.byteCount).sum ≤ config.maxBytes) ∧
    ∀ config commit evs, (appendProviderEvents config commit evs now.db).2 ≠ .ok () →
      (∀ msg, commit ≠ .unsecured msg) →
      (appendProviderEvents config commit evs now.db).1 = now.db := by
  have sound := run_sound acknowledges
  refine ⟨⟨sound.delivers.seen_then_stored, sound.delivers.sightings, ?_⟩, ?_, ?_, ?_, sound.within, ?_⟩
  · intro e
    exact ⟨sound.sighted e, fun mem => World.firstSightings_sighted mem⟩
  · exact sightings_once acknowledges
  · intro config opened limit least most
    exact providerEvents_ok least most sound.intact (sound.within config opened).2
  · intro seen read commit e stored new
    exact later_spared acknowledges read commit stored new
  · intro config commit evs rejected secured
    exact rejected_unchanged config commit evs _ rejected secured

namespace Sample

def limits : ProviderInboxConfig := { maxEvents := 3, maxBytes := 1000 }

def hello : ProviderMessageEventInput :=
  { eventType := "messages.upsert", messageId := "m", remoteJid := "r", remoteJidAlt := none
    participant := none, participantAlt := none, fromMe := false, pushName := none
    messageTimestamp := some 1, messageProtoBase64 := "AA==" }

def beforeReset : List Action := [.start limits true, .appendProviderEvents .committed [hello], .providerEvents 10]
def afterReset : List Action := [.resetPhysicalAuth .committed, .appendProviderEvents .committed [hello]]
def reread : List Action := beforeReset ++ [.providerEvents 10]

def unsecured : Db × Except String Unit :=
  appendProviderEvents limits (.unsecured "provider state path must be a regular file") [hello]
    Db.empty

end Sample

open Sample

theorem provider_inbox_delivery_reset : ({ sequence := 2, event := hello } : ProviderMessageEvent) ∈
      entries (acknowledgeProviderEvents .committed 1 (run step World.new (beforeReset ++ afterReset)).db).1 :=
  (provider_inbox_delivery beforeReset afterReset (by decide +kernel)).2.2.2.1
    { sequence := 1, event := hello } (by decide +kernel) .committed
    { sequence := 2, event := hello } (by decide +kernel) (by decide +kernel)

/-- An unacknowledged event is read twice, and an append reported as failed is stored. -/
theorem reread_given_twice : (Always step AcknowledgesSeen World.new reread ∧
      ¬(run step World.new reread).sightings.Nodup) ∧
    unsecured.2 = .error "provider state path must be a regular file" ∧
      unsecured.1.inbox.map Row.event = [hello] := by
  refine ⟨⟨by decide +kernel, by decide +kernel⟩, rfl, by decide +kernel⟩

end Clawdi.ProviderInbox
