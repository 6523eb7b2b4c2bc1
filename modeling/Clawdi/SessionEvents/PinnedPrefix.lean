import Clawdi.SessionEvents.PrefixKept

namespace Clawdi.SessionEvents
open Transition List Table

structure SessionShare.SamePin (row share : SessionShare) : Prop where
  eventGenerationId : row.eventGenerationId = share.eventGenerationId
  eventCount : row.eventCount = share.eventCount
  sourceRevision : row.sourceRevision = share.sourceRevision

def SessionShare.events (share : SessionShare) (adapter : EventAdapter) (w : World) :
    List SessionEvent := w.eventsBelow adapter share.eventGenerationId share.eventCount

def SessionShare.Pinned (share : SessionShare) (w : World) : Prop :=
  PrefixSound w share.eventGenerationId share.eventCount share.sourceRevision

def ViewProgress.Based (shareId : Uuid) (shares : Table SessionShare.id) : ViewProgress → Prop
  | .received => True
  | .answered (.error (.http _)) => True
  | .answered _ => ∃ row, shares.get shareId = some row
  | .found share => ∃ row, shares.get shareId = some row ∧ row.SamePin share
  | .available share => ∃ row, shares.get shareId = some row ∧ row.SamePin share
  | .loading share _ _ => ∃ row, shares.get shareId = some row ∧ row.SamePin share

structure ViewSound (adapter : EventAdapter) (w : World) (row : SessionShare)
    (prog : ViewProgress) : Prop where
  loading : ∀ share left point, prog = .loading share left point → ∃ done,
    w.db.prefixChunks row.eventGenerationId row.eventCount = done ++ left ∧
      point.events = done.flatMap (chunkEvents adapter w.fetch) ∧
      Linked Chunk.source Chunk.target (0, EMPTY_EVENT_HEAD) done (point.nextSeq, point.head) ∧
      Linked Chunk.source Chunk.target (point.nextSeq, point.head) left (row.eventCount, row.sourceRevision)
  shown : ∀ evs, prog = .answered (.ok evs) → evs = row.events adapter w
  failed : ∀ err, prog = .answered (.error (.content err)) → .content err = storeFailed

structure ShareSound (adapter : EventAdapter) (ups : List Bytes) (w : ShareWorld) : Prop where
  service : WorldSound adapter ups w.service
  own : CleaningsOwn w.service
  pinned : ∀ row ∈ w.shares, row.revokedAt = none → row.Pinned w.service
  based : ∀ view ∈ w.views, view.progress.Based view.shareId w.shares
  views : ∀ view ∈ w.views, ∀ row, w.shares.get view.shareId = some row →
    row.revokedAt = none → ViewSound adapter w.service row view.progress

section
variable {adapter : EventAdapter} {ups : List Bytes} {w : World} {row : SessionShare}

lemma viewSound_idle {prog} (unloaded : ∀ share left point, prog ≠ .loading share left point)
    (unshown : ∀ evs, prog ≠ .answered (.ok evs))
    (unfailed : ∀ err, prog ≠ .answered (.error (.content err))) : ViewSound adapter w row prog where
  loading := fun share left point same => absurd same (unloaded share left point)
  shown := fun evs same => absurd same (unshown evs)
  failed := fun err same => absurd same (unfailed err)

lemma load_pinned (inv : StoreSound adapter ups w) (collisionFree : CollisionFree ups) (pinned : row.Pinned w) :
    row.load adapter w = .ok (row.events adapter w) := by
  obtain ⟨gen, was, committed⟩ := pinned.committed
  have grows : ∀ chunk ∈ w.db.prefixChunks row.eventGenerationId row.eventCount,
      chunk.source.1 < chunk.target.1 :=
    fun chunk mem => (inv.chunks chunk (mem_prefixChunks.mp mem).1.1).grows
  have mems : ∀ chunk ∈ w.db.prefixChunks row.eventGenerationId row.eventCount,
      chunk ∈ w.db.chunks ∧ (w.fetch chunk.fileKey).isSome = true ∧
        chunk.endSeq < row.eventCount := by
    intro chunk mem
    have inside := pinned.linked.within Prod.fst grows chunk mem
    exact ⟨(mem_prefixChunks.mp mem).1.1, pinned.present chunk mem, inside.2⟩
  have linked : Linked Chunk.source Chunk.target (LoadPoint.start.nextSeq, LoadPoint.start.head)
      (w.db.prefixChunks row.eventGenerationId row.eventCount)
      (row.eventCount, row.sourceRevision) := pinned.linked
  have turned := loadTurns_ok inv collisionFree mems linked
  unfold SessionShare.load loadEventGeneration
  simp only [requireCommittedGeneration, was, if_pos committed, bind, Except.bind, turned,
    loadEnd, ne_eq, not_true_eq_false, or_self, if_false]
  rfl

lemma pinned_length (inv : StoreSound adapter ups w) (collisionFree : CollisionFree ups) (pinned : row.Pinned w) :
    (row.events adapter w).length = row.eventCount := by
  have mems : ∀ chunk ∈ w.db.prefixChunks row.eventGenerationId row.eventCount,
      chunk ∈ w.db.chunks ∧ (w.fetch chunk.fileKey).isSome = true :=
    fun chunk mem => ⟨(mem_prefixChunks.mp mem).1.1, pinned.present chunk mem⟩
  have total := flatMap_length inv collisionFree mems pinned.linked
  rw [Nat.zero_add] at total
  exact total

variable {shared : ShareWorld}

lemma View.next_sound (inv : StoreSound adapter ups shared.service)
    (collisionFree : CollisionFree ups) {view : View}
    (hit : shared.shares.get view.shareId = some row) (live : row.revokedAt = none)
    (pinned : row.Pinned shared.service) (based : view.progress.Based view.shareId shared.shares)
    (holds : ViewSound adapter shared.service row view.progress) :
    ViewSound adapter shared.service row (view.next adapter shared) := by
  obtain ⟨gen, was, committed⟩ := pinned.committed
  unfold View.next
  cases prog : view.progress with
  | received =>
    simp only [publicShare, hit, if_pos live]
    exact viewSound_idle (by simp) (by simp) (by simp)
  | found share =>
    rw [prog] at based
    obtain ⟨alt, foundOther, same⟩ := based
    rw [hit] at foundOther
    cases foundOther
    simp only [requireCommittedGeneration, ← same.eventGenerationId, was, if_pos committed]
    exact viewSound_idle (by simp) (by simp) (by simp)
  | available share =>
    rw [prog] at based
    obtain ⟨alt, foundOther, same⟩ := based
    rw [hit] at foundOther
    cases foundOther
    refine ⟨?_, (by simp), (by simp)⟩
    intro _ left point isLoading
    cases isLoading
    rw [← same.eventGenerationId, ← same.eventCount]
    exact ⟨[], rfl, rfl, rfl, pinned.linked⟩
  | loading share left point =>
    rw [prog] at based
    obtain ⟨alt, foundOther, same⟩ := based
    rw [hit] at foundOther
    cases foundOther
    obtain ⟨done, parts, evs, pre, ahead⟩ := holds.loading share left point prog
    cases left with
    | nil =>
      have arrived : (point.nextSeq, point.head) = (row.eventCount, row.sourceRevision) := ahead
      have ends : ¬(point.nextSeq ≠ share.eventCount ∨ point.head ≠ share.sourceRevision) := by
        rw [not_or, not_not, not_not, ← same.eventCount, ← same.sourceRevision]
        exact Prod.ext_iff.mp arrived
      simp only [loadEnd, if_neg ends]
      refine ⟨(by simp), ?_, (by simp)⟩
      intro shown isShown
      cases isShown
      rw [evs, SessionShare.events, World.eventsBelow, parts, append_nil]
    | cons chunk chunks =>
      have mem : chunk ∈ shared.service.db.prefixChunks row.eventGenerationId row.eventCount := by
        rw [parts]
        exact mem_append_right _ mem_cons_self
      have inside := (mem_prefixChunks.mp mem).1.1
      have grows : ∀ alt ∈ shared.service.db.prefixChunks row.eventGenerationId row.eventCount,
          alt.source.1 < alt.target.1 :=
        fun alt inside => (inv.chunks alt (mem_prefixChunks.mp inside).1.1).grows
      have within : chunk.endSeq < share.eventCount := by
        rw [← same.eventCount]
        exact (pinned.linked.within Prod.fst grows chunk mem).2
      have turned := loadTurn_ok inv collisionFree inside (pinned.present chunk mem) ahead.1 within
      simp only [turned]
      refine ⟨?_, (by simp), (by simp)⟩
      intro _ left point isLoading
      cases isLoading
      refine ⟨done ++ [chunk], ?_, ?_, pre.concat ahead.1, ahead.2⟩
      · rw [parts, append_assoc]
        rfl
      · rw [flatMap_append, flatMap_singleton, evs]
  | answered out =>
    rw [prog] at holds
    exact holds

lemma View.next_based {view : View} (based : view.progress.Based view.shareId shared.shares) :
    (view.next adapter shared).Based view.shareId shared.shares := by
  unfold View.next
  cases prog : view.progress with
  | received =>
    cases was : shared.shares.get view.shareId with
    | none => simp only [publicShare, was, ViewProgress.Based]
    | some share =>
      by_cases live : share.revokedAt = none
      · simp only [publicShare, was, if_pos live]
        exact ⟨share, was, rfl, rfl, rfl⟩
      · simp only [publicShare, was, if_neg live, ViewProgress.Based]
  | found share =>
    rw [prog] at based
    obtain ⟨row, was, same⟩ := based
    simp only
    split
    · exact ⟨row, was⟩
    · exact ⟨row, was, same⟩
  | available | answered =>
    rw [prog] at based
    exact based
  | loading share left point =>
    rw [prog] at based
    obtain ⟨row, was, same⟩ := based
    cases left with
    | nil =>
      simp only
      split <;> exact ⟨row, was⟩
    | cons chunk chunks =>
      simp only
      split
      · exact ⟨row, was⟩
      · exact ⟨row, was, same⟩

end

def ShareAction.uploads : ShareAction → List Bytes
  | .service act => act.uploads
  | _ => []

variable (shares : Table SessionShare.id) (acts : List ShareAction)

def shareUploads : List Bytes := acts.flatMap ShareAction.uploads

def ShareAction.prompt (w : ShareWorld) : ShareAction → Bool
  | .service act => (sharedGenerations w.shares).all fun genId => act.prompt genId w.service
  | _ => true

lemma uploads_withShares (act : Action) : (act.withShares shares).uploads = act.uploads := by
  cases act with
  | startCleaning | _ => rfl

lemma prompt_withShares (act : Action) (genId : Uuid) (w : World) :
    (act.withShares shares).prompt genId w = act.prompt genId w := by
  cases act with
  | startCleaning | _ => rfl

section
variable {adapter : EventAdapter} {ups : List Bytes} {w : ShareWorld} {act : Action}

lemma picked_shared {row} (mem : row ∈ w.shares) (live : row.revokedAt = none) {shared now}
    (picked : act.withShares w.shares = .startCleaning row.eventGenerationId shared now) :
    row.eventGenerationId ∈ shared := by
  cases act with
  | startCleaning genId others clock =>
    cases picked
    apply mem_map.mpr
    exact ⟨row, mem_filter.mpr ⟨mem, decide_eq_true live⟩, rfl⟩
  | _ => cases picked

lemma ShareSound.pinned_later (inv : ShareSound adapter ups w)
    (collisionFree : CollisionFree ups) (prompt : (ShareAction.service act).prompt w = true)
    (known : ∀ data ∈ act.uploads, data ∈ ups) {row} (mem : row ∈ w.shares) (live : row.revokedAt = none) :
    row.Pinned (step adapter w.service (act.withShares w.shares)) ∧
      (step adapter w.service (act.withShares w.shares)).db.prefixChunks
        row.eventGenerationId row.eventCount = w.service.db.prefixChunks row.eventGenerationId row.eventCount ∧
      ∀ chunk ∈ w.service.db.prefixChunks row.eventGenerationId row.eventCount, chunkEvents adapter
          (step adapter w.service (act.withShares w.shares)).fetch chunk =
            chunkEvents adapter w.service.fetch chunk := by
  apply PrefixSound.later inv.service inv.own collisionFree
  · rw [prompt_withShares]
    exact all_eq_true.mp prompt _ (mem_map.mpr ⟨row, mem_filter.mpr ⟨mem, decide_eq_true live⟩, rfl⟩)
  · rw [uploads_withShares]
    exact known
  · intro shared now picked
    exact picked_shared mem live picked
  · exact inv.pinned row mem live

lemma flatMap_congr_mem {chunks : List Chunk} {one alt : Chunk → List SessionEvent}
    (same : ∀ chunk ∈ chunks, one chunk = alt chunk) : chunks.flatMap one = chunks.flatMap alt := by
  rw [flatMap_def, flatMap_def, map_congr_left same]

lemma ShareSound.events_later (inv : ShareSound adapter ups w)
    (collisionFree : CollisionFree ups) (prompt : (ShareAction.service act).prompt w = true)
    (known : ∀ data ∈ act.uploads, data ∈ ups) {row} (mem : row ∈ w.shares) (live : row.revokedAt = none) :
    row.events adapter (step adapter w.service (act.withShares w.shares)) = row.events adapter w.service := by
  obtain ⟨_, chunks, same⟩ := inv.pinned_later collisionFree prompt known mem live
  rw [SessionShare.events, World.eventsBelow, chunks]
  exact flatMap_congr_mem same

lemma ShareSound.service_step (inv : ShareSound adapter ups w)
    (collisionFree : CollisionFree ups) (prompt : (ShareAction.service act).prompt w = true)
    (known : ∀ data ∈ act.uploads, data ∈ ups) : ShareSound adapter ups (shareStep adapter w (.service act)) := by
  have knownAction : ∀ data ∈ (act.withShares w.shares).uploads, data ∈ ups := by
    rw [uploads_withShares]
    exact known
  refine ⟨inv.service.step knownAction, step_cleaningsOwn inv.service.store inv.own, ?_, inv.based, ?_⟩
  · intro row mem live
    exact (inv.pinned_later collisionFree prompt known mem live).1
  · intro view mem row hit live
    have inside := (get_eq_some.mp hit).1
    obtain ⟨_, chunks, same⟩ := inv.pinned_later collisionFree prompt known inside live
    have pre := inv.views view mem row hit live
    refine ⟨?_, ?_, pre.failed⟩
    · intro share left point prog
      obtain ⟨done, parts, evs, linked, ahead⟩ := pre.loading share left point prog
      refine ⟨done, chunks.trans parts, ?_, linked, ahead⟩
      rw [evs]
      apply flatMap_congr_mem
      intro chunk inDone
      exact (same chunk (parts ▸ mem_append_left _ inDone)).symm
    · intro shown prog
      have kept := inv.events_later collisionFree prompt known inside live
      exact (pre.shown shown prog).trans kept.symm

lemma ViewProgress.Based.put {shareId shares}
    {prog : ViewProgress} (based : prog.Based shareId shares) {share : SessionShare}
    (same : ∀ row, shares.get shareId = some row → share.id = shareId → share.SamePin row) :
    prog.Based shareId (shares.put share) := by
  have later : ∀ row, shares.get shareId = some row →
      ∃ hit, (shares.put share).get shareId = some hit ∧ hit.SamePin row := by
    intro row was
    by_cases named : share.id = shareId
    · exact ⟨share, get_put_of_eq _ named, same row was named⟩
    · exact ⟨row, (get_put_of_ne _ named).trans was, rfl, rfl, rfl⟩
  have samePin : ∀ shown : SessionShare, (∃ row, shares.get shareId = some row ∧ row.SamePin shown) →
      ∃ row, (shares.put share).get shareId = some row ∧ row.SamePin shown := by
    rintro shown ⟨row, was, pin⟩
    obtain ⟨hit, storedLater, pinLater⟩ := later row was
    exact ⟨hit, storedLater, pinLater.eventGenerationId.trans pin.eventGenerationId,
      pinLater.eventCount.trans pin.eventCount, pinLater.sourceRevision.trans pin.sourceRevision⟩
  have there : (∃ row, shares.get shareId = some row) →
      ∃ row, (shares.put share).get shareId = some row := by
    rintro ⟨row, was⟩
    obtain ⟨hit, storedLater, _⟩ := later row was
    exact ⟨hit, storedLater⟩
  cases prog with
  | received => exact trivial
  | found shown | available shown | loading shown => exact samePin shown based
  | answered out =>
    cases out with
    | ok evs => exact there based
    | error err =>
      cases err with
      | http err => exact trivial
      | content err => exact there based

lemma ViewProgress.Based.idle {shareId shares} {prog : ViewProgress} (based : prog.Based shareId shares)
    (gone : shares.get shareId = none) {service row} : ViewSound adapter service row prog := by
  have nowhere : ∀ p : SessionShare → Prop, ¬∃ row, shares.get shareId = some row ∧ p row := by
    rintro p ⟨row, was, _⟩
    rw [gone] at was
    cases was
  refine ⟨?_, ?_, ?_⟩
  · rintro share left point rfl
    exact absurd based (nowhere _)
  · rintro evs rfl
    obtain ⟨hit, was⟩ := based
    exact absurd ⟨hit, was, trivial⟩ (nowhere fun _ => True)
  · rintro err rfl
    obtain ⟨hit, was⟩ := based
    exact absurd ⟨hit, was, trivial⟩ (nowhere fun _ => True)

lemma ShareSound.pin (inv : ShareSound adapter ups w) (share : SessionShare) :
    ShareSound adapter ups (pinShare adapter share w) := by
  unfold pinShare
  split
  · rename_i admitted
    obtain ⟨gone, _, _, free, loads⟩ := admitted
    refine ⟨inv.service, inv.own, ?_, ?_, ?_⟩
    · intro row mem live
      rcases mem_put.mp mem with rfl | ⟨pre, _⟩
      · cases loaded : row.load adapter w.service with
        | error err =>
          rw [loaded] at loads
          cases loads
        | ok evs => exact prefixSound_of_load loaded free
      · exact inv.pinned row pre live
    · intro view mem
      apply (inv.based view mem).put
      intro row was named
      rw [← named, gone] at was
      cases was
    · intro view mem row hit live
      by_cases named : share.id = view.shareId
      · rw [named] at gone
        exact (inv.based view mem).idle gone
      · exact inv.views view mem row ((get_put_of_ne _ named).symm.trans hit) live
  · exact inv

lemma ShareSound.revoke (inv : ShareSound adapter ups w) (shareId : Uuid) (now : Time) :
    ShareSound adapter ups (revokeShare shareId now w) := by
  unfold revokeShare
  split
  · exact inv
  · rename_i share was
    split
    · have named : share.id = shareId := (get_eq_some.mp was).2
      refine ⟨inv.service, inv.own, ?_, ?_, ?_⟩
      · intro row mem live
        rcases mem_put.mp mem with rfl | ⟨pre, _⟩
        · cases live
        · exact inv.pinned row pre live
      · intro view mem
        apply (inv.based view mem).put
        intro row hit same
        rw [← show share.id = view.shareId from same, named, was] at hit
        cases hit
        exact ⟨rfl, rfl, rfl⟩
      · intro view mem row hit live
        have put := (get_put _ _ _).symm.trans hit
        split at put
        · cases put
          cases live
        · exact inv.views view mem row put live
    · exact inv

lemma ShareSound.move (inv : ShareSound adapter ups w) {view : View}
    {prog : ViewProgress} (based : prog.Based view.shareId w.shares)
    (moved : ∀ row, w.shares.get view.shareId = some row → row.revokedAt = none →
      ViewSound adapter w.service row prog) : ShareSound adapter ups (w.move view prog) := by
  refine ⟨inv.service, inv.own, inv.pinned, ?_, ?_⟩
  · intro alt mem
    rcases mem_put.mp mem with rfl | ⟨pre, _⟩
    · exact based
    · exact inv.based alt pre
  · intro alt mem row hit live
    rcases mem_put.mp mem with rfl | ⟨pre, _⟩
    · exact moved row hit live
    · exact inv.views alt pre row hit live

lemma ShareSound.step (inv : ShareSound adapter ups w) (collisionFree : CollisionFree ups) {act : ShareAction}
    (known : ∀ data ∈ act.uploads, data ∈ ups) (prompt : act.prompt w = true) :
    ShareSound adapter ups (shareStep adapter w act) := by
  cases act with
  | service act => exact inv.service_step collisionFree prompt known
  | pin share => exact inv.pin share
  | revoke shareId now => exact inv.revoke shareId now
  | view id shareId =>
    rw [shareStep]
    split
    · exact inv
    · have idle : ∀ row, ViewSound adapter w.service row .received :=
        fun row => viewSound_idle (by simp) (by simp) (by simp)
      exact @ShareSound.move adapter ups w inv ⟨id, shareId, .received⟩ .received trivial fun row _ _ => idle row
  | advance id =>
    rw [shareStep]
    cases hit : w.views.get id with
    | none => exact inv
    | some view =>
      have mem := (get_eq_some.mp hit).1
      have based := inv.based view mem
      apply inv.move (View.next_based based)
      intro row was live
      have pinned := inv.pinned row (get_eq_some.mp was).1 live
      exact View.next_sound inv.service.store collisionFree was live pinned based (inv.views view mem row was live)
  | failStore id =>
    rw [shareStep]
    cases hit : w.views.get id with
    | none => exact inv
    | some view =>
      simp only
      have based := inv.based view (get_eq_some.mp hit).1
      unfold View.failStore
      split
      · rename_i share chunk chunks point prog
        rw [prog] at based
        obtain ⟨row, was, _⟩ := based
        have answered : (ViewProgress.answered (.error storeFailed)).Based view.shareId w.shares := ⟨row, was⟩
        apply inv.move answered
        intro _ _ _
        refine ⟨(by simp), (by simp), ?_⟩
        intro err isFailure
        cases isFailure
        rfl
      · exact inv

lemma ShareSound.empty : ShareSound adapter ups ShareWorld.empty where
  service := .empty
  own := fun cleaning mem => by cases mem
  pinned := fun row mem => absurd mem (not_mem_empty row)
  based := fun view mem => absurd mem (not_mem_empty view)
  views := fun view mem => absurd mem (not_mem_empty view)

end

def KeepsShares (adapter : EventAdapter) (w after : ShareWorld) : Prop :=
  ∀ row ∈ w.shares, ∃ later, after.shares.get row.id = some later ∧ later.SamePin row ∧
    (later.revokedAt = none → row.revokedAt = none ∧
      row.events adapter after.service = row.events adapter w.service)

section
variable {adapter : EventAdapter} {ups : List Bytes} {w : ShareWorld}

lemma KeepsShares.refl (w : ShareWorld) : KeepsShares adapter w w :=
  fun row mem => ⟨row, get_key mem, ⟨rfl, rfl, rfl⟩, fun live => ⟨live, rfl⟩⟩

lemma KeepsShares.trans {one alt third} (first : KeepsShares adapter one alt)
    (snd : KeepsShares adapter alt third) : KeepsShares adapter one third := by
  intro row mem
  obtain ⟨later, hit, pin, kept⟩ := first row mem
  obtain ⟨inside, named⟩ := get_eq_some.mp hit
  obtain ⟨last, foundLast, pinLast, keptLast⟩ := snd later inside
  rw [named] at foundLast
  refine ⟨last, foundLast, ⟨pinLast.eventGenerationId.trans pin.eventGenerationId,
    pinLast.eventCount.trans pin.eventCount, pinLast.sourceRevision.trans pin.sourceRevision⟩, ?_⟩
  intro live
  obtain ⟨liveLater, same⟩ := keptLast live
  obtain ⟨liveRow, sameRow⟩ := kept liveLater
  have evs : ∀ service, later.events adapter service = row.events adapter service := by
    intro service
    rw [SessionShare.events, pin.eventGenerationId, pin.eventCount, SessionShare.events]
  rw [evs, evs] at same
  exact ⟨liveRow, same.trans sameRow⟩

lemma keepsShares_of_service {after : ShareWorld} (same : after.service = w.service)
    (kept : ∀ row ∈ w.shares, ∃ later, after.shares.get row.id = some later ∧
      later.SamePin row ∧ (later.revokedAt = none → row.revokedAt = none)) : KeepsShares adapter w after := by
  intro row mem
  obtain ⟨later, hit, pin, live⟩ := kept row mem
  refine ⟨later, hit, pin, fun isLive => ⟨live isLive, ?_⟩⟩
  rw [same]

lemma step_keepsShares (inv : ShareSound adapter ups w) (collisionFree : CollisionFree ups) {act : ShareAction}
    (known : ∀ data ∈ act.uploads, data ∈ ups) (prompt : act.prompt w = true) :
    KeepsShares adapter w (shareStep adapter w act) := by
  have untouched : ∀ after : ShareWorld, after.service = w.service →
      after.shares = w.shares → KeepsShares adapter w after := by
    intro after service shares
    apply keepsShares_of_service service
    intro row mem
    rw [shares]
    exact ⟨row, get_key mem, ⟨rfl, rfl, rfl⟩, id⟩
  cases act with
  | service act =>
    intro row mem
    refine ⟨row, get_key mem, ⟨rfl, rfl, rfl⟩, fun live => ⟨live, ?_⟩⟩
    exact inv.events_later collisionFree prompt known mem live
  | pin share =>
    rw [shareStep, pinShare]
    split
    · rename_i admitted
      refine keepsShares_of_service rfl ?_
      intro row mem
      have apart : share.id ≠ row.id := by
        intro same
        have gone := admitted.1
        rw [same, get_key mem] at gone
        cases gone
      exact ⟨row, (get_put_of_ne _ apart).trans (get_key mem), ⟨rfl, rfl, rfl⟩, id⟩
    · exact .refl w
  | revoke shareId now =>
    rw [shareStep, revokeShare]
    split
    · exact .refl w
    · rename_i share was
      split
      · refine keepsShares_of_service rfl ?_
        intro row mem
        by_cases same : share.id = row.id
        · have isShare : share = row := eq_of_key (get_eq_some.mp was).1 mem same
          subst isShare
          exact ⟨_, get_put_self _ _, ⟨rfl, rfl, rfl⟩, fun live => by cases live⟩
        · exact ⟨row, (get_put_of_ne _ (by exact same)).trans (get_key mem), ⟨rfl, rfl, rfl⟩, id⟩
      · exact .refl w
  | view | advance =>
    rw [shareStep]
    split
    · exact .refl w
    · exact untouched _ rfl rfl
  | failStore id =>
    rw [shareStep]
    split
    · exact .refl w
    · unfold View.failStore
      split
      · exact untouched _ rfl rfl
      · exact .refl w

end

lemma share_uploads_known (adapter : EventAdapter) (acts : List ShareAction) :
    Always (shareStep adapter) (fun _ act => ∀ data ∈ act.uploads, data ∈ shareUploads acts)
      ShareWorld.empty acts := by
  apply Always.of_mem
  intro act mem _ data up
  exact mem_flatMap.mpr ⟨act, mem, up⟩

/-- A pinned position keeps its events while its share is there, and no view shows others. -/
theorem pinned_prefix_stable (adapter : EventAdapter) (pre after : List ShareAction)
    (collisionFree : CollisionFree (shareUploads (pre ++ after)))
    (prompt : Always (shareStep adapter) (fun w act => act.prompt w = true)
      ShareWorld.empty (pre ++ after)) {share : SessionShare}
    (pinned : share ∈ (run (shareStep adapter) ShareWorld.empty pre).shares)
    (live : ∀ row ∈ (run (shareStep adapter) ShareWorld.empty (pre ++ after)).shares,
      row.id = share.id → row.revokedAt = none) : ∃ evs, evs.length = share.eventCount ∧
      share.load adapter (run (shareStep adapter) ShareWorld.empty pre).service = .ok evs ∧
      share.load adapter (run (shareStep adapter) ShareWorld.empty (pre ++ after)).service = .ok evs ∧
      ∀ view ∈ (run (shareStep adapter) ShareWorld.empty (pre ++ after)).views, view.shareId = share.id →
          (∀ shown, view.progress = .answered (.ok shown) → shown = evs) ∧
          ∀ err, view.progress = .answered (.error (.content err)) → .content err = storeFailed := by
  have guarded := (share_uploads_known adapter (pre ++ after)).and prompt
  obtain ⟨first, snd⟩ := Always.append.mp guarded
  have keeps : ∀ w act, ShareSound adapter (shareUploads (pre ++ after)) w →
      (∀ data ∈ act.uploads, data ∈ shareUploads (pre ++ after)) ∧ act.prompt w = true →
      ShareSound adapter (shareUploads (pre ++ after)) (shareStep adapter w act) :=
    fun w act inv ⟨known, isPrompt⟩ => inv.step collisionFree known isPrompt
  have inv := Always.invariant keeps ShareSound.empty first
  have soundLater := Always.invariant keeps inv snd
  have kept : KeepsShares adapter (run (shareStep adapter) ShareWorld.empty pre)
      (run (shareStep adapter) (run (shareStep adapter) ShareWorld.empty pre) after) :=
    Always.related KeepsShares.refl (fun _ _ _ => KeepsShares.trans) keeps
      (fun w act inv ⟨known, isPrompt⟩ => step_keepsShares inv collisionFree known isPrompt)
      inv snd
  rw [← run_append] at soundLater kept
  obtain ⟨later, hit, pin, stays⟩ := kept share pinned
  obtain ⟨inside, named⟩ := get_eq_some.mp hit
  have isLive := live later inside named
  obtain ⟨liveBefore, same⟩ := stays isLive
  have pinnedBefore := inv.pinned share pinned liveBefore
  have pinnedLater := soundLater.pinned later inside isLive
  have evs : ∀ service, later.events adapter service = share.events adapter service := by
    intro service
    rw [SessionShare.events, pin.eventGenerationId, pin.eventCount, SessionShare.events]
  have loadLater := load_pinned soundLater.service.store collisionFree pinnedLater
  rw [SessionShare.load, pin.eventGenerationId, pin.eventCount, pin.sourceRevision, evs, same] at loadLater
  refine ⟨share.events adapter (run (shareStep adapter) ShareWorld.empty pre).service,
    pinned_length inv.service.store collisionFree pinnedBefore,
    load_pinned inv.service.store collisionFree pinnedBefore, loadLater, ?_⟩
  intro view mem ofShare
  rw [← ofShare] at hit
  have viewSound := soundLater.views view mem later hit isLive
  refine ⟨?_, viewSound.failed⟩
  intro shown prog
  rw [viewSound.shown shown prog, evs, same]

namespace Sample

def share : SessionShare where
  id := "share-1"
  sessionId := "session-1"
  eventGenerationId := "generation-1"
  eventCount := 1
  sourceRevision := advanceEventHead EMPTY_EVENT_HEAD [hello]
  revokedAt := none

def pinned : List ShareAction := appended.map ShareAction.service ++ [.pin share]

def viewed : List ShareAction :=
  replied.map ShareAction.service ++ [.service (.startCleaning "generation-1" [] (days 9)), .view 0 "share-1",
    .advance 0, .advance 0, .advance 0, .advance 0, .advance 0]

end Sample

theorem pinned_prefix_stable_viewed : ∃ evs, evs.length = 1 ∧ Sample.share.load Sample.adapter
      (run (shareStep Sample.adapter) ShareWorld.empty (Sample.pinned ++ Sample.viewed)).service = .ok evs := by
  have prompt : Always (shareStep Sample.adapter) (fun w act => act.prompt w = true)
      ShareWorld.empty (Sample.pinned ++ Sample.viewed) := by decide +kernel
  have pinned : Sample.share ∈
      (run (shareStep Sample.adapter) ShareWorld.empty Sample.pinned).shares.rows := by
    decide +kernel
  have live : ∀ row ∈ (run (shareStep Sample.adapter) ShareWorld.empty (Sample.pinned ++ Sample.viewed)).shares.rows,
        row.id = Sample.share.id → row.revokedAt = none := by decide +kernel
  have collisionFree : CollisionFree (shareUploads (Sample.pinned ++ Sample.viewed)) := by
    unfold CollisionFree
    decide +kernel
  obtain ⟨evs, length, _, later, _⟩ := pinned_prefix_stable Sample.adapter Sample.pinned
    Sample.viewed collisionFree prompt (mem_rows.mp pinned)
    fun row mem => live row (mem_rows.mpr mem)
  exact ⟨evs, length, later⟩

end Clawdi.SessionEvents
