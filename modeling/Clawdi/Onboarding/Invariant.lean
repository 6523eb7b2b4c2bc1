import Clawdi.Onboarding.Rules

namespace Clawdi.Onboarding
open Function (update update_of_ne update_self)
open Program List Option
variable {π : Type}

structure Memory (w : World π) (p : π) (arc : Bool) (l : Local) : Prop where
  locks : ∀ id row, (id, row) ∈ l.locks → w.rowLocks id = some p ∧ w.sessions[id]? = some row
  copies : ∀ id copy, l.copies id = some copy → copy.2.Agrees ∧
    ∃ row, w.sessions[id]? = some row ∧ copy.2.sidecarAccountId = row.sidecarAccountId
  ended : ∀ id copy, l.copies id = some copy → copy.2.state ≠ copy.1.state →
    copy.2.state = .canceled ∨ copy.2.state = .expired → copy.2.sidecarAccountId ∈ l.reported
  locked : ∀ id copy, l.copies id = some copy → copy.2.state ≠ copy.1.state → arc = false → l.Locked id

structure Leaves (p : π) (w w' : World π) : Prop where
  rows : ∀ (id : ℕ) (row : Session), w.sessions[id]? = some row → ∃ row' : Session,
    w'.sessions[id]? = some row' ∧ row'.sidecarAccountId = row.sidecarAccountId
  locks : ∀ q ≠ p, ∀ (id : ℕ) (row : Session), w.rowLocks id = some q →
    w.sessions[id]? = some row → w'.rowLocks id = some q ∧ w'.sessions[id]? = some row
  processes : w'.processes = w.processes

lemma Leaves.refl (p : π) (w : World π) : Leaves p w w where
  rows _ row here := ⟨row, here, rfl⟩
  locks _ _ _ _ held here := ⟨held, here⟩
  processes := rfl

lemma Memory.others {w w' : World π} {p q : π} {arc : Bool} {l : Local}
    (memory : Memory w q arc l) (leaves : Leaves p w w') (alt : q ≠ p) : Memory w' q arc l where
  locks id row held := by
    obtain ⟨lock, here⟩ := memory.locks id row held
    exact leaves.locks q alt id row lock here
  copies id copy hit := by
    obtain ⟨agrees, row, here, sidecar⟩ := memory.copies id copy hit
    obtain ⟨row', present', same⟩ := leaves.rows id row here
    exact ⟨agrees, row', present', sidecar.trans same.symm⟩
  ended := memory.ended
  locked := memory.locked

lemma update_cases {α β : Type} [DecidableEq α] {f : α → Option β} {a alt}
    {v} {b} (hit : update f a v alt = some b) : alt ≠ a ∧ f alt = some b ∨ alt = a ∧ v = some b := by
  by_cases same : alt = a
  · subst same
    rw [update_self] at hit
    exact .inr ⟨rfl, hit⟩
  · rw [update_of_ne same] at hit
    exact .inl ⟨same, hit⟩

lemma memory_empty (w : World π) (p : π) (arc : Bool) : Memory w p arc {} where
  locks _ _ := nofun
  copies _ _ := nofun
  ended _ _ := nofun
  locked _ _ := nofun

namespace Memory
variable {w : World π} {p : π} {arc : Bool} {l : Local}

lemma commit {w'} (memory : Memory w p arc l) (leaves : Leaves p w w') : Memory w' p arc l.commit where
  locks _ _ := nofun
  copies id copy hit := by
    obtain ⟨pre, here, rfl⟩ := map_eq_some_iff.mp hit
    obtain ⟨agrees, row, there, sidecar⟩ := memory.copies id pre here
    obtain ⟨row', there', same⟩ := leaves.rows id row there
    exact ⟨agrees, row', there', sidecar.trans same.symm⟩
  ended id copy hit edited := by
    obtain ⟨pre, here, rfl⟩ := map_eq_some_iff.mp hit
    exact absurd rfl edited
  locked id copy hit edited := by
    obtain ⟨pre, here, rfl⟩ := map_eq_some_iff.mp hit
    exact absurd rfl edited

lemma create {w'} {id : ℕ} {sess : Session} (memory : Memory w p arc l)
    (leaves : Leaves p w w') (agrees : sess.Agrees) (here : w'.sessions[id]? = some sess) :
    Memory w' p arc (l.create id sess) := by
  have committed := memory.commit leaves
  constructor
  · exact fun _ _ => nofun
  · intro alt copy hit
    rcases update_cases hit with ⟨_, pre⟩ | ⟨rfl, ⟨⟩⟩
    · exact committed.copies alt copy pre
    · exact ⟨agrees, sess, here, rfl⟩
  · intro alt copy hit edited
    rcases update_cases hit with ⟨_, pre⟩ | ⟨rfl, ⟨⟩⟩
    · exact committed.ended alt copy pre edited
    · exact absurd rfl edited
  · intro alt copy hit edited
    rcases update_cases hit with ⟨_, pre⟩ | ⟨rfl, ⟨⟩⟩
    · exact committed.locked alt copy pre edited
    · exact absurd rfl edited

lemma keep {id : ℕ} {row : Session} (memory : Memory w p arc l) (agrees : row.Agrees)
    (here : w.sessions[id]? = some row) : Memory w p arc (l.keep id row) := by
  rw [Local.keep]
  cases cached : l.copies id with
  | some copy => exact memory
  | none =>
    constructor
    · exact memory.locks
    · intro alt copy hit
      rcases update_cases hit with ⟨_, pre⟩ | ⟨rfl, ⟨⟩⟩
      · exact memory.copies alt copy pre
      · exact ⟨agrees, row, here, rfl⟩
    · intro alt copy hit edited
      rcases update_cases hit with ⟨_, pre⟩ | ⟨rfl, ⟨⟩⟩
      · exact memory.ended alt copy pre edited
      · exact absurd rfl edited
    · intro alt copy hit edited
      rcases update_cases hit with ⟨_, pre⟩ | ⟨rfl, ⟨⟩⟩
      · exact memory.locked alt copy pre edited
      · exact absurd rfl edited

lemma report (memory : Memory w p arc l) (sidecar : ℕ) (pairing : PairingStatus) :
    Memory w p arc (l.report sidecar pairing) := by
  have frame := frame_report l sidecar pairing
  constructor
  · rw [frame.locks]
    exact memory.locks
  · rw [frame.copies]
    exact memory.copies
  · intro id copy hit edited ends
    rw [frame.copies] at hit
    exact frame.reported _ (memory.ended id copy hit edited ends)
  · intro id copy hit edited locks
    rw [frame.copies] at hit
    rw [Local.Locked, frame.locks]
    exact memory.locked id copy hit edited locks

lemma set {id : ℕ} {change} (memory : Memory w p arc l)
    (editable : Editable arc l id change) : Memory w p arc (l.set id change) := by
  have changed : ∀ alt copy, (l.set id change).copies alt = some copy → l.copies alt = some copy ∨ alt = id ∧
        ∃ pre, l.copies id = some pre ∧ copy = (pre.1, change.apply pre.2) := by
    intro alt copy hit
    rcases update_cases hit with ⟨_, pre⟩ | ⟨same, edited⟩
    · exact .inl pre
    · obtain ⟨pre, here, rfl⟩ := map_eq_some_iff.mp edited
      exact .inr ⟨same, pre, here, rfl⟩
  constructor
  · exact memory.locks
  · intro alt copy hit
    rcases changed alt copy hit with same | ⟨rfl, pre, here, rfl⟩
    · exact memory.copies alt copy same
    · obtain ⟨agrees, row, there, sidecar⟩ := memory.copies alt pre here
      refine ⟨?_, row, there, sidecar⟩
      intro acct is
      rcases or_eq_some_iff.mp is with given | ⟨_, kept⟩
      · exact editable.account pre here acct given
      · exact agrees acct kept
  · intro alt copy hit edited ends
    rcases changed alt copy hit with same | ⟨rfl, pre, here, rfl⟩
    · exact memory.ended alt copy same edited ends
    · cases goes : change.state with
      | none =>
        simp only [Change.apply, goes, getD_none] at edited ends
        exact memory.ended alt pre here edited ends
      | some st =>
        simp only [Change.apply, goes, getD_some] at ends
        exact editable.reported pre here (by simpa [goes] using ends)
  · intro alt copy hit edited locks
    rcases changed alt copy hit with same | ⟨rfl, pre, here, rfl⟩
    · exact memory.locked alt copy same edited locks
    · exact editable.locked locks

lemma lock [DecidableEq π] {id : ℕ} {row : Session} (memory : Memory w p arc l)
    (agrees : row.Agrees) (here : w.sessions[id]? = some row) :
    Memory { w with rowLocks := update w.rowLocks id (some p) } p arc (l.lock id row) := by
  have kept := memory.keep agrees here
  have locks : (l.keep id row).locks = l.locks := by
    rw [Local.keep]
    split <;> rfl
  constructor
  · intro alt row' held
    rcases mem_cons.mp held with new | pre
    · obtain ⟨rfl, rfl⟩ := Prod.mk.inj new
      exact ⟨update_self _ _ w.rowLocks, here⟩
    · obtain ⟨lock, there⟩ := memory.locks alt row' pre
      refine ⟨?_, there⟩
      show update w.rowLocks id (some p) alt = some p
      by_cases same : alt = id
      · rw [same, update_self]
      · rw [update_of_ne same, lock]
  · exact kept.copies
  · exact kept.ended
  · intro alt copy hit edited unlocked
    obtain ⟨row', held, st⟩ := kept.locked alt copy hit edited unlocked
    rw [locks] at held
    exact ⟨row', mem_cons_of_mem _ held, st⟩

end Memory

lemma flush_sidecar (l : Local) (id : ℕ) (row : Session) :
    (l.flush id row).sidecarAccountId = row.sidecarAccountId := by
  rw [Local.flush]
  split <;> rfl

variable {id : ℕ}

lemma flush_clean {l : Local} (clean : l.dirty id = false) (row : Session) : l.flush id row = row := by
  rw [Local.flush]
  cases hit : l.copies id with
  | none => rfl
  | some copy =>
    have same : copy.1 = copy.2 := by simpa [Local.dirty, hit] using clean
    simp [same]

lemma Memory.flush_agrees {w : World π} {p : π} {arc : Bool} {l : Local}
    (memory : Memory w p arc l) {row : Session} (here : w.sessions[id]? = some row)
    (agrees : row.Agrees) : (l.flush id row).Agrees := by
  rw [Local.flush]
  cases hit : l.copies id with
  | none => exact agrees
  | some copy =>
    obtain ⟨edited, row', there, sidecar⟩ := memory.copies id copy hit
    rw [here] at there
    cases there
    intro acct is
    simp only at is
    split at is
    · exact agrees acct is
    · exact (edited acct is).trans sidecar

variable [DecidableEq π]

lemma leaves_release (p : π) (w : World π) : Leaves p w (w.release p) where
  rows _ row here := ⟨row, here, rfl⟩
  locks q alt id row held here := by
    have kept : ¬w.rowLocks id = some p := by
      rw [held]
      exact fun same => alt (Option.some.inj same)
    refine ⟨?_, here⟩
    show (if w.rowLocks id = some p then none else w.rowLocks id) = some q
    rw [if_neg kept, held]
  processes := rfl


lemma leaves_flush {w : World π} {p} {l : Local}
    (free : ¬(List.range w.sessions.length).any fun id => l.dirty id && w.taken p id) :
    Leaves p w { w.release p with sessions := w.sessions.mapIdx l.flush } where
  rows id row here := by
    refine ⟨l.flush id row, ?_, flush_sidecar l id row⟩
    rw [List.getElem?_mapIdx, here, map_some]
  locks q alt id row held here := by
    have inside : id < w.sessions.length := (List.getElem?_eq_some_iff.mp here).1
    have taken : w.taken p id = true := by simp [World.taken, held, alt]
    have clean : l.dirty id = false := by
      by_contra dirty
      apply free
      rw [List.any_eq_true]
      exact ⟨id, List.mem_range.mpr inside, by simp [taken, dirty]⟩
    refine ⟨((leaves_release p w).locks q alt id row held here).1, ?_⟩
    rw [List.getElem?_mapIdx, here, map_some, flush_clean clean]
  processes := rfl

lemma leaves_insert (p : π) (w : World π) (sess : Session) :
    Leaves p w { w.release p with sessions := w.sessions ++ [sess] } where
  rows id row here := by
    have inside : id < w.sessions.length := (List.getElem?_eq_some_iff.mp here).1
    exact ⟨row, by rw [List.getElem?_append_left inside, here], rfl⟩
  locks q alt id row held here := by
    have inside : id < w.sessions.length := (List.getElem?_eq_some_iff.mp here).1
    refine ⟨((leaves_release p w).locks q alt id row held here).1, ?_⟩
    rw [List.getElem?_append_left inside, here]
  processes := rfl

lemma leaves_lock {w : World π} {p} (free : w.taken p id = false) :
    Leaves p w { w with rowLocks := update w.rowLocks id (some p) } where
  rows _ row here := ⟨row, here, rfl⟩
  locks q alt id' row held here := by
    have apart : id' ≠ id := by
      rintro rfl
      simp [World.taken, held, alt] at free
    refine ⟨?_, here⟩
    show update w.rowLocks id (some p) id' = some q
    rw [update_of_ne apart, held]
  processes := rfl

def Op.current (w : World π) (l : Local) : Op → Bool
  | .lock id _ _ => w.sessions[id]?.all fun row =>
      row.state = .connected → (l.load id row).state = .connected
  | _ => true

structure Gives (w : World π) (p : π) (arc : Bool) (l : Local) (op : Op)
    (turn : Turn π (Res op)) : Prop where
  gives : gives l op turn.result turn.memory
  leaves : Leaves p w turn.world
  memory : Memory turn.world p arc turn.memory
  agrees : ∀ sess ∈ turn.world.sessions, sess.Agrees
  unique : Unique turn.world.sessions

section
variable {w : World π} {p : π} {arc : Bool} {l : Local}

omit [DecidableEq π] in
lemma gives_same {op res} (memory : Memory w p arc l)
    (agrees : ∀ sess ∈ w.sessions, sess.Agrees) (unique : Unique w.sessions)
    (same : gives l op res l) : Gives w p arc l op ⟨res, l, w⟩ :=
  ⟨same, Leaves.refl p w, memory, agrees, unique⟩

lemma execute_gives {ans op turn} (memory : Memory w p arc l) (agrees : ∀ sess ∈ w.sessions, sess.Agrees)
    (unique : Unique w.sessions) (allowed : (rules arc).allowed l op) (cur : op.current w l)
    (done : w.execute p l ans op = some turn) : Gives w p arc l op turn := by
  cases op with
  | find query =>
    simp only [World.execute] at done
    split at done
    · obtain ⟨row, hit, rfl⟩ := map_eq_some_iff.mp done
      obtain ⟨here, matched⟩ := filter_eq_some_iff.mp hit
      have row_agrees := agrees row (mem_of_getElem? here)
      exact ⟨⟨row, matched, row_agrees, rfl, rfl⟩, Leaves.refl p w, memory.keep row_agrees here, agrees, unique⟩
    · split at done
      · exact nomatch done
      · cases done
        exact gives_same memory agrees unique rfl
  | lock id query skipLocked =>
    simp only [World.execute] at done
    split at done
    · split at done
      · cases done
        exact gives_same memory agrees unique rfl
      · exact nomatch done
    · rename_i free
      split at done
      · cases done
        exact gives_same memory agrees unique rfl
      · rename_i row hit
        cases done
        obtain ⟨here, matched⟩ := filter_eq_some_iff.mp hit
        have row_agrees := agrees row (mem_of_getElem? here)
        have same : row.state = .connected → (l.load id row).state = .connected := by
          rw [Op.current, here] at cur
          exact of_decide_eq_true cur
        exact ⟨⟨row, matched, rfl, same, rfl⟩,
          leaves_lock (Bool.not_eq_true _ ▸ free), memory.lock row_agrees here, agrees, unique⟩
  | lockAllocation =>
    simp only [World.execute] at done
    split at done
    · cases done
      have same : Leaves p w { w with allocation := some p } := ⟨(Leaves.refl p w).rows,
        (Leaves.refl p w).locks, rfl⟩
      exact ⟨rfl, same, ⟨memory.locks, memory.copies, memory.ended, memory.locked⟩, agrees, unique⟩
    · exact nomatch done
  | insert sess =>
    simp only [World.execute] at done
    split at done
    · rename_i fits
      cases done
      have leaves := leaves_insert p w sess
      have here : (w.sessions ++ [sess])[w.sessions.length]? = some sess := List.getElem?_concat_length
      refine ⟨rfl, leaves, memory.create leaves allowed.1 here, ?_, fits.1⟩
      intro alt mem
      rcases mem_append.mp mem with old | new
      · exact agrees alt old
      · rw [mem_singleton.mp new]
        exact allowed.1
    · exact nomatch done
  | set id change =>
    cases done
    exact ⟨rfl, Leaves.refl p w, memory.set allowed, agrees, unique⟩
  | commit =>
    simp only [World.execute] at done
    split at done
    · exact nomatch done
    · rename_i free
      split at done
      · rename_i fits
        cases done
        have leaves := leaves_flush free
        refine ⟨rfl, leaves, memory.commit leaves, ?_, fits⟩
        intro sess mem
        obtain ⟨id, hit⟩ := mem_iff_getElem?.mp mem
        rw [List.getElem?_mapIdx] at hit
        obtain ⟨row, here, rfl⟩ := map_eq_some_iff.mp hit
        exact memory.flush_agrees here (agrees row (mem_of_getElem? here))
      · exact nomatch done
  | rollback =>
    cases done
    exact ⟨rfl, leaves_release p w, memory_empty _ p arc, agrees, unique⟩
  | pairing sidecar call =>
    simp only [World.execute] at done
    split at done
    · cases done
      exact ⟨rfl, Leaves.refl p w, memory.report sidecar _, agrees, unique⟩
    · cases done
      exact gives_same memory agrees unique rfl
  | newAccount sidecar =>
    cases done
    exact gives_same memory agrees unique ⟨rfl, rfl⟩
  | exist _ | list _ | capabilities _ | health _ | fresh | ask | now | rounds =>
    cases done
    exact gives_same memory agrees unique rfl

end
end Clawdi.Onboarding
