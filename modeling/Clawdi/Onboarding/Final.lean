import Clawdi.Onboarding.Invariant
import Clawdi.Onboarding.Verified
import Clawdi.Lib.Transition

namespace Clawdi.Onboarding
open Program Transition Option
variable {π : Type}

structure Valid (w : World π) : Prop where
  agrees : ∀ sess ∈ w.sessions, sess.Agrees
  unique : Unique w.sessions
  memory : ∀ p proc, w.processes p = some proc → Memory w p proc.call.archives proc.memory
  safe : ∀ p proc, w.processes p = some proc →
    Wp (rules proc.call.archives) proc.program (fun _ _ => True) proc.memory

lemma valid_initial : Valid ({} : World π) where
  agrees _ := nofun
  unique := .nil
  memory _ _ := nofun
  safe _ _ := nofun

variable [DecidableEq π]

/-- The step of a request that locks a connected session finds no older copy of it in its own
database session. -/
def Event.current (w : World π) : Event π → Bool
  | .proceed p _ =>
    match w.processes p with
    | some ⟨_, memory, .perform op _⟩ => op.current w memory
    | _ => true
  | _ => true

variable {e : Event π} {ans : Answer}

lemma Valid.gives {w : World π} {p : π} {call : Call} {l : Local} {op : Op}
    {next : Res op → Program Op Res (Except Stop Unit)} {turn : Turn π (Res op)} (valid : Valid w)
    (runs : w.processes p = some ⟨call, l, .perform op next⟩)
    (cur : (Event.proceed p ans).current w) (done : w.execute p l ans op = some turn) :
    Gives w p call.archives l op turn := by
  rw [Event.current, runs] at cur
  exact execute_gives (valid.memory p _ runs) valid.agrees valid.unique (valid.safe p _ runs).1 cur done

lemma Valid.setProcess {w w' : World π} {p : π} (valid : Valid w) (leaves : Leaves p w w')
    (agrees : ∀ sess ∈ w'.sessions, sess.Agrees) (unique : Unique w'.sessions)
    {proc : Option Process} (memory : ∀ next ∈ proc, Memory w' p next.call.archives next.memory)
    (safe : ∀ next ∈ proc, Wp (rules next.call.archives) next.program (fun _ _ => True) next.memory) :
    Valid (w'.setProcess p proc) where
  agrees := agrees
  unique := unique
  memory q alt runs := by
    rcases update_cases runs with ⟨apart, pre⟩ | ⟨rfl, is⟩
    · rw [leaves.processes] at pre
      have old := (valid.memory q alt pre).others leaves apart
      exact ⟨old.locks, old.copies, old.ended, old.locked⟩
    · have new := memory alt is
      exact ⟨new.locks, new.copies, new.ended, new.locked⟩
  safe q alt runs := by
    rcases update_cases runs with ⟨apart, pre⟩ | ⟨rfl, is⟩
    · rw [leaves.processes] at pre
      exact valid.safe q alt pre
    · exact safe alt is

lemma Valid.step {w} {e : Event π} (valid : Valid w) (cur : e.current w) : Valid (w.step e) := by
  have finish : ∀ p, Valid (w.finish p) := fun p =>
    valid.setProcess (leaves_release p w) valid.agrees valid.unique nofun nofun
  cases e with
  | call p call =>
    rw [World.step]
    split
    · apply valid.setProcess (Leaves.refl p w) valid.agrees valid.unique
      · rintro _ ⟨⟩
        exact memory_empty w p call.archives
      · rintro _ ⟨⟩
        exact Wp.mono (fun _ _ _ => trivial) (safe_request call)
    · exact valid
  | abort p =>
    rw [World.step]
    split
    · exact valid
    · exact finish p
  | proceed p ans =>
    rw [World.step]
    split
    · exact valid
    · rename_i proc runs
      obtain ⟨call, l, program⟩ := proc
      cases program with
      | done out => exact finish p
      | perform op next =>
        rw [World.proceed]
        cases done : w.execute p l ans op with
        | none => exact valid
        | some turn =>
          have given := valid.gives runs cur done
          apply valid.setProcess given.leaves given.agrees given.unique
          · rintro _ ⟨⟩
            exact given.memory
          · rintro _ ⟨⟩
            exact (valid.safe p _ runs).2 turn.result turn.memory given.gives

def Event.By (w : World π) (condition : Process → Prop) : Event π → Prop
  | .proceed p _ => ∃ proc, w.processes p = some proc ∧ condition proc
  | _ => False

/-- Connected sessions are left by archives only, sessions end when their sidecar session was
reported stopped and unregistered, and unfinished sessions are exclusive. -/
structure Proper (w : World π) (e : Event π) : Prop where
  connected : ∀ (id : ℕ) (row : Session), w.sessions[id]? = some row → row.state = .connected →
    (∃ row', (w.step e).sessions[id]? = some row' ∧ row'.state = .connected) ∨ e.By w fun proc => proc.call.archives
  ended : ∀ (id : ℕ) (row' : Session), (w.step e).sessions[id]? = some row' →
    row'.state = .canceled ∨ row'.state = .expired → (∃ row, w.sessions[id]? = some row ∧ row.state = row'.state) ∨
        e.By w fun proc => row'.sidecarAccountId ∈ proc.memory.reported
  unique : Unique (w.step e).sessions

lemma proper_unchanged {w} (valid : Valid w) (same : (w.step e).sessions = w.sessions) : Proper w e where
  connected id row here st := by
    rw [same]
    exact .inl ⟨row, here, st⟩
  ended id row' here _ := by
    rw [same] at here
    exact .inl ⟨row', here, rfl⟩
  unique := same ▸ valid.unique

lemma execute_sessions {w : World π} {p l op turn}
    (done : w.execute p l ans op = some turn) : turn.world.sessions = w.sessions ∨
      (∃ sess, op = .insert sess ∧ turn.world.sessions = w.sessions ++ [sess]) ∨
      (op = .commit ∧ turn.world.sessions = w.sessions.mapIdx l.flush) := by
  cases op with
  | insert sess =>
    simp only [World.execute] at done
    split at done
    · cases done
      exact .inr (.inl ⟨sess, rfl, rfl⟩)
    · cases done
  | commit =>
    simp only [World.execute] at done
    split at done
    · cases done
    · split at done
      · cases done
        exact .inr (.inr ⟨rfl, rfl⟩)
      · cases done
  | find query =>
    simp only [World.execute] at done
    split at done
    · obtain ⟨row, _, rfl⟩ := map_eq_some_iff.mp done
      exact .inl rfl
    · split at done
      · cases done
      · cases done
        exact .inl rfl
  | lock id query skipLocked =>
    simp only [World.execute] at done
    split at done
    · split at done
      · cases done
        exact .inl rfl
      · cases done
    · split at done <;>
      · cases done
        exact .inl rfl
  | lockAllocation =>
    simp only [World.execute] at done
    split at done
    · cases done
      exact .inl rfl
    · cases done
  | pairing sidecar call =>
    simp only [World.execute] at done
    split at done <;>
    · cases done
      exact .inl rfl
  | exist _ | list _ | set _ _ | rollback | capabilities _ | health _ | newAccount _ | fresh | ask
  | now | rounds =>
    cases done
    exact .inl rfl

lemma flush_state (l : Local) (id : ℕ) (row : Session) :
    (l.flush id row).state = row.state ∨ ∃ copy, l.copies id = some copy ∧
      copy.2.state ≠ copy.1.state ∧ (l.flush id row).state = copy.2.state := by
  rw [Local.flush]
  cases hit : l.copies id with
  | none => exact .inl rfl
  | some copy =>
    by_cases edited : copy.2.state = copy.1.state
    · left
      simp [edited]
    · right
      exact ⟨copy, rfl, edited, by simp [edited]⟩

section

omit [DecidableEq π]

variable {w : World π} {p : π} {arc : Bool} {l : Local} {id : ℕ} {row : Session}

lemma Memory.flush_connected (memory : Memory w p arc l) (here : w.sessions[id]? = some row)
    (st : row.state = .connected) (alt : arc = false) : (l.flush id row).state = .connected := by
  rcases flush_state l id row with same | ⟨copy, hit, edited, _⟩
  · rw [same, st]
  · obtain ⟨locked, held, unconnected⟩ := memory.locked id copy hit edited alt
    have same := (memory.locks id locked held).2
    rw [here] at same
    cases same
    exact absurd st unconnected

lemma Memory.flush_ended (memory : Memory w p arc l) (here : w.sessions[id]? = some row)
    (ends : (l.flush id row).state = .canceled ∨ (l.flush id row).state = .expired) :
    row.state = (l.flush id row).state ∨ row.sidecarAccountId ∈ l.reported := by
  rcases flush_state l id row with same | ⟨copy, hit, edited, st⟩
  · exact .inl same.symm
  · obtain ⟨_, row', there, sidecar⟩ := memory.copies id copy hit
    rw [here] at there
    cases there
    rw [st] at ends
    exact .inr (sidecar ▸ memory.ended id copy hit edited ends)

end

lemma getElem?_concat_cases {sessions : List Session} {sess row : Session} {id : ℕ}
    (here : (sessions ++ [sess])[id]? = some row) : sessions[id]? = some row ∨ row = sess := by
  rcases Nat.lt_or_ge id sessions.length with inside | outside
  · rw [List.getElem?_append_left inside] at here
    exact .inl here
  · rw [List.getElem?_append_right outside] at here
    exact .inr (List.mem_singleton.mp (List.mem_of_getElem? here))

lemma Valid.proper {w} (valid : Valid w) (cur : e.current w) : Proper w e := by
  cases e with
  | call | abort =>
    apply proper_unchanged valid
    rw [World.step]
    split <;> rfl
  | proceed p ans =>
    cases runs : w.processes p with
    | none =>
      apply proper_unchanged valid
      rw [World.step, runs]
    | some proc =>
      obtain ⟨call, l, program⟩ := proc
      cases program with
      | done out =>
        apply proper_unchanged valid
        rw [World.step, runs]
        rfl
      | perform op next =>
        cases done : w.execute p l ans op with
        | none =>
          apply proper_unchanged valid
          simp only [World.step, runs, World.proceed, done]
        | some turn =>
          have after : (w.step (.proceed p ans)).sessions = turn.world.sessions := by
            simp only [World.step, runs, World.proceed, done, World.setProcess]
          have given := valid.gives runs cur done
          have memory := valid.memory p _ runs
          rcases execute_sessions done with same | ⟨sess, rfl, added⟩ | ⟨rfl, flushed⟩
          · exact proper_unchanged valid (after.trans same)
          · have allowed := (valid.safe p _ runs).1
            constructor
            · intro id row here st
              have inside : id < w.sessions.length := (List.getElem?_eq_some_iff.mp here).1
              rw [after, added, List.getElem?_append_left inside]
              exact .inl ⟨row, here, st⟩
            · intro id row' here ends
              rw [after, added] at here
              rcases getElem?_concat_cases here with old | new
              · exact .inl ⟨row', old, rfl⟩
              · subst new
                rw [allowed.2] at ends
                simp at ends
            · exact after ▸ given.unique
          · constructor
            · intro id row here st
              cases archives : call.archives with
              | true => exact .inr ⟨_, runs, archives⟩
              | false =>
                refine .inl ⟨l.flush id row, ?_, memory.flush_connected here st archives⟩
                rw [after, flushed, List.getElem?_mapIdx, here, map_some]
            · intro id row' here ends
              rw [after, flushed, List.getElem?_mapIdx] at here
              obtain ⟨row, there, rfl⟩ := map_eq_some_iff.mp here
              rcases memory.flush_ended there ends with same | reported
              · exact .inl ⟨row, there, same⟩
              · rw [flush_sidecar]
                exact .inr ⟨_, runs, reported⟩
            · exact after ▸ given.unique

/-- In every interleaving, as long as no request locks a connected session that it has an older
copy of. -/
theorem onboarding_sessions_final (evs : List (Event π))
    (cur : Always World.step (fun w e => e.current w) {} evs) : Always World.step Proper {} evs :=
  cur.strengthen (fun _ _ valid cur => valid.step cur) (fun _ _ valid cur => valid.proper cur) valid_initial

section

def connectedSidecar : Answer where
  capabilities := .ok ⟨true⟩
  health := .ok
    { connected := true, registered := true, phoneNumber := some "1", accountLid := some "1" }
  pairing := .ok { status := .connected, registered := true }

def stoppedSidecar : Answer where
  row := some 0
  health := .ok { connected := false, registered := false }
  pairing := .ok { status := .stopped, registered := false }

def turns (p : Bool) (ans : Answer) (count : ℕ) : List (Event Bool) := List.replicate count (.proceed p ans)

def archivedRun : List (Event Bool) :=
  .call false (.start 0 0 "phone") :: turns false connectedSidecar 23 ++
    .call true (.archive 0 ⟨0, 0⟩) :: turns true stoppedSidecar 8

theorem onboarding_sessions_final_archived : (run World.step {} archivedRun).sessions.map (·.state) = [.canceled] ∧
      Always World.step Proper {} archivedRun :=
  ⟨by decide +kernel, onboarding_sessions_final archivedRun (by decide +kernel)⟩

/-- Two retries of a failed session: the second has committed its first transaction when the first
connects the session, and the next turn of it is the commit of its second transaction. -/
def retriedRun : List (Event Bool) :=
  .call false (.start 0 0 "phone") :: turns false connectedSidecar 11 ++
    .proceed false { holds := false } :: turns false connectedSidecar 5 ++
    .call true (.retry 0 0) :: turns true stoppedSidecar 7 ++
    .call false (.retry 0 0) :: turns false stoppedSidecar 7 ++
    turns false connectedSidecar 20 ++ turns true connectedSidecar 5

/-- The second retry puts the connected session back. -/
theorem retried_session_disconnected : ¬∀ evs : List (Event Bool), Always World.step Proper {} evs := by
  intro proper
  have last : Proper (run World.step {} retriedRun) (.proceed true connectedSidecar) :=
    (Always.append.mp (proper (retriedRun ++ [.proceed true connectedSidecar]))).2.1
  have pre : (run World.step {} retriedRun).sessions[0]?.map (·.state) = some .connected := by
    decide +kernel
  have after : ((run World.step {} retriedRun).step (.proceed true connectedSidecar)).sessions[0]?.map
      (·.state) = some .generating := by decide +kernel
  have call : ((run World.step {} retriedRun).processes true).map (·.call.archives) = some false := by
    decide +kernel
  obtain ⟨row, here, st⟩ := map_eq_some_iff.mp pre
  rcases last.connected 0 row here st with ⟨row', present', state'⟩ | ⟨proc, runs, archives⟩
  · rw [present', map_some, state'] at after
    exact nomatch after
  · rw [runs, map_some, archives] at call
    exact nomatch call

end
end Clawdi.Onboarding
