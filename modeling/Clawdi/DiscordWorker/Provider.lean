import Clawdi.DiscordWorker.Upstream

namespace Clawdi.DiscordWorker
open List
open SessionEvents (JsonValue)
variable {w : World} {sess : UpstreamSession}

lemma filter_dispatches (numbered : Numbered sess) (count : Nat) :
    (sess.dispatches.drop count).filter (fun frame => opOf frame 0) = sess.dispatches.drop count := by
  rw [filter_eq_self]
  intro frame mem
  exact numbered.dispatches_op (mem_of_mem_drop mem)

lemma dispatches_append (conn : Connection) (frames : List GatewayFrame) :
    ({ conn with queue := conn.queue ++ frames } : Connection).dispatches =
      conn.dispatches ++ frames.filter fun frame => opOf frame 0 := by
  simp only [Connection.dispatches, filter_append, append_assoc]

lemma Attached.past {conn} (attached : Attached w conn)
    (asked : conn.request ≠ .nothing) : ∀ resume, conn.stage ≠ .hello resume :=
  fun resume hello => asked (attached.hello resume hello).1

lemma Sound.greet (inv : Sound w) (sid url : String)
    (data : List (String × JsonValue)) : Sound (w.greet sid url data) := by
  unfold World.greet
  split
  · rename_i conn connected
    split
    · rename_i identifies unserved
      split
      · exact inv
      · rename_i fresh
        have attached := inv.attached conn connected
        have past : ∀ resume, conn.stage ≠ .hello resume := by
          apply attached.past
          rw [identifies]
          intro same
          cases same
        let ready := dispatchFrame 1 "READY" (readyData sid url data)
        let opened : UpstreamSession := { sessionId := sid, resumeGatewayUrl := url, dispatches := [ready] }
        have grows := grows_append w.sessions opened
        have apart : ∀ sess ∈ w.sessions, sess.sessionId ≠ sid := by
          intro sess mem same
          apply fresh
          exact any_eq_true.mpr ⟨sess, mem, decide_eq_true same⟩
        have cases_of : ∀ {idx : Nat} {sess : UpstreamSession}, (w.sessions ++ [opened])[idx]? = some sess →
              w.sessions[idx]? = some sess ∨
                (idx = w.sessions.length ∧ sess = opened) := by
          intro idx sess listed
          by_cases short : idx < w.sessions.length
          · left
            rw [List.getElem?_append_left short] at listed
            exact listed
          · right
            rw [List.getElem?_append_right (Nat.le_of_not_lt short)] at listed
            have bounded := (List.getElem?_eq_some_iff.mp listed).1
            have here : idx - w.sessions.length = 0 := by
              rw [List.length_singleton] at bounded
              omega
            rw [here] at listed
            refine ⟨?_, (Option.some.inj listed).symm⟩
            omega
        obtain ⟨quiet, waits⟩ := attached.asked past unserved
        have unknown : w.state.sequence = none ∧ w.state.sessionId = none ∧
            w.state.resumeGatewayUrl = none := by
          rcases waits with ⟨-, unknown⟩ | ⟨named, seq, resumes, -⟩
          · exact unknown
          · rw [identifies] at resumes
            cases resumes
        constructor
        · intro idx sess listed
          rcases cases_of listed with old | ⟨-, rfl⟩
          · exact inv.numbered idx sess old
          · refine ⟨⟨data, rfl⟩, ?_⟩
            intro next frame none_listed
            cases none_listed
        · intro idx alt sess another listed hit same
          rcases cases_of listed with old | ⟨here, rfl⟩
          · rcases cases_of hit with pre | ⟨there, rfl⟩
            · exact inv.distinct idx alt sess another old pre same
            · exact absurd same (apart sess (mem_of_getElem? old))
          · rcases cases_of hit with pre | ⟨there, rfl⟩
            · exact absurd same.symm (apart another (mem_of_getElem? pre))
            · rw [here, there]
        · exact inv.honest.grow grows
        · left
          exact unknown.1
        · rintro next ⟨⟩
          constructor
          · intro resume hello
            exact absurd hello (past resume)
          · intro _ none_served
            cases none_served
          · rintro idx ⟨⟩
            refine ⟨opened, ?_, ?_, ?_⟩
            · show (w.sessions ++ [opened])[w.sessions.length]? = some opened
              rw [List.getElem?_append_right le_rfl, Nat.sub_self]
              rfl
            · constructor
              · intro named known
                rw [unknown.2.1] at known
                cases known
              · intro named known
                rw [unknown.2.2] at known
                cases known
              · intro seq known
                rw [unknown.1] at known
                cases known
            · rw [GatewayState.position, unknown.1]
              change ({ conn with queue := conn.queue ++ [ready] } : Connection).dispatches = _
              rw [dispatches_append, quiet]
              rfl
    · exact inv
  · exact inv

lemma Sound.find (inv : Sound w) {idx : Nat}
    (listed : w.sessions[idx]? = some sess) : w.find sess.sessionId = some idx := by
  cases hit : w.find sess.sessionId with
  | none =>
    have none_found := List.findIdx?_eq_none_iff.mp hit sess (mem_of_getElem? listed)
    simp at none_found
  | some alt =>
    obtain ⟨short, same, -⟩ := List.findIdx?_eq_some_iff_getElem.mp hit
    have there : w.sessions[alt]? = some w.sessions[alt] := List.getElem?_eq_getElem short
    rw [inv.distinct alt idx _ _ there listed (of_decide_eq_true same)]

lemma Sound.accept (inv : Sound w) : Sound w.accept := by
  unfold World.accept
  split
  · rename_i conn connected
    split
    · rename_i sid seq resumes unserved
      split
      · rename_i idx hit
        split
        · rename_i sess listed
          split
          · have attached := inv.attached conn connected
            have past : ∀ resume, conn.stage ≠ .hello resume := by
              apply attached.past
              rw [resumes]
              intro same
              cases same
            obtain ⟨quiet, waits⟩ := attached.asked past unserved
            obtain ⟨known, num⟩ : w.state.sessionId = some sid ∧
                w.state.sequence = some seq := by
              rcases waits with ⟨identifies, -⟩ | ⟨named, v, asks, known, num⟩
              · rw [resumes] at identifies
                cases identifies
              · rw [resumes] at asks
                cases asks
                exact ⟨known, num⟩
            have tracks : Tracks w.state w.history idx sess := by
              rcases inv.tracks with unknown | ⟨alt, another, there, tracks⟩
              · rw [num] at unknown
                cases unknown
              · have same := inv.find there
                rw [← tracks.sessionId sid known, hit] at same
                cases same
                rw [listed] at there
                cases there
                exact tracks
            apply inv.reconnect
            constructor
            · intro resume hello
              exact absurd hello (past resume)
            · intro _ none_served
              cases none_served
            · rintro alt ⟨⟩
              refine ⟨sess, listed, tracks, ?_⟩
              change ({ conn with
                queue := conn.queue ++ sess.dispatches.drop seq.toNat }
                  : Connection).dispatches = _
              rw [dispatches_append, quiet, filter_dispatches (inv.numbered idx sess listed),
                GatewayState.position, num]
              rfl
          · exact inv
        · exact inv
      · exact inv
    · exact inv
  · exact inv

lemma Sound.tell (inv : Sound w) (frame : GatewayFrame) : Sound (w.tell frame) := by
  unfold World.tell
  split
  · rename_i conn connected
    split
    · exact inv
    · rename_i alt
      apply inv.reconnect
      let next : Connection := { conn with queue := conn.queue ++ [frame] }
      have same : next.dispatches = conn.dispatches := by
        rw [dispatches_append]
        simp only [filter_cons, alt, Bool.false_eq_true, if_false, filter_nil, append_nil]
      apply (inv.attached conn connected).follow w next ⟨rfl, rfl, rfl⟩ (Grows.refl _)
        (List.Subset.refl _) rfl rfl rfl rfl
      · exact fun still => still
      · exact fun _ => same
      · intro idx pre later _ listed hit pend
        rw [listed] at hit
        cases hit
        rw [same]
        exact pend
  · exact inv

lemma Numbered.dispatch (numbered : Numbered sess) {t} (later : t ≠ "READY")
    (d : JsonValue) :
    Numbered { sess with
      dispatches := sess.dispatches ++
        [dispatchFrame (sess.dispatches.length + 1) t d] } := by
  obtain ⟨data, first⟩ := numbered.ready
  have some_sent : 0 < sess.dispatches.length := (List.getElem?_eq_some_iff.mp first).1
  constructor
  · refine ⟨data, ?_⟩
    show (sess.dispatches ++ _)[0]? = _
    rw [List.getElem?_append_left some_sent]
    exact first
  · intro idx frame listed
    by_cases short : idx + 1 < sess.dispatches.length
    · rw [List.getElem?_append_left short] at listed
      exact numbered.later idx frame listed
    · rw [List.getElem?_append_right (Nat.le_of_not_lt short)] at listed
      have bounded := (List.getElem?_eq_some_iff.mp listed).1
      rw [List.length_singleton] at bounded
      have here : idx + 1 = sess.dispatches.length := by omega
      rw [here, Nat.sub_self] at listed
      refine ⟨t, d, later, ?_⟩
      rw [← Option.some.inj listed, ← here]

lemma Sound.dispatch (inv : Sound w) (idx : Nat) (t : String) (d : JsonValue) : Sound (w.dispatch idx t d) := by
  unfold World.dispatch
  split
  · rename_i sess listed
    split
    · exact inv
    · rename_i later
      let frame := dispatchFrame (sess.dispatches.length + 1) t d
      let longer : UpstreamSession := { sess with dispatches := sess.dispatches ++ [frame] }
      have short : idx < w.sessions.length := (List.getElem?_eq_some_iff.mp listed).1
      have grows := grows_set listed frame
      have cases_of : ∀ {alt : Nat} {another : UpstreamSession},
          (w.sessions.set idx longer)[alt]? = some another → (alt ≠ idx ∧ w.sessions[alt]? = some another) ∨
              (alt = idx ∧ another = longer) := by
        intro alt another hit
        by_cases same : idx = alt
        · right
          subst same
          rw [List.getElem?_set_self short] at hit
          exact ⟨rfl, (Option.some.inj hit).symm⟩
        · left
          rw [List.getElem?_set_ne same] at hit
          exact ⟨Ne.symm same, hit⟩
      constructor
      · intro alt another hit
        rcases cases_of hit with ⟨-, old⟩ | ⟨-, rfl⟩
        · exact inv.numbered alt another old
        · exact (inv.numbered idx sess listed).dispatch later d
      · intro one two first snd hit there same
        rcases cases_of hit with ⟨-, old⟩ | ⟨here, rfl⟩
        · rcases cases_of there with ⟨-, pre⟩ | ⟨place, rfl⟩
          · exact inv.distinct one two first snd old pre same
          · rw [place]
            exact inv.distinct one idx first sess old listed same
        · rcases cases_of there with ⟨-, pre⟩ | ⟨place, rfl⟩
          · rw [here]
            exact inv.distinct idx two sess snd listed pre same
          · rw [here, place]
      · exact inv.honest.grow grows
      · rcases inv.tracks with unknown | ⟨alt, another, hit, tracks⟩
        · left
          exact unknown
        · right
          obtain ⟨next, there, id, address, more⟩ := grows alt another hit
          exact ⟨alt, next, there, tracks.grow (List.Subset.refl _) id address more⟩
      · intro next connected
        obtain ⟨conn, pre, same⟩ := Option.map_eq_some_iff.mp connected
        have attached := inv.attached conn pre
        let after : World :=
          { w with
            sessions := w.sessions.set idx longer
            connection := w.connection.map fun conn =>
              if conn.session = some idx then
                { conn with queue := conn.queue ++ [frame] }
              else conn }
        show Attached after next
        by_cases serves : conn.session = some idx
        · rw [if_pos serves] at same
          rw [← same]
          let longest : Connection := { conn with queue := conn.queue ++ [frame] }
          apply attached.follow after longest ⟨rfl, rfl, rfl⟩ grows (List.Subset.refl _) rfl rfl rfl rfl
          · exact fun still => still
          · intro unserved
            rw [serves] at unserved
            cases unserved
          · intro alt earlier later served hit there pend
            rw [serves] at served
            cases served
            rw [listed] at hit
            cases hit
            rw [List.getElem?_set_self short] at there
            cases there
            obtain ⟨held, same_session, tracks, -⟩ := attached.served idx serves
            rw [listed] at same_session
            cases same_session
            rw [dispatches_append, pend]
            exact (drop_append_of_le_length tracks.position_le).symm
        · rw [if_neg serves] at same
          rw [← same]
          apply attached.follow after conn ⟨rfl, rfl, rfl⟩ grows (List.Subset.refl _) rfl rfl rfl rfl
          · exact fun still => still
          · exact fun _ => rfl
          · intro alt earlier later served hit there pend
            have apart : idx ≠ alt := by
              rintro rfl
              exact serves served
            rw [List.getElem?_set_ne apart, hit] at there
            cases there
            exact pend
  · exact inv

end Clawdi.DiscordWorker
