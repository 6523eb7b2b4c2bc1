import Clawdi.CliUpdate.Rules

namespace Clawdi.CliUpdate
open Program List Option
variable {τ V ι α β : Type} [DecidableEq V] {host : Host τ V ι} {m : Machine τ V ι}

def Meets (host : Host τ V ι) (x : Update V ι α) (post : α → Machine τ V ι → Prop)
    (raised : Failure V → Machine τ V ι → Prop) (m : Machine τ V ι) : Prop :=
  Ensures (rules host) x post raised m

section
variable {post : α → Machine τ V ι → Prop} {raised : Failure V → Machine τ V ι → Prop} {x : Update V ι α}

lemma Meets.mono {later : α → Machine τ V ι → Prop}
    {laterRaised : Failure V → Machine τ V ι → Prop} (meets : Meets host x post raised m)
    (returns : ∀ a m, post a m → later a m) (fails : ∀ e m, raised e m → laterRaised e m) :
    Meets host x later laterRaised m :=
  Ensures.mono meets returns fails

variable {f : α → Update V ι β} {last : β → Machine τ V ι → Prop}

lemma meets_bind : Meets host (x >>= f) last raised m ↔
      Meets host x (fun a m' => Meets host (f a) last raised m') raised m := ensures_bind

lemma meets_map {f : α → β} :
    Meets host (f <$> x) last raised m ↔ Meets host x (fun a m' => last (f a) m') raised m :=
  ensures_map

lemma meets_attempt {last : Except (Failure V) α → Machine τ V ι → Prop} : Meets host (attempt x) last raised m ↔
      Meets host x (fun a m' => last (.ok a) m') (fun e m' => last (.error e) m') m := by
  rw [Meets, attempt, ensures_tryCatch, ensures_map]
  exact Iff.rfl

lemma Meets.then (meets : Meets host x post raised m)
    (rest : ∀ a m', post a m' → Meets host (f a) last raised m') : Meets host (x >>= f) last raised m :=
  meets_bind.mpr (meets.mono rest fun _ _ fails => fails)

lemma meets_receipt {post : Option (Receipt V ι) → Machine τ V ι → Prop}
    (rest : ∀ m', Later m m' → post m'.receipt m') : Meets host (perform .receipt) post raised m := by
  refine ⟨trivial, ?_⟩
  rintro res m' ⟨_, _, ans, ⟨⟩⟩
  exact rest _ (later_wait m ans.elapsed)

lemma meets_link {post : Option (Prefix V) → Machine τ V ι → Prop}
    (rest : ∀ m', Later m m' → post m'.link m') : Meets host (perform .link) post raised m := by
  refine ⟨trivial, ?_⟩
  rintro res m' ⟨_, _, ans, ⟨⟩⟩
  exact rest _ (later_wait m ans.elapsed)

lemma meets_now {post : ℕ → Machine τ V ι → Prop} (rest : ∀ m', Later m m' → post m'.now m') :
    Meets host (perform .now) post raised m := by
  refine ⟨trivial, ?_⟩
  rintro res m' ⟨_, _, ans, ⟨⟩⟩
  exact rest _ (later_wait m ans.elapsed)

variable {tgt : Prefix V}

lemma meets_inspect {post : Inspection ι → Machine τ V ι → Prop}
    (rest : ∀ m', Later m m' → post (m'.inspect host tgt) m') :
    Meets host (perform (.inspect tgt)) post raised m := by
  refine ⟨trivial, ?_⟩
  rintro res m' ⟨_, _, ans, ⟨⟩⟩
  exact rest _ (later_wait m ans.elapsed)

lemma meets_probe {post : Option V → Machine τ V ι → Prop} (rest : ∀ m', Later m m' →
      (∀ ver ∈ (m.trees tgt).bind host.version, m'.verified tgt = m.trees tgt) →
        post ((m.trees tgt).bind host.version) m') : Meets host (perform (.probe tgt)) post raised m := by
  refine ⟨trivial, ?_⟩
  rintro res m' ⟨_, _, ans, ran⟩
  have waited := later_wait m ans.elapsed
  have probed : Later (m.wait ans.elapsed) ((m.wait ans.elapsed).probe host tgt).2 := later_probe tgt
  have hit : ((m.wait ans.elapsed).probe host tgt).1 = (m.trees tgt).bind host.version ∧
      ∀ ver ∈ (m.trees tgt).bind host.version,
        ((m.wait ans.elapsed).probe host tgt).2.verified tgt = m.trees tgt := by
    have same : (m.wait ans.elapsed).trees tgt = m.trees tgt := rfl
    rw [Machine.probe, same]
    cases here : m.trees tgt with
    | none =>
      refine ⟨rfl, ?_⟩
      rintro _ ⟨⟩
    | some tree =>
      cases passes : host.version tree with
      | none | some => simp [passes]
  obtain ⟨rfl, rfl⟩ := Prod.mk.inj ran
  show post ((m.wait ans.elapsed).probe host tgt).1 _
  rw [hit.1]
  exact rest _ (waited.trans probed) hit.2

lemma meets_swap {post : Unit → Machine τ V ι → Prop} (allowed : Allowed host m (.swap tgt))
    (rest : ∀ m', Later (m.swap tgt) m' → Consistent host m' → post () m') :
    Meets host (perform (.swap tgt)) post raised m := by
  refine ⟨allowed, ?_⟩
  rintro res m' ⟨_, agree, ans, ⟨⟩⟩
  exact rest _ (later_wait (m.swap tgt) ans.elapsed) agree

lemma meets_unlink {post : Unit → Machine τ V ι → Prop} (allowed : Allowed host m .unlink)
    (rest : ∀ m', post () m') : Meets host (perform .unlink) post raised m := by
  exact ⟨allowed, fun _ m' _ => rest m'⟩

lemma meets_write {st} {post : Unit → Machine τ V ι → Prop} (inv : SoundState host m st)
    (rest : ∀ m', Later (m.write st) m' → Consistent host m' → post () m') :
    Meets host (perform (.write st)) post raised m := by
  refine ⟨inv, ?_⟩
  rintro res m' ⟨_, agree, ans, ⟨⟩⟩
  exact rest _ (later_wait (m.write st) ans.elapsed) agree

structure Frame (m m' : Machine τ V ι) : Prop where
  link : m'.link = m.link
  receipt : m'.receipt = m.receipt
  now : m.now ≤ m'.now

lemma meets_prune {keep} {post : Unit → Machine τ V ι → Prop}
    (allowed : Allowed host m (.prune keep)) (rest : ∀ m', Frame m m' → Consistent host m' → post () m') :
    Meets host (perform (.prune keep)) post raised m := by
  refine ⟨allowed, ?_⟩
  rintro res m' ⟨_, agree, ans, ⟨⟩⟩
  exact rest _ ⟨rfl, rfl, Nat.le_add_right m.now ans.elapsed⟩ agree

lemma meets_install {ver} {post : Bool → Machine τ V ι → Prop} (allowed : Allowed host m (.install ver))
    (rest : ∀ succeeds m', (Op.install ver).clear m = true → Frame m m' → Consistent host m' →
      post succeeds m') : Meets host (perform (.install ver)) post raised m := by
  refine ⟨allowed, ?_⟩
  rintro res m' ⟨clear, agree, ans, ⟨⟩⟩
  exact rest _ _ clear ⟨rfl, rfl, Nat.le_add_right m.now ans.elapsed⟩ agree

end

section

omit [DecidableEq V]

variable {m' : Machine τ V ι}

lemma Later.inspect (later : Later m m') (tgt : Prefix V) : m'.inspect host tgt = m.inspect host tgt := by
  rw [Machine.inspect, Machine.inspect, later.trees]

lemma Later.write (later : Later m m') (st : State V ι) : Later (m.write st) (m'.write st) where
  link := later.link
  receipt := rfl
  trees := later.trees
  verified := later.verified
  now := later.now

def Identified (host : Host τ V ι) (m : Machine τ V ι) (verified : Verified V ι) : Prop :=
  (m.inspect host verified.activeTarget).identity = some verified.verification.identity

lemma Identified.later {m' verified}
    (identified : Identified host m verified) (later : Later m m') : Identified host m' verified := by
  rw [Identified, later.inspect]
  exact identified

structure Passed (host : Host τ V ι) (m : Machine τ V ι) (tgt : Prefix V)
    (verified : Verified V ι) : Prop where
  same : verified.activeTarget = tgt
  identified : Identified host m verified
  tree : ∃ tree, m.trees tgt = some tree ∧ m.verified tgt = some tree ∧
    host.trusted tree = true ∧ (host.identity tree).isSome ∧ host.version tree = some verified.version

lemma Sound.inspect {tgt ver} (inv : Sound host m tgt ver) :
    (m.inspect host tgt).trusted = true ∧ (m.inspect host tgt).identity.isSome ∧
      (m.trees tgt).bind host.version = some ver := by
  obtain ⟨tree, here, _, trusted, ident, hit⟩ := inv.tree
  simp only [Machine.inspect, here, bind_some]
  exact ⟨trusted, ident, hit⟩

end

section
variable [DecidableEq ι] {raised : Failure V → Machine τ V ι → Prop}

lemma meets_tryVerify (tgt : Prefix V) (m : Machine τ V ι) : Meets host (tryVerifyCliTarget tgt none none)
      (fun verified m' => Later m m' ∧ ∀ v ∈ verified, Passed host m' tgt v) (fun _ m' => Later m m') m := by
  rw [tryVerifyCliTarget, meets_bind]
  apply meets_inspect
  intro m₁ later₁
  rw [later₁.inspect]
  cases ident : (m.inspect host tgt).identity with
  | none =>
    dsimp only
    split
    · exact later₁
    · exact ⟨later₁, fun _ => nofun⟩
  | some ident =>
    dsimp only
    split
    · exact later₁
    · rename_i trusted
      simp only [filter_none]
      rw [meets_bind]
      apply meets_now
      intro m₂ later₂
      rw [meets_bind]
      apply meets_probe
      intro m₃ later₃ noted
      have early := (later₁.trans later₂).trans later₃
      rw [(later₁.trans later₂).trees] at noted ⊢
      cases here : m.trees tgt with
      | none => exact ⟨early, fun _ => nofun⟩
      | some tree =>
        simp only [Machine.inspect, here] at trusted ident
        simp only [here, bind_some] at noted ⊢
        cases passes : host.version tree with
        | none => exact ⟨early, fun _ => nofun⟩
        | some hit =>
          show Meets host (perform _ >>= _) _ _ m₃
          rw [meets_bind]
          apply meets_inspect
          intro m₄ later₄
          have late := early.trans later₄
          split
          · exact ⟨late, fun _ => nofun⟩
          · rename_i unchanged
            rw [meets_bind]
            apply meets_now
            intro m₅ later₅
            refine ⟨late.trans later₅, ?_⟩
            rintro v ⟨⟩
            refine ⟨rfl, ?_, tree, ?_, ?_, ?_, ?_, passes⟩
            · rw [Identified, later₅.inspect]
              exact not_not.mp unchanged
            · rw [(late.trans later₅).trees, here]
            · apply (later₄.trans later₅).verified
              · rw [early.trees, here]
              · exact noted hit passes
            · simpa using trusted
            · rw [ident]
              rfl

variable {ver : V} {wanted : Option V}

lemma meets_tryVerify_sound {tgt st} (inv : Sound host m tgt ver) (exp : wanted = none ∨ wanted = some ver) :
    Meets host (tryVerifyCliTarget tgt wanted st)
      (fun verified m' => Later m m' ∧ ∃ v, verified = some v ∧ v.version = ver ∧
        v.activeTarget = tgt ∧ Identified host m' v) raised m := by
  obtain ⟨trusted, identifiable, hit⟩ := inv.inspect
  obtain ⟨ident, identified⟩ := isSome_iff_exists.mp identifiable
  rw [tryVerifyCliTarget, meets_bind]
  apply meets_inspect
  intro m₁ later₁
  rw [later₁.inspect, identified]
  simp only [trusted, not_true_eq_false, if_false]
  rw [meets_bind]
  apply meets_now
  intro m₂ later₂
  have early := later₁.trans later₂
  split
  · rename_i known cached
    obtain ⟨_, matching⟩ := filter_eq_some_iff.mp cached
    simp only [Bool.decide_and, Bool.and_eq_true, decide_eq_true_eq] at matching
    obtain ⟨_, same, unchanged, _⟩ := matching
    refine ⟨early, _, rfl, ?_, rfl, ?_⟩
    · rcases exp with rfl | rfl
      · exact nomatch same
      · exact Option.some.inj same
    · rw [Identified, early.inspect, identified, unchanged]
  · rw [meets_bind]
    apply meets_probe
    intro m₃ later₃ _
    rw [early.trees, hit]
    have wanted_found : wanted.any (· ≠ ver) = false := by rcases exp with rfl | rfl <;> simp
    simp only [wanted_found]
    show Meets host (perform _ >>= _) _ _ m₃
    rw [meets_bind]
    apply meets_inspect
    intro m₄ later₄
    have late := (early.trans later₃).trans later₄
    rw [late.inspect, identified]
    simp only [ne_eq, not_true_eq_false, if_false]
    rw [meets_bind]
    apply meets_now
    intro m₅ later₅
    refine ⟨late.trans later₅, _, rfl, rfl, rfl, ?_⟩
    rw [Identified, (late.trans later₅).inspect, identified]

lemma meets_requireVerified (tgt : Prefix V) (m : Machine τ V ι) : Meets host (requireVerifiedCliTarget tgt none)
      (fun verified m' => Later m m' ∧ Passed host m' tgt verified) (fun _ m' => Later m m') m := by
  apply Meets.then (meets_tryVerify tgt m)
  intro verified m' ⟨later, passed⟩
  cases verified with
  | none => exact later
  | some verified => exact ⟨later, passed verified rfl⟩

lemma meets_requireVerified_sound {tgt} (inv : Sound host m tgt ver)
    (exp : wanted = none ∨ wanted = some ver) : Meets host (requireVerifiedCliTarget tgt wanted)
      (fun v m' => Later m m' ∧ v.version = ver ∧ v.activeTarget = tgt ∧ Identified host m' v) raised m := by
  apply Meets.then (meets_tryVerify_sound inv exp)
  rintro _ m' ⟨later, verified, rfl, facts⟩
  exact ⟨later, facts⟩

lemma meets_writeCliState {verified : Verified V ι} {prev bad} (inv : SoundState host m
      ⟨verified.activeTarget, verified.version, verified.verification, prev, bad⟩) :
    Meets host (writeCliState verified prev bad) (fun _ m' => Later (m.write
        ⟨verified.activeTarget, verified.version, verified.verification, prev, bad⟩) m' ∧
          Consistent host m') (fun _ m' => Later m m' ∧ ¬Identified host m verified) m := by
  rw [writeCliState, meets_bind]
  apply meets_inspect
  intro m₁ later₁
  rw [later₁.inspect]
  split
  · rename_i changed
    exact ⟨later₁, changed⟩
  · apply meets_write (inv.later later₁)
    intro m₂ later₂ agree
    exact ⟨(later₁.write _).trans later₂, agree⟩

omit [DecidableEq ι] in
lemma meets_markBadVersion (prev : Option (Bad V)) (ver : V) (reason : Reason V)
    (m : Machine τ V ι) : Meets host (markBadVersion prev ver reason)
      (fun bad m' => Later m m' ∧ bad.version = ver) raised m := by
  unfold markBadVersion
  dsimp only
  rw [meets_bind]
  apply meets_now
  intro m₁ later₁
  exact ⟨later₁, rfl⟩

end

structure Settled (m : Machine τ V ι) (st : State V ι) : Prop where
  link : m.link = some st.activeTarget
  receipt : m.receipt = some (.state st)

lemma meets_settle [DecidableEq ι] {raised : Failure V → Machine τ V ι → Prop}
    {v : Verified V ι} {prev bad} (linked : m.link = some v.activeTarget)
    (inv : SoundState host m ⟨v.activeTarget, v.version, v.verification, prev, bad⟩)
    (fails : ∀ e m', Later m m' → ¬Identified host m v → raised e m') :
    Meets host (writeCliState v prev bad) (fun _ m' => Consistent host m' ∧
        Settled m' ⟨v.activeTarget, v.version, v.verification, prev, bad⟩) raised m := by
  apply (meets_writeCliState inv).mono
  · intro _ m₁ ⟨later, agree⟩
    exact ⟨agree, later.link.trans linked, later.receipt⟩
  · intro e m' ⟨later, unidentified⟩
    exact fails e m' later unidentified

lemma meets_prune_settled {raised : Failure V → Machine τ V ι → Prop} {st}
    (settled : Settled m st) : Meets host (perform (.prune
        (st.activeTarget :: (st.previous.map (·.activeTarget)).toList)))
      (fun _ m' => Consistent host m' ∧ Settled m' st) raised m := by
  apply meets_prune
  · intro tgt protects
    rcases protects with linked | ⟨alt, wrote, named⟩
    · rw [settled.link] at linked
      cases linked
      exact mem_cons_self
    · rw [settled.receipt] at wrote
      cases wrote
      rcases named with rfl | ⟨p, pend, rfl⟩
      · exact mem_cons_self
      · rw [mem_def.mp pend]
        exact mem_cons_of_mem _ mem_cons_self
  · intro m' frame agree
    exact ⟨agree, frame.link.trans settled.link, frame.receipt.trans settled.receipt⟩

section

omit [DecidableEq V]

lemma SoundState.due_previous {st} (inv : SoundState host m st)
    (wrote : m.receipt = some (.state st)) {p} (named : p ∈ st.previous) : Due m p.version := by
  intro alt is b bad same
  rw [wrote] at is
  cases is
  exact absurd same (inv.badPrevious b bad p named)

lemma SoundState.due_active {st} (inv : SoundState host m st)
    (wrote : m.receipt = some (.state st)) : Due m st.version := by
  intro alt is b bad same
  rw [wrote] at is
  cases is
  exact inv.badActive b bad same

lemma written_state {st} (wrote : m.receipt = some (.state st)) : ∀ t, m.receipt ≠ some (.bootstrap t) := by
  rw [wrote]
  exact fun t => nofun

lemma Identified.swap {m' v tgt}
    (identified : Identified host m v) (later : Later (m.swap tgt) m') : Identified host m' v := by
  rw [Identified, later.inspect]
  exact identified

end

section
variable [DecidableEq ι] {raised : Failure V → Machine τ V ι → Prop} {st : State V ι}

omit [DecidableEq ι] in
lemma meets_relink {tgt} {rest : Unit → Update V ι β}
    {post : β → Machine τ V ι → Prop} (agree : Consistent host m) (allowed : Allowed host m (.swap tgt))
    (goes : ∀ m', Later (m.swap tgt) m' → Consistent host m' → Meets host (rest ()) post raised m') :
    Meets host (if m.link ≠ some tgt then perform (.swap tgt) >>= rest else rest ()) post raised m := by
  by_cases linked : m.link = some tgt
  · rw [if_neg (not_not.mpr linked)]
    have same : m.swap tgt = m := by rw [Machine.swap, ← linked]
    apply goes m _ agree
    rw [same]
    exact Later.refl m
  · rw [if_pos linked, meets_bind]
    exact meets_swap allowed goes

lemma meets_rollbackToPrevious {p} (agree : Consistent host m)
    (wrote : m.receipt = some (.state st)) (pend : st.previous = some p) (reason : Reason V) :
    Meets host (rollbackToPrevious st reason) (fun _ m' => Consistent host m' ∧ ∃ state', Settled m' state' ∧
        state'.activeTarget = p.activeTarget ∧ state'.previous = none) raised m := by
  have inv := agree.state st wrote
  rw [rollbackToPrevious, pend]
  apply Meets.then (meets_requireVerified_sound (inv.previous p pend) (.inr rfl))
  rintro v m₁ ⟨later₁, ver, tgt, identified⟩
  rw [meets_bind]
  apply meets_link
  intro m₂ later₂
  have early := later₁.trans later₂
  have identified := identified.later later₂
  have inv := inv.later early
  have wrote := early.receipt.trans wrote
  apply meets_relink (agree.later early)
  · refine ⟨written_state wrote, p.version, ?_, inv.due_previous wrote pend⟩
    rw [tgt]
    exact inv.previous p pend
  · intro m₃ later₃ agree
    have inv := agree.state st (later₃.receipt.trans wrote)
    apply Meets.then (meets_markBadVersion _ _ _ m₃)
    intro bad m₄ ⟨later₄, badVersion⟩
    have inv := inv.later later₄
    have identified : Identified host m₄ v := (identified.swap later₃).later later₄
    have restored : SoundState host m₄
        ⟨v.activeTarget, v.version, v.verification, none, some bad⟩ := by
      refine ⟨?_, fun _ => nofun, fun _ => nofun, fun _ _ _ => nofun, ?_⟩
      · rw [tgt, ver]
        exact inv.previous p pend
      · rintro b ⟨⟩ same
        rw [badVersion, ver] at same
        exact absurd same.symm (inv.apart p pend)
    apply Meets.then (meets_settle (later₄.link.trans later₃.link) restored
      fun _ _ _ unidentified => absurd identified unidentified)
    intro _ m₅ ⟨_, settled⟩
    apply (meets_prune_settled settled).mono
    · intro _ m₆ ⟨agree, settled⟩
      exact ⟨agree, _, settled, tgt, rfl⟩
    · exact fun _ _ fails => fails

omit [DecidableEq V] [DecidableEq ι] in
lemma SoundState.fallback (inv : SoundState host m st) :
    Sound host m (st.previous.getD st.target).activeTarget (st.previous.getD st.target).version := by
  cases pend : st.previous with
  | none => exact inv.active
  | some p => exact inv.previous p pend

omit [DecidableEq V] [DecidableEq ι] in
lemma SoundState.due_fallback (inv : SoundState host m st)
    (wrote : m.receipt = some (.state st)) : Due m (st.previous.getD st.target).version := by
  cases pend : st.previous with
  | none => exact inv.due_active wrote
  | some p => exact inv.due_previous wrote pend

variable {runningVersion : Option V}

lemma meets_recoverActivation (agree : Consistent host m)
    (wrote : m.receipt = some (.state st)) : Meets host (recoverActivation st m.link runningVersion)
      (fun r m' => Consistent host m' ∧ r.status = .rolledBack ∧ ∃ state', Settled m' state' ∧
        state'.activeTarget = (st.previous.getD st.target).activeTarget ∧ state'.previous = none) raised m := by
  have inv := agree.state st wrote
  apply Meets.then (meets_requireVerified_sound inv.fallback (.inr rfl))
  rintro v m₁ ⟨later₁, ver, tgt, identified⟩
  have inv := inv.later later₁
  have wrote := later₁.receipt.trans wrote
  rw [← later₁.link]
  apply meets_relink (agree.later later₁)
  · refine ⟨written_state wrote, _, ?_, inv.due_fallback wrote⟩
    rw [tgt]
    exact inv.fallback
  · intro m₂ later₂ agree
    have inv := agree.state st (later₂.receipt.trans wrote)
    have identified := identified.swap later₂
    have linked : m₂.link = some v.activeTarget := later₂.link
    have settles : ∀ {m₃ : Machine τ V ι} {bad}, Later m₂ m₃ →
        (∀ b ∈ bad, b.version = v.version → b.retryAt ≤ m₃.now) →
        Meets host (do
          writeCliState v none bad
          perform (.prune [v.activeTarget])
          return reconciliationResult .rolledBack (some v.version) runningVersion true)
        (fun r m' => Consistent host m' ∧ r.status = .rolledBack ∧ ∃ state', Settled m' state' ∧
          state'.activeTarget = (st.previous.getD st.target).activeTarget ∧
            state'.previous = none) raised m₃ := by
      intro m₃ bad later₃ due
      have restored : SoundState host m₃
          ⟨v.activeTarget, v.version, v.verification, none, bad⟩ := by
        refine ⟨?_, fun _ => nofun, fun _ => nofun, fun _ _ _ => nofun, due⟩
        rw [tgt, ver]
        exact (inv.later later₃).fallback
      apply Meets.then (meets_settle (later₃.link.trans linked) restored
        fun _ _ _ unidentified => absurd (identified.later later₃) unidentified)
      intro _ m₄ ⟨_, settled⟩
      apply Meets.then (meets_prune_settled settled)
      intro _ m₅ ⟨agree, settled⟩
      exact ⟨agree, rfl, _, settled, tgt, rfl⟩
    split
    · rename_i p pend
      rw [meets_bind, meets_map]
      apply (meets_markBadVersion _ _ _ m₂).mono
      · intro bad m₃ ⟨later₃, badVersion⟩
        apply settles later₃
        rintro b ⟨⟩ same
        rw [badVersion, ver, pend] at same
        exact absurd same.symm (inv.apart p pend)
      · exact fun _ _ fails => fails
    · rename_i pend
      apply settles (Later.refl m₂)
      rw [ver, pend]
      exact inv.badActive

def Agrees (m : Machine τ V ι) : Prop := (m.link = none ∧ m.receipt = none) ∨ ∃ st, Settled m st

lemma meets_adoptActivation {bootstrap : Option (Target V)} (agree : Consistent host m)
    (wrote : m.receipt = bootstrap.map Receipt.bootstrap) :
    Meets host (adoptActivation bootstrap m.link runningVersion)
      (fun r m' => Consistent host m' ∧ Agrees m' ∧ r.status = .unchanged) raised m := by
  have adopts : ∀ {active : Prefix V} {ver : V} {wanted : Option V}, m.link = some active →
      Sound host m active ver → (wanted = none ∨ wanted = some ver) →
      Meets host (do
        let recovered ← requireVerifiedCliTarget active wanted
        writeCliState recovered none none
        perform (.prune [recovered.activeTarget])
        return reconciliationResult .unchanged (some recovered.version) runningVersion false)
      (fun r m' => Consistent host m' ∧ Agrees m' ∧ r.status = .unchanged) raised m := by
    intro active ver wanted linked inv exp
    apply Meets.then (meets_requireVerified_sound inv exp)
    rintro v m₁ ⟨later₁, ver, rfl, identified⟩
    have recovered : SoundState host m₁
        ⟨v.activeTarget, v.version, v.verification, none, none⟩ := by
      refine ⟨?_, fun _ => nofun, fun _ => nofun, fun _ => nofun, fun _ => nofun⟩
      rw [ver]
      exact inv.later later₁
    apply Meets.then (meets_settle (later₁.link.trans linked) recovered
      fun _ _ _ unidentified => absurd identified unidentified)
    intro _ m₂ ⟨_, settled⟩
    apply Meets.then (meets_prune_settled settled)
    intro _ m₃ ⟨agree, settled⟩
    exact ⟨agree, .inr ⟨_, settled⟩, rfl⟩
  unfold adoptActivation
  cases bootstrap with
  | none =>
    cases linked : m.link with
    | none => exact ⟨agree, .inl ⟨linked, wrote⟩, rfl⟩
    | some active =>
      obtain ⟨ver, inv⟩ := agree.link active linked
      exact adopts linked inv (.inl rfl)
  | some tgt =>
    obtain ⟨linked, inv⟩ := agree.bootstrap tgt wrote
    rw [linked]
    dsimp only
    rw [if_neg (not_not.mpr rfl)]
    exact adopts linked inv (.inr rfl)

def Pends (m m' : Machine τ V ι) (r : Reconciliation) : Prop :=
  ∀ st p, m.receipt = some (.state st) → st.previous = some p →
    (∃ state', Settled m' state' ∧ r.status = .rolledBack ∧
      state'.activeTarget = p.activeTarget ∧ state'.previous = none) ∨
    (∃ state', Settled m' state' ∧ r.status = .unchanged ∧ state'.previous = some p)

lemma meets_reconcile (agree : Consistent host m) : Meets host (reconcilePendingRuntimeCliUpgrade runningVersion)
      (fun r m' => Consistent host m' ∧ Agrees m' ∧ Pends m m' r) raised m := by
  rw [reconcilePendingRuntimeCliUpgrade, meets_bind]
  apply meets_receipt
  intro m₁ later₁
  rw [meets_bind]
  apply meets_link
  intro m₂ later₂
  have later := later₁.trans later₂
  have agree := agree.later later
  have same : Pends m = Pends m₂ := by
    funext m' r
    rw [Pends, Pends, later.receipt]
  rw [← later₂.receipt, same]
  have adopts : ∀ bootstrap, m₂.receipt = bootstrap.map Receipt.bootstrap →
      Meets host (adoptActivation bootstrap m₂.link runningVersion)
        (fun r m' => Consistent host m' ∧ Agrees m' ∧ Pends m₂ m' r) raised m₂ := by
    intro bootstrap wrote
    apply (meets_adoptActivation agree wrote).mono
    · intro r m₃ ⟨agree, agrees, _⟩
      refine ⟨agree, agrees, ?_⟩
      intro st p is
      rw [wrote] at is
      cases bootstrap <;> exact nomatch is
    · exact fun _ _ fails => fails
  cases wrote : m₂.receipt with
  | none => exact adopts none wrote
  | some rcpt =>
    cases rcpt with
    | bootstrap tgt => exact adopts (some tgt) wrote
    | state st =>
      have inv := agree.state st wrote
      dsimp only [bind_some, Receipt.parse]
      split
      · apply (meets_recoverActivation agree wrote).mono
        · rintro r m₃ ⟨agree, status, state', settled, tgt, prev⟩
          refine ⟨agree, .inr ⟨state', settled⟩, ?_⟩
          intro st p is pend
          rw [wrote] at is
          cases is
          rw [pend] at tgt
          exact .inl ⟨state', settled, status, tgt, prev⟩
        · exact fun _ _ fails => fails
      · rename_i linked
        apply Meets.then (meets_tryVerify_sound inv.active (.inr rfl))
        rintro _ m₃ ⟨later₃, v, rfl, ver, tgt, identified⟩
        have inv := inv.later later₃
        have link : m₃.link = some st.activeTarget := later₃.link.trans (not_not.mp linked)
        have keeps : ∀ m₄ state', Consistent host m₄ → Settled m₄ state' → state'.previous = st.previous →
            Consistent host m₄ ∧ Agrees m₄ ∧ Pends m₂ m₄
              (reconciliationResult .unchanged (some v.version) runningVersion
                st.previous.isSome) := by
          intro m₄ state' agree settled prev
          refine ⟨agree, .inr ⟨state', settled⟩, ?_⟩
          intro alt p is pend
          rw [wrote] at is
          cases is
          exact .inr ⟨state', settled, rfl, prev.trans pend⟩
        dsimp only
        split
        · rw [meets_bind]
          have renewed : SoundState host m₃
              ⟨v.activeTarget, v.version, v.verification, st.previous, st.bad⟩ := by
            rw [tgt, ver]
            exact ⟨inv.active, inv.previous, inv.apart, inv.badPrevious, inv.badActive⟩
          apply (meets_settle (by rw [link, tgt]) renewed
            fun _ _ _ unidentified => absurd identified unidentified).mono
          · intro _ m₄ ⟨agree, settled⟩
            exact keeps m₄ _ agree settled rfl
          · exact fun _ _ fails => fails
        · exact keeps m₃ st (agree.later later₃) ⟨link, later₃.receipt.trans wrote⟩ rfl

end
end Clawdi.CliUpdate
