import Clawdi.Credentials.Refresh
import Mathlib

namespace Clawdi.Credentials
open Function (update update_of_ne update_self)
variable {ρ κ ω : Type} {setup : Setup ρ κ}

def OutcomeRight (setup : Setup ρ κ) (c : κ) : Outcome → Prop
  | .resolved cred => RightOrigin setup c cred
  | .rejected _ => True

def RefreshSound (setup : Setup ρ κ) (lock : Option (Holder κ ω)) (stored : Option ClawdiAuth)
    (c : κ) : RefreshPhase → Prop
  | .unstarted | .locking => True
  | .reading => lock = some (.refresh c)
  | .exchanging latest grant => lock = some (.refresh c) ∧ stored = some latest ∧
      RightOrigin setup c latest ∧ latest.grant? = some grant
  | .releasing out => lock = some (.refresh c) ∧ OutcomeRight setup c out
  | .settled out | .cleared out => OutcomeRight setup c out

def WriterSound (lock : Option (Holder κ ω)) (stored : Option ClawdiAuth) (writer : ω) : WriterStage → Prop
  | .idle => True
  | .holding | .clearing | .wrote => lock = some (.writer writer)
  | .loggingOut cur => lock = some (.writer writer) ∧ stored = cur

def CallSound (setup : Setup ρ κ) (c : κ) : CallPhase κ → Prop
  | .idle => True
  | .waiting starter => setup.proc starter = setup.proc c
  | .settled none out => OutcomeRight setup c out
  | .settled (some starter) out => setup.proc starter = setup.proc c ∧ OutcomeRight setup starter out

structure Sound (setup : Setup ρ κ) (w : World ρ κ ω) : Prop where
  refreshes : ∀ c, RefreshSound setup w.lock w.stored c (w.refreshes c)
  writers : ∀ writer, WriterSound w.lock w.stored writer (w.writers writer)
  calls : ∀ c, CallSound setup c (w.calls c)
  inFlight : ∀ p starter, w.refreshInFlight p = some starter → setup.proc starter = p
  writes : ∀ e ∈ w.refreshWrites, e.1 = some e.2

variable {stored : Option ClawdiAuth} {act : Action κ ω} {c : κ} {writer : ω} {cred : ClawdiAuth}
variable {lock : Option (Holder κ ω)} {auth : ClawdiAuth} {stage : WriterStage}

lemma RefreshSound.free {phase} (inv : RefreshSound setup lock stored c phase)
    (ne : lock ≠ some (.refresh c)) (lock' : Option (Holder κ ω)) (stored' : Option ClawdiAuth) :
    RefreshSound setup lock' stored' c phase := by
  cases phase with
  | unstarted | locking => exact trivial
  | reading => exact absurd inv ne
  | exchanging | releasing => exact absurd inv.1 ne
  | settled | cleared => exact inv

lemma WriterSound.free (inv : WriterSound lock stored writer stage)
    (ne : lock ≠ some (.writer writer)) (lock' : Option (Holder κ ω))
    (stored' : Option ClawdiAuth) : WriterSound lock' stored' writer stage := by
  cases stage with
  | idle => exact trivial
  | loggingOut cur => exact absurd inv.1 ne
  | _ => exact absurd inv ne

lemma WriterSound.locked (inv : WriterSound lock stored writer stage) (busy : stage ≠ .idle) :
    lock = some (.writer writer) := by
  cases stage with
  | idle => exact absurd rfl busy
  | loggingOut cur => exact inv.1
  | _ => exact inv

lemma checked_ok {auth} (passes : World.checked setup c auth = .ok cred) :
    auth = some cred ∧ RightOrigin setup c cred := by
  cases auth with
  | none => cases passes
  | some auth =>
    simp only [World.checked] at passes
    by_cases empty : auth.apiKey = ""
    · simp [empty] at passes
    rw [if_neg empty] at passes
    cases verdict : assertCloudCredentialEndpoint setup.origins
        (setup.environment (setup.proc c)) auth (setup.cloudApiUrl c) with
    | error error =>
      rw [verdict] at passes
      cases passes
    | ok origin =>
      rw [verdict] at passes
      cases passes
      exact ⟨rfl, assertCloudCredentialEndpoint_ok verdict⟩

lemma expiredGrant_some {w : World ρ κ ω} {grant}
    (expired : w.expiredGrant auth = some grant) : auth.grant? = some grant := by
  exact (Option.filter_eq_some_iff.mp expired).1

lemma World.clearFailed_cases (w : World ρ κ ω) (failed : ClerkGrant) :
    w.clearFailed failed = w ∨ w.clearFailed failed = w.setAuth none := by
  unfold World.clearFailed
  cases w.stored.bind ClawdiAuth.grant? with
  | none => exact .inl rfl
  | some cur =>
    by_cases same : sameRefreshCredential cur failed
    · exact .inr (if_pos same)
    · exact .inl (if_neg same)

lemma refreshedAuth_right (right : RightOrigin setup c auth) (grant : ClerkGrant)
    (accessToken : String) (refreshToken : Option String) (expiresAt : ℕ) (scopes : List String) : RightOrigin setup c
      (refreshedAuth auth grant accessToken refreshToken expiresAt scopes) := right

namespace Sound
variable {w : World ρ κ ω}

lemma start (init : Initial w) : Sound setup w := by
  constructor
  · intro c
    rw [init.refreshes c]
    exact trivial
  · intro writer
    rw [init.writers writer]
    exact trivial
  · intro c
    rw [init.calls c]
    exact trivial
  · intro p starter flies
    rw [init.refreshInFlight p] at flies
    cases flies
  · intro e noted
    rw [init.refreshWrites] at noted
    cases noted

variable {c : κ} {writer : ω}

lemma setCall [DecidableEq κ] (inv : Sound setup w) {phase}
    (own : CallSound setup c phase) : Sound setup (w.setCall c phase) := by
  refine ⟨inv.refreshes, inv.writers, ?_, inv.inFlight, inv.writes⟩
  intro alt
  show CallSound setup alt (update w.calls c phase alt)
  by_cases same : alt = c
  · subst same
    rw [update_self]
    exact own
  · rw [update_of_ne same]
    exact inv.calls alt

lemma setInFlight [DecidableEq ρ] (inv : Sound setup w) {p starter}
    (own : ∀ c, starter = some c → setup.proc c = p) : Sound setup (w.setInFlight p starter) := by
  refine ⟨inv.refreshes, inv.writers, inv.calls, ?_, inv.writes⟩
  intro process hit flies
  change update w.refreshInFlight p starter process = some hit at flies
  by_cases same : process = p
  · subst same
    rw [update_self] at flies
    exact own hit flies
  · rw [update_of_ne same] at flies
    exact inv.inFlight process hit flies

variable {writes : List (Option ClawdiAuth × ClawdiAuth)} {lock : Option (Holder κ ω)}

lemma setRefresh [DecidableEq κ] (inv : Sound setup w) {phase} {stored}
    (mine : (lock = w.lock ∧ stored = w.stored) ∨ w.lock = none ∨ w.lock = some (.refresh c))
    (own : RefreshSound setup lock stored c phase)
    (noted : ∀ e ∈ writes, e.1 = some e.2) :
    Sound setup { w with
      lock := lock
      stored := stored
      refreshWrites := writes
      refreshes := update w.refreshes c phase } := by
  refine ⟨?_, ?_, inv.calls, inv.inFlight, noted⟩
  · intro alt
    show RefreshSound setup lock stored alt (update w.refreshes c phase alt)
    by_cases same : alt = c
    · subst same
      rw [update_self]
      exact own
    · rw [update_of_ne same]
      rcases mine with ⟨rfl, rfl⟩ | free | mine
      · exact inv.refreshes alt
      · exact (inv.refreshes alt).free (by rw [free]; simp) lock stored
      · exact (inv.refreshes alt).free (by rw [mine]; simpa using Ne.symm same) lock stored
  · intro writer
    show WriterSound lock stored writer (w.writers writer)
    rcases mine with ⟨rfl, rfl⟩ | free | mine
    · exact inv.writers writer
    · exact (inv.writers writer).free (by rw [free]; simp) lock stored
    · exact (inv.writers writer).free (by rw [mine]; simp) lock stored

lemma setWriter [DecidableEq ω] (inv : Sound setup w) {stage}
    {stored} (mine : w.lock = none ∨ w.lock = some (.writer writer))
    (own : WriterSound lock stored writer stage) (noted : ∀ e ∈ writes, e.1 = some e.2) :
    Sound setup { w with
      lock := lock
      stored := stored
      refreshWrites := writes
      writers := update w.writers writer stage } := by
  refine ⟨?_, ?_, inv.calls, inv.inFlight, noted⟩
  · intro c
    show RefreshSound setup lock stored c (w.refreshes c)
    rcases mine with free | mine
    · exact (inv.refreshes c).free (by rw [free]; simp) lock stored
    · exact (inv.refreshes c).free (by rw [mine]; simp) lock stored
  · intro alt
    show WriterSound lock stored alt (update w.writers writer stage alt)
    by_cases same : alt = writer
    · subst same
      rw [update_self]
      exact own
    · rw [update_of_ne same]
      rcases mine with free | mine
      · exact (inv.writers alt).free (by rw [free]; simp) lock stored
      · exact (inv.writers alt).free (by rw [mine]; simpa using Ne.symm same) lock stored

lemma noted (inv : Sound setup w) {latest} (stored : w.stored = some latest) :
    ∀ e ∈ (w.stored, latest) :: w.refreshWrites, e.1 = some e.2 := by
  intro e mem
  rcases List.mem_cons.mp mem with rfl | mem
  · exact stored
  · exact inv.writes e mem

lemma write [DecidableEq ω] (inv : Sound setup w) (busy : w.writers writer ≠ .idle)
    (after : Option ClawdiAuth) (stage : WriterStage)
    (own : WriterSound (κ := κ) (some (.writer writer)) after writer stage) (noted : ∀ e ∈ writes, e.1 = some e.2) :
    Sound setup { w with
      stored := after
      refreshWrites := writes
      writers := update w.writers writer stage } := by
  have mine : w.lock = some (.writer writer) := (inv.writers writer).locked busy
  have own' : WriterSound w.lock after writer stage := by
    rw [mine]
    exact own
  exact inv.setWriter (.inr mine) own' noted

variable [DecidableEq κ]

lemma call [DecidableEq ρ] (inv : Sound setup w) (c : κ) : Sound setup (w.getClawdiAccessToken setup c) := by
  unfold World.getClawdiAccessToken
  cases verdict : World.checked setup c (w.getAuth setup c) with
  | error err =>
    have own : CallSound setup c (.settled none (.rejected err)) := trivial
    exact inv.setCall own
  | ok auth =>
    have right : CallSound setup c (.settled none (.resolved auth)) := (checked_ok verdict).2
    cases expired : w.expiredGrant auth with
    | none =>
      simp only [expired]
      exact inv.setCall right
    | some grant =>
      cases flies : w.refreshInFlight (setup.proc c) with
      | some starter =>
        have own : CallSound setup c (.waiting starter) := inv.inFlight _ _ flies
        simp only [expired]
        exact inv.setCall own
      | none =>
        have flying : Sound setup (w.setInFlight (setup.proc c) (some c)) := by
          apply inv.setInFlight
          intro starter same
          cases same
          rfl
        have locking : Sound setup
            ((w.setInFlight (setup.proc c) (some c)).setRefresh c .locking) :=
          flying.setRefresh (.inl ⟨rfl, rfl⟩) trivial flying.writes
        have own : CallSound setup c (.waiting c) := rfl
        simp only [expired]
        exact locking.setCall own

lemma read (inv : Sound setup w) (reading : w.refreshes c = .reading) : Sound setup (w.readLatest setup c) := by
  have mine : w.lock = some (.refresh c) := by
    have own := inv.refreshes c
    rw [reading] at own
    exact own
  have turns : ∀ phase, RefreshSound setup w.lock w.stored c phase →
      Sound setup (w.setRefresh c phase) := by
    intro phase own
    exact inv.setRefresh (.inr (.inr mine)) own inv.writes
  unfold World.readLatest
  cases verdict : World.checked setup c w.stored with
  | error err => exact turns _ ⟨mine, trivial⟩
  | ok latest =>
    obtain ⟨stored, right⟩ := checked_ok verdict
    cases expired : w.expiredGrant latest with
    | none =>
      simp only [expired]
      exact turns _ ⟨mine, right⟩
    | some grant =>
      simp only [expired]
      exact turns _ ⟨mine, stored, right, expiredGrant_some expired⟩

lemma answer (inv : Sound setup w) {c latest grant}
    (exchanging : w.refreshes c = .exchanging latest grant) (ans : RefreshAnswer) :
    Sound setup (w.answerRefresh c latest grant ans) := by
  have own := inv.refreshes c
  rw [exchanging] at own
  obtain ⟨mine, stored, right, -⟩ := own
  have locked : w.lock = none ∨ w.lock = some (.refresh c) := Or.inr mine
  cases ans with
  | granted accessToken refreshToken expiresAt scopes =>
    have renewed := refreshedAuth_right right grant accessToken refreshToken expiresAt scopes
    exact inv.setRefresh (.inr locked) ⟨mine, renewed⟩ (inv.noted stored)
  | failed error =>
    have settles : ∀ after, Sound setup { w with
        stored := after
        refreshes := update w.refreshes c (.releasing (.rejected (.clerk error))) } := by
      intro after
      exact inv.setRefresh (.inr locked) ⟨mine, trivial⟩ inv.writes
    show Sound setup ((if terminalRefreshFailure error then w.clearFailed grant else w).setRefresh c
      (.releasing (.rejected (.clerk error))))
    by_cases terminal : terminalRefreshFailure error = true
    · rw [if_pos terminal]
      rcases w.clearFailed_cases grant with kept | cleared
      · rw [kept]
        exact settles w.stored
      · rw [cleared]
        exact settles none
    · rw [if_neg terminal]
      exact settles w.stored

lemma step [DecidableEq ρ] [DecidableEq ω] (inv : Sound setup w) (act : Action κ ω) :
    Sound setup (Credentials.step setup w act) := by
  cases act with
  | call c =>
    by_cases idle : w.calls c = .idle
    · rw [Credentials.step, if_pos idle]
      exact inv.call c
    · rw [Credentials.step, if_neg idle]
      exact inv
  | acquire c =>
    by_cases acquires : w.refreshes c = .locking ∧ w.lock = none
    · rw [Credentials.step, if_pos acquires]
      have own : RefreshSound (ω := ω) setup (some (.refresh c)) w.stored c .reading := rfl
      exact inv.setRefresh (.inr (.inl acquires.2)) own inv.writes
    · rw [Credentials.step, if_neg acquires]
      exact inv
  | timeOut c =>
    by_cases locking : w.refreshes c = .locking
    · rw [Credentials.step, if_pos locking]
      exact inv.setRefresh (.inl ⟨rfl, rfl⟩) trivial inv.writes
    · rw [Credentials.step, if_neg locking]
      exact inv
  | read c =>
    by_cases reading : w.refreshes c = .reading
    · rw [Credentials.step, if_pos reading]
      exact inv.read reading
    · rw [Credentials.step, if_neg reading]
      exact inv
  | answer c ans =>
    cases phase : w.refreshes c <;> simp only [Credentials.step, phase] <;>
      first | exact inv | exact inv.answer phase ans
  | release c =>
    have own := inv.refreshes c
    cases phase : w.refreshes c <;> simp only [Credentials.step, phase] at own ⊢ <;>
      first | exact inv | skip
    case releasing out =>
      exact inv.setRefresh (.inr (.inr own.1)) own.2 inv.writes
  | clear c =>
    have own := inv.refreshes c
    cases phase : w.refreshes c <;> simp only [Credentials.step, phase] at own ⊢ <;>
      first | exact inv | skip
    case settled out =>
      have landed : Sound setup (w.setInFlight (setup.proc c) none) := by
        apply inv.setInFlight
        intro starter never
        cases never
      exact landed.setRefresh (.inl ⟨rfl, rfl⟩) own landed.writes
  | deliver c =>
    have own := inv.calls c
    cases phase : w.calls c with
    | idle | settled => simpa only [Credentials.step, phase] using inv
    | waiting starter =>
      rw [phase] at own
      have refresh := inv.refreshes starter
      have settles : ∀ out, OutcomeRight setup starter out →
          Sound setup (w.setCall c (.settled (some starter) out)) := by
        intro out right
        have done : CallSound setup c (.settled (some starter) out) := ⟨own, right⟩
        exact inv.setCall done
      cases prog : w.refreshes starter with
      | settled out =>
        rw [prog] at refresh
        simp only [Credentials.step, phase, prog]
        exact settles out refresh
      | cleared out =>
        rw [prog] at refresh
        simp only [Credentials.step, phase, prog]
        exact settles out refresh
      | _ => simpa only [Credentials.step, phase, prog] using inv
  | lockWriter writer =>
    by_cases locks : w.writers writer = .idle ∧ w.lock = none
    · rw [Credentials.step, if_pos locks]
      have own : WriterSound (κ := κ) (some (.writer writer)) w.stored writer .holding := rfl
      exact inv.setWriter (.inl locks.2) own inv.writes
    · rw [Credentials.step, if_neg locks]
      exact inv
  | commit writer auth exp =>
    by_cases holding : w.writers writer = .holding
    · rw [Credentials.step, if_pos holding]
      have busy : w.writers writer ≠ .idle := by simp [holding]
      split
      · exact inv.write busy (some auth) .wrote rfl inv.writes
      · exact inv.write busy w.stored .wrote rfl inv.writes
    · rw [Credentials.step, if_neg holding]
      exact inv
  | rejectGrant writer rejected =>
    by_cases holding : w.writers writer = .holding
    · rw [Credentials.step, if_pos holding]
      have busy : w.writers writer ≠ .idle := by simp [holding]
      cases w.stored.bind ClawdiAuth.grant? with
      | none => exact inv.write busy w.stored .wrote rfl inv.writes
      | some cur =>
        by_cases same : cur.userId = rejected.userId ∧ cur.refreshToken = rejected.refreshToken
        · simp only [same, and_self, if_true]
          exact inv.write busy none .wrote rfl inv.writes
        · simp only [same, if_false]
          exact inv.write busy w.stored .wrote rfl inv.writes
    · rw [Credentials.step, if_neg holding]
      exact inv
  | beginLogout writer =>
    by_cases holding : w.writers writer = .holding
    · rw [Credentials.step, if_pos holding]
      have busy : w.writers writer ≠ .idle := by simp [holding]
      exact inv.write busy w.stored (.loggingOut w.stored) ⟨rfl, rfl⟩ inv.writes
    · rw [Credentials.step, if_neg holding]
      exact inv
  | refreshLogout writer accessToken refreshToken expiresAt scopes =>
    have own := inv.writers writer
    cases stage : w.writers writer with
    | loggingOut cur =>
      have busy : w.writers writer ≠ .idle := by simp [stage]
      rw [stage] at own
      cases cur with
      | none => simpa only [Credentials.step, stage] using inv
      | some cur =>
        cases held : cur.grant? with
        | none => simpa only [Credentials.step, stage, held] using inv
        | some grant =>
          simp only [Credentials.step, stage, held]
          exact inv.write busy _ .clearing rfl (inv.noted own.2)
    | _ => simpa only [Credentials.step, stage] using inv
  | clearAuth writer =>
    cases stage : w.writers writer with
    | loggingOut | clearing =>
      have busy : w.writers writer ≠ .idle := by simp [stage]
      simp only [Credentials.step, stage]
      exact inv.write busy none .wrote rfl inv.writes
    | _ => simpa only [Credentials.step, stage] using inv
  | unlockWriter writer =>
    by_cases idle : w.writers writer = .idle
    · rw [Credentials.step, if_pos idle]
      exact inv
    · rw [Credentials.step, if_neg idle]
      have mine : w.lock = some (.writer writer) := (inv.writers writer).locked idle
      exact inv.setWriter (.inr mine) trivial inv.writes
  | tick ms => exact ⟨inv.refreshes, inv.writers, inv.calls, inv.inFlight, inv.writes⟩

end Sound

lemma Sound.right_iff {w : World ρ κ ω} (inv : Sound setup w) {joined : Option κ}
    (done : w.calls c = .settled joined (.resolved cred)) :
    RightOrigin setup c cred ↔ ∀ starter, joined = some starter →
      SameOrigin setup.origins (setup.cloudApiUrl starter) (setup.cloudApiUrl c) := by
  have own := inv.calls c
  rw [done] at own
  cases joined with
  | none =>
    have right : RightOrigin setup c cred := own
    simp [right]
  | some starter =>
    obtain ⟨process, right⟩ := own
    have bound : RightOrigin setup starter cred := right
    unfold RightOrigin at bound ⊢
    rw [process] at bound
    rw [bound.iff]
    constructor
    · intro same alt it
      cases it
      exact same
    · intro same
      exact same starter rfl

def JoinedOwn (setup : Setup ρ κ) (c : κ) : CallPhase κ → Prop
  | .waiting starter | .settled (some starter) _ =>
    SameOrigin setup.origins (setup.cloudApiUrl starter) (setup.cloudApiUrl c)
  | _ => True

variable [DecidableEq ρ] [DecidableEq κ] {w : World ρ κ ω}

lemma call_joinedOwn (joins : JoinsOwnOrigin setup w (.call c)) (pre : ∀ alt, JoinedOwn setup alt (w.calls alt)) :
    ∀ alt, JoinedOwn setup alt ((w.getClawdiAccessToken setup c).calls alt) := by
  have sets : ∀ phase, JoinedOwn setup c phase →
      ∀ alt, JoinedOwn setup alt (update w.calls c phase alt) := by
    intro phase own alt
    by_cases same : alt = c
    · subst same
      rw [update_self]
      exact own
    · rw [update_of_ne same]
      exact pre alt
  unfold World.getClawdiAccessToken
  cases verdict : World.checked setup c (w.getAuth setup c) with
  | error err => exact sets _ trivial
  | ok auth =>
    cases expired : w.expiredGrant auth with
    | none =>
      simp only [expired]
      exact sets _ trivial
    | some grant =>
      cases flies : w.refreshInFlight (setup.proc c) with
      | some starter =>
        have own : JoinedOwn setup c (.waiting starter) := joins auth grant starter verdict expired flies
        simp only [expired]
        exact sets _ own
      | none =>
        have own : JoinedOwn setup c (.waiting c) := by
          obtain ⟨origin, tgt, -⟩ := (checked_ok verdict).2
          exact ⟨origin, tgt, tgt⟩
        simp only [expired]
        exact sets _ own

variable [DecidableEq ω]

lemma step_calls (called : ∀ c, act ≠ .call c) (delivered : ∀ c, act ≠ .deliver c) :
    (step setup w act).calls = w.calls := by
  cases act
  case call c => exact absurd rfl (called c)
  case deliver c => exact absurd rfl (delivered c)
  all_goals
    simp only [step, World.readLatest, World.answerRefresh, World.clearFailed]
    repeat' split
  all_goals rfl

lemma step_joinedOwn (joins : JoinsOwnOrigin setup w act) (pre : ∀ c, JoinedOwn setup c (w.calls c)) (c : κ) :
    JoinedOwn setup c ((step setup w act).calls c) := by
  cases act with
  | call caller =>
    by_cases idle : w.calls caller = .idle
    · rw [step, if_pos idle]
      exact call_joinedOwn joins pre c
    · rw [step, if_neg idle]
      exact pre c
  | deliver caller =>
    have own := pre caller
    cases phase : w.calls caller with
    | waiting starter =>
      rw [phase] at own
      have settles : ∀ out, JoinedOwn setup c
          (update w.calls caller (.settled (some starter) out) c) := by
        intro out
        by_cases same : c = caller
        · subst same
          rw [update_self]
          exact own
        · rw [update_of_ne same]
          exact pre c
      cases prog : w.refreshes starter <;> simp only [step, phase, prog] <;>
        first | exact pre c | exact settles _
    | _ =>
      simp only [step, phase]
      exact pre c
  | _ =>
    rw [step_calls (by intro alt; simp) (by intro alt; simp)]
    exact pre c

def BearersBound (setup : Setup ρ κ) (w : World ρ κ ω) : Prop :=
  ∀ c joined cred, w.calls c = .settled joined (.resolved cred) → RightOrigin setup c cred

/-- Where no call joins a refresh for another origin, every returned token belongs to a credential bound
to the origin of the call; and a refreshed grant is written only over the one it was refreshed from. -/
theorem bearers_bound (setup : Setup ρ κ) {start : World ρ κ ω} (init : Initial start)
    (acts : List (Action κ ω)) : (Transition.Always (step setup) (JoinsOwnOrigin setup) start acts →
      BearersBound setup (Transition.run (step setup) start acts)) ∧
    (∀ c joined cred, (Transition.run (step setup) start acts).calls c =
        .settled joined (.resolved cred) → (RightOrigin setup c cred ↔ ∀ starter, joined = some starter →
        SameOrigin setup.origins (setup.cloudApiUrl starter) (setup.cloudApiUrl c))) ∧
    ∀ e ∈ (Transition.run (step setup) start acts).refreshWrites, e.1 = some e.2 := by
  have inv : Sound setup (Transition.run (step setup) start acts) :=
    Transition.run_invariant (fun _ act pre => pre.step act) (.start init) acts
  refine ⟨?_, ?_, inv.writes⟩
  · intro always c joined cred done
    have joins : ∀ c, JoinedOwn setup c
        ((Transition.run (step setup) start acts).calls c) := by
      refine @Transition.Always.invariant _ _ (step setup) _ (fun w => ∀ c, JoinedOwn setup c (w.calls c))
        (fun _ _ pre joins => step_joinedOwn joins pre) _ ?_ _ always
      intro c
      rw [init.calls c]
      exact trivial
    rw [inv.right_iff done]
    intro starter it
    have own := joins c
    rw [done, it] at own
    exact own
  · intro c joined cred done
    exact inv.right_iff done

section

local instance twoOrigins_neZero : NeZero 2 := ⟨by decide⟩

def twoOrigins : Setup Unit (Fin 2) where
  origins := {
    cloud := fun url => if url = "https://a.example" ∨ url = "https://b.example" then .ok url
      else .error ⟨"", ""⟩
    hosted := fun _ => .error ⟨"", ""⟩ }
  environment _ := none
  proc _ := ()
  cloudApiUrl c := if c = 0 then "https://a.example" else "https://b.example"

variable (apiKey origin : String)

def signedIn : ClawdiAuth where
  apiKey := apiKey
  authType := .clerkOAuth ⟨"refresh", some 0, "issuer", "client", "token", [], "user"⟩
  email := none
  endpointBinding := some ⟨1, some origin, none⟩

def signedInToFirst : World Unit (Fin 2) Unit where
  stored := some (signedIn "first" "https://a.example")
  clock := 100
  lock := none
  calls _ := .idle
  refreshes _ := .unstarted
  refreshInFlight _ := none
  writers _ := .idle
  refreshWrites := []

def signsOutAndIn : List (Action (Fin 2) Unit) :=
  [.lockWriter (), .beginLogout (), .clearAuth (), .unlockWriter (), .lockWriter (),
    .commit () (signedIn apiKey origin) .none, .unlockWriter ()]

def refreshes (c : Fin 2) : List (Action (Fin 2) Unit) :=
  [.acquire c, .read c, .answer c (.granted "renewed" none 100000 []), .release c, .clear c]

/-- A call for the second origin joins a refresh for the first one. -/
def switchedTwice : List (Action (Fin 2) Unit) :=
  .call 0 :: signsOutAndIn "second" "https://b.example" ++ .call 1 ::
    signsOutAndIn "first" "https://a.example" ++ refreshes 0 ++ [.deliver 1]

lemma signedInToFirst_initial : Initial signedInToFirst :=
  ⟨fun _ => rfl, fun _ => rfl, fun _ => rfl, fun _ => rfl, rfl⟩

/-- Two calls with different URLs of one origin. -/
def oneOrigin : Setup Unit (Fin 2) :=
  { twoOrigins with
    origins := { twoOrigins.origins with cloud := fun _ => .ok "https://a.example" }
    cloudApiUrl := fun c => if c = 0 then "https://a.example" else "https://a.example/api" }

theorem bearers_bound_refresh : BearersBound oneOrigin (Transition.run (step oneOrigin) signedInToFirst
      (.call 0 :: .call 1 :: refreshes 0 ++ [.deliver 0, .deliver 1])) := by
  apply (bearers_bound oneOrigin signedInToFirst_initial _).1
  refine ⟨?_, ?_, trivial, trivial, trivial, trivial, trivial, trivial, trivial, trivial⟩
  · intro auth grant starter _ _ flies
    cases flies
  · intro auth grant starter _ _ _
    exact ⟨_, rfl, rfl⟩

/-- Without that, a call for the second origin returns a token of the first. -/
theorem switched_twice_leaks :
    ¬∀ (start : World Unit (Fin 2) Unit) (acts : List (Action (Fin 2) Unit)), Initial start →
      BearersBound twoOrigins (Transition.run (step twoOrigins) start acts) := by
  intro claimed
  have right : RightOrigin twoOrigins 1 (refreshedAuth (signedIn "first" "https://a.example")
      ⟨"refresh", some 0, "issuer", "client", "token", [], "user"⟩ "renewed" none 100000 []) :=
    claimed signedInToFirst switchedTwice signedInToFirst_initial 1 (some 0) _ (by decide +kernel)
  obtain ⟨origin, tgt, bound⟩ := right
  have snd : origin = "https://b.example" := (Except.ok.inj tgt).symm
  have first : origin = "https://a.example" := (Option.some.inj (Except.ok.inj bound)).symm
  rw [snd] at first
  exact absurd first (by decide)

end
end Clawdi.Credentials
