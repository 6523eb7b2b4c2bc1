import Clawdi.Credentials.Binding
import Clawdi.Lib.Transition
import Mathlib.Logic.Function.Basic

namespace Clawdi.Credentials

def accessTokenRefreshSkewMs : ℕ := 60000

inductive Failure where
  | clerk (error : ClerkOAuthError)
  | lockTimeout
deriving DecidableEq

inductive RefreshAnswer where
  | granted (accessToken : String) (refreshToken : Option String) (expiresAt : ℕ)
    (scopes : List String)
  | failed (error : ClerkOAuthError)

/-- A promise of an access token; `resolved credential` is the `apiKey` of the credential. -/
inductive Outcome where
  | resolved (cred : ClawdiAuth)
  | rejected (err : Failure)
deriving DecidableEq

inductive StoredCredentialIdentity where
  | none
  | clerkOAuth (uid : String)
  | legacyApiKey (apiKey : String)
deriving DecidableEq

def identityOf : Option ClawdiAuth → StoredCredentialIdentity
  | none => .none
  | some auth => match auth.grant? with
    | some grant => .clerkOAuth grant.userId
    | none => .legacyApiKey auth.apiKey

def refreshedAuth (auth : ClawdiAuth) (grant : ClerkGrant) (accessToken : String)
    (refreshToken : Option String) (expiresAt : ℕ) (scopes : List String) : ClawdiAuth where
  apiKey := accessToken
  authType := .clerkOAuth { grant with
    refreshToken := refreshToken.getD grant.refreshToken
    accessTokenExpiresAt := some expiresAt
    scopes := scopes }
  email := auth.email
  endpointBinding := auth.endpointBinding

def sameRefreshCredential (cur failed : ClerkGrant) : Prop :=
  cur.userId = failed.userId ∧ cur.refreshToken = failed.refreshToken ∧
    cur.issuer = failed.issuer ∧ cur.clientId = failed.clientId ∧
    cur.tokenEndpoint = failed.tokenEndpoint

instance (cur failed : ClerkGrant) : Decidable (sameRefreshCredential cur failed) := by
  unfold sameRefreshCredential
  infer_instance

def terminalRefreshFailure (error : ClerkOAuthError) : Bool :=
  error.code != "oauth_network_error" && error.code != "oauth_refresh_retryable"

def notSignedIn : Failure := .clerk ⟨"oauth_login_required", "Not signed in. Run `clawdi auth login` first."⟩

structure Setup (ρ κ : Type) where
  origins : Origins
  environment : ρ → Option EnvironmentToken
  proc : κ → ρ
  cloudApiUrl : κ → String

/-- `joined` is the call that started the refresh whose promise was returned. -/
inductive CallPhase (κ : Type) where
  | idle
  | waiting (starter : κ)
  | settled (joined : Option κ) (out : Outcome)
deriving DecidableEq

inductive RefreshPhase where
  | unstarted
  | locking
  | reading
  | exchanging (latest : ClawdiAuth) (grant : ClerkGrant)
  | releasing (out : Outcome)
  | settled (out : Outcome)
  | cleared (out : Outcome)
deriving DecidableEq

/-- A sign-in, a rejected grant or a logout in the critical section of the credentials lock. -/
inductive WriterStage where
  | idle
  | holding
  | loggingOut (cur : Option ClawdiAuth)
  | clearing
  | wrote
deriving DecidableEq

inductive Holder (κ ω : Type) where
  | refresh (c : κ)
  | writer (writer : ω)

/-- `refreshWrites` notes for each refreshed grant that was written what it was written over and
what it was refreshed from. -/
structure World (ρ κ ω : Type) where
  stored : Option ClawdiAuth
  clock : ℕ
  lock : Option (Holder κ ω)
  calls : κ → CallPhase κ
  refreshes : κ → RefreshPhase
  refreshInFlight : ρ → Option κ
  writers : ω → WriterStage
  refreshWrites : List (Option ClawdiAuth × ClawdiAuth)

inductive Action (κ ω : Type) where
  | call (c : κ)
  | acquire (c : κ)
  | timeOut (c : κ)
  | read (c : κ)
  | answer (c : κ) (ans : RefreshAnswer)
  | release (c : κ)
  | clear (c : κ)
  | deliver (c : κ)
  | lockWriter (writer : ω)
  | commit (writer : ω) (auth : ClawdiAuth) (exp : StoredCredentialIdentity)
  | rejectGrant (writer : ω) (rejected : ClerkGrant)
  | beginLogout (writer : ω)
  | refreshLogout (writer : ω) (accessToken : String) (refreshToken : Option String)
    (expiresAt : ℕ) (scopes : List String)
  | clearAuth (writer : ω)
  | unlockWriter (writer : ω)
  | tick (ms : ℕ)

variable {ρ κ ω : Type} [DecidableEq ρ] [DecidableEq κ] [DecidableEq ω]

def ClerkGrant.fresh (grant : ClerkGrant) (clock : ℕ) : Bool :=
  match grant.accessTokenExpiresAt with
  | none => false
  | some expiresAt => clock + accessTokenRefreshSkewMs < expiresAt

namespace World
variable (setup : Setup ρ κ) (w : World ρ κ ω) (c : κ)

def getAuth : Option ClawdiAuth :=
  match setup.environment (setup.proc c) with
  | some env => some ⟨env.token, .apiKey, none, none⟩
  | none => w.stored

def checked : Option ClawdiAuth → Except Failure ClawdiAuth
  | none => .error notSignedIn
  | some auth =>
    if auth.apiKey = "" then .error notSignedIn
    else match assertCloudCredentialEndpoint setup.origins (setup.environment (setup.proc c)) auth
        (setup.cloudApiUrl c) with
      | .error error => .error (.clerk error)
      | .ok _ => .ok auth

def expiredGrant (auth : ClawdiAuth) : Option ClerkGrant := auth.grant?.filter fun grant => !grant.fresh w.clock

def setCall (phase : CallPhase κ) : World ρ κ ω :=
  { w with calls := Function.update w.calls c phase }

def setRefresh (phase : RefreshPhase) : World ρ κ ω :=
  { w with refreshes := Function.update w.refreshes c phase }

def setInFlight (p : ρ) (starter : Option κ) : World ρ κ ω :=
  { w with refreshInFlight := Function.update w.refreshInFlight p starter }

def setWriter (writer : ω) (stage : WriterStage) : World ρ κ ω :=
  { w with writers := Function.update w.writers writer stage }

def setAuth (auth : Option ClawdiAuth) : World ρ κ ω := { w with stored := auth }

def setLock (holder : Option (Holder κ ω)) : World ρ κ ω :=
  { w with lock := holder }

def noteRefreshWrite (src : ClawdiAuth) : World ρ κ ω :=
  { w with refreshWrites := (w.stored, src) :: w.refreshWrites }

def getClawdiAccessToken : World ρ κ ω :=
  match checked setup c (w.getAuth setup c) with
  | .error err => w.setCall c (.settled none (.rejected err))
  | .ok auth => match w.expiredGrant auth with
    | none => w.setCall c (.settled none (.resolved auth))
    | some _ => match w.refreshInFlight (setup.proc c) with
      | some starter => w.setCall c (.waiting starter)
      | none => ((w.setInFlight (setup.proc c) (some c)).setRefresh c .locking).setCall c
          (.waiting c)

def readLatest : World ρ κ ω :=
  match checked setup c w.stored with
  | .error err => w.setRefresh c (.releasing (.rejected err))
  | .ok latest => match w.expiredGrant latest with
    | none => w.setRefresh c (.releasing (.resolved latest))
    | some grant => w.setRefresh c (.exchanging latest grant)

/-- `clearAuth` where the stored grant is the one of a terminal failure. -/
def clearFailed (failed : ClerkGrant) : World ρ κ ω :=
  match w.stored.bind ClawdiAuth.grant? with
  | none => w
  | some cur => if sameRefreshCredential cur failed then w.setAuth none else w

def answerRefresh (latest : ClawdiAuth) (grant : ClerkGrant) : RefreshAnswer → World ρ κ ω
  | .granted accessToken refreshToken expiresAt scopes =>
    ((w.noteRefreshWrite latest).setAuth
      (some (refreshedAuth latest grant accessToken refreshToken expiresAt scopes))).setRefresh c
      (.releasing (.resolved (refreshedAuth latest grant accessToken refreshToken expiresAt scopes)))
  | .failed error =>
    (if terminalRefreshFailure error then w.clearFailed grant else w).setRefresh c
      (.releasing (.rejected (.clerk error)))

end World

def step (setup : Setup ρ κ) (w : World ρ κ ω) : Action κ ω → World ρ κ ω
  | .call c => if w.calls c = .idle then w.getClawdiAccessToken setup c else w
  | .acquire c =>
    if w.refreshes c = .locking ∧ w.lock = none then
      (w.setLock (some (.refresh c))).setRefresh c .reading
    else w
  | .timeOut c => if w.refreshes c = .locking then w.setRefresh c (.settled (.rejected .lockTimeout)) else w
  | .read c => if w.refreshes c = .reading then w.readLatest setup c else w
  | .answer c ans => match w.refreshes c with
    | .exchanging latest grant => w.answerRefresh c latest grant ans
    | _ => w
  | .release c => match w.refreshes c with
    | .releasing out => (w.setLock none).setRefresh c (.settled out)
    | _ => w
  | .clear c => match w.refreshes c with
    | .settled out => (w.setInFlight (setup.proc c) none).setRefresh c (.cleared out)
    | _ => w
  | .deliver c => match w.calls c with
    | .waiting starter => match w.refreshes starter with
      | .settled out | .cleared out => w.setCall c (.settled (some starter) out)
      | _ => w
    | _ => w
  | .lockWriter writer =>
    if w.writers writer = .idle ∧ w.lock = none then
      (w.setLock (some (.writer writer))).setWriter writer .holding
    else w
  | .commit writer auth exp =>
    if w.writers writer = .holding then
      (if identityOf w.stored = exp then w.setAuth (some auth) else w).setWriter writer .wrote
    else w
  | .rejectGrant writer rejected =>
    if w.writers writer = .holding then
      (match w.stored.bind ClawdiAuth.grant? with
        | none => w
        | some cur =>
          if cur.userId = rejected.userId ∧ cur.refreshToken = rejected.refreshToken then
            w.setAuth none
          else w).setWriter writer .wrote
    else w
  | .beginLogout writer => if w.writers writer = .holding then w.setWriter writer (.loggingOut w.stored) else w
  | .refreshLogout writer accessToken refreshToken expiresAt scopes => match w.writers writer with
    | .loggingOut (some cur) => match cur.grant? with
      | some grant => ((w.noteRefreshWrite cur).setAuth
          (some (refreshedAuth cur grant accessToken refreshToken expiresAt scopes))).setWriter
          writer .clearing
      | none => w
    | _ => w
  | .clearAuth writer => match w.writers writer with
    | .loggingOut _ | .clearing => (w.setAuth none).setWriter writer .wrote
    | _ => w
  | .unlockWriter writer => if w.writers writer = .idle then w else (w.setLock none).setWriter writer .idle
  | .tick ms => { w with clock := w.clock + ms }

structure Initial (w : World ρ κ ω) : Prop where
  calls : ∀ c, w.calls c = .idle
  refreshes : ∀ c, w.refreshes c = .unstarted
  refreshInFlight : ∀ p, w.refreshInFlight p = none
  writers : ∀ writer, w.writers writer = .idle
  refreshWrites : w.refreshWrites = []

def SameOrigin (origins : Origins) (first snd : String) : Prop :=
  ∃ origin, origins.cloud first = .ok origin ∧ origins.cloud snd = .ok origin

/-- A call that joins a refresh joins one for the origin of its own URL. -/
def JoinsOwnOrigin (setup : Setup ρ κ) (w : World ρ κ ω) : Action κ ω → Prop
  | .call c => ∀ auth grant starter, World.checked setup c (w.getAuth setup c) = .ok auth →
      w.expiredGrant auth = some grant → w.refreshInFlight (setup.proc c) = some starter →
      SameOrigin setup.origins (setup.cloudApiUrl starter) (setup.cloudApiUrl c)
  | _ => True

def RightOrigin (setup : Setup ρ κ) (c : κ) (cred : ClawdiAuth) : Prop :=
  BoundTo setup.origins (setup.environment (setup.proc c)) cred (setup.cloudApiUrl c)

end Clawdi.Credentials
