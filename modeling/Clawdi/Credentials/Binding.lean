import Mathlib.Data.Nat.Notation

namespace Clawdi.Credentials

structure CredentialEndpointBinding where
  version : ℕ
  cloudApiOrigin : Option String
  hostedApiOrigin : Option String
deriving DecidableEq

/-- The members of a complete `clerk_oauth` credential; a date that does not parse is `none`. -/
structure ClerkGrant where
  refreshToken : String
  accessTokenExpiresAt : Option ℕ
  issuer : String
  clientId : String
  tokenEndpoint : String
  scopes : List String
  userId : String
deriving DecidableEq

inductive AuthType where
  | apiKey
  | incompleteClerkOAuth
  | clerkOAuth (grant : ClerkGrant)
deriving DecidableEq

structure ClawdiAuth where
  apiKey : String
  authType : AuthType
  email : Option String
  endpointBinding : Option CredentialEndpointBinding
deriving DecidableEq

structure ClerkOAuthError where
  code : String
  message : String
deriving DecidableEq

/-- `CLAWDI_AUTH_TOKEN` and the trimmed `CLAWDI_AUTH_TOKEN_ORIGIN` of a process. -/
structure EnvironmentToken where
  token : String
  origin : Option String

structure Origins where
  cloud : String → Except ClerkOAuthError String
  hosted : String → Except ClerkOAuthError String

def ClawdiAuth.grant? (auth : ClawdiAuth) : Option ClerkGrant :=
  match auth.authType with
  | .clerkOAuth grant => some grant
  | _ => none

def canonicalStoredOrigin (canonical : String → Except ClerkOAuthError String) (raw : String) :
    Except ClerkOAuthError String :=
  match canonical raw with
  | .error _ => throw ⟨"invalid_credential_endpoint_binding",
      "The saved credential endpoint binding is invalid. Sign out and sign in again."⟩
  | .ok origin =>
    if raw = origin then pure origin
    else throw ⟨"invalid_credential_endpoint_binding",
      "The saved credential endpoint binding is not canonical. Sign out and sign in again."⟩

variable (origins : Origins) (env : Option EnvironmentToken)

def normalizedBinding (binding : Option CredentialEndpointBinding) : Except ClerkOAuthError (Option String) :=
  match binding with
  | none => pure none
  | some binding =>
    if binding.version ≠ 1 then pure none
    else match binding.cloudApiOrigin with
      | none => pure none
      | some raw => do
        let cloudApiOrigin ← canonicalStoredOrigin origins.cloud raw
        match binding.hostedApiOrigin with
        | none => pure ()
        | some hosted => discard (canonicalStoredOrigin origins.hosted hosted)
        pure (some cloudApiOrigin)

variable (auth : ClawdiAuth) (cloudApiUrl : String)

def unboundCredentialError (targetOrigin : String) : ClerkOAuthError :=
  if auth.grant?.isSome ∨ auth.authType = .incompleteClerkOAuth then
    ⟨"oauth_login_required",
      "This saved sign-in is not bound to the configured endpoint. Run `clawdi auth login`."⟩
  else match env with
    | some ⟨_, none⟩ => ⟨"oauth_login_required",
        s!"CLAWDI_AUTH_TOKEN requires CLAWDI_AUTH_TOKEN_ORIGIN bound to {targetOrigin}. Set CLAWDI_AUTH_TOKEN_ORIGIN, or run `clawdi auth login`."⟩
    | some ⟨_, some _⟩ => ⟨"oauth_login_required",
        s!"CLAWDI_AUTH_TOKEN is not bound to {targetOrigin}. Run `clawdi auth login`."⟩
    | none => ⟨"oauth_login_required",
        "This API key is not bound to the configured endpoint. Run `clawdi auth login`."⟩

def boundCloudOrigin : Except ClerkOAuthError (Option String) :=
  match env with
  | some ⟨_, none⟩ => pure none
  | some ⟨_, some set⟩ => some <$> origins.cloud set
  | none => normalizedBinding origins auth.endpointBinding

def assertCloudCredentialEndpoint : Except ClerkOAuthError String := do
  let targetOrigin ← origins.cloud cloudApiUrl
  if auth.authType = .incompleteClerkOAuth then
    throw ⟨"invalid_oauth_credential",
      "The saved Clerk OAuth credential is incomplete. Sign out and sign in again."⟩
  match ← boundCloudOrigin origins env auth with
  | none => throw (unboundCredentialError env auth targetOrigin)
  | some boundOrigin =>
    if boundOrigin ≠ targetOrigin then
      throw ⟨"credential_endpoint_mismatch",
        s!"Saved sign-in is for CLAWDI_API_URL={boundOrigin}, but this request targets {targetOrigin}. Restore CLAWDI_API_URL, or sign out and sign in again."⟩
    else pure targetOrigin

/-- A credential, of the environment or the file, is bound to exactly the origin of the URL. -/
def BoundTo : Prop :=
  ∃ origin, origins.cloud cloudApiUrl = .ok origin ∧ boundCloudOrigin origins env auth = .ok (some origin)

lemma assertCloudCredentialEndpoint_ok {origins env auth cloudApiUrl origin}
    (passes : assertCloudCredentialEndpoint origins env auth cloudApiUrl = .ok origin) :
    BoundTo origins env auth cloudApiUrl := by
  unfold assertCloudCredentialEndpoint at passes
  cases tgt : origins.cloud cloudApiUrl with
  | error err => simp [tgt, bind, Except.bind] at passes
  | ok targetOrigin =>
    refine ⟨targetOrigin, tgt, ?_⟩
    by_cases incomplete : auth.authType = .incompleteClerkOAuth
    · simp [tgt, incomplete, bind, Except.bind, throw, throwThe, MonadExceptOf.throw] at passes
    cases bound : boundCloudOrigin origins env auth with
    | error err => simp [tgt, incomplete, bound, bind, Except.bind] at passes
    | ok hit =>
      cases hit with
      | none => simp [tgt, incomplete, bound, bind, Except.bind, throw, throwThe, MonadExceptOf.throw] at passes
      | some boundOrigin =>
        by_cases same : boundOrigin = targetOrigin
        · rw [same]
        · simp [tgt, incomplete, bound, same, bind, Except.bind, throw, throwThe, MonadExceptOf.throw] at passes

lemma BoundTo.iff {origins env auth first snd} (bound : BoundTo origins env auth first) :
    BoundTo origins env auth snd ↔ ∃ origin, origins.cloud first = .ok origin ∧ origins.cloud snd = .ok origin := by
  obtain ⟨origin, tgt, was⟩ := bound
  constructor
  · intro alt
    obtain ⟨otherOrigin, otherTarget, otherStored⟩ := alt
    have same : some origin = some otherOrigin := Except.ok.inj (was.symm.trans otherStored)
    cases same
    exact ⟨origin, tgt, otherTarget⟩
  · intro same
    obtain ⟨shared, firstTarget, secondTarget⟩ := same
    have it : origin = shared := Except.ok.inj (tgt.symm.trans firstTarget)
    exact ⟨shared, secondTarget, it ▸ was⟩

end Clawdi.Credentials
