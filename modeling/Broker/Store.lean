import Broker.Session

/-!
# The store

The JSON store: five buckets of records under their tokens, changed by atomic
transactions (`JsonStore.update`), whose updater works on the loaded state and
whose result is saved, unless it raises. Expired records are removed lazily, by
`pruneExpired` at the start of a transaction, at a clock reading: all but the
tombstones of revoked refresh tokens and of pending SSO states, which are kept
for a grace period (`refreshGraceMs`, `purgeAt`).
-/

namespace Broker

open Py

/-! ## Records -/

structure AuthorizationCode where
  code : String
  clientId : String
  redirectUri : String
  scope : String
  codeChallenge : Option String
  codeChallengeMethod : String
  session : Session
  expiresAt : ℤ
  deriving DecidableEq, Repr

/-- What access and refresh token records share. -/
structure TokenRecord where
  clientId : String
  scope : String
  integration : Option String
  session : Session
  deriving DecidableEq, Repr

structure AccessToken extends TokenRecord where
  accessToken : String
  expiresAt : ℤ
  createdAt : ℤ
  revokedAt : Option ℤ
  deriving DecidableEq, Repr

/-- The body of an OAuth token response. -/
structure TokenResponse where
  accessToken : String
  tokenType : String
  expiresIn : ℤ
  refreshToken : Option String
  scope : String
  deriving DecidableEq, Repr

structure RefreshToken extends TokenRecord where
  refreshToken : String
  createdAt : ℤ
  expiresAt : ℤ
  revokedAt : Option ℤ
  rotationResponse : Option TokenResponse
  deriving DecidableEq, Repr

/-- Where the bytes of a granted asset come from. -/
structure AssetSource where
  kind : String
  url : Option String
  assetId : Option String
  variant : Option String
  mimeType : Option String
  width : Option ℤ
  height : Option ℤ
  deriving DecidableEq, Repr

structure AssetGrant where
  grantId : String
  userId : String
  tenantId : String
  expiresAt : ℤ
  source : AssetSource
  integration : Option String
  mimeType : Option String
  filename : Option String
  deriving DecidableEq, Repr

structure PendingSsoState where
  handoffState : String
  canvaState : String
  clientId : String
  redirectUri : String
  scope : String
  codeChallenge : Option String
  codeChallengeMethod : String
  tenant : Tenant
  correlationId : String
  initiatorKey : String
  createdAt : ℤ
  expiresAt : ℤ
  usedAt : Option ℤ
  purgeAt : ℤ
  deriving DecidableEq, Repr

/-- The state of the store. -/
structure Store where
  authorizationCodes : Dict String AuthorizationCode
  accessTokens : Dict String AccessToken
  refreshTokens : Dict String RefreshToken
  assetGrants : Dict String AssetGrant
  pendingSsoStates : Dict String PendingSsoState
  deriving DecidableEq, Repr

/-- `_INITIAL_STATE`. -/
def Store.initial : Store := ⟨∅, ∅, ∅, ∅, ∅⟩

/-! ## Transactions -/

/-- The updater of a transaction: its result and the changed state, or the
    exception it raises. -/
abbrev Updater (α : Type) := Store → Except PyError (α × Store)

/-- `JsonStore.update`: an updater that raises leaves the store as it was. -/
def update {α : Type} (updater : Updater α) (state : Store) : Except PyError α × Store :=
  match updater state with
  | .ok (result, state') => (.ok result, state')
  | .error e => (.error e, state)

theorem update_of_ok {α : Type} {u : Updater α} {s s' : Store} {a : α} (h : u s = .ok (a, s')) :
    update u s = (.ok a, s') := by
  rw [update, h]

/-! ## Pruning -/

namespace AuthorizationCode

/-- The code has expired by `current`. -/
def expired (r : AuthorizationCode) (current : ℤ) : Bool := r.expiresAt ≤ current

end AuthorizationCode

namespace AccessToken

/-- Pruned at `current`: expired, or marked as revoked. -/
def pruned (r : AccessToken) (current : ℤ) : Bool := r.expiresAt ≤ current || truthyMs r.revokedAt

end AccessToken

namespace RefreshToken

/-- Revoked longer than the grace period before `current`. -/
def pastGrace (r : RefreshToken) (current refreshGraceMs : ℤ) : Bool :=
  r.revokedAt.any fun t => t ≠ 0 && current - t > refreshGraceMs

/-- Pruned at `current`: revoked longer than the grace period ago, or expired. -/
def pruned (r : RefreshToken) (current refreshGraceMs : ℤ) : Bool :=
  r.pastGrace current refreshGraceMs || (r.expiresAt ≠ 0 && r.expiresAt ≤ current)

end RefreshToken

/-- `_prune_expired`. -/
def pruneExpired (state : Store) (current refreshGraceMs : ℤ) : Store where
  authorizationCodes := state.authorizationCodes.filter fun _ r => !r.expired current
  accessTokens := state.accessTokens.filter fun _ r => !r.pruned current
  refreshTokens := state.refreshTokens.filter fun _ r => !r.pruned current refreshGraceMs
  assetGrants := state.assetGrants.filter fun _ r => !decide (r.expiresAt ≤ current)
  pendingSsoStates := state.pendingSsoStates.filter fun _ r => !decide (r.purgeAt ≤ current)

end Broker
