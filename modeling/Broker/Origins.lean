import Broker.Freshness

/-!
# Where records come from

Whatever is stored or in flight in a reachable state goes back to the event
that made it: a code to the sign-in that issued it (`code_origin`), a token to
the event that minted its pair (`access_origin`, `refresh_origin`), a cached
response to the rotation it answered (`rotation_origin`), a handoff state to
its initiation (`pending_origin`), an asset grant to the request that created
it (`grant_origin`), an exchange to the event that burned its
code (`exchange_origin`), a call of several parts to the event that began it
(`sign_in_origin`, `callback_origin`, `request_origin`).

Reads and refreshes write a stored session's label again, and nothing else
(`Relabels`).
-/

namespace Broker

open Py Runs

variable {unicode : Unicode}

/-! ## Labels -/

/-- `r` is the record `r₀` but for its labels: it is for the same client, scope
    and identity, and its session opens under the same ciphers. -/
structure Relabels (r r₀ : TokenRecord) : Prop where
  clientId : r.clientId = r₀.clientId
  scope : r.scope = r₀.scope
  identity : r.session.identity = r₀.session.identity
  opens : ∀ cipher, r.session.opens cipher ↔ r₀.session.opens cipher

namespace Relabels

theorem refl (r : TokenRecord) : Relabels r r := ⟨rfl, rfl, rfl, fun _ => Iff.rfl⟩

theorem trans {r s t : TokenRecord} (h : Relabels r s) (h' : Relabels s t) : Relabels r t :=
  ⟨h.clientId.trans h'.clientId, h.scope.trans h'.scope, h.identity.trans h'.identity,
    fun cipher => (h.opens cipher).trans (h'.opens cipher)⟩

theorem of_stamp {config : AppConfig} {r stamped : TokenRecord}
    (h : stampTokenRecordMetadata config r = some stamped) : Relabels stamped r := by
  rw [stampTokenRecordMetadata] at h
  split_ifs at h
  cases h
  exact ⟨rfl, rfl, rfl, fun _ => opens_stamp⟩

end Relabels

/-- A record is labelled exactly when its client is configured. -/
theorem exists_stamp_iff {config : AppConfig} {r : TokenRecord} :
    (∃ stamped, stampTokenRecordMetadata config r = some stamped) ↔
      isConfiguredClient config r.clientId = true := by
  rw [stampTokenRecordMetadata]
  split_ifs with h
  · simp [h]
  · simp [h]

theorem identity_tokenRecord (service : AuthService) (rand : Rand) (session : Session)
    (scope clientId : String) :
    (service.tokenRecord rand session scope clientId).session.identity = session.identity := by
  rw [AuthService.tokenRecord, AuthService.tokenSession, identity_seal, identity_stamp]

/-! ## Codes -/

/-- The sign-in that issued a stored code. -/
theorem code_origin {es : List Event} {k : String} {r : AuthorizationCode}
    (h : ((broker unicode).after es).store.authorizationCodes.get? k = some r) :
    Occurs es fun pre e => ∃ service t request session,
      Issues unicode ((broker unicode).after pre) e service t request session ∧
      k = randomToken "code" (e.rand.token 0) ∧
      r = service.authorizationCode t e.rand request session := by
  refine Machine.entry_induction (fun w : World => w.store.authorizationCodes.get? k) es r h rfl
    (fun w e => code_step unicode w e k) ?_
  intro es e o r ih h hstep
  cases hstep with
  | same => exact (ih _ rfl).append [e]
  | issued issues key => exact .last ⟨_, _, _, _, issues, key, rfl⟩

/-! ## Tokens -/

/-- The event minted the access token `k`, with the record `r`. -/
structure MintsAccess (w : World) (e : Event) (k : String) (r : AccessToken) : Prop where
  key : k = randomToken "at" (e.rand.token 0)
  minted : ∃ service now session scope clientId, Mints w e service now session scope clientId ∧
    r = service.accessTokenRecord now e.rand session scope clientId

/-- The event minted the refresh token `k`, with the record `r`. -/
structure MintsRefresh (w : World) (e : Event) (k : String) (r : RefreshToken) : Prop where
  key : k = randomToken "rt" (e.rand.token 1)
  minted : ∃ service now session scope clientId, Mints w e service now session scope clientId ∧
    r = service.refreshTokenRecord now e.rand session scope clientId

/-- The event that minted a stored access token. -/
theorem access_origin {es : List Event} {k : String} {r : AccessToken}
    (h : ((broker unicode).after es).store.accessTokens.get? k = some r) :
    Occurs es fun pre e => ∃ r₀, MintsAccess ((broker unicode).after pre) e k r₀ ∧
      Relabels r.toTokenRecord r₀.toTokenRecord ∧ r.expiresAt = r₀.expiresAt := by
  refine Machine.entry_induction (fun w : World => w.store.accessTokens.get? k) es r h rfl
    (fun w e => access_step unicode w e k) ?_
  intro es e o r ih h hstep
  cases hstep with
  | kept _ _ => exact (ih _ rfl).append [e]
  | relabelled _ stamps =>
    exact ((ih _ rfl).append [e]).imp fun pre f ⟨r₀, hmints, hlike, hexpires⟩ =>
      ⟨r₀, hmints, (Relabels.of_stamp stamps).trans hlike, hexpires⟩
  | marked _ _ => exact (ih _ rfl).append [e]
  | minted mints key =>
    exact .last ⟨_, ⟨key, _, _, _, _, _, mints, rfl⟩, .refl _, rfl⟩

/-- The event that minted a stored refresh token. -/
theorem refresh_origin {es : List Event} {k : String} {r : RefreshToken}
    (h : ((broker unicode).after es).store.refreshTokens.get? k = some r) :
    Occurs es fun pre e => ∃ r₀, MintsRefresh ((broker unicode).after pre) e k r₀ ∧
      Relabels r.toTokenRecord r₀.toTokenRecord ∧ r.expiresAt = r₀.expiresAt := by
  refine Machine.entry_induction (fun w : World => w.store.refreshTokens.get? k) es r h rfl
    (fun w e => refresh_step unicode w e k) ?_
  intro es e o r ih h hstep
  cases hstep with
  | kept _ => exact (ih _ rfl).append [e]
  | relabelled _ stamps =>
    exact ((ih _ rfl).append [e]).imp fun pre f ⟨r₀, hmints, hlike, hexpires⟩ =>
      ⟨r₀, hmints, (Relabels.of_stamp stamps).trans hlike, hexpires⟩
  | rotated rotates =>
    exact ((ih _ rfl).append [e]).imp fun pre f ⟨r₀, hmints, hlike, hexpires⟩ =>
      ⟨r₀, hmints, (Relabels.of_stamp rotates.stamps).trans hlike, hexpires⟩
  | revoked _ => exact (ih _ rfl).append [e]
  | marked _ _ => exact (ih _ rfl).append [e]
  | minted mints key =>
    exact .last ⟨_, ⟨key, _, _, _, _, _, mints, rfl⟩, .refl _, rfl⟩

/-- The rotation that a cached response answered. -/
theorem rotation_origin {es : List Event} {k : String} {r : RefreshToken}
    {response : TokenResponse}
    (h : ((broker unicode).after es).store.refreshTokens.get? k = some r)
    (hcached : r.rotationResponse = some response) :
    Occurs es fun pre e => ∃ record stamped opened,
      Rotates ((broker unicode).after pre) e k record stamped opened ∧
      response = e.service.tokenResponse e.rand record.scope := by
  revert hcached
  refine Machine.entry_induction (fun w : World => w.store.refreshTokens.get? k) es r h rfl
    (fun w e => refresh_step unicode w e k) ?_
  intro es e o r ih h hstep hcached
  cases hstep with
  | kept _ => exact (ih _ rfl hcached).append [e]
  | relabelled _ _ => exact (ih _ rfl hcached).append [e]
  | rotated rotates => exact .last ⟨_, _, _, rotates, (Option.some.inj hcached).symm⟩
  | revoked _ => exact (ih _ rfl hcached).append [e]
  | marked _ _ => exact (ih _ rfl hcached).append [e]
  | minted _ _ => cases hcached

/-! ## Stored sessions -/

section Sessions

variable {P : Session → Prop}
  (stamp : ∀ s clientId integration, P s → P (stampBrokerSessionMetadata s clientId integration))

include stamp

/-- A property of the session of a record, whatever its label. -/
theorem of_stamped {config : AppConfig} {r stamped : TokenRecord}
    (stamps : stampTokenRecordMetadata config r = some stamped) (h : P r.session) :
    P stamped.session := by
  rw [stampTokenRecordMetadata] at stamps
  split_ifs at stamps
  cases stamps
  exact stamp _ _ _ h

/-- A property of sessions, whatever their label, that every pair is minted with
    holds of the sessions of all access tokens. -/
theorem access_session {es : List Event} {k : String} {r : AccessToken}
    (minted : ∀ pre e post, es = pre ++ e :: post → ∀ service now session scope clientId,
      Mints ((broker unicode).after pre) e service now session scope clientId →
      P (service.tokenRecord e.rand session scope clientId).session)
    (h : ((broker unicode).after es).store.accessTokens.get? k = some r) : P r.session := by
  revert minted
  refine Machine.entry_induction (fun w : World => w.store.accessTokens.get? k) es r h rfl
    (fun w e => access_step unicode w e k) ?_
  intro es e o r ih h hstep minted
  have hbefore : ∀ r, o = some r → P r.session := fun r hr =>
    ih r hr fun pre f post hes => minted pre f (post ++ [e]) (by simp [hes])
  cases hstep with
  | kept _ _ => exact hbefore _ rfl
  | relabelled _ stamps => exact of_stamped stamp stamps (hbefore _ rfl)
  | @marked r₀ _ _ _ _ => exact hbefore r₀ rfl
  | minted mints _ => exact minted es e [] rfl _ _ _ _ _ mints

/-- The same of all refresh tokens, if every pair is minted with the property as
    long as all refresh tokens have it. -/
theorem refresh_session {es : List Event} {k : String} {r : RefreshToken}
    (minted : ∀ pre e post, es = pre ++ e :: post → ∀ service now session scope clientId,
      Mints ((broker unicode).after pre) e service now session scope clientId →
      (∀ k r, ((broker unicode).after pre).store.refreshTokens.get? k = some r → P r.session) →
      P (service.tokenRecord e.rand session scope clientId).session)
    (h : ((broker unicode).after es).store.refreshTokens.get? k = some r) : P r.session := by
  induction es using List.reverseRecOn generalizing k r with
  | nil => cases h
  | append_singleton es e ih =>
    rw [Machine.after_snoc] at h
    have hall : ∀ k r, ((broker unicode).after es).store.refreshTokens.get? k = some r →
        P r.session := fun k r => ih fun pre f post hes => minted pre f (post ++ [e]) (by simp [hes])
    have hbefore := hall k
    have hstep := refresh_step unicode ((broker unicode).after es) e k
    rw [h] at hstep
    generalize ((broker unicode).after es).store.refreshTokens.get? k = o at hstep hbefore
    cases hstep with
    | kept _ => exact hbefore _ rfl
    | relabelled _ stamps => exact of_stamped stamp stamps (hbefore _ rfl)
    | rotated rotates =>
      -- The rotated record keeps its session; the new one is minted on its own.
      exact of_stamped stamp rotates.stamps (hbefore _ rfl)
    | @revoked r₀ _ => exact hbefore r₀ rfl
    | @marked r₀ _ _ _ _ => exact hbefore r₀ rfl
    | minted mints _ => exact minted es e [] rfl _ _ _ _ _ mints hall

end Sessions

/-! ## Handoff states -/

/-- The event creates a handoff state, for an SSO initiation. -/
structure Initiates (unicode : Unicode) (w : World) (e : Event) (k : String) (startedAt : ℤ)
    (request : SsoRequest) : Prop where
  action : e.action = .beginSsoAuthorization startedAt request
  key : k = randomToken "ssostate" (e.rand.token 0)
  stored : ((broker unicode).next w e).store.pendingSsoStates.get? k =
    some (e.service.pendingSsoState startedAt (e.now 1) k request)

/-- The initiation that created a stored handoff state: since, it has been
    marked as used at most. -/
theorem pending_origin {es : List Event} {k : String} {r : PendingSsoState}
    (h : ((broker unicode).after es).store.pendingSsoStates.get? k = some r) :
    Occurs es fun pre e => ∃ startedAt request,
      Initiates unicode ((broker unicode).after pre) e k startedAt request ∧
      { r with usedAt := none } = e.service.pendingSsoState startedAt (e.now 1) k request := by
  refine Machine.entry_induction (fun w : World => w.store.pendingSsoStates.get? k) es r h rfl
    (fun w e => pending_step unicode w e k) ?_
  intro es e o r ih h hstep
  cases hstep with
  | same => exact (ih _ rfl).append [e]
  | used _ _ => exact (ih _ rfl).append [e]
  | admitted action key => exact .last ⟨_, _, ⟨action, key, h⟩, rfl⟩

/-! ## Asset grants -/

/-- The event creates the grant `g` under `k`, for an authorised request. -/
structure Grants (w : World) (e : Event) (k : String) (r : Request) (request : GrantRequest)
    (g : AssetGrant) : Prop where
  action : ∃ call, e.action = .createGrant call request ∧ w.requests.get? call = some r
  key : k = randomToken "grant" (e.rand.token 0)
  grant : g = (AssetService.mk r.service.config).assetGrant (e.now 1) e.rand r.session request

/-- The request that created a stored grant: since, it has been revoked at
    most. -/
theorem grant_origin {es : List Event} {k : String} {g : AssetGrant}
    (h : ((broker unicode).after es).store.assetGrants.get? k = some g) :
    Occurs es fun pre e => ∃ r request g₀,
      Grants ((broker unicode).after pre) e k r request g₀ ∧
      g = { g₀ with expiresAt := g.expiresAt } := by
  refine Machine.entry_induction (fun w : World => w.store.assetGrants.get? k) es g h rfl
    (fun w e => grant_step unicode w e k) ?_
  intro es e o g ih h hstep
  cases hstep with
  | kept _ => exact (ih _ rfl).append [e]
  | marked _ _ =>
    refine ((ih _ rfl).append [e]).imp fun pre f ⟨r, request, g₀, hgrants, heq⟩ =>
      ⟨r, request, g₀, hgrants, ?_⟩
    rw [heq]
  | granted action inFlight key => exact .last ⟨_, _, _, ⟨⟨_, action, inFlight⟩, key, rfl⟩, rfl⟩

/-! ## Calls in flight -/

/-- The receipt of a callback in flight: it found the handoff state as the
    callback has it, with a tenant whose base URL parses. -/
theorem callback_origin {es : List Event} {call : ℕ} {c : CallbackCall}
    (h : ((broker unicode).after es).callbacks.get? call = some c) :
    Occurs es fun pre e => c.service = e.service ∧
      ((broker unicode).after pre).store.pendingSsoStates.get? c.callback.handoffState =
        some c.callback.record ∧
      (Url.urlparse unicode c.callback.record.tenant.baseUrl).isSome = true := by
  refine Machine.entry_induction (fun w : World => w.callbacks.get? call) es c h rfl
    (fun w e => callback_step unicode w e call) ?_
  intro es e o c ih h hstep
  cases hstep with
  | same => exact (ih _ rfl).append [e]
  | received found _ _ parses => exact .last ⟨rfl, found, parses⟩

/-- The event that burned the code of an exchange in flight: the exchange has
    been in flight since. -/
theorem exchange_origin {es : List Event} {call : ℕ} {x : Exchange}
    (h : ((broker unicode).after es).exchanges.get? call = some x) :
    ∃ pre e post record, es = pre ++ e :: post ∧
      Burns unicode ((broker unicode).after pre) e call x record ∧
      ∀ mid rest, post = mid ++ rest →
        ((broker unicode).after (pre ++ e :: mid)).exchanges.get? call = some x := by
  obtain ⟨pre, e, post, hes, hnot, hheld⟩ := Machine.exists_last_entry
    (Q := fun l => ((broker unicode).after l).exchanges.get? call = some x)
    (fun h₀ => by cases h₀) h
  have hstep := exchange_step unicode ((broker unicode).after pre) e call
  rw [← Machine.after_snoc, hheld [] post rfl] at hstep
  generalize hbefore : ((broker unicode).after pre).exchanges.get? call = o at hstep
  cases hstep with
  | same _ => exact absurd hbefore hnot
  | burned burns => exact ⟨pre, e, post, _, hes, burns, hheld⟩

/-- The authentication of a password sign-in in flight. -/
theorem sign_in_origin {es : List Event} {call : ℕ} {x : SignIn}
    (h : ((broker unicode).after es).signIns.get? call = some x) :
    Occurs es fun _ e => ∃ request session, e.action = .authenticate call request session ∧
      x = ⟨e.service, request, e.service.signInSession request session⟩ := by
  refine Machine.entry_induction (fun w : World => w.signIns.get? call) es x h rfl
    (fun w e => sign_in_step unicode w e call) ?_
  intro es e o x ih h hstep
  cases hstep with
  | same => exact (ih _ rfl).append [e]
  | started action => exact .last ⟨_, _, action, rfl⟩

/-- The read that gave an authorised request its session. -/
theorem request_origin {es : List Event} {call : ℕ} {x : Request}
    (h : ((broker unicode).after es).requests.get? call = some x) :
    Occurs es fun pre e => ∃ token record stamped opened,
      Reads ((broker unicode).after pre) e token record stamped opened ∧
      x = ⟨e.service, opened⟩ := by
  refine Machine.entry_induction (fun w : World => w.requests.get? call) es x h rfl
    (fun w e => request_step unicode w e call) ?_
  intro es e o x ih h hstep
  cases hstep with
  | same => exact (ih _ rfl).append [e]
  | read reads => exact .last ⟨_, _, _, _, reads, rfl⟩

/-! ## Services -/

/-- A code is issued by a service of the run. -/
theorem Issues.served {pre : List Event} {e : Event} {service : AuthService} {t : ℤ}
    {request : AuthorizationRequest} {session : Session}
    (h : Issues unicode ((broker unicode).after pre) e service t request session) :
    ∃ f ∈ pre ++ [e], service = f.service := by
  have hself : ∃ f ∈ pre ++ [e], e.service = f.service := ⟨e, by simp, rfl⟩
  have hbefore : (∃ f ∈ pre, service = f.service) → ∃ f ∈ pre ++ [e], service = f.service :=
    fun ⟨f, hf, heq⟩ => ⟨f, List.mem_append_left [e] hf, heq⟩
  cases h with
  | beginAuthorization _ inFlight =>
    refine hbefore (Occurs.exists_mem (sign_in_origin inFlight) fun _ f hf => ?_)
    obtain ⟨_, _, -, rfl⟩ := hf
    rfl
  | beginAuthorizationFromSession _ => exact hself
  | completed completes =>
    have hattempt := completes.attempt
    rw [World.completion] at hattempt
    split at hattempt
    · cases hattempt
      exact hself
    · split at hattempt
      · cases hattempt
      · rename_i c inFlight
        split at hattempt
        · cases hattempt
          exact hbefore (Occurs.exists_mem (callback_origin inFlight) fun _ _ hf => hf.1)
        · cases hattempt
    · cases hattempt

/-- A pair is minted by a service of the run. -/
theorem Mints.served {pre : List Event} {e : Event} {service : AuthService} {now : ℕ → ℤ}
    {session : Session} {scope clientId : String}
    (h : Mints ((broker unicode).after pre) e service now session scope clientId) :
    ∃ f ∈ pre ++ [e], service = f.service := by
  cases h with
  | exchanged _ inFlight =>
    obtain ⟨l, f, rest, _, rfl, burns, -⟩ := exchange_origin inFlight
    exact ⟨f, by simp, burns.service⟩
  | rotated _ => exact ⟨e, by simp, rfl⟩

end Broker
