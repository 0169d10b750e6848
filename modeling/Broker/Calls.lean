import Broker.Buckets

/-!
# Calls and their answers

What the answers that hand something out say about the store they came from
(`refresh_answer`, `read_answer`, `verify_answer`, `revoke_answer`), and what
an event does to the calls in flight (`exchange_step`, `sign_in_step`,
`callback_step`, `request_step`).
-/

namespace Broker

open Py

variable (unicode : Unicode) (w : World) (e : Event)

/-! ## Answers -/

/-- A rotated refresh token presented again within the grace period: the
    response cached at its rotation is answered. -/
structure Replays (token : String) (record : RefreshToken) (response : TokenResponse) : Prop where
  action : e.action = .refreshAccessToken record.clientId token
  found : (e.service.prune w.store (e.now 0)).refreshTokens.get? token = some record
  revoked : ∃ t, record.revokedAt = some t ∧ t ≠ 0 ∧ e.now 1 - t ≤ e.service.refreshGraceMs
  cached : record.rotationResponse = some response

/-- An access token is read: the stored record is labelled for its client, and
    handed out with its session opened. -/
structure Reads (token : String) (record : AccessToken) (stamped : TokenRecord)
    (opened : Session) : Prop where
  action : ∃ call, e.action = .readAccessToken call token
  found : (e.service.prune w.store (e.now 0)).accessTokens.get? token = some record
  stamps : stampTokenRecordMetadata e.service.config record.toTokenRecord = some stamped
  opens : openSessionDict e.service.fieldCipher stamped.session = .ok opened

variable {unicode w e}

theorem Replays.stored {token : String} {record : RefreshToken} {response : TokenResponse}
    (h : Replays w e token record response) : w.store.refreshTokens.get? token = some record :=
  AuthService.refreshTokens_of_prune h.found

theorem Reads.stored {token : String} {record : AccessToken} {stamped : TokenRecord}
    {opened : Session} (h : Reads w e token record stamped opened) :
    w.store.accessTokens.get? token = some record :=
  AuthService.accessTokens_of_prune h.found

/-- A successful refresh rotates the token, or replays its rotation. -/
theorem refresh_answer {clientId token : String} {response : TokenResponse}
    (action : e.action = .refreshAccessToken clientId token)
    (h : (broker unicode).out w e = .ok (.tokens (.ok response))) :
    (∃ record stamped opened, Rotates w e token record stamped opened ∧
      record.clientId = clientId ∧ response = e.service.tokenResponse e.rand record.scope) ∨
    ∃ record, Replays w e token record response ∧ record.clientId = clientId := by
  change (w.step unicode e).1 = _ at h
  rw [World.step, action] at h
  dsimp only [World.commit] at h
  have houtcome := e.service.refresh_outcome e.now e.rand w.store clientId token
  generalize e.service.refreshAccessToken e.now e.rand clientId token w.store = outcome
    at h houtcome
  cases houtcome with
  | replayed found client stamps revoked truthy grace cached =>
    cases h
    subst client
    exact .inr ⟨_, ⟨action, found, ⟨_, revoked, truthy, grace⟩, cached⟩, rfl⟩
  | rotated found client stamps opens live =>
    cases h
    subst client
    exact .inl ⟨_, _, _, ⟨action, found, stamps, opens, live⟩, rfl, rfl⟩
  | _ => cases h

/-- A rotation answers the new pair, and stores it along with the rotated token. -/
theorem rotates_step {token : String} {record : RefreshToken} {stamped : TokenRecord}
    {opened : Session} (h : Rotates w e token record stamped opened) :
    (broker unicode).step w e =
      (let written := e.service.writeTokenPairToState (fun i => e.now (i + 2)) e.rand
        { e.service.prune w.store (e.now 0) with
          refreshTokens := (e.service.prune w.store (e.now 0)).refreshTokens.set token
            { record with toTokenRecord := stamped } } opened stamped.scope record.clientId
      (.ok (.tokens (.ok written.1)), { w with store := { written.2 with
        refreshTokens := written.2.refreshTokens.set token
          { record with toTokenRecord := stamped, revokedAt := some (e.now 1)
                        rotationResponse := some written.1 } } })) := by
  have hconfigured : isConfiguredClient e.service.config record.clientId = true := by
    have hstamps := h.stamps
    rw [stampTokenRecordMetadata] at hstamps
    split_ifs at hstamps with hclient
    exact hclient
  change w.step unicode e = _
  rw [World.step, h.action]
  dsimp only [World.commit]
  unfold AuthService.refreshAccessToken update AuthService.refreshUpdater
  rw [if_pos hconfigured]
  dsimp only
  rw [h.found]
  dsimp only
  rw [if_neg (not_not_intro rfl), h.stamps]
  dsimp only
  rw [tryOpen_eq_some_iff.2 h.opens]
  dsimp only
  rw [if_neg (by rw [h.live]; exact Bool.false_ne_true)]
  rfl

/-- The opened record of a read. -/
def openedRecord (record : AccessToken) (stamped : TokenRecord) (opened : Session) : AccessToken :=
  { record with toTokenRecord := { stamped with session := opened } }

theorem openSession_eq_some {service : AuthService} {record r : AccessToken}
    (h : service.openSession record = .ok (some r)) :
    ∃ opened, openSessionDict service.fieldCipher record.session = .ok opened ∧
      r = { record with session := opened } := by
  rw [AuthService.openSession] at h
  cases ht : tryOpenSessionDict service.fieldCipher record.session with
  | error error => rw [ht] at h; cases h
  | ok opened =>
    cases opened with
    | none => rw [ht] at h; cases h
    | some opened =>
      rw [ht] at h
      cases h
      exact ⟨opened, tryOpen_eq_some_iff.1 ht, rfl⟩

/-- A read hands out the stored record, opened. -/
theorem read_answer {call : ℕ} {token : String} {r : AccessToken}
    (action : e.action = .readAccessToken call token)
    (h : (broker unicode).out w e = .ok (.record (some r))) :
    ∃ record stamped opened, Reads w e token record stamped opened ∧
      r = openedRecord record stamped opened := by
  change (w.step unicode e).1 = _ at h
  rw [World.step, action] at h
  dsimp only at h
  have houtcome := e.service.read_outcome e.now w.store token
  generalize e.service.readAccessToken e.now token w.store = outcome at h houtcome
  cases houtcome with
  | absent _ => cases h
  | unconfigured _ _ => cases h
  | @stamped record stamped found stamps =>
    dsimp only at h
    cases hopen : e.service.openSession { record with toTokenRecord := stamped } with
    | error error => rw [hopen] at h; cases h
    | ok o =>
      rw [hopen] at h
      cases h
      obtain ⟨opened, hopened, rfl⟩ := openSession_eq_some hopen
      exact ⟨record, stamped, opened, ⟨⟨call, action⟩, found, stamps, hopened⟩, rfl⟩

/-- A read that finds its record configured and its session in order succeeds. -/
theorem read_succeeds {call : ℕ} {token : String} {record : AccessToken} {stamped : TokenRecord}
    {opened : Session} (action : e.action = .readAccessToken call token)
    (found : (e.service.prune w.store (e.now 0)).accessTokens.get? token = some record)
    (stamps : stampTokenRecordMetadata e.service.config record.toTokenRecord = some stamped)
    (opens : openSessionDict e.service.fieldCipher stamped.session = .ok opened) :
    (broker unicode).out w e = .ok (.record (some (openedRecord record stamped opened))) := by
  change (w.step unicode e).1 = _
  rw [World.step, action]
  dsimp only [AuthService.readAccessToken, update, AuthService.readUpdater]
  rw [found]
  dsimp only
  rw [stamps]
  dsimp only [AuthService.openSession]
  rw [tryOpen_eq_some_iff.2 opens]
  rfl

/-- An accepted grant is in the store, and has not expired. -/
theorem verify_answer {grantId expiresAt signature : Option String} {grant : AssetGrant}
    (action : e.action = .verifyGrant grantId expiresAt signature)
    (h : (broker unicode).out w e = .ok (.verification (.ok grant))) :
    w.store.assetGrants.get? (grantId.getD "") = some grant ∧ e.now 1 < grant.expiresAt := by
  change (w.step unicode e).1 = _ at h
  rw [World.step, action] at h
  dsimp only [World.commit] at h
  have houtcome := (AssetService.mk e.service.config).verify_outcome e.now w.store grantId expiresAt
    signature
  generalize (AssetService.mk e.service.config).verifyGrant e.now grantId expiresAt signature
    w.store = outcome at h houtcome
  cases houtcome with
  | unread result refused =>
    cases hr : result with
    | error error => rw [hr] at h; cases h
    | ok verification =>
      rw [hr] at h
      cases h
      exact absurd hr (refused grant)
  | refused _ => cases h
  | @accepted g found =>
    cases h
    rw [pruneExpiredGrants, Dict.get?_filter, Option.filter_eq_some_iff] at found
    exact ⟨found.1, by simpa using found.2⟩

/-- A revocation that found its token. -/
theorem revoke_answer {token : String} (action : e.action = .revokeToken token)
    (h : (broker unicode).out w e = .ok (.revoked true)) :
    (∃ record, (e.service.prune w.store (e.now 0)).accessTokens.get? token = some record) ∨
    ((e.service.prune w.store (e.now 0)).accessTokens.get? token = none ∧
      ∃ record, (e.service.prune w.store (e.now 0)).refreshTokens.get? token = some record ∧
      ((broker unicode).next w e).store.refreshTokens.get? token =
        some { record with revokedAt := some (e.now 1) }) := by
  change (w.step unicode e).1 = _ at h
  change _ ∨ (_ ∧ ∃ record, _ ∧ (w.step unicode e).2.store.refreshTokens.get? token = _)
  unfold World.step at h ⊢
  rw [action] at h ⊢
  dsimp only [World.commit] at h ⊢
  have houtcome := e.service.revoke_outcome e.now w.store token
  generalize update (e.service.revokeTokenUpdater e.now token) w.store = outcome at h houtcome ⊢
  cases houtcome with
  | access found => exact .inl ⟨_, found⟩
  | refresh missing found =>
    refine .inr ⟨missing, _, found, ?_⟩
    rw [Dict.get?_modify, if_pos rfl, found, Option.map_some]
  | notFound _ _ => cases h

/-! ## Calls in flight -/

variable (unicode w e)

/-- The event burns a code, for an exchange that goes on to create its pair. -/
structure Burns (call : ℕ) (x : Exchange) (record : AuthorizationCode) : Prop where
  action : e.action =
    .exchangeAuthorizationCode call x.clientId x.redirectUri x.code x.codeVerifier
  service : x.service = e.service
  found : (e.service.prune w.store (e.now 0)).authorizationCodes.get? x.code = some record
  client : record.clientId = x.clientId
  redirect : record.redirectUri = x.redirectUri
  challenge : x.codeVerifier.map sha256B64url = record.codeChallenge
  proof : truthyStr x.codeVerifier
  opens : openSessionDict e.service.fieldCipher record.session = .ok x.session
  scope : x.scope = record.scope
  gone : ((broker unicode).next w e).store.authorizationCodes.get? x.code = none

theorem Burns.stored {unicode : Unicode} {w : World} {e : Event} {call : ℕ} {x : Exchange}
    {record : AuthorizationCode} (h : Burns unicode w e call x record) :
    w.store.authorizationCodes.get? x.code = some record :=
  AuthService.authorizationCodes_of_prune h.found

/-- What an event does to an exchange in flight. -/
inductive ExchangeStep (call : ℕ) : Option Exchange → Option Exchange → Prop
  | same {o : Option Exchange} (action : e.action ≠ .createTokenPair call) : ExchangeStep call o o
  | ended (o : Option Exchange) : ExchangeStep call o none
  | burned {o : Option Exchange} {x : Exchange} {record : AuthorizationCode}
    (burns : Burns unicode w e call x record) : ExchangeStep call o (some x)

/-- What an event does to a password sign-in in flight. -/
inductive SignInStep (call : ℕ) : Option SignIn → Option SignIn → Prop
  | same (o : Option SignIn) : SignInStep call o o
  | ended (o : Option SignIn) : SignInStep call o none
  | started {o : Option SignIn} {request : AuthorizationRequest} {session : Session}
    (action : e.action = .authenticate call request session) :
    SignInStep call o (some ⟨e.service, request, e.service.signInSession request session⟩)

/-- What an event does to a callback in flight. -/
inductive CallbackStep (call : ℕ) : Option CallbackCall → Option CallbackCall → Prop
  | same (o : Option CallbackCall) : CallbackStep call o o
  | ended (o : Option CallbackCall) : CallbackStep call o none
  | received {o : Option CallbackCall} {callback : Callback}
    (found : w.store.pendingSsoStates.get? callback.handoffState = some callback.record)
    (unused : truthyMs callback.record.usedAt = false) (inTime : e.now 0 ≤ callback.record.expiresAt)
    (parses : (Url.urlparse unicode callback.record.tenant.baseUrl).isSome = true) :
    CallbackStep call o (some ⟨e.service, callback⟩)

/-- What an event does to an authorised request. -/
inductive RequestStep (call : ℕ) : Option Request → Option Request → Prop
  | same (o : Option Request) : RequestStep call o o
  | ended (o : Option Request) : RequestStep call o none
  | read {o : Option Request} {token : String} {record : AccessToken} {stamped : TokenRecord}
    {opened : Session} (reads : Reads w e token record stamped opened) :
    RequestStep call o (some ⟨e.service, opened⟩)

theorem exchange_step (call : ℕ) :
    ExchangeStep unicode w e call (w.exchanges.get? call)
      (((broker unicode).next w e).exchanges.get? call) := by
  -- Burning is about the whole next state, and its store is read off before the calls are.
  have hgone : ∀ {c : ℕ} {clientId redirectUri code : String} {codeVerifier : Option String},
      e.action = .exchangeAuthorizationCode c clientId redirectUri code codeVerifier →
      (e.service.exchangeAuthorizationCode e.now clientId redirectUri code codeVerifier w.store).2 =
        e.service.burned w.store (e.now 0) code →
      ((broker unicode).next w e).store.authorizationCodes.get? code = none := by
    intro c clientId redirectUri code codeVerifier ha hburned
    change (w.step unicode e).2.store.authorizationCodes.get? code = none
    rw [World.step, ha]
    dsimp only
    split <;> rw [‹e.service.exchangeAuthorizationCode _ _ _ _ _ _ = _›] at hburned <;>
      · dsimp only at hburned ⊢
        rw [hburned, AuthService.burned, Dict.get?_erase, if_pos rfl]
  change ExchangeStep unicode w e call _ ((w.step unicode e).2.exchanges.get? call)
  rw [World.step]
  cases ha : e.action with
  | exchangeAuthorizationCode c clientId redirectUri code codeVerifier =>
    have h := e.service.exchange_outcome e.now w.store clientId redirectUri code codeVerifier
    have hgone := hgone ha
    dsimp only
    generalize e.service.exchangeAuthorizationCode e.now clientId redirectUri code codeVerifier
      w.store = outcome at h hgone ⊢
    cases h with
    | exchanged found client redirect challenge proof opens =>
      dsimp only
      rw [Dict.get?_set]
      split_ifs with hc
      · subst hc
        exact .burned ⟨ha, rfl, found, client, redirect, challenge, proof, opens, rfl, hgone rfl⟩
      · exact .same (by rw [ha]; exact Action.noConfusion)
    | _ => exact .same (by rw [ha]; exact Action.noConfusion)
  | createTokenPair c =>
    dsimp only
    rcases eq_or_ne call c with rfl | hc
    · cases hx : w.exchanges.get? call with
      | none =>
        dsimp only
        rw [hx]
        exact .ended none
      | some x =>
        dsimp only [World.commit]
        rw [Dict.get?_erase, if_pos rfl]
        exact .ended _
    · have hsame : e.action ≠ .createTokenPair call := fun h =>
        hc (Action.createTokenPair.inj (h.symm.trans ha))
      cases hx : w.exchanges.get? c with
      | none => exact .same hsame
      | some x =>
        dsimp only [World.commit]
        rw [Dict.get?_erase, if_neg hc]
        exact .same hsame
  | finish c =>
    dsimp only [World.finish]
    rw [Dict.get?_erase]
    split_ifs
    · exact .ended _
    · exact .same (by rw [ha]; exact Action.noConfusion)
  | answerCallback c authenticatedAt result =>
    dsimp only
    split
    · exact .same (by rw [ha]; exact Action.noConfusion)
    · dsimp only [World.answerCallback]
      split <;> exact .same (by rw [ha]; exact Action.noConfusion)
  | _ =>
    dsimp only [World.commit]
    first
      | exact .same (by rw [ha]; exact Action.noConfusion)
      | split <;> exact .same (by rw [ha]; exact Action.noConfusion)

theorem sign_in_step (call : ℕ) :
    SignInStep e call (w.signIns.get? call) (((broker unicode).next w e).signIns.get? call) := by
  change SignInStep e call _ ((w.step unicode e).2.signIns.get? call)
  rw [World.step]
  cases ha : e.action with
  | authenticate c request session =>
    dsimp only
    rw [Dict.get?_set]
    split_ifs with hc
    · subst hc
      exact .started ha
    · exact .same _
  | beginAuthorization c =>
    dsimp only
    split
    · exact .same _
    · dsimp only [World.commit]
      rw [Dict.get?_erase]
      split_ifs
      · exact .ended _
      · exact .same _
  | finish c =>
    dsimp only [World.finish]
    rw [Dict.get?_erase]
    split_ifs
    · exact .ended _
    · exact .same _
  | answerCallback c authenticatedAt result =>
    dsimp only
    split
    · exact .same _
    · dsimp only [World.answerCallback]
      split <;> exact .same _
  | _ =>
    dsimp only [World.commit]
    first
      | exact .same _
      | split <;> exact .same _

theorem request_step (call : ℕ) :
    RequestStep w e call (w.requests.get? call)
      (((broker unicode).next w e).requests.get? call) := by
  change RequestStep w e call _ ((w.step unicode e).2.requests.get? call)
  rw [World.step]
  cases ha : e.action with
  | readAccessToken c token =>
    have h := e.service.read_outcome e.now w.store token
    dsimp only
    generalize e.service.readAccessToken e.now token w.store = outcome at h ⊢
    cases h with
    | absent _ => exact .same _
    | unconfigured _ _ => exact .same _
    | @stamped record stamped found stamps =>
      dsimp only
      cases hopen : e.service.openSession { record with toTokenRecord := stamped } with
      | error error => exact .same _
      | ok o =>
        cases o with
        | none => exact .same _
        | some r =>
          obtain ⟨opened, hopened, rfl⟩ := openSession_eq_some hopen
          dsimp only
          rw [Dict.get?_set]
          split_ifs with hc
          · exact .read ⟨⟨c, ha⟩, found, stamps, hopened⟩
          · exact .same _
  | finish c =>
    dsimp only [World.finish]
    rw [Dict.get?_erase]
    split_ifs
    · exact .ended _
    · exact .same _
  | answerCallback c authenticatedAt result =>
    dsimp only
    split
    · exact .same _
    · dsimp only [World.answerCallback]
      split <;> exact .same _
  -- No other action touches the authorised requests.
  | _ =>
    dsimp only [World.commit]
    first
      | exact .same _
      | split <;> exact .same _

/-- A callback goes on with the record it found active. -/
theorem receiveCallback_eq_inr {config : AppConfig} {rate : RateLimitResult} {form : CallbackForm}
    {inspected : SsoResult} {callback : Callback}
    (h : receiveCallback unicode config rate form inspected = .ok (.inr callback)) :
    callback.handoffState = form.handoffState ∧ inspected = .active callback.record ∧
      (Url.urlparse unicode callback.record.tenant.baseUrl).isSome = true := by
  unfold receiveCallback at h
  cases inspected with
  | active record =>
    rw [← hostOf_isSome]
    dsimp only [Callback.receive] at h
    cases hhost : hostOf unicode record.tenant.baseUrl with
    | none =>
      rw [hhost] at h
      split_ifs at h <;> cases h
    | some host =>
      rw [hhost] at h
      split_ifs at h <;> cases h
      exact ⟨rfl, rfl, congrArg Option.isSome hhost⟩
  | _ =>
    dsimp only at h
    split_ifs at h <;> cases h

theorem callback_step (call : ℕ) :
    CallbackStep unicode w e call (w.callbacks.get? call)
      (((broker unicode).next w e).callbacks.get? call) := by
  change CallbackStep unicode w e call _ ((w.step unicode e).2.callbacks.get? call)
  rw [World.step]
  cases ha : e.action with
  | receiveCallback c rate form =>
    dsimp only
    cases hreceive : receiveCallback unicode e.service.config rate form
        (AuthService.inspectPendingSsoState (e.now 0) w.store form.handoffState) with
    | error error => exact .same _
    | ok received =>
      cases received with
      | inl response => exact .same _
      | inr callback =>
        dsimp only
        rw [Dict.get?_set]
        split_ifs with hc
        -- The route goes on only with a state that it saw active.
        · obtain ⟨hhandoff, hactive, hparses⟩ := receiveCallback_eq_inr unicode hreceive
          obtain ⟨hfound, hunused, hinTime⟩ := AuthService.classify_eq_active_iff.1 hactive
          exact .received (hhandoff ▸ hfound) hunused hinTime hparses
        · exact .same _
  | finish c =>
    dsimp only [World.finish]
    rw [Dict.get?_erase]
    split_ifs
    · exact .ended _
    · exact .same _
  | answerCallback c authenticatedAt result =>
    dsimp only
    split
    · exact .same _
    · dsimp only [World.answerCallback]
      split
      · dsimp only
        rw [Dict.get?_erase]
        split_ifs
        · exact .ended _
        · exact .same _
      · dsimp only
        rw [Dict.get?_erase]
        split_ifs
        · exact .ended _
        · exact .same _
  -- No other action touches the callbacks in flight.
  | _ =>
    dsimp only [World.commit]
    first
      | exact .same _
      | split <;> exact .same _

end Broker
