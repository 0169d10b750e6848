import Broker.Lineages

/-!
# Handoff states

A handoff state is completed at most once (`completes_once`): the completion
leaves it used, or pruned (`Spent`), and it stays so. The code it mints is for
the OAuth parameters of the initiation that created the state, and the callback
that asks for it validates the session key with that initiation's tenant, and
redirects to its redirect URI (`handoff_yields_one_code`).

The state is unexpired when the completion checks it. The clock may tick on
before the code is minted in the same transaction (`minted_past_expiry`).
-/

namespace Broker

open Py Runs

variable {unicode : Unicode}

/-! ## Completing -/

/-- The code a completion mints. -/
theorem completes_update {w : World} {e : Event} {service : AuthService} {handoffState : String}
    {session : Session} {record : PendingSsoState}
    (h : Completes unicode w e service handoffState session record) :
    update (service.completeSsoAuthorizationUpdater e.now e.rand handoffState session) w.store =
      (let minted := service.mintAuthorizationCode (fun i => e.now (i + 2)) e.rand
        (service.prune w.store (e.now 0)) record.request
        (service.signInSession record.request session)
      (.ok (.valid minted.1 { record with usedAt := some (e.now 4) }), { minted.2 with
        pendingSsoStates := minted.2.pendingSsoStates.modify handoffState fun r =>
          { r with usedAt := some (e.now 4) } })) := by
  unfold update AuthService.completeSsoAuthorizationUpdater
  dsimp only
  rw [AuthService.classify_eq_active_iff.2 ⟨h.found, h.unused, h.inTime⟩]

/-- A call of `complete_sso_authorization` leaves the store of its transaction. -/
theorem completion_next {w : World} {e : Event} {service : AuthService} {handoffState : String}
    {session : Session} (attempt : w.completion unicode e = some (service, handoffState, session)) :
    ((broker unicode).next w e).store =
      (update (service.completeSsoAuthorizationUpdater e.now e.rand handoffState session)
        w.store).2 := by
  change (w.step unicode e).2.store = _
  rw [World.completion] at attempt
  rw [World.step]
  cases ha : e.action with
  | completeSsoAuthorization handoffState session =>
    rw [ha] at attempt
    cases attempt
    rfl
  | answerCallback call authenticatedAt result =>
    rw [ha] at attempt
    dsimp only at attempt ⊢
    cases hc : w.callbacks.get? call with
    | none => rw [hc] at attempt; cases attempt
    | some c =>
      rw [hc] at attempt
      dsimp only [World.answerCallback] at attempt ⊢
      cases hauth : authenticateWithSessionKey unicode c.service.config authenticatedAt
          c.callback.record.tenant c.callback.sessionKey c.callback.username result with
      | error error => rw [hauth] at attempt; cases attempt
      | ok session =>
        rw [hauth] at attempt
        cases attempt
        rfl
  | _ => rw [ha] at attempt; cases attempt

/-- The stored handoff state, if any, is used. -/
def Spent (s : Store) (handoffState : String) : Prop :=
  ∀ r, s.pendingSsoStates.get? handoffState = some r → truthyMs r.usedAt = true

/-- A completion spends its handoff state. -/
theorem completes_spent {w : World} {e : Event} {service : AuthService} {handoffState : String}
    {session : Session} {record : PendingSsoState}
    (h : Completes unicode w e service handoffState session record) :
    Spent ((broker unicode).next w e).store handoffState := by
  intro r hr
  rw [completion_next h.attempt, completes_update h] at hr
  dsimp only at hr
  rw [Dict.get?_modify, if_pos rfl, Option.map_eq_some_iff] at hr
  obtain ⟨r', -, rfl⟩ := hr
  exact truthyMs_now e 4

/-- A handoff state that is spent stays so. -/
theorem Spent.for_good {es : List Event} {handoffState : String}
    (drawn : Drawn "ssostate" es handoffState)
    (h : Spent ((broker unicode).after es).store handoffState) :
    ∀ post, Fresh (es ++ post) →
      Spent ((broker unicode).after (es ++ post)).store handoffState := by
  intro post
  induction post using List.reverseRecOn with
  | nil => exact fun _ => by rwa [List.append_nil]
  | append_singleton post f ih =>
    intro fresh r hr
    rw [← List.append_assoc] at fresh hr
    have hbefore := ih fresh.append_left
    rw [Machine.after_snoc] at hr
    have hstep := pending_step unicode ((broker unicode).after (es ++ post)) f handoffState
    rw [hr] at hstep
    generalize hold : ((broker unicode).after (es ++ post)).store.pendingSsoStates.get? handoffState =
      o at hstep
    cases hstep with
    | same => exact hbefore r hold
    | used i _ => exact truthyMs_now f i
    | admitted _ key => exact absurd (key ▸ drawn.append post) (fresh.not_drawn 0)

/-- The record a completion found, in the store before it. -/
theorem Completes.stored {w : World} {e : Event} {service : AuthService} {handoffState : String}
    {session : Session} {record : PendingSsoState}
    (h : Completes unicode w e service handoffState session record) :
    w.store.pendingSsoStates.get? handoffState = some record :=
  AuthService.pendingSsoStates_of_prune h.found

/-- A handoff state is completed at most once. -/
theorem completes_once {es pre pre' post post' : List Event} {e e' : Event} {handoffState : String}
    {service service' : AuthService} {session session' : Session} {record record' : PendingSsoState}
    (fresh : Fresh es) (h : es = pre ++ e :: post) (h' : es = pre' ++ e' :: post')
    (completes : Completes unicode ((broker unicode).after pre) e service handoffState session record)
    (completes' : Completes unicode ((broker unicode).after pre') e' service' handoffState session'
      record') : pre = pre' ∧ e = e' ∧ post = post' := by
  refine Machine.position_unique
    (fun pre e => ∃ service session record,
      Completes unicode ((broker unicode).after pre) e service handoffState session record)
    (fun l f mid f' rest hes ⟨_, _, r, hcompletes⟩ ⟨_, _, r', hcompletes'⟩ => ?_) h h'
    ⟨_, _, _, completes⟩ ⟨_, _, _, completes'⟩
  have hdrawn : Drawn "ssostate" (l ++ [f]) handoffState := by
    refine ((pending_born unicode).drawn ?_).append [f]
    rw [hcompletes.stored]
    exact Option.some_ne_none r
  have hspent : Spent ((broker unicode).after (l ++ [f])).store handoffState := by
    rw [Machine.after_snoc]
    exact completes_spent hcompletes
  have hsplit : l ++ f :: (mid ++ f' :: rest) = (l ++ [f] ++ mid) ++ f' :: rest := by simp
  rw [hes, hsplit] at fresh
  have hstill := hspent.for_good hdrawn mid fresh.append_left
  rw [← List.append_cons] at hstill
  have hunused := hcompletes'.unused
  rw [hstill r' hcompletes'.stored] at hunused
  cases hunused

/-- A handoff state is created at most once. -/
theorem initiates_once {es pre pre' post post' : List Event} {e e' : Event} {k : String}
    {startedAt startedAt' : ℤ} {request request' : SsoRequest} (fresh : Fresh es)
    (h : es = pre ++ e :: post) (h' : es = pre' ++ e' :: post')
    (initiates : Initiates unicode ((broker unicode).after pre) e k startedAt request)
    (initiates' : Initiates unicode ((broker unicode).after pre') e' k startedAt' request') :
    pre = pre' ∧ e = e' ∧ startedAt = startedAt' ∧ request = request' := by
  have hdraw := randomToken_inj (initiates.key.symm.trans initiates'.key)
  obtain ⟨rfl, rfl, -⟩ := fresh.position_unique h h' hdraw
  obtain ⟨rfl, rfl⟩ :=
    Action.beginSsoAuthorization.inj (initiates.action.symm.trans initiates'.action)
  exact ⟨rfl, rfl, rfl, rfl⟩

/-- Every completion goes back to the initiation that created its handoff state,
    and found its record as it was created. -/
theorem completes_initiation {pre : List Event} {e : Event} {handoffState : String}
    {service : AuthService} {session : Session} {record : PendingSsoState}
    (h : Completes unicode ((broker unicode).after pre) e service handoffState session record) :
    Occurs pre fun l f => ∃ startedAt request,
      Initiates unicode ((broker unicode).after l) f handoffState startedAt request ∧
      { record with usedAt := none } =
        f.service.pendingSsoState startedAt (f.now 1) handoffState request :=
  pending_origin h.stored

/-! ## The codes handed out -/

/-- The code a completion mints is stored, for the OAuth parameters of the record
    and the identity of the session. -/
theorem completes_code {w : World} {e : Event} {service : AuthService} {handoffState : String}
    {session : Session} {record : PendingSsoState}
    (h : Completes unicode w e service handoffState session record) :
    ∃ code, ((broker unicode).next w e).store.authorizationCodes.get?
        (randomToken "code" (e.rand.token 0)) = some code ∧
      code = service.authorizationCode (e.now 3) e.rand record.request
        (service.signInSession record.request session) := by
  refine ⟨_, ?_, rfl⟩
  rw [completion_next h.attempt, completes_update h]
  exact Dict.get?_set_self _ _ _

/-- A code handed out by `complete_sso_authorization` is that of a completion. -/
theorem sso_valid {w : World} {e : Event} {handoffState code : String} {session : Session}
    {record : PendingSsoState} (action : e.action = .completeSsoAuthorization handoffState session)
    (h : (broker unicode).out w e = .ok (.sso (.valid code record))) :
    (∃ record', Completes unicode w e e.service handoffState session record') ∧
      code = randomToken "code" (e.rand.token 0) := by
  have hattempt : w.completion unicode e = some (e.service, handoffState, session) := by
    rw [World.completion, action]
  change (w.step unicode e).1 = _ at h
  rw [World.step, action] at h
  dsimp only [World.commit] at h
  have houtcome := e.service.complete_outcome e.now e.rand w.store handoffState session
  generalize update (e.service.completeSsoAuthorizationUpdater e.now e.rand handoffState session)
    w.store = outcome at h houtcome
  cases houtcome with
  | refused notValid =>
    simp only [Except.map, Except.ok.injEq, Answer.sso.injEq] at h
    exact absurd h (notValid code record)
  | @completed record' found unused inTime =>
    cases h
    exact ⟨⟨record', hattempt, found, unused, inTime⟩, rfl⟩

/-- A callback that ResourceSpace has answered for, in flight. -/
structure Answers (unicode : Unicode) (w : World) (e : Event) (c : CallbackCall) (session : Session) :
    Prop where
  inFlight : ∃ call authenticatedAt result, e.action = .answerCallback call authenticatedAt result ∧
    w.callbacks.get? call = some c ∧
    authenticateWithSessionKey unicode c.service.config authenticatedAt c.callback.record.tenant
      c.callback.sessionKey c.callback.username result = .ok session

/-- The completion a callback asks for. -/
theorem Answers.attempt {w : World} {e : Event} {c : CallbackCall} {session : Session}
    (h : Answers unicode w e c session) :
    w.completion unicode e = some (c.service, c.callback.handoffState, session) := by
  obtain ⟨call, authenticatedAt, result, action, hc, hauth⟩ := h.inFlight
  simp only [World.completion, action, hc, hauth]

/-- A callback whose completion mints a code redirects with it. -/
theorem Answers.out {w : World} {e : Event} {c : CallbackCall} {session : Session}
    {record : PendingSsoState} (h : Answers unicode w e c session)
    (completes : Completes unicode w e c.service c.callback.handoffState session record) :
    (broker unicode).out w e = (appendQuery unicode c.callback.record.redirectUri
      [("code", randomToken "code" (e.rand.token 0)), ("state", c.callback.record.canvaState)]).map
        fun url => .callback (.signedIn url) := by
  obtain ⟨call, authenticatedAt, result, action, hc, hauth⟩ := h.inFlight
  change (w.step unicode e).1 = _
  rw [World.step, action]
  dsimp only
  rw [hc]
  dsimp only [World.answerCallback]
  rw [hauth]
  dsimp only
  rw [completes_update completes]
  dsimp only [Except.bind, answerCallback, AuthService.mintAuthorizationCode,
    AuthService.authorizationCode]
  cases appendQuery unicode c.callback.record.redirectUri
      [("code", randomToken "code" (e.rand.token 0)), ("state", c.callback.record.canvaState)] with
  | error error => rfl
  | ok url => rfl

/-- A callback that signs in has completed its handoff state. -/
theorem callback_signedIn {w : World} {e : Event} {url : String} {call : ℕ} {authenticatedAt : String}
    {result : Except PyError Json} (action : e.action = .answerCallback call authenticatedAt result)
    (h : (broker unicode).out w e = .ok (.callback (.signedIn url))) :
    ∃ c session record, Answers unicode w e c session ∧
      Completes unicode w e c.service c.callback.handoffState session record := by
  change (w.step unicode e).1 = _ at h
  rw [World.step, action] at h
  dsimp only at h
  cases hc : w.callbacks.get? call with
  | none => rw [hc] at h; cases h
  | some c =>
    rw [hc] at h
    dsimp only [World.answerCallback] at h
    -- Only a completed transaction answers a signed-in page.
    cases hauth : authenticateWithSessionKey unicode c.service.config authenticatedAt
        c.callback.record.tenant c.callback.sessionKey c.callback.username result with
    | error error =>
      rw [hauth] at h
      dsimp only at h
      cases error with
      | resourceSpaceError e =>
        simp [validationFailure, CallbackResponse.validationFailed, CallbackResponse.failed,
          CallbackResponse.signedIn, Except.map] at h
      | _ => cases h
    | ok session =>
      have hanswers : Answers unicode w e c session :=
        ⟨call, authenticatedAt, result, action, hc, hauth⟩
      rw [hauth] at h
      dsimp only at h
      have houtcome := c.service.complete_outcome e.now e.rand w.store c.callback.handoffState session
      generalize update (c.service.completeSsoAuthorizationUpdater e.now e.rand
        c.callback.handoffState session) w.store = outcome at h houtcome
      cases houtcome with
      | @refused answer notValid =>
        cases answer with
        | valid code record => exact absurd rfl (notValid code record)
        | _ => cases h
      | @completed record found unused inTime =>
        exact ⟨c, session, record, hanswers, hanswers.attempt, found, unused, inTime⟩

/-- The record that a callback inspected is the one its completion finds, whether
    it has been marked since or not. -/
theorem Answers.record {pre : List Event} {e : Event} {c : CallbackCall} {session : Session}
    {record : PendingSsoState} (fresh : Fresh pre)
    (h : Answers unicode ((broker unicode).after pre) e c session)
    (completes : Completes unicode ((broker unicode).after pre) e c.service c.callback.handoffState
      session record) :
    { c.callback.record with usedAt := none } = { record with usedAt := none } := by
  obtain ⟨call, authenticatedAt, result, action, hc, hauth⟩ := h.inFlight
  obtain ⟨b, f, mid, hb, startedAt, request, hinitiates, hrecord⟩ := completes_initiation completes
  obtain ⟨p, g, q, hp, -, hreceived, -⟩ := callback_origin hc
  obtain ⟨b', f', mid', rfl, startedAt', request', hinitiates', hrecord'⟩ := pending_origin hreceived
  have hsplit : pre = b' ++ f' :: (mid' ++ g :: q) := by
    rw [hp]
    simp
  obtain ⟨rfl, rfl, rfl, rfl⟩ := initiates_once fresh hsplit hb hinitiates' hinitiates
  rw [hrecord, hrecord']

/-- The session is for the tenant: that record of a live tenant, a fixture tenant
    of the same base URL. -/
def ForTenant (unicode : Unicode) (config : AppConfig) (session : Session) (tenant : Tenant) : Prop :=
  if config.resourceSpace.mode = "fixture" then
    normalizeBaseUrl unicode session.tenant.baseUrl = normalizeBaseUrl unicode tenant.baseUrl
  else session.tenant = tenant

/-- The code is for the OAuth parameters of the initiation. -/
structure CodeFor (code : AuthorizationCode) (request : SsoRequest) : Prop where
  clientId : code.clientId = request.clientId
  redirectUri : code.redirectUri = request.redirectUri
  scope : code.scope = request.scope
  codeChallenge : code.codeChallenge = request.codeChallenge
  codeChallengeMethod : code.codeChallengeMethod =
    AuthService.methodOrS256 request.codeChallengeMethod

theorem methodOrS256_idem (method : Option String) :
    AuthService.methodOrS256 (some (AuthService.methodOrS256 method)) =
      AuthService.methodOrS256 method := by
  cases method with
  | none => rfl
  | some m =>
    by_cases hm : m = ""
    · subst hm
      rfl
    · have hsame : AuthService.methodOrS256 (some m) = m := by
        unfold AuthService.methodOrS256
        split <;> simp_all
      rw [hsame, hsame]

/-- Each handoff state yields at most one authorization code, minted for the
    OAuth parameters of the one initiation that created it, in a transaction
    that finds it unexpired. A callback that completes it authenticates for the
    initiation's tenant, and redirects to its redirect URI with its state. -/
theorem handoff_yields_one_code (es : List Event) (fresh : Fresh es) :
    (∀ handoffState pre e post pre' e' post' service service' session session' record record',
      es = pre ++ e :: post → es = pre' ++ e' :: post' →
      Completes unicode ((broker unicode).after pre) e service handoffState session record →
      Completes unicode ((broker unicode).after pre') e' service' handoffState session' record' →
      pre = pre' ∧ e = e' ∧ post = post') ∧
    (∀ pre e post service handoffState session record, es = pre ++ e :: post →
      Completes unicode ((broker unicode).after pre) e service handoffState session record →
      ∃ b f mid startedAt request, pre = b ++ f :: mid ∧
        Initiates unicode ((broker unicode).after b) f handoffState startedAt request ∧
        (∀ b' f' rest startedAt' request', es = b' ++ f' :: rest →
          Initiates unicode ((broker unicode).after b') f' handoffState startedAt' request' →
          b' = b ∧ f' = f) ∧
        e.now 1 ≤ startedAt + f.service.config.resourceSpace.ssoPendingTtlSeconds * 1000 ∧
        (∃ code, ((broker unicode).after (pre ++ [e])).store.authorizationCodes.get?
            (randomToken "code" (e.rand.token 0)) = some code ∧ CodeFor code request ∧
          code.session.identity = session.identity) ∧
        ∀ c, Answers unicode ((broker unicode).after pre) e c session →
          ForTenant unicode c.service.config session request.tenant ∧
          (broker unicode).out ((broker unicode).after pre) e =
            (appendQuery unicode request.redirectUri
              [("code", randomToken "code" (e.rand.token 0)), ("state", request.canvaState)]).map
                fun url => .callback (.signedIn url)) ∧
    (∀ pre e post handoffState session code record, es = pre ++ e :: post →
      e.action = .completeSsoAuthorization handoffState session →
      (broker unicode).out ((broker unicode).after pre) e = .ok (.sso (.valid code record)) →
      (∃ record', Completes unicode ((broker unicode).after pre) e e.service handoffState session
        record') ∧ code = randomToken "code" (e.rand.token 0)) ∧
    ∀ pre e post call authenticatedAt result url, es = pre ++ e :: post →
      e.action = .answerCallback call authenticatedAt result →
      (broker unicode).out ((broker unicode).after pre) e = .ok (.callback (.signedIn url)) →
      ∃ c session record, Answers unicode ((broker unicode).after pre) e c session ∧
        Completes unicode ((broker unicode).after pre) e c.service c.callback.handoffState session
          record := by
  refine ⟨fun handoffState pre e post pre' e' post' service service' session session' record record' =>
      completes_once fresh,
    fun pre e post service handoffState session record hes completes => ?_,
    fun pre e post handoffState session code record _ => sso_valid,
    fun pre e post call authenticatedAt result url _ => callback_signedIn⟩
  obtain ⟨b, f, mid, rfl, startedAt, request, hinitiates, hrecord⟩ := completes_initiation completes
  have hsplit : es = b ++ f :: (mid ++ e :: post) := by
    rw [hes]
    simp
  refine ⟨b, f, mid, startedAt, request, rfl, hinitiates, ?_, ?_, ?_, ?_⟩
  · intro b' f' rest startedAt' request' hes' hinitiates'
    obtain ⟨rfl, rfl, -⟩ := initiates_once fresh hes' hsplit hinitiates' hinitiates
    exact ⟨rfl, rfl⟩
  · have hexpires := congrArg PendingSsoState.expiresAt hrecord
    exact le_of_le_of_eq completes.inTime hexpires
  · obtain ⟨code, hstored, rfl⟩ := completes_code completes
    rw [Machine.after_snoc]
    refine ⟨_, hstored, ⟨congrArg PendingSsoState.clientId hrecord,
      congrArg PendingSsoState.redirectUri hrecord, congrArg PendingSsoState.scope hrecord,
      congrArg PendingSsoState.codeChallenge hrecord, ?_⟩, ?_⟩
    · have hmethod := congrArg PendingSsoState.codeChallengeMethod hrecord
      dsimp only [AuthService.authorizationCode, PendingSsoState.request] at hmethod ⊢
      rw [hmethod]
      exact methodOrS256_idem _
    · exact identity_seal _ _ _
  · intro c hanswers
    obtain ⟨rfl, rfl, -, -⟩ : service = c.service ∧ handoffState = c.callback.handoffState ∧
        session = session ∧ record = record := by
      have hattempt := completes.attempt.symm.trans hanswers.attempt
      simp only [Option.some.injEq, Prod.mk.injEq] at hattempt
      exact ⟨hattempt.1, hattempt.2.1, rfl, rfl⟩
    -- The callback's record is of the same initiation as the one the completion found.
    obtain ⟨call, authenticatedAt, result, action, hc, hauth⟩ := hanswers.inFlight
    obtain ⟨p, g, q, hp, -, hreceived, -⟩ := callback_origin hc
    obtain ⟨b', f', mid', rfl, startedAt', request', hinitiates', hrecord'⟩ := pending_origin hreceived
    have hsplit' : es = b' ++ f' :: (mid' ++ g :: (q ++ e :: post)) := by
      rw [hes, hp]
      simp
    obtain ⟨rfl, rfl, rfl, rfl⟩ := initiates_once fresh hsplit' hsplit hinitiates' hinitiates
    have htenant := congrArg PendingSsoState.tenant hrecord'
    have hredirect := congrArg PendingSsoState.redirectUri hrecord'
    have hstate := congrArg PendingSsoState.canvaState hrecord'
    dsimp only [AuthService.pendingSsoState] at htenant hredirect hstate
    refine ⟨?_, ?_⟩
    · rw [← htenant]
      exact tenant_of_authenticateWithSessionKey hauth
    · rw [hanswers.out completes, hredirect, hstate]

/-- An SSO initiation of the sample tenant. -/
def Sample.ssoRequest : SsoRequest :=
  { Sample.request with
    canvaState := "canva-state"
    tenant := Sample.tenant
    correlationId := "correlation"
    initiatorKey := "203.0.113.7" }

/-- An SSO sign-in. -/
def handoffRun : List Event :=
  Sample.run Sample.service
    [("a", 1000, .beginSsoAuthorization 1000 Sample.ssoRequest),
     ("b", 2000, .receiveCallback 0 ⟨true, 0⟩ ⟨"ssostate_a", "session-key", "ada"⟩),
     ("c", 3000, .answerCallback 0 "2026-01-01T00:00:00Z" (.ok (.list [])))]

theorem handoff_yields_one_code_run :
    ∃ code request, ((broker Unicode.ascii).after handoffRun).store.authorizationCodes.get? "code_c" =
      some code ∧ CodeFor code request := by
  have hfresh : Fresh handoffRun := Sample.fresh _ (by decide)
  have hout : (broker Unicode.ascii).out ((broker Unicode.ascii).after (handoffRun.take 2))
      handoffRun[2] = .ok (.callback (.signedIn
        "https://canva.example/return?code=code_c&state=canva-state")) := by decide +kernel
  obtain ⟨-, hcode, -, hcallback⟩ := @handoff_yields_one_code Unicode.ascii handoffRun hfresh
  obtain ⟨c, session, record, -, hcompletes⟩ :=
    hcallback (handoffRun.take 2) handoffRun[2] [] _ _ _ _ rfl rfl hout
  obtain ⟨b, f, mid, startedAt, request, -, -, -, -, ⟨code, hstored, hfor, -⟩, -⟩ :=
    hcode (handoffRun.take 2) handoffRun[2] [] _ _ _ _ rfl hcompletes
  exact ⟨code, request, hstored, hfor⟩

/-- A completion that checks its handoff state in the very millisecond it
    expires, and mints the code in the next one. -/
def lateCompletion : Event where
  service := Sample.service
  clock := ⟨fun i => if i ≤ 2 then 601000 else 601001, fun i => by split_ifs <;> omega⟩
  rand := ⟨fun _ => "b", fun _ => 0⟩
  action := .completeSsoAuthorization "ssostate_a" Sample.session

def lateRun : List Event :=
  Sample.run Sample.service [("a", 1000, .beginSsoAuthorization 1000 Sample.ssoRequest)] ++
    [lateCompletion]

/-- The code may be minted after the handoff state has expired: later than its
    check by as much as the clock moves within the transaction. -/
theorem minted_past_expiry :
    Fresh lateRun ∧ Timed lateRun ∧ ∃ session record code,
      Completes Unicode.ascii ((broker Unicode.ascii).after (lateRun.take 1)) lateRun[1] Sample.service
        "ssostate_a" session record ∧
      ((broker Unicode.ascii).after lateRun).store.authorizationCodes.get? "code_b" = some code ∧
      record.expiresAt < code.expiresAt - Sample.config.oauth.authCodeTtlSeconds * 1000 := by
  refine ⟨?_, ?_, Sample.session,
    Sample.service.pendingSsoState 1000 1000 "ssostate_a" Sample.ssoRequest,
    Sample.service.authorizationCode 601001 lateCompletion.rand Sample.request
      (Sample.service.signInSession Sample.request Sample.session),
    ⟨rfl, by decide +kernel, rfl, by decide⟩, by decide +kernel, by decide⟩
  · simp [Fresh, lateRun, Sample.run, lateCompletion]
  · refine ⟨fun e he i j hij => ?_, ?_⟩
    · simp only [lateRun, Sample.run, List.map_cons, List.map_nil, List.cons_append, List.nil_append,
        List.mem_cons, List.not_mem_nil, or_false] at he
      rcases he with rfl | rfl
      · exact le_refl _
      · dsimp only [Event.now, lateCompletion]
        split_ifs <;> omega
    · simp only [lateRun, Sample.run, List.map_cons, List.map_nil, List.cons_append, List.nil_append,
        List.pairwise_pair]
      intro i j
      dsimp only [Event.now, lateCompletion]
      split_ifs <;> omega

end Broker
