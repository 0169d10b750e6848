import Broker.Lib.Relational
import Broker.Logs
import Broker.Redirects

/-!
# Secrets stay out of the log

The secrets of a sign-in (the state of the client and its code challenge, the username, and the
password or the session key) have no part in what is logged. Two servers that differ in
stored secrets only (`Alike`) are kept so by requests that differ in secrets only
(`SameRequest`), so that they write the same log (`log_noninterference`).
-/

namespace Broker

open Py Runs

/-! ## Stored secrets -/

/-- The record of an initiation without the state of the client and its code challenge. -/
def PendingSsoState.withoutSecrets (record : PendingSsoState) : PendingSsoState :=
  { record with canvaState := "", codeChallenge := none }

/-- The handoff states of a store, without secrets. -/
def publicPending (store : Store) : Dict String PendingSsoState :=
  store.pendingSsoStates.map PendingSsoState.withoutSecrets

/-- Records that differ in secrets only. -/
theorem PendingSsoState.eq_of_withoutSecrets {record record' : PendingSsoState}
    (h : record.withoutSecrets = record'.withoutSecrets) :
    ∃ canvaState codeChallenge, record' = { record with canvaState, codeChallenge } := by
  refine ⟨record'.canvaState, record'.codeChallenge, ?_⟩
  cases record
  cases record'
  simpa [withoutSecrets] using h.symm

theorem publicPending_prune (service : AuthService) (store : Store) (now : ℤ) :
    publicPending (service.prune store now) =
      (publicPending store).filter fun _ r => !decide (r.purgeAt ≤ now) :=
  Dict.map_filter _ fun _ _ => rfl

theorem publicPending_set (store : Store) (key : String) (record : PendingSsoState) :
    publicPending { store with pendingSsoStates := store.pendingSsoStates.set key record } =
      (publicPending store).set key record.withoutSecrets :=
  Dict.map_set _ _ _ _

/-- The mark of a used handoff state tells no secrets. -/
theorem publicPending_mark (store : Store) (key : String) (usedAt : ℤ) :
    publicPending { store with
      pendingSsoStates := store.pendingSsoStates.modify key fun r => { r with usedAt := some usedAt } } =
      (publicPending store).modify key fun r => { r with usedAt := some usedAt } :=
  Dict.map_modify _ _ fun _ => rfl

theorem get?_publicPending (store : Store) (key : String) :
    (publicPending store).get? key =
      (store.pendingSsoStates.get? key).map PendingSsoState.withoutSecrets :=
  Dict.get?_map _ _ _

/-- What tells no secrets counts the same handoff states. -/
theorem count_eq {store store' : Store} (h : publicPending store = publicPending store')
    {p : PendingSsoState → Bool} (hp : ∀ r, p r.withoutSecrets = p r) :
    store.pendingSsoStates.count p = store'.pendingSsoStates.count p := by
  rw [← Dict.count_map _ hp, ← Dict.count_map store'.pendingSsoStates hp]
  exact congrArg (fun pending => pending.count p) h

/-- Handoff states are found in the same way, with records that differ in secrets only. -/
inductive SsoResult.Alike : SsoResult → SsoResult → Prop
  | invalid : Alike invalid invalid
  | replayed {r r' : PendingSsoState} (h : r.withoutSecrets = r'.withoutSecrets) :
    Alike (replayed r) (replayed r')
  | expired {r r' : PendingSsoState} (h : r.withoutSecrets = r'.withoutSecrets) :
    Alike (expired r) (expired r')
  | active {r r' : PendingSsoState} (h : r.withoutSecrets = r'.withoutSecrets) :
    Alike (active r) (active r')
  | valid {code : String} {r r' : PendingSsoState} (h : r.withoutSecrets = r'.withoutSecrets) :
    Alike (valid code r) (valid code r')

theorem classifyPendingSsoRecord_alike {record record' : Option PendingSsoState}
    (h : record.map PendingSsoState.withoutSecrets = record'.map PendingSsoState.withoutSecrets)
    (now : ℤ) :
    (AuthService.classifyPendingSsoRecord now record).Alike
      (AuthService.classifyPendingSsoRecord now record') := by
  cases record with
  | none =>
    rw [Option.map_eq_none_iff.1 h.symm]
    exact .invalid
  | some r =>
    obtain ⟨r', rfl, hr⟩ := Option.map_eq_some_iff.1 h.symm
    obtain ⟨canvaState, codeChallenge, rfl⟩ := PendingSsoState.eq_of_withoutSecrets hr.symm
    rw [AuthService.classifyPendingSsoRecord, AuthService.classifyPendingSsoRecord]
    split_ifs
    · exact .replayed rfl
    · exact .expired rfl
    · exact .active rfl

theorem inspectPendingSsoState_alike {store store' : Store}
    (h : publicPending store = publicPending store') (now : ℤ) (handoffState : String) :
    (AuthService.inspectPendingSsoState now store handoffState).Alike
      (AuthService.inspectPendingSsoState now store' handoffState) := by
  refine classifyPendingSsoRecord_alike ?_ now
  rw [← get?_publicPending, ← get?_publicPending, h]

/-! ## Transactions -/

/-- From stores that differ in secrets only, the transactions answer in related ways and leave such
    stores. -/
def KeepsSecrets {α : Type} (related : Except PyError α → Except PyError α → Prop)
    (updater updater' : Updater α) : Prop :=
  ∀ store store', publicPending store = publicPending store' →
    related (update updater store).1 (update updater' store').1 ∧
      publicPending (update updater store).2 = publicPending (update updater' store').2

theorem publicPending_prune_eq (service : AuthService) {store store' : Store}
    (h : publicPending store = publicPending store') (now : ℤ) :
    publicPending (service.prune store now) = publicPending (service.prune store' now) := by
  rw [publicPending_prune, publicPending_prune, h]

/-- A code is minted whatever it is for. -/
theorem publicPending_mint (service : AuthService) (now : ℕ → ℤ) (rand : Rand) (store : Store)
    (request : AuthorizationRequest) (session : Session) :
    publicPending (service.mintAuthorizationCode now rand store request session).2 =
      publicPending (service.prune store (now 0)) := rfl

theorem beginAuthorization_keepsSecrets (service : AuthService) (now : ℕ → ℤ) (rand : Rand)
    (request request' : AuthorizationRequest) (session session' : Session) :
    KeepsSecrets (fun outcome outcome' => ∃ code, outcome = .ok code ∧ outcome' = .ok code)
      (service.beginAuthorizationUpdater now rand request session)
      (service.beginAuthorizationUpdater now rand request' session') :=
  fun _ _ h => ⟨⟨_, rfl, rfl⟩, publicPending_prune_eq service h (now 0)⟩

/-- Initiations that differ in secrets only. -/
def SsoRequest.Alike (request request' : SsoRequest) : Prop :=
  ∃ canvaState codeChallenge, request' = { request with canvaState, codeChallenge }

theorem beginSsoAuthorization_keepsSecrets (service : AuthService) (startedAt : ℤ) (now : ℕ → ℤ)
    (rand : Rand) {request request' : SsoRequest} (alike : request.Alike request') :
    KeepsSecrets Eq (service.beginSsoAuthorizationUpdater startedAt now rand request)
      (service.beginSsoAuthorizationUpdater startedAt now rand request') := by
  obtain ⟨canvaState, codeChallenge, rfl⟩ := alike
  intro store store' h
  have hpruned := publicPending_prune_eq service h (now 0)
  -- The two limits count states by what is public of them.
  have hsource : AuthService.outstandingForSource (service.prune store (now 0)) request.initiatorKey
      (now 1) = AuthService.outstandingForSource (service.prune store' (now 0)) request.initiatorKey
      (now 1) := count_eq hpruned fun _ => rfl
  have hactive : AuthService.activePending (service.prune store (now 0)) (now 1) =
      AuthService.activePending (service.prune store' (now 0)) (now 1) := count_eq hpruned fun _ => rfl
  rw [update, update, AuthService.beginSsoAuthorizationUpdater,
    AuthService.beginSsoAuthorizationUpdater]
  dsimp only
  rw [hsource, hactive]
  cases maxPendingSsoStatesPerSource service.config with
  | error e => exact ⟨rfl, h⟩
  | ok perSourceLimit =>
    dsimp only
    split_ifs
    · exact ⟨rfl, h⟩
    · exact ⟨rfl, h⟩
    · refine ⟨rfl, ?_⟩
      dsimp only
      rw [publicPending_set, publicPending_set, hpruned]
      rfl

theorem completeSsoAuthorization_keepsSecrets (service : AuthService) (now : ℕ → ℤ) (rand : Rand)
    (handoffState : String) (session session' : Session) :
    KeepsSecrets
      (fun outcome outcome' => ∃ result result', outcome = .ok result ∧ outcome' = .ok result' ∧
        result.Alike result')
      (service.completeSsoAuthorizationUpdater now rand handoffState session)
      (service.completeSsoAuthorizationUpdater now rand handoffState session') := by
  intro store store' h
  have hpruned := publicPending_prune_eq service h (now 0)
  have hfound := inspectPendingSsoState_alike hpruned (now 1) handoffState
  rw [update, update, AuthService.completeSsoAuthorizationUpdater,
    AuthService.completeSsoAuthorizationUpdater]
  dsimp only
  rw [AuthService.inspectPendingSsoState, AuthService.inspectPendingSsoState] at hfound
  generalize AuthService.classifyPendingSsoRecord (now 1)
    ((service.prune store (now 0)).pendingSsoStates.get? handoffState) = found at hfound
  generalize AuthService.classifyPendingSsoRecord (now 1)
    ((service.prune store' (now 0)).pendingSsoStates.get? handoffState) = found' at hfound
  cases hfound with
  | invalid => exact ⟨⟨_, _, rfl, rfl, .invalid⟩, hpruned⟩
  | replayed hr => exact ⟨⟨_, _, rfl, rfl, .replayed hr⟩, hpruned⟩
  | expired hr => exact ⟨⟨_, _, rfl, rfl, .expired hr⟩, hpruned⟩
  | valid hr => exact ⟨⟨_, _, rfl, rfl, .valid hr⟩, hpruned⟩
  | active hr =>
    -- Both states are marked, and a code is minted for either.
    obtain ⟨canvaState, codeChallenge, rfl⟩ := PendingSsoState.eq_of_withoutSecrets hr
    refine ⟨⟨_, _, rfl, rfl, .valid rfl⟩, ?_⟩
    dsimp only
    rw [publicPending_mark, publicPending_mark, publicPending_mint, publicPending_mint,
      publicPending_prune_eq service hpruned]

/-! ## Servers -/

/-- Servers with the same rate limits and the same log, whose stores differ in secrets only. Of the
    first store, `p` is known. -/
structure Server.Alike (p : Store → Prop) (s t : Server) : Prop where
  buckets : s.buckets = t.buckets
  log : s.log = t.log
  pending : publicPending s.store = publicPending t.store
  known : p s.store

theorem Server.Alike.emit {p : Store → Prop} {s t : Server} (h : s.Alike p t) (around : Surroundings)
    (level message : String) (context : List (String × LogValue)) :
    (s.emit around level message context).Alike p (t.emit around level message context) where
  buckets := h.buckets
  log := by rw [Server.emit, Server.emit, h.log]
  pending := h.pending
  known := h.known

/-- Nothing is known of a store. -/
abbrev Unknown : Store → Prop := fun _ => True

theorem Server.Alike.unknown {p : Store → Prop} {s t : Server} (h : s.Alike p t) : s.Alike Unknown t :=
  ⟨h.buckets, h.log, h.pending, trivial⟩

/-- On servers that are alike, the handlers answer in related ways or raise the same, and leave such
    servers. -/
def Agrees {α β : Type} (p q : Store → Prop) (related : α → β → Prop) (x : Handler α) (y : Handler β) :
    Prop :=
  Relational.Agree (Server.Alike p) x y (fun a b s t => related a b ∧ s.Alike q t) (Server.Alike Unknown)

namespace Agrees

variable {α β γ δ : Type} {p q r : Store → Prop} {related : α → β → Prop} {related' : γ → δ → Prop}

theorem pure {a : α} {b : β} (h : related a b) : Agrees p p related (Pure.pure a) (Pure.pure b) :=
  Relational.Agree.pure fun _ _ hs => ⟨h, hs⟩

theorem throw (raised : Raised) :
    Agrees p q related (MonadExcept.throw raised : Handler α) (MonadExcept.throw raised : Handler β) :=
  Relational.Agree.throw fun _ _ hs => hs.unknown

theorem bind {x : Handler α} {y : Handler β} {f : α → Handler γ} {g : β → Handler δ}
    (h : Agrees p q related x y) (hf : ∀ a b, related a b → Agrees q r related' (f a) (g b)) :
    Agrees p r related' (x >>= f) (y >>= g) :=
  Relational.Agree.bind h fun a b s t hab => hf a b hab.1 s t hab.2

/-- What is known of the store may be forgotten. -/
theorem forget {x : Handler α} {y : Handler β} (h : Agrees Unknown q related x y) :
    Agrees p q related x y :=
  Relational.Agree.mono h (fun _ _ hs => hs.unknown) fun _ _ _ _ => id

end Agrees

section Handlers

variable {site : LoggedSite} {around : Surroundings} {p : Store → Prop}

theorem agrees_info (message : String) (context : List (String × LogValue)) :
    Agrees p p Eq (info around message context) (info around message context) :=
  Relational.Agree.modifyGet fun _ _ h => ⟨rfl, h.emit around _ _ _⟩

theorem agrees_consumeRate (key : String) :
    Agrees p p Eq (consumeRate site around key) (consumeRate site around key) :=
  Relational.Agree.modifyGet fun _ _ h => {
    left := by rw [h.buckets]
    right := {
      buckets := by
        dsimp only
        rw [h.buckets]
      log := h.log
      pending := h.pending
      known := h.known } }

theorem agrees_transact {α : Type} {related : Except PyError α → Except PyError α → Prop}
    {updater updater' : Updater α} (keeps : KeepsSecrets related updater updater') :
    Agrees Unknown Unknown related (transact updater) (transact updater') :=
  Relational.Agree.modifyGet fun _ _ h => {
    left := (keeps _ _ h.pending).1
    right := ⟨h.buckets, h.log, (keeps _ _ h.pending).2, trivial⟩ }

/-- An answer is logged. -/
theorem agrees_logged (message : String) (context : List (String × LogValue))
    (response response' : CallbackResponse) :
    Agrees p p (fun _ _ => True) (logged around message context response)
      (logged around message context response') :=
  (agrees_info message context).bind fun _ _ _ => .pure trivial

/-! ## Sign-ins -/

/-- The fields of the sign-in form that hold secrets. -/
def secretFields : List String := ["state", "code_challenge", "username", "password"]

/-- The sign-ins end alike: with a session, with the same error code, or with the same exception. -/
inductive SameOutcome : Except Raised Session → Except Raised Session → Prop
  | ok (session session' : Session) : SameOutcome (.ok session) (.ok session')
  | refused {e e' : ResourceSpaceError} (code : e.code = e'.code) (text text' : String) :
    SameOutcome (.error ⟨.resourceSpaceError e, text⟩) (.error ⟨.resourceSpaceError e', text'⟩)
  | raised (raised : Raised) : SameOutcome (.error raised) (.error raised)

/-- Authorisation requests past their checks that differ in secrets only. -/
structure AuthorizeCall.Alike (call call' : AuthorizeCall) : Prop where
  request : ∃ codeChallenge, call'.request = { call.request with codeChallenge }
  field : ∀ key, key ∉ secretFields → call'.body.field key = call.body.field key

theorem agrees_postPassword {call call' : AuthorizeCall} (alike : call.Alike call')
    {upstream upstream' : Except Raised Session} (same : SameOutcome upstream upstream') :
    Agrees Unknown Unknown (fun _ _ => True) (postPassword site around call upstream)
      (postPassword site around call' upstream') := by
  have htenant := alike.field "tenant_url" (by decide)
  obtain ⟨codeChallenge, hrequest⟩ := alike.request
  -- A refusal is logged by its code alone.
  cases same with
  | refused code text text' => exact .pure trivial
  | raised raised => exact .pure trivial
  | ok session session' =>
    refine (agrees_transact (beginAuthorization_keepsSecrets _ _ _ _ _ _ _)).bind
      fun outcome outcome' h => ?_
    obtain ⟨code, rfl, rfl⟩ := h
    dsimp only
    rw [htenant]
    cases hostOf site.unicode (if "://".toList <:+: (call.body.field "tenant_url").toList then
      call.body.field "tenant_url" else "//" ++ call.body.field "tenant_url") with
    | none => exact .pure trivial
    | some tenantHost =>
      dsimp only
      rw [hrequest]
      exact (agrees_info _ _).bind fun _ _ _ => .pure trivial

/-- The initiations fail or are answered in the same way, or go on with requests that differ in
    secrets only. -/
inductive Begun : Except PyError (HttpResponse ⊕ SsoRequest) → Except PyError (HttpResponse ⊕ SsoRequest) →
    Prop
  | failed (error : PyError) : Begun (.error error) (.error error)
  | answered (response : HttpResponse) : Begun (.ok (.inl response)) (.ok (.inl response))
  | initiated {request request' : SsoRequest} (alike : request.Alike request') :
    Begun (.ok (.inr request)) (.ok (.inr request'))

theorem beginSsoAuthorize_begun {call call' : AuthorizeCall} (alike : call.Alike call')
    (unicode : Unicode) (rawHost : List Char → Option (List Char))
    (getaddrinfo : List Char → Option (List (List Char))) (config : RouteConfig)
    (request : HttpRequest) (correlationId : String) :
    Begun (beginSsoAuthorize unicode rawHost getaddrinfo config request correlationId call)
      (beginSsoAuthorize unicode rawHost getaddrinfo config request correlationId call') := by
  obtain ⟨codeChallenge, hrequest⟩ := alike.request
  rw [beginSsoAuthorize, beginSsoAuthorize, alike.field "tenant_url" (by decide), hrequest]
  split_ifs
  · exact .answered _
  · dsimp only
    split
    · exact .failed _
    · split_ifs
      · exact .answered _
      · split
        · exact .answered _
        · split_ifs
          · exact .answered _
          · exact .initiated ⟨_, _, rfl⟩

/-- What is visible of an initiation. -/
theorem SsoRequest.Alike.visible {request request' : SsoRequest} (alike : request.Alike request')
    (unicode : Unicode) (config : RouteConfig) :
    (∀ outcome, handoffResponse unicode config request outcome =
      handoffResponse unicode config request' outcome) ∧
      request.tenant = request'.tenant ∧ request.clientId = request'.clientId := by
  obtain ⟨canvaState, codeChallenge, rfl⟩ := alike
  refine ⟨fun outcome => ?_, rfl, rfl⟩
  rcases outcome with (_ | _) | _ <;> rfl

theorem agrees_postSsoInitiation {call call' : AuthorizeCall} (alike : call.Alike call') :
    Agrees Unknown Unknown (fun _ _ => True) (postSsoInitiation site around call)
      (postSsoInitiation site around call') := by
  have hbegun := beginSsoAuthorize_begun alike site.unicode site.rawHost around.getaddrinfo site.config
    around.request around.correlationId
  rw [postSsoInitiation, postSsoInitiation, alike.field "tenant_url" (by decide)]
  generalize beginSsoAuthorize _ _ _ _ _ _ call = begun at hbegun ⊢
  generalize beginSsoAuthorize _ _ _ _ _ _ call' = begun' at hbegun ⊢
  cases hbegun with
  | failed error => exact .throw _
  | answered response => exact .pure trivial
  -- The requests differ in their secrets only, and what is logged reads neither.
  | @initiated request request' hsso =>
    refine (agrees_transact (beginSsoAuthorization_keepsSecrets _ _ _ _ hsso)).bind ?_
    rintro outcome _ rfl
    obtain ⟨hhandoff, htenant, hclient⟩ := hsso.visible site.unicode site.config
    rw [← htenant, ← hclient]
    cases outcome with
    | error error =>
      dsimp only
      rw [← hhandoff]
      cases handoffResponse site.unicode site.config request (.error error) with
      | error e => exact .throw _
      | ok response => exact .pure trivial
    | ok handoffState =>
      dsimp only
      cases hostOf site.unicode request.tenant.baseUrl with
      | none => exact .throw _
      | some tenantHost =>
        refine (agrees_info _ _).bind fun _ _ _ => ?_
        rw [← hhandoff]
        cases handoffResponse site.unicode site.config request (.ok handoffState) with
        | error e => exact .throw _
        | ok response => exact .pure trivial

/-! ## Authorisation -/

/-- Forms that differ in secrets only: states and code challenges that are accepted, and credentials. -/
structure SameForm (form form' : Form) : Prop where
  field : ∀ key, key ∉ secretFields → form'.field key = form.field key
  state : form.field "state" ≠ "" ∧ (form.field "state").length ≤ maxStateLen
  state' : form'.field "state" ≠ "" ∧ (form'.field "state").length ≤ maxStateLen
  codeChallenge : isValidS256CodeChallenge (form.field "code_challenge") = true
  codeChallenge' : isValidS256CodeChallenge (form'.field "code_challenge") = true

/-- The checks have the same answer, or go on with calls that differ in secrets only. -/
inductive Checked : HttpResponse ⊕ AuthorizeCall → HttpResponse ⊕ AuthorizeCall → Prop
  | answered (response : HttpResponse) : Checked (.inl response) (.inl response)
  | passed {call call' : AuthorizeCall} (alike : call.Alike call') : Checked (.inr call) (.inr call')

/-- A form with a state is posted by a client, and not for a manual test. -/
theorem not_shouldUseManualTestMode {form : Form} (h : form.field "state" ≠ "") (config : RouteConfig) :
    shouldUseManualTestMode config form = false := by
  rw [shouldUseManualTestMode, Bool.and_eq_false_iff, List.all_eq_false]
  exact .inr ⟨"state", by decide, by simpa using h⟩

/-- A valid code challenge is within its bound. -/
theorem codeChallenge_accepted {challenge : String} (h : isValidS256CodeChallenge challenge = true) :
    challenge ≠ "" ∧ challenge.length ≤ maxCodeChallengeLen := by
  rw [isValidS256CodeChallenge, Bool.and_eq_true, Bool.and_eq_true, decide_eq_true_eq] at h
  have hlength : challenge.length = 43 := h.1.1
  constructor
  · rintro rfl
    cases hlength
  · rw [hlength]
    decide

theorem oauthAuthorizePost_checked {form form' : Form} (same : SameForm form form')
    (config : RouteConfig) (rate : RateLimitResult) :
    Checked (oauthAuthorizePost config rate form) (oauthAuthorizePost config rate form') := by
  obtain ⟨hchallenge, hbound⟩ := codeChallenge_accepted same.codeChallenge
  obtain ⟨hchallenge', hbound'⟩ := codeChallenge_accepted same.codeChallenge'
  rw [oauthAuthorizePost, oauthAuthorizePost, not_shouldUseManualTestMode same.state.1,
    not_shouldUseManualTestMode same.state'.1]
  -- What is checked of the secrets holds in both forms.
  simp only [Bool.false_eq_true, if_false, eq_false same.state.1, eq_false same.state'.1,
    eq_false (not_lt.2 same.state.2), eq_false (not_lt.2 same.state'.2), eq_false hchallenge,
    eq_false hchallenge', eq_false (not_lt.2 hbound), eq_false (not_lt.2 hbound'), gt_iff_lt,
    same.codeChallenge, same.codeChallenge', same.field "client_id" (by decide),
    same.field "redirect_uri" (by decide), same.field "response_type" (by decide),
    same.field "scope" (by decide), same.field "code_challenge_method" (by decide),
    same.field "tenant_url" (by decide)]
  generalize (if form.field "scope" = "" then "openid dam:read" else form.field "scope") = scope
  generalize (if form.field "code_challenge_method" = "" then "S256"
    else form.field "code_challenge_method") = method
  split_ifs
  · exact .answered _
  · exact .answered _
  · exact .answered _
  · exact .answered _
  · exact .answered _
  · exact .answered _
  · exact .answered _
  · exact .passed ⟨⟨_, rfl⟩, same.field⟩

theorem agrees_postAuthorise {form form' : Form} (same : SameForm form form')
    {upstream upstream' : Except Raised Session} (outcome : SameOutcome upstream upstream') :
    Agrees Unknown Unknown (fun _ _ => True) (postAuthorise site around form upstream)
      (postAuthorise site around form' upstream') := by
  refine (agrees_consumeRate _).bind ?_
  rintro rate _ rfl
  have hchecked := oauthAuthorizePost_checked same site.config rate
  generalize oauthAuthorizePost site.config rate form = checked at hchecked ⊢
  generalize oauthAuthorizePost site.config rate form' = checked' at hchecked ⊢
  cases hchecked with
  | answered response => exact .pure trivial
  | @passed call call' alike =>
    have hsso : call'.isSso site.unicode = call.isSso site.unicode := by
      rw [AuthorizeCall.isSso, AuthorizeCall.isSso, alike.field "auth_method" (by decide)]
    dsimp only
    rw [hsso]
    split_ifs
    · exact agrees_postSsoInitiation alike
    · exact agrees_postPassword alike outcome

/-! ## Callbacks -/

/-- Whether a query can be appended depends on the URL only. -/
theorem appendQuery_cases (unicode : Unicode) (url : String) (params params' : List (String × String)) :
    (∃ error, appendQuery unicode url params = .error error ∧
      appendQuery unicode url params' = .error error) ∨
    ∃ target target', appendQuery unicode url params = .ok target ∧
      appendQuery unicode url params' = .ok target' := by
  rw [appendQuery, appendQuery]
  cases Url.urlparse unicode url with
  | none => exact .inl ⟨_, rfl, rfl⟩
  | some parsed => exact .inr ⟨_, _, rfl, rfl⟩

/-- Callbacks for the same handoff state that differ in credentials only. -/
structure SameCallback (form form' : CallbackForm) : Prop where
  handoffState : form'.handoffState = form.handoffState
  username : form.username ≠ ""
  username' : form'.username ≠ ""
  sessionKey : form.sessionKey ≠ ""
  sessionKey' : form'.sessionKey ≠ ""

theorem agrees_postCompletion {form form' : CallbackForm} (same : SameCallback form form')
    {record record' : PendingSsoState} (alike : record.withoutSecrets = record'.withoutSecrets)
    (tenantHost : String) (session session' : Session) :
    Agrees Unknown Unknown (fun _ _ => True)
      (postCompletion site around form record tenantHost session)
      (postCompletion site around form' record' tenantHost session') := by
  obtain ⟨canvaState, codeChallenge, rfl⟩ := PendingSsoState.eq_of_withoutSecrets alike
  rw [postCompletion, postCompletion, same.handoffState]
  refine (agrees_transact (completeSsoAuthorization_keepsSecrets _ _ _ _ _ _)).bind ?_
  rintro _ _ ⟨result, result', rfl, rfl, hresult⟩
  cases hresult with
  | invalid => exact agrees_logged _ _ _ _
  | replayed => exact agrees_logged _ _ _ _
  | expired => exact agrees_logged _ _ _ _
  | active => exact agrees_logged _ _ _ _
  | @valid code =>
    dsimp only
    -- Whether the redirect can be built does not depend on the state it carries.
    obtain ⟨error, herror, herror'⟩ | ⟨target, target', htarget, htarget'⟩ :=
      appendQuery_cases site.unicode record.redirectUri [("code", code), ("state", record.canvaState)]
        [("code", code), ("state", canvaState)]
    · rw [herror, herror']
      exact .throw _
    · rw [htarget, htarget', decide_eq_true same.username, decide_eq_true same.username']
      exact (agrees_info _ _).bind fun _ _ _ => agrees_logged _ _ _ _

theorem agrees_postValidation {form form' : CallbackForm} (same : SameCallback form form')
    {answer answer' : SessionKeyAnswer} {record record' : PendingSsoState}
    (alike : record.withoutSecrets = record'.withoutSecrets)
    (outcome : SameOutcome (answer.outcome site record.tenant form)
      (answer'.outcome site record.tenant form')) :
    Agrees Unknown Unknown (fun _ _ => True) (postValidation site around form answer record)
      (postValidation site around form' answer' record') := by
  obtain ⟨canvaState, codeChallenge, rfl⟩ := PendingSsoState.eq_of_withoutSecrets alike
  rw [postValidation, postValidation]
  dsimp only
  cases hostOf site.unicode record.tenant.baseUrl with
  | none => exact .throw _
  | some tenantHost =>
    dsimp only
    rw [if_neg same.username, if_neg same.username', if_neg same.sessionKey, if_neg same.sessionKey']
    generalize answer.outcome site record.tenant form = result at outcome ⊢
    generalize answer'.outcome site record.tenant form' = result' at outcome ⊢
    cases outcome with
    | ok session session' => exact agrees_postCompletion same alike tenantHost session session'
    | refused code text text' =>
      dsimp only
      rw [code]
      exact agrees_logged _ _ _ _
    | raised raised =>
      obtain ⟨error, text⟩ := raised
      cases error with
      | resourceSpaceError e => exact agrees_logged _ _ _ _
      | _ => exact .throw _

/-- A handoff state is looked up. -/
theorem agrees_inspection (now : ℤ) (handoffState : String) (store : Store) :
    Agrees (fun known => known = store) Unknown
      (fun found found' => found.Alike found' ∧
        found = AuthService.inspectPendingSsoState now store handoffState)
      (modifyGet fun s => (AuthService.inspectPendingSsoState now s.store handoffState, s))
      (modifyGet fun s => (AuthService.inspectPendingSsoState now s.store handoffState, s)) :=
  Relational.Agree.modifyGet fun _ _ h =>
    ⟨⟨inspectPendingSsoState_alike h.pending now handoffState, by rw [h.known]⟩, h.unknown⟩

theorem agrees_postInspection {form form' : CallbackForm} (same : SameCallback form form')
    {answer answer' : SessionKeyAnswer} {store : Store}
    (outcome : ∀ record,
      AuthService.inspectPendingSsoState (around.now 0) store form.handoffState = .active record →
      SameOutcome (answer.outcome site record.tenant form) (answer'.outcome site record.tenant form')) :
    Agrees (fun known => known = store) Unknown (fun _ _ => True)
      (postInspection site around form answer) (postInspection site around form' answer') := by
  rw [postInspection, postInspection, same.handoffState]
  split_ifs
  · exact .forget (agrees_logged _ _ _ _)
  · refine (agrees_inspection _ _ store).bind ?_
    rintro found found' ⟨halike, hfound⟩
    -- A page for a state that is not active shows what is public of it.
    cases halike with
    | invalid => exact agrees_logged _ _ _ _
    | @replayed r r' hr =>
      obtain ⟨_, _, rfl⟩ := PendingSsoState.eq_of_withoutSecrets hr
      exact agrees_logged _ _ _ _
    | @expired r r' hr =>
      obtain ⟨_, _, rfl⟩ := PendingSsoState.eq_of_withoutSecrets hr
      exact agrees_logged _ _ _ _
    | @valid _ r r' hr =>
      obtain ⟨_, _, rfl⟩ := PendingSsoState.eq_of_withoutSecrets hr
      exact agrees_logged _ _ _ _
    | active hr => exact agrees_postValidation same hr (outcome _ hfound.symm)

theorem agrees_postSsoCallback {form form' : CallbackForm} (same : SameCallback form form')
    {answer answer' : SessionKeyAnswer} {store : Store}
    (outcome : ∀ record,
      AuthService.inspectPendingSsoState (around.now 0) store form.handoffState = .active record →
      SameOutcome (answer.outcome site record.tenant form) (answer'.outcome site record.tenant form')) :
    Agrees (fun known => known = store) Unknown (fun _ _ => True)
      (postSsoCallback site around form answer) (postSsoCallback site around form' answer') := by
  rw [postSsoCallback, postSsoCallback]
  split_ifs
  · exact .forget (.pure trivial)
  · refine (agrees_info _ _).bind fun _ _ _ => (agrees_consumeRate _).bind ?_
    rintro rate _ rfl
    split_ifs
    · exact .forget (.pure trivial)
    · exact agrees_postInspection same outcome

end Handlers

/-! ## Runs -/

/-- Requests that differ in secrets only, and whose sign-ins end alike. A callback is for a tenant if
    its handoff state is found active. -/
inductive SameRequest (site : LoggedSite) (s : Server) : SignInRequest → SignInRequest → Prop
  | authorise {path : String} {around : Surroundings} {form form' : Form}
    {upstream upstream' : Except Raised Session} (same : SameForm form form')
    (outcome : SameOutcome upstream upstream') :
    SameRequest site s (.authorise path around form upstream) (.authorise path around form' upstream')
  | ssoCallback {around : Surroundings} {form form' : CallbackForm} {answer answer' : SessionKeyAnswer}
    (same : SameCallback form form')
    (outcome : ∀ record,
      AuthService.inspectPendingSsoState (around.now 0) s.store form.handoffState = .active record →
      SameOutcome (answer.outcome site record.tenant form) (answer'.outcome site record.tenant form')) :
    SameRequest site s (.ssoCallback around form answer) (.ssoCallback around form' answer')

/-- The handlers of the requests agree on servers that are alike. -/
theorem SameRequest.agrees {site : LoggedSite} {s : Server} {r r' : SignInRequest}
    (h : SameRequest site s r r') :
    Agrees (fun known => known = s.store) Unknown (fun _ _ => True) (r.handler site)
      (r'.handler site) := by
  cases h with
  | authorise same outcome => exact .forget (agrees_postAuthorise same outcome)
  | ssoCallback same outcome => exact agrees_postSsoCallback same outcome

theorem SameRequest.next {site : LoggedSite} {s t : Server} (alike : s.Alike Unknown t)
    {r r' : SignInRequest} (h : SameRequest site s r r') :
    ((signInServer site).next s r).Alike Unknown ((signInServer site).next t r') := by
  have hhandled := h.agrees s t ⟨alike.buckets, alike.log, alike.pending, rfl⟩
  have haround : r'.around = r.around ∧ r'.path = r.path := by
    cases h <;> exact ⟨rfl, rfl⟩
  change (r.serve site s).2.Alike Unknown (r'.serve site t).2
  rw [SignInRequest.serve, SignInRequest.serve]
  generalize (r.handler site).run s = handled at hhandled ⊢
  generalize (r'.handler site).run t = handled' at hhandled ⊢
  cases hhandled with
  | ok h => exact h.2
  | error h =>
    dsimp only
    rw [haround.1, haround.2]
    exact h.emit _ _ _ _

namespace Sample

end Sample

end Broker
