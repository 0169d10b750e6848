import Broker.Phases

/-!
# Callbacks that fail

Why a callback fails because of its handoff state is told by its reason, except
when the state expires between its inspection and its completion, which is
reported as unknown (`callback_reason_iff`).

A callback that does not sign in leaves the store as it was, but for prunings,
and the sign-in can be tried again; one that does adds one code and marks its
handoff state. The exceptions are URLs that do not parse: the base URL of the
tenant makes every callback raise, and the redirect URI is used only after the
sign-in is completed (`callback_atomic_iff`).
-/

namespace Broker

open Py Runs

variable {unicode : Unicode}

/-! ## Reasons -/

/-- The reasons that are due to the handoff state. -/
def stateFailures : List CallbackResponse :=
  [.stateInvalid, .stateExpired, .stateReplay]

variable (unicode) in
/-- The event decides, at the time `t`, on the handoff state of a callback: at its
    inspection, or at its completion once the session key has been validated. -/
inductive Decides (w : World) (e : Event) (k : String) : (t : ℤ) → Prop
  | received {call : ℕ} {rate : RateLimitResult} {form : CallbackForm}
    (action : e.action = .receiveCallback call rate form) (key : form.handoffState = k) :
    Decides w e k (e.now 0)
  | answered {c : CallbackCall} {session : Session} (answers : Answers unicode w e c session)
    (key : c.callback.handoffState = k) : Decides w e k (e.now 1)

/-- The reason says what is wrong with the handoff state, given the record stored
    before the decision at `t`. -/
structure ExactReason (stored : Option PendingSsoState) (t : ℤ) (response : CallbackResponse) :
    Prop where
  replay : ∀ r, stored = some r → t < r.purgeAt → truthyMs r.usedAt = true →
    response = .stateReplay
  expired : ∀ r, stored = some r → t < r.purgeAt → truthyMs r.usedAt = false → r.expiresAt < t →
    response = .stateExpired
  invalid : response = .stateInvalid → ∀ r, stored = some r → r.purgeAt ≤ t

theorem ExactReason.of_none (t : ℤ) (response : CallbackResponse) : ExactReason none t response where
  replay _ h := by cases h
  expired _ h := by cases h
  invalid _ _ h := by cases h

theorem ExactReason.of_used {r : PendingSsoState} (used : truthyMs r.usedAt = true) (t : ℤ) :
    ExactReason (some r) t .stateReplay where
  replay _ _ _ _ := rfl
  expired r' h _ unused _ := by
    rw [← Option.some.inj h, used] at unused
    cases unused
  invalid h := absurd h (by decide)

/-- The handoff state is completed by a callback after it has expired. -/
def ExpiredMeanwhile (w : World) (e : Event) (k : String) : Prop :=
  (∃ call authenticatedAt result, e.action = .answerCallback call authenticatedAt result) ∧
    ∃ r, w.store.pendingSsoStates.get? k = some r ∧ truthyMs r.usedAt = false ∧
      r.expiresAt < e.now 1 ∧ e.now 1 < r.purgeAt

/-- A callback whose session key is validated answers what its completion finds. -/
theorem Answers.sees {w : World} {e : Event} {c : CallbackCall} {session : Session}
    (h : Answers unicode w e c session) :
    ∃ a, Sees unicode w e c.callback.handoffState a ∧
      (update (c.service.completeSsoAuthorizationUpdater e.now e.rand c.callback.handoffState session)
        w.store).1 = .ok a ∧
      (broker unicode).out w e = (answerCallback unicode c.callback a).map .callback := by
  obtain ⟨call, authenticatedAt, result, action, hc, hauth⟩ := h.inFlight
  have hout : (broker unicode).out w e =
      ((update (c.service.completeSsoAuthorizationUpdater e.now e.rand c.callback.handoffState session)
        w.store).1.bind (answerCallback unicode c.callback)).map .callback := by
    change (w.step unicode e).1 = _
    rw [World.step, action]
    dsimp only
    rw [hc]
    dsimp only [World.answerCallback]
    rw [hauth]
  have houtcome := c.service.complete_outcome e.now e.rand w.store c.callback.handoffState session
  have hsees : ∀ a, (update (c.service.completeSsoAuthorizationUpdater e.now e.rand
      c.callback.handoffState session) w.store).1 = .ok a →
      Sees unicode w e c.callback.handoffState a := fun a ha => .completed h.attempt ha
  rw [hout]
  generalize update (c.service.completeSsoAuthorizationUpdater e.now e.rand c.callback.handoffState
    session) w.store = outcome at houtcome hsees ⊢
  cases houtcome with
  | refused _ => exact ⟨_, hsees _ rfl, rfl, rfl⟩
  | completed _ _ _ => exact ⟨_, hsees _ rfl, rfl, rfl⟩

/-- A completion that finds the handoff state active is valid. -/
theorem valid_of_complete {service : AuthService} {now : ℕ → ℤ} {rand : Rand} {k : String}
    {session : Session} {s : Store} {a : SsoResult}
    (h : (update (service.completeSsoAuthorizationUpdater now rand k session) s).1 = .ok a)
    (active : a.isActive = true) : ∃ code record, a = .valid code record := by
  unfold update AuthService.completeSsoAuthorizationUpdater at h
  dsimp only at h
  cases hclass : AuthService.classifyPendingSsoRecord (now 1)
      ((service.prune s (now 0)).pendingSsoStates.get? k) with
  | active record =>
    rw [hclass] at h
    exact ⟨_, _, (Except.ok.inj h).symm⟩
  | valid code record => exact absurd hclass (AuthService.classify_ne_valid _ _ _ _)
  | consumed record =>
    cases hstored : (service.prune s (now 0)).pendingSsoStates.get? k with
    | none =>
      rw [hstored] at hclass
      cases hclass
    | some r =>
      rw [hstored] at hclass
      unfold AuthService.classifyPendingSsoRecord at hclass
      dsimp only at hclass
      split_ifs at hclass
  | _ =>
    rw [hclass] at h
    rw [← Except.ok.inj h] at active
    cases active

/-- A callback at its inspection. -/
theorem received_out {w : World} {e : Event} {call : ℕ} {rate : RateLimitResult} {form : CallbackForm}
    (action : e.action = .receiveCallback call rate form) {response : CallbackResponse}
    (h : (broker unicode).out w e = .ok (.callback response)) :
    receiveCallback unicode e.service.config rate form
      (AuthService.inspectPendingSsoState (e.now 0) w.store form.handoffState) =
        .ok (.inl response) := by
  change (w.step unicode e).1 = _ at h
  rw [World.step, action] at h
  dsimp only at h
  split at h
  · cases h
  · rename_i response' hresponse
    cases h
    exact hresponse
  · cases h

/-- What a callback that fails at its inspection, because of its handoff state,
    has found. -/
theorem reason_of_receiveCallback {config : AppConfig} {rate : RateLimitResult} {form : CallbackForm}
    {o : Option PendingSsoState} {t : ℤ} {response : CallbackResponse}
    (h : receiveCallback unicode config rate form (AuthService.classifyPendingSsoRecord t o) =
      .ok (.inl response))
    (failure : response ∈ stateFailures) :
    form.handoffState = "" ∨ o = none ∨ ∃ r, o = some r ∧
      (truthyMs r.usedAt = true ∧ response = .stateReplay ∨
        truthyMs r.usedAt = false ∧ r.expiresAt < t ∧ response = .stateExpired) := by
  have herror : ∀ status code message retryAfter,
      CallbackResponse.error status code message retryAfter ∉ stateFailures := by
    simp [stateFailures, CallbackResponse.stateInvalid, CallbackResponse.stateExpired,
      CallbackResponse.stateReplay, CallbackResponse.failed]
  have husername : CallbackResponse.missingUsername ∉ stateFailures := by decide
  have hkey : CallbackResponse.missingSessionKey ∉ stateFailures := by decide
  unfold receiveCallback at h
  -- The checks of the route, in its order.
  by_cases hsso : (!config.resourceSpace.ssoEnabled) = true
  · rw [if_pos hsso] at h
    cases h
    exact absurd failure (herror _ _ _ _)
  by_cases hrate : (!rate.allowed) = true
  · rw [if_neg hsso, if_pos hrate] at h
    cases h
    exact absurd failure (herror _ _ _ _)
  by_cases hempty : form.handoffState = ""
  · exact .inl hempty
  rw [if_neg hsso, if_neg hrate, if_neg hempty] at h
  cases o with
  | none => exact .inr (.inl rfl)
  | some r =>
    refine .inr (.inr ⟨r, rfl, ?_⟩)
    unfold AuthService.classifyPendingSsoRecord at h
    dsimp only at h
    by_cases hused : truthyMs r.usedAt = true
    · rw [if_pos hused] at h
      cases h
      exact .inl ⟨hused, rfl⟩
    by_cases hlate : t > r.expiresAt
    · rw [if_neg hused, if_pos hlate] at h
      cases h
      exact .inr ⟨Bool.not_eq_true _ ▸ hused, hlate, rfl⟩
    rw [if_neg hused, if_neg hlate] at h
    dsimp only at h
    -- A base URL that does not parse raises; else the form is checked.
    cases hhost : hostOf unicode r.tenant.baseUrl with
    | none =>
      rw [hhost] at h
      cases h
    | some host =>
      rw [hhost] at h
      have hreceive := Except.ok.inj h
      unfold Callback.receive at hreceive
      split_ifs at hreceive
      · cases hreceive
        exact absurd failure husername
      · cases hreceive
        exact absurd failure hkey

/-- No handoff state has the empty key. -/
theorem pending_empty (es : List Event) :
    ((broker unicode).after es).store.pendingSsoStates.get? "" = none := by
  by_contra h
  obtain ⟨e, -, i, hi⟩ := (pending_born unicode).drawn h
  have hlist := congrArg String.toList hi
  simp [randomToken] at hlist

/-- The reason of a callback that fails because of its handoff state is exact,
    unless the state is completed after it has expired. -/
theorem callback_reason_iff (unicode : Unicode) (es : List Event) (timed : Timed es) :
    ∀ pre e post k t response, es = pre ++ e :: post →
      Decides unicode ((broker unicode).after pre) e k t →
      (broker unicode).out ((broker unicode).after pre) e = .ok (.callback response) →
      response ∈ stateFailures →
      (ExactReason (((broker unicode).after pre).store.pendingSsoStates.get? k) t response ↔
        ¬ExpiredMeanwhile ((broker unicode).after pre) e k) := by
  rintro pre e post k t response rfl decides hout hfailure
  have hwithin := timed.1 e (by simp) 0 1 (Nat.zero_le 1)
  have hcases : response = .stateInvalid ∨ response = .stateExpired ∨ response = .stateReplay := by
    simpa [stateFailures] using hfailure
  cases decides with
  | @received _ _ form action key =>
    subst key
    have hno : ¬ExpiredMeanwhile ((broker unicode).after pre) e form.handoffState := by
      rintro ⟨⟨_, _, _, action'⟩, -⟩
      exact Action.noConfusion (action.symm.trans action')
    refine iff_of_true ?_ hno
    have hreceived := received_out action hout
    rw [AuthService.inspectPendingSsoState] at hreceived
    rcases reason_of_receiveCallback hreceived hfailure with
      hempty | hnone | ⟨r, hstored, ⟨hused, rfl⟩ | ⟨hunused, hlate, rfl⟩⟩
    · rw [hempty, pending_empty]
      exact .of_none _ _
    · rw [hnone]
      exact .of_none _ _
    · rw [hstored]
      exact .of_used hused _
    · rw [hstored]
      refine ⟨fun r' hr' _ hused => ?_, fun _ _ _ _ _ => rfl, fun h => absurd h (by decide)⟩
      rw [← Option.some.inj hr', hunused] at hused
      cases hused
  | @answered c _ answers key =>
    subst key
    obtain ⟨call, authenticatedAt, result, action, -, -⟩ := answers.inFlight
    obtain ⟨a, hsees, hcompleted, hanswer⟩ := answers.sees
    rw [hanswer] at hout
    cases hsees.finding with
    | missing purged _ =>
      obtain rfl : response = .stateInvalid := by
        cases hout
        rfl
      refine iff_of_true ⟨fun r hr hlt _ => ?_, fun r hr hlt _ _ => ?_, fun _ r hr => ?_⟩ ?_
      · have hpurge := purged r hr
        omega
      · have hpurge := purged r hr
        omega
      · exact (purged r hr).trans hwithin
      · rintro ⟨-, r, hr, -, -, hlt⟩
        have hpurge := purged r hr
        omega
    | @used r stored used =>
      obtain rfl : response = .stateReplay := by
        cases hout
        rfl
      have hno : ¬ExpiredMeanwhile ((broker unicode).after pre) e c.callback.handoffState := by
        rintro ⟨-, r', hr', hunused, -⟩
        rw [← Option.some.inj (stored.symm.trans hr'), used] at hunused
        cases hunused
      rw [stored]
      exact iff_of_true (.of_used used _) hno
    | @late r stored unused i first late =>
      obtain rfl : response = .stateInvalid := by
        cases hout
        rfl
      have hlate := late.trans_le (timed.1 e (by simp) i 1 first)
      constructor
      · rintro exact ⟨-, r', hr', -, -, hlt⟩
        have hpurge := exact.invalid rfl r' hr'
        omega
      · intro hno
        rw [stored]
        have hpurge : r.purgeAt ≤ e.now 1 :=
          not_lt.1 fun hlt => hno ⟨⟨_, _, _, action⟩, r, stored, unused, hlate, hlt⟩
        refine ⟨fun r' hr' _ hused => ?_, fun r' hr' hlt _ _ => ?_, fun _ r' hr' => ?_⟩
        · rw [← Option.some.inj hr', unused] at hused
          cases hused
        · rw [← Option.some.inj hr'] at hlt
          omega
        · rwa [← Option.some.inj hr']
    | @active _ _ open' _ _ _ _ _ _ =>
      -- A completion answers with a redirect, or raises.
      obtain ⟨code, record, rfl⟩ := valid_of_complete hcompleted open'
      have hsigned : ∃ url, response = .signedIn url := by
        dsimp only [answerCallback] at hout
        cases hurl : appendQuery unicode c.callback.record.redirectUri
            [("code", code), ("state", c.callback.record.canvaState)] with
        | error error =>
          rw [hurl] at hout
          cases hout
        | ok url =>
          rw [hurl] at hout
          cases hout
          exact ⟨url, rfl⟩
      obtain ⟨url, rfl⟩ := hsigned
      rcases hcases with h | h | h <;> cases h

/-- A callback that comes after its handoff state has expired. -/
def expiredRun : List Event :=
  Sample.run Sample.service
    [("a", 1000, .beginSsoAuthorization 1000 Sample.ssoRequest),
     ("b", 700000, .receiveCallback 0 ⟨true, 0⟩ ⟨"ssostate_a", "session-key", "ada"⟩)]

theorem callback_reason_iff_expired :
    (broker Unicode.ascii).out ((broker Unicode.ascii).after (expiredRun.take 1)) expiredRun[1] =
        .ok (.callback .stateExpired) ∧
      ExactReason (((broker Unicode.ascii).after (expiredRun.take 1)).store.pendingSsoStates.get?
        "ssostate_a") 700000 .stateExpired := by
  have hout : (broker Unicode.ascii).out ((broker Unicode.ascii).after (expiredRun.take 1))
      expiredRun[1] = .ok (.callback .stateExpired) := by decide +kernel
  refine ⟨hout, (callback_reason_iff Unicode.ascii expiredRun (Sample.timed _ (by decide))
    (expiredRun.take 1) expiredRun[1] [] "ssostate_a" 700000 .stateExpired rfl (.received rfl rfl) hout
    (by decide)).2 ?_⟩
  rintro ⟨⟨_, _, _, action⟩, -⟩
  cases action

/-- A callback that inspects its handoff state in the millisecond it expires, and
    completes it a second later. -/
def lateCallbackRun : List Event :=
  Sample.run Sample.service
    [("a", 1000, .beginSsoAuthorization 1000 Sample.ssoRequest),
     ("b", 601000, .receiveCallback 0 ⟨true, 0⟩ ⟨"ssostate_a", "session-key", "ada"⟩),
     ("c", 602000, .answerCallback 0 "2026-01-01T00:00:00Z" (.ok (.list [])))]

/-- The handoff state is known, unused and past its expiry, and reported as unknown. -/
theorem expired_reported_invalid :
    Timed lateCallbackRun ∧
      Decides Unicode.ascii ((broker Unicode.ascii).after (lateCallbackRun.take 2)) lateCallbackRun[2]
        "ssostate_a" 602000 ∧
      (broker Unicode.ascii).out ((broker Unicode.ascii).after (lateCallbackRun.take 2))
        lateCallbackRun[2] = .ok (.callback .stateInvalid) ∧
      ¬ExactReason (((broker Unicode.ascii).after (lateCallbackRun.take 2)).store.pendingSsoStates.get?
        "ssostate_a") 602000 .stateInvalid := by
  have hcallback : (((broker Unicode.ascii).after (lateCallbackRun.take 2)).callbacks.get? 0).map
      CallbackCall.callback = some ⟨"ssostate_a",
        Sample.service.pendingSsoState 1000 1000 "ssostate_a" Sample.ssoRequest, "session-key", "ada"⟩ := by
    decide +kernel
  obtain ⟨⟨service, callback⟩, hcall, rfl⟩ := Option.map_eq_some_iff.1 hcallback
  obtain ⟨f, hf, hservice⟩ := Occurs.exists_mem (callback_origin hcall) fun _ _ h => h.1
  obtain ⟨_, _, rfl⟩ := List.mem_map.1 (List.mem_of_mem_take hf)
  obtain rfl : service = Sample.service := hservice
  have hauth : authenticateWithSessionKey Unicode.ascii Sample.config "2026-01-01T00:00:00Z"
      Sample.tenant "session-key" "ada" (.ok (.list [])) = .ok _ := rfl
  refine ⟨Sample.timed _ (by decide), .answered ⟨0, _, _, rfl, hcall, hauth⟩ rfl, by decide +kernel,
    fun exact => ?_⟩
  have hstored : ((broker Unicode.ascii).after (lateCallbackRun.take 2)).store.pendingSsoStates.get?
      "ssostate_a" = some (Sample.service.pendingSsoState 1000 1000 "ssostate_a" Sample.ssoRequest) := by
    decide +kernel
  rw [hstored] at exact
  exact absurd (exact.expired _ rfl (by decide) rfl (by decide)) (by decide)

/-! ## Effects -/

namespace CallbackResponse

def statusCode : CallbackResponse → ℤ
  | error statusCode _ _ _ => statusCode
  | sso statusCode _ _ _ => statusCode

end CallbackResponse

variable (unicode) in
/-- The event answers 200. -/
def Succeeds (w : World) (e : Event) : Prop :=
  ∃ response, (broker unicode).out w e = .ok (.callback response) ∧ response.statusCode = 200

/-- The event is a part of a callback for the handoff state. -/
inductive CallbackFor (w : World) (e : Event) : (k : String) → Prop
  | received {call : ℕ} {rate : RateLimitResult} {form : CallbackForm}
    (action : e.action = .receiveCallback call rate form) : CallbackFor w e form.handoffState
  | answered {call : ℕ} {authenticatedAt : String} {result : Except PyError Json} {c : CallbackCall}
    (action : e.action = .answerCallback call authenticatedAt result)
    (inFlight : w.callbacks.get? call = some c) : CallbackFor w e c.callback.handoffState

/-- What may be left of a stored value: itself, or nothing if it is over. -/
def Left {α : Type} (gone : α → Prop) (o o' : Option α) : Prop :=
  o' = o ∨ o' = none ∧ ∃ r, o = some r ∧ gone r

/-- The codes and handoff states are as they were, but for a pruning at `t`. -/
structure OnlyPruned (s s' : Store) (t : ℤ) : Prop where
  codes : ∀ k, Left (fun r => r.expiresAt ≤ t) (s.authorizationCodes.get? k)
    (s'.authorizationCodes.get? k)
  pending : ∀ k, Left (fun r => r.purgeAt ≤ t) (s.pendingSsoStates.get? k)
    (s'.pendingSsoStates.get? k)

/-- One code is added and the handoff state marked, and the rest is as it was but
    for a pruning at `t`. -/
structure SignsIn (s s' : Store) (k : String) (t : ℤ) : Prop where
  code : ∃ code, s.authorizationCodes.get? code = none ∧ s'.authorizationCodes.get? code ≠ none ∧
    ∀ k', k' ≠ code → Left (fun r => r.expiresAt ≤ t) (s.authorizationCodes.get? k')
      (s'.authorizationCodes.get? k')
  marked : ∃ r, s.pendingSsoStates.get? k = some r ∧ truthyMs r.usedAt = false ∧
    s'.pendingSsoStates.get? k = some { r with usedAt := some t }
  others : ∀ k', k' ≠ k → Left (fun r => r.purgeAt ≤ t) (s.pendingSsoStates.get? k')
    (s'.pendingSsoStates.get? k')

variable (unicode) in
/-- The events leave the handoff state alone: none uses it, or draws its key. -/
def Untouched (es : List Event) (k : String) (mid : List Event) : Prop :=
  ∀ l f l', mid = l ++ f :: l' → (∀ i, k ≠ randomToken "ssostate" (f.rand.token i)) ∧
    ∀ a, Sees unicode ((broker unicode).after (es ++ l)) f k a → a.uses = false

variable (unicode) in
/-- A later callback signs in with the record, unless it expires or is used: a
    valid form is received, and a valid session key completes the sign-in. -/
structure Retryable (es : List Event) (k : String) (r : PendingSsoState) : Prop where
  received : ∀ mid f call rate form, Untouched unicode es k mid → Timed (mid ++ [f]) →
    f.action = .receiveCallback call rate form → form.handoffState = k →
    f.service.config.resourceSpace.ssoEnabled = true → rate.allowed = true →
    form.username ≠ "" → form.sessionKey ≠ "" → f.now 0 ≤ r.expiresAt → f.now 0 < r.purgeAt →
    ((broker unicode).next ((broker unicode).after (es ++ mid)) f).callbacks.get? call =
      some ⟨f.service, ⟨k, r, form.sessionKey, form.username⟩⟩
  answered : ∀ mid g c session, Untouched unicode es k mid → Timed (mid ++ [g]) →
    Answers unicode ((broker unicode).after (es ++ mid)) g c session →
    c.callback.handoffState = k → c.callback.record = r →
    g.now 1 ≤ r.expiresAt → g.now 1 < r.purgeAt →
    Succeeds unicode ((broker unicode).after (es ++ mid)) g

variable (unicode) in
/-- The URLs that a callback for the record reads parse. -/
structure PendingSsoState.UrlsParse (r : PendingSsoState) : Prop where
  baseUrl : (Url.urlparse unicode r.tenant.baseUrl).isSome = true
  redirectUri : (Url.urlparse unicode r.redirectUri).isSome = true

variable (unicode) in
/-- A callback that fails, at the time `t`, leaves the sign-in retryable; one that
    answers 200 signs in. -/
structure CallbackAtomic (pre : List Event) (e : Event) (k : String) (t : ℤ) : Prop where
  failed : ¬Succeeds unicode ((broker unicode).after pre) e →
    OnlyPruned ((broker unicode).after pre).store ((broker unicode).after (pre ++ [e])).store t ∧
      ∀ r, ((broker unicode).after pre).store.pendingSsoStates.get? k = some r →
        truthyMs r.usedAt = false → t ≤ r.expiresAt → t < r.purgeAt →
        Retryable unicode (pre ++ [e]) k r
  succeeds : Succeeds unicode ((broker unicode).after pre) e →
    SignsIn ((broker unicode).after pre).store ((broker unicode).after (pre ++ [e])).store k t

/-! ## What is left -/

theorem Left.refl {α : Type} (gone : α → Prop) (o : Option α) : Left gone o o := .inl rfl

theorem Left.of_filter {α : Type} {gone : α → Prop} {p : α → Bool} (h : ∀ r, p r = false → gone r)
    (o : Option α) : Left gone o (o.filter p) := by
  cases o with
  | none => exact .inl rfl
  | some r =>
    rw [Option.filter_some]
    split_ifs with hp
    · exact .inl rfl
    · exact .inr ⟨rfl, r, rfl, h r (Bool.not_eq_true _ ▸ hp)⟩

/-- Nothing is left of nothing. -/
theorem Left.none_left {α : Type} {gone : α → Prop} {o : Option α} (h : Left gone none o) : o = none := by
  rcases h with h | ⟨h, -⟩
  · exact h
  · exact h

theorem OnlyPruned.refl (s : Store) (t : ℤ) : OnlyPruned s s t where
  codes _ := .refl _ _
  pending _ := .refl _ _

theorem OnlyPruned.prune (service : AuthService) (s : Store) (t : ℤ) :
    OnlyPruned s (service.prune s t) t where
  codes k := by
    rw [AuthService.get?_authorizationCodes_prune]
    exact .of_filter (by simp [AuthorizationCode.expired]) _
  pending k := by
    rw [AuthService.get?_pendingSsoStates_prune]
    exact .of_filter (by simp) _

/-- A completion adds the code it mints and marks its handoff state. -/
theorem signsIn_of_completes {pre : List Event} {e : Event} {service : AuthService} {k : String}
    {session : Session} {record : PendingSsoState} {t : ℤ} (fresh : Fresh (pre ++ [e]))
    (clock : ∀ i, e.now i = t)
    (h : Completes unicode ((broker unicode).after pre) e service k session record) :
    SignsIn ((broker unicode).after pre).store ((broker unicode).after (pre ++ [e])).store k t := by
  have hfound := h.found
  rw [AuthService.get?_pendingSsoStates_prune, Option.filter_eq_some_iff] at hfound
  obtain ⟨hstored, hpurge⟩ := hfound
  rw [Machine.after_snoc, completion_next h.attempt, completes_update h]
  dsimp only [AuthService.mintAuthorizationCode, AuthService.authorizationCode]
  simp only [clock] at hpurge ⊢
  refine ⟨⟨randomToken "code" (e.rand.token 0), ?_, ?_, fun k' hk' => ?_⟩, ⟨record, hstored, h.unused, ?_⟩,
    fun k' hk' => ?_⟩
  · by_contra hold
    exact fresh.not_drawn 0 ((codes_born unicode).drawn hold)
  · rw [Dict.get?_set_self]
    exact Option.some_ne_none _
  · rw [Dict.get?_set, if_neg hk', AuthService.get?_authorizationCodes_prune,
      AuthService.get?_authorizationCodes_prune, Option.filter_filter]
    exact .of_filter (by simp [AuthorizationCode.expired]) _
  · rw [Dict.get?_modify, if_pos rfl, AuthService.get?_pendingSsoStates_prune,
      AuthService.get?_pendingSsoStates_prune, hstored, Option.filter_some, if_pos hpurge,
      Option.filter_some, if_pos hpurge]
    rfl
  · rw [Dict.get?_modify, if_neg hk', AuthService.get?_pendingSsoStates_prune,
      AuthService.get?_pendingSsoStates_prune, Option.filter_filter]
    exact .of_filter (by simp) _

/-! ## Answers -/

/-- No callback answers 200 before it calls ResourceSpace. -/
theorem received_statusCode {config : AppConfig} {rate : RateLimitResult} {form : CallbackForm}
    {inspected : SsoResult} {response : CallbackResponse}
    (h : receiveCallback unicode config rate form inspected = .ok (.inl response)) :
    response.statusCode ≠ 200 := by
  unfold receiveCallback Callback.receive at h
  cases inspected with
  | active record =>
    dsimp only at h
    cases hhost : hostOf unicode record.tenant.baseUrl with
    | none =>
      rw [hhost] at h
      split_ifs at h <;> cases h <;> exact ne_of_beq_false rfl
    | some host =>
      rw [hhost] at h
      split_ifs at h <;> cases h <;> exact ne_of_beq_false rfl
  | _ =>
    dsimp only at h
    split_ifs at h <;> cases h <;> exact ne_of_beq_false rfl

theorem validationFailure_statusCode {error : PyError} {response : CallbackResponse}
    (h : validationFailure error = .ok response) : response.statusCode ≠ 200 := by
  cases error with
  | resourceSpaceError e =>
    cases h
    dsimp only [CallbackResponse.validationFailed, CallbackResponse.failed, CallbackResponse.statusCode]
    split_ifs <;> decide
  | _ => cases h

theorem appendQuery_isOk (url : String) (params : List (String × String)) :
    (∃ target, appendQuery unicode url params = .ok target) ↔ (Url.urlparse unicode url).isSome = true := by
  rw [appendQuery]
  cases Url.urlparse unicode url with
  | none => simp
  | some parsed => simp

/-- A callback that completes its handoff state answers 200 if its redirect URI parses. -/
theorem Answers.succeeds_iff {w : World} {e : Event} {c : CallbackCall} {session : Session}
    {record : PendingSsoState} (h : Answers unicode w e c session)
    (completes : Completes unicode w e c.service c.callback.handoffState session record) :
    Succeeds unicode w e ↔ (Url.urlparse unicode c.callback.record.redirectUri).isSome = true := by
  rw [Succeeds, h.out completes, ← appendQuery_isOk _
    [("code", randomToken "code" (e.rand.token 0)), ("state", c.callback.record.canvaState)]]
  cases appendQuery unicode c.callback.record.redirectUri
      [("code", randomToken "code" (e.rand.token 0)), ("state", c.callback.record.canvaState)] with
  | error error => simp [Except.map]
  | ok url =>
    simp only [Except.map, Except.ok.injEq, Answer.callback.injEq, exists_eq', iff_true]
    exact ⟨_, rfl, rfl⟩

variable (unicode) in
/-- What a part of a callback does: it fails and leaves the store, or prunes it,
    or it completes the handoff state. -/
inductive CallbackEffect (w : World) (e : Event) (k : String) : Prop
  | failed (pruned : OnlyPruned w.store ((broker unicode).next w e).store (e.now 0))
    (kept : ∀ r, w.store.pendingSsoStates.get? k = some r → e.now 0 < r.purgeAt →
      ((broker unicode).next w e).store.pendingSsoStates.get? k = some r)
    (fails : ¬Succeeds unicode w e)
  | completed {c : CallbackCall} {session : Session} {record : PendingSsoState}
    (answers : Answers unicode w e c session) (key : c.callback.handoffState = k)
    (completes : Completes unicode w e c.service c.callback.handoffState session record)

theorem CallbackFor.effect {w : World} {e : Event} {k : String} (h : CallbackFor w e k) :
    CallbackEffect unicode w e k := by
  cases h with
  | @received call rate form action =>
    -- The route only inspects the state before it calls ResourceSpace.
    have hnext : ((broker unicode).next w e).store = w.store :=
      inspected_next "" (.inr ⟨_, _, _, action⟩)
    refine .failed (hnext ▸ .refl _ _) (fun r hr _ => hnext ▸ hr) ?_
    rintro ⟨response, hout, hstatus⟩
    exact received_statusCode (received_out action hout) hstatus
  | @answered call authenticatedAt result c action hc =>
    cases hauth : authenticateWithSessionKey unicode c.service.config authenticatedAt
        c.callback.record.tenant c.callback.sessionKey c.callback.username result with
    | error error =>
      -- ResourceSpace did not accept the session key: nothing is written.
      have hstep : w.step unicode e =
          ((validationFailure error).map .callback, { w with callbacks := w.callbacks.erase call }) := by
        rw [World.step, action]
        dsimp only
        rw [hc]
        dsimp only [World.answerCallback]
        rw [hauth]
      have hnext : ((broker unicode).next w e).store = w.store := by
        change (w.step unicode e).2.store = _
        rw [hstep]
      refine .failed (hnext ▸ .refl _ _) (fun r hr _ => hnext ▸ hr) ?_
      rintro ⟨response, hout, hstatus⟩
      change (w.step unicode e).1 = _ at hout
      rw [hstep] at hout
      cases hfailure : validationFailure error with
      | error e => rw [hfailure] at hout; cases hout
      | ok response' =>
        rw [hfailure] at hout
        cases hout
        exact validationFailure_statusCode hfailure hstatus
    | ok session =>
      -- The sign-in goes through: what is written is up to the transaction that completes it.
      have hanswers : Answers unicode w e c session := ⟨_, _, _, action, hc, hauth⟩
      obtain ⟨a, -, hanswer, hout⟩ := hanswers.sees
      have hnext := completion_next hanswers.attempt
      have houtcome := c.service.complete_outcome e.now e.rand w.store c.callback.handoffState session
      generalize update (c.service.completeSsoAuthorizationUpdater e.now e.rand c.callback.handoffState
        session) w.store = outcome at houtcome hanswer hnext
      cases houtcome with
      | @refused a notValid =>
        cases hanswer
        dsimp only at hnext
        refine .failed (hnext ▸ .prune _ _ _) (fun r hr hpurge => ?_) ?_
        · rw [hnext, AuthService.get?_pendingSsoStates_prune, hr, Option.filter_some, if_pos]
          simpa using hpurge
        · rintro ⟨response, hresponse, hstatus⟩
          rw [hout] at hresponse
          cases a with
          | valid code record => exact notValid code record rfl
          | _ =>
            cases hresponse
            cases hstatus
      | completed found unused inTime =>
        exact .completed hanswers rfl ⟨hanswers.attempt, found, unused, inTime⟩

/-! ## Retries -/

/-- A handoff state that is left alone stays as it is until it may be purged. -/
theorem Untouched.stored {es : List Event} {k : String} {r : PendingSsoState}
    (stored : ((broker unicode).after es).store.pendingSsoStates.get? k = some r)
    (unused : truthyMs r.usedAt = false) {mid : List Event} (alone : Untouched unicode es k mid)
    (early : ∀ f ∈ mid, ∀ i, f.now i < r.purgeAt) :
    ((broker unicode).after (es ++ mid)).store.pendingSsoStates.get? k = some r := by
  induction mid using List.reverseRecOn with
  | nil => rwa [List.append_nil]
  | append_singleton mid f ih =>
    have hbefore := ih (fun l g l' hl => alone l g (l' ++ [f]) (by simp [hl]))
      fun g hg => early g (List.mem_append_left _ hg)
    obtain ⟨hkey, hsees⟩ := alone mid f [] rfl
    have hearly := early f (by simp)
    rw [← List.append_assoc, Machine.after_snoc]
    have hstep := pending_step unicode ((broker unicode).after (es ++ mid)) f k
    rw [hbefore] at hstep
    generalize hafter : ((broker unicode).next ((broker unicode).after (es ++ mid)) f).store.pendingSsoStates.get? k = o
      at hstep ⊢
    cases hstep with
    | same => rfl
    | dropped i why => exact absurd why (not_le.2 (hearly i))
    | used i _ =>
      obtain ⟨⟨a, ha, huses⟩, -⟩ := marked hbefore unused hafter (truthyMs_now f i) (hkey 0)
      rw [hsees a ha] at huses
      cases huses
    | admitted _ key => exact absurd key (hkey 0)

/-- The events before one that comes in time come in time. -/
theorem Timed.early {mid : List Event} {g : Event} (h : Timed (mid ++ [g])) {i : ℕ} {t : ℤ}
    (early : g.now i < t) : ∀ f ∈ mid, ∀ j, f.now j < t :=
  fun f hf j => ((List.pairwise_append.1 h.2).2.2 f hf g (by simp) j i).trans_lt early

/-- A callback with a username and a session key goes on with the record it finds active. -/
theorem receives_next {w : World} {f : Event} {call : ℕ} {rate : RateLimitResult} {form : CallbackForm}
    {r : PendingSsoState} (action : f.action = .receiveCallback call rate form)
    (enabled : f.service.config.resourceSpace.ssoEnabled = true) (allowed : rate.allowed = true)
    (key : form.handoffState ≠ "") (username : form.username ≠ "") (sessionKey : form.sessionKey ≠ "")
    (stored : w.store.pendingSsoStates.get? form.handoffState = some r)
    (unused : truthyMs r.usedAt = false) (inTime : f.now 0 ≤ r.expiresAt)
    (parses : (Url.urlparse unicode r.tenant.baseUrl).isSome = true) :
    ((broker unicode).next w f).callbacks.get? call =
      some ⟨f.service, ⟨form.handoffState, r, form.sessionKey, form.username⟩⟩ := by
  have hreceive : receiveCallback unicode f.service.config rate form
      (AuthService.inspectPendingSsoState (f.now 0) w.store form.handoffState) =
      .ok (.inr ⟨form.handoffState, r, form.sessionKey, form.username⟩) := by
    rw [← hostOf_isSome, Option.isSome_iff_exists] at parses
    obtain ⟨host, hhost⟩ := parses
    rw [AuthService.inspectPendingSsoState, stored, AuthService.classify_eq_active_iff.2 ⟨rfl, unused, inTime⟩,
      receiveCallback, if_neg (by simp [enabled]), if_neg (by simp [allowed]), if_neg key]
    rw [hhost, Callback.receive, if_neg username, if_neg sessionKey]
  change (w.step unicode f).2.callbacks.get? call = _
  rw [World.step, action]
  dsimp only
  rw [hreceive]
  exact Dict.get?_set_self _ _ _

/-- An inspection uses nothing. -/
theorem classify_uses (t : ℤ) (o : Option PendingSsoState) :
    (AuthService.classifyPendingSsoRecord t o).uses = false := by
  unfold AuthService.classifyPendingSsoRecord
  cases o with
  | none => rfl
  | some r =>
    dsimp only
    split_ifs
    · rfl
    · rfl
    · rfl

/-- A service that accepts any session key. -/
theorem sample_authenticates (unicode : Unicode) (authenticatedAt : String) (tenant : Tenant) :
    ∃ session, authenticateWithSessionKey unicode Sample.config authenticatedAt tenant "session-key"
      "ada" (.ok (.list [])) = .ok session := by
  rw [authenticateWithSessionKey, if_neg (by decide), if_neg (by decide), if_neg (by decide)]
  exact ⟨_, rfl⟩

/-- A sign-in can be tried again with an active record if its URLs parse. -/
theorem retryable_iff {es : List Event} {k : String} {r : PendingSsoState} {t : ℤ}
    (stored : ((broker unicode).after es).store.pendingSsoStates.get? k = some r)
    (unused : truthyMs r.usedAt = false) (pos : 0 < t) (inTime : t ≤ r.expiresAt)
    (early : t < r.purgeAt) :
    Retryable unicode es k r ↔ r.UrlsParse unicode := by
  have hkey : k ≠ "" := by
    rintro rfl
    rw [pending_empty] at stored
    cases stored
  have completes : ∀ {mid : List Event} {g : Event} {c : CallbackCall} {session : Session},
      Untouched unicode es k mid → Timed (mid ++ [g]) →
      Answers unicode ((broker unicode).after (es ++ mid)) g c session → c.callback.handoffState = k →
      g.now 1 ≤ r.expiresAt → g.now 1 < r.purgeAt →
      Completes unicode ((broker unicode).after (es ++ mid)) g c.service c.callback.handoffState session r := by
    intro mid g c session alone timed answers key hinTime hearly
    refine ⟨answers.attempt, ?_, unused, hinTime⟩
    rw [key, AuthService.get?_pendingSsoStates_prune, alone.stored stored unused (timed.early hearly),
      Option.filter_some, if_pos]
    simpa using (timed.1 g (by simp) 0 1 (Nat.zero_le 1)).trans_lt hearly
  constructor
  · intro retryable
    -- A retry at `t`, whose service accepts any session key.
    obtain ⟨x, hx⟩ : ∃ x : String, k ≠ randomToken "ssostate" x := by
      by_contra h
      push Not at h
      have hab := (h "a").symm.trans (h "b")
      revert hab
      decide
    let event (action : Action) : Event :=
      { service := Sample.service, action, clock := ⟨fun _ => t, fun _ => pos⟩
        rand := ⟨fun _ => x, fun _ => 0⟩ }
    let f := event (.receiveCallback 0 ⟨true, 0⟩ ⟨k, "session-key", "ada"⟩)
    let g := event (.answerCallback 0 "" (.ok (.list [])))
    have hreceived := retryable.received [] f 0 ⟨true, 0⟩ ⟨k, "session-key", "ada"⟩ (by
      intro l f l' h
      simp at h) ⟨by simp [f, event, Event.now], by simp⟩ rfl rfl rfl rfl (show "ada" ≠ "" by decide)
        (show "session-key" ≠ "" by decide) inTime early
    have halone : Untouched unicode es k [f] := by
      intro l f' l' h
      obtain ⟨rfl, h⟩ | ⟨_, rfl, h⟩ := List.cons_eq_append_iff.1 h
      · obtain ⟨rfl, -⟩ := List.cons.inj h
        refine ⟨fun _ => hx, fun a ha => ?_⟩
        cases ha with
        | inspected _ => exact classify_uses _ _
        | received _ _ => exact classify_uses _ _
        | completed attempt _ => cases attempt
        | consumed action _ => cases action
      · simp at h
    rw [List.append_nil, ← Machine.after_snoc] at hreceived
    obtain ⟨_, _, _, -, -, -, hbaseUrl⟩ := callback_origin hreceived
    obtain ⟨session, hauth⟩ := sample_authenticates unicode "" r.tenant
    have hanswers : Answers unicode ((broker unicode).after (es ++ [f])) g
        ⟨Sample.service, ⟨k, r, "session-key", "ada"⟩⟩ session :=
      ⟨0, "", .ok (.list []), rfl, hreceived, hauth⟩
    have htimed : Timed ([f] ++ [g]) := ⟨by simp [f, g, event, Event.now], by simp [f, g, event, Event.now]⟩
    have hsucceeds := retryable.answered [f] g _ session halone htimed hanswers rfl rfl inTime early
    exact ⟨hbaseUrl, (hanswers.succeeds_iff (completes halone htimed hanswers rfl inTime early)).1 hsucceeds⟩
  · intro parses
    constructor
    · rintro mid f call rate form alone timed action rfl enabled allowed username sessionKey hinTime hearly
      exact receives_next action enabled allowed hkey username sessionKey
        (alone.stored stored unused (timed.early hearly)) unused hinTime parses.baseUrl
    · intro mid g c session alone timed answers key record hinTime hearly
      refine (answers.succeeds_iff (completes alone timed answers key hinTime hearly)).2 ?_
      rw [record]
      exact parses.redirectUri

/-- A callback is atomic unless a URL of an active handoff state does not parse. -/
theorem callback_atomic_iff (unicode : Unicode) (pre : List Event) (e : Event) (k : String) (t : ℤ)
    (fresh : Fresh (pre ++ [e])) (clock : ∀ i, e.now i = t)
    (callback : CallbackFor ((broker unicode).after pre) e k) :
    CallbackAtomic unicode pre e k t ↔
      ∀ r, ((broker unicode).after pre).store.pendingSsoStates.get? k = some r →
        truthyMs r.usedAt = false → t ≤ r.expiresAt → t < r.purgeAt → r.UrlsParse unicode := by
  have hpos : 0 < t := clock 0 ▸ e.clock.pos 0
  have heffect : CallbackEffect unicode ((broker unicode).after pre) e k := callback.effect
  cases heffect with
  | failed pruned kept fails =>
    rw [clock] at pruned
    -- A failed callback leaves the state as it was, and it can be retried if its
    -- URLs parse.
    have hretry : ∀ r, ((broker unicode).after pre).store.pendingSsoStates.get? k = some r →
        truthyMs r.usedAt = false → t ≤ r.expiresAt → t < r.purgeAt →
        (Retryable unicode (pre ++ [e]) k r ↔ r.UrlsParse unicode) := by
      intro r hr hunused hinTime hearly
      refine retryable_iff ?_ hunused hpos hinTime hearly
      rw [Machine.after_snoc]
      exact kept r hr (by rwa [clock])
    constructor
    · intro h r hr hunused hinTime hearly
      exact (hretry r hr hunused hinTime hearly).1 ((h.failed fails).2 r hr hunused hinTime hearly)
    · intro h
      refine ⟨fun _ => ⟨?_, fun r hr hunused hinTime hearly => ?_⟩, fun succeeds => absurd succeeds fails⟩
      · rwa [Machine.after_snoc]
      · exact (hretry r hr hunused hinTime hearly).2 (h r hr hunused hinTime hearly)
  | @completed c session record answers key completes =>
    subst key
    have hstored := AuthService.pendingSsoStates_of_prune completes.found
    have hearly : t < record.purgeAt := by
      have hfound := completes.found
      rw [AuthService.get?_pendingSsoStates_prune, Option.filter_eq_some_iff, clock] at hfound
      simpa using hfound.2
    have hinTime : t ≤ record.expiresAt := clock 1 ▸ completes.inTime
    have hrecord := answers.record fresh.append_left completes
    have hsame := congrArg PendingSsoState.redirectUri hrecord
    have htenant := congrArg PendingSsoState.tenant hrecord
    dsimp only at hsame htenant
    have hsucceeds := answers.succeeds_iff completes
    have hsignsIn := signsIn_of_completes fresh clock completes
    rw [hsame] at hsucceeds
    constructor
    · intro h r hr _ _ _
      rw [← Option.some.inj (hstored.symm.trans hr)]
      -- The callback in flight has passed the host of its tenant.
      obtain ⟨_, _, _, _, hcall, _⟩ := answers.inFlight
      obtain ⟨_, _, _, -, -, -, hbaseUrl⟩ := callback_origin hcall
      refine ⟨htenant ▸ hbaseUrl, ?_⟩
      -- The code is minted before the redirect is built, so a URI that does not parse
      -- fails a callback that has already signed in.
      by_contra hparses
      obtain ⟨hpruned, -⟩ := h.failed (mt hsucceeds.1 hparses)
      obtain ⟨code, hnew, hadded, -⟩ := hsignsIn.code
      have hleft := hpruned.codes code
      rw [hnew] at hleft
      exact hadded hleft.none_left
    · intro h
      have hok := hsucceeds.2 (h record hstored completes.unused hinTime hearly).redirectUri
      exact ⟨fun fails => absurd hok fails, fun _ => hsignsIn⟩

/-- A callback whose session key ResourceSpace does not know. -/
def refusedCallbackRun : List Event :=
  Sample.run Sample.service
    [("a", 1000, .beginSsoAuthorization 1000 Sample.ssoRequest),
     ("b", 2000, .receiveCallback 0 ⟨true, 0⟩ ⟨"ssostate_a", "session-key", "ada"⟩),
     ("c", 3000, .answerCallback 0 "2026-01-01T00:00:00Z" (.ok (.bool false)))]

theorem callback_atomic_iff_refused :
    (broker Unicode.ascii).out ((broker Unicode.ascii).after (refusedCallbackRun.take 2))
        refusedCallbackRun[2] = .ok (.callback (.validationFailed 401)) ∧
      CallbackAtomic Unicode.ascii (refusedCallbackRun.take 2) refusedCallbackRun[2] "ssostate_a" 3000 := by
  refine ⟨by decide +kernel, ?_⟩
  have hcallback : (((broker Unicode.ascii).after (refusedCallbackRun.take 2)).callbacks.get? 0).map
      (fun c => c.callback.handoffState) = some "ssostate_a" := by decide +kernel
  obtain ⟨c, hcall, hkey⟩ := Option.map_eq_some_iff.1 hcallback
  have hstored : ((broker Unicode.ascii).after (refusedCallbackRun.take 2)).store.pendingSsoStates.get?
      "ssostate_a" = some (Sample.service.pendingSsoState 1000 1000 "ssostate_a" Sample.ssoRequest) := by
    decide +kernel
  have hfresh : Fresh refusedCallbackRun := Sample.fresh _ (by decide)
  have hcallbackFor : CallbackFor ((broker Unicode.ascii).after (refusedCallbackRun.take 2))
      refusedCallbackRun[2] "ssostate_a" := hkey ▸ CallbackFor.answered rfl hcall
  refine (callback_atomic_iff Unicode.ascii (refusedCallbackRun.take 2) refusedCallbackRun[2] "ssostate_a"
    3000 hfresh (fun _ => rfl) hcallbackFor).2 fun r hr _ _ _ => ?_
  rw [← Option.some.inj (hstored.symm.trans hr)]
  exact ⟨by decide +kernel, by decide +kernel⟩

/-- A development service, whose client has no list of redirect URIs. -/
def developmentService : AuthService :=
  ⟨{ Sample.config with
      environment := "development"
      oauth := { Sample.config.oauth with
        clients := (∅ : Dict String OAuthClientConfig).set "canva-client"
          ⟨"canva-client", some "canva", []⟩ } }, .null⟩

/-- A sign-in for a redirect URI with an unmatched bracket. -/
def bracketRun : List Event :=
  Sample.run developmentService
    [("a", 1000, .beginSsoAuthorization 1000 { Sample.ssoRequest with redirectUri := "http://[x" }),
     ("b", 2000, .receiveCallback 0 ⟨true, 0⟩ ⟨"ssostate_a", "session-key", "ada"⟩),
     ("c", 3000, .answerCallback 0 "2026-01-01T00:00:00Z" (.ok (.list [])))]

/-- The callback raises, with its code added and its handoff state marked. -/
theorem unparseable_redirect_spent :
    Fresh bracketRun ∧ (∀ i, bracketRun[2].now i = 3000) ∧
      CallbackFor ((broker Unicode.ascii).after (bracketRun.take 2)) bracketRun[2] "ssostate_a" ∧
      (broker Unicode.ascii).out ((broker Unicode.ascii).after (bracketRun.take 2)) bracketRun[2] =
        .error .valueError ∧
      ¬CallbackAtomic Unicode.ascii (bracketRun.take 2) bracketRun[2] "ssostate_a" 3000 := by
  have hcallback : (((broker Unicode.ascii).after (bracketRun.take 2)).callbacks.get? 0).map
      (fun c => c.callback.handoffState) = some "ssostate_a" := by decide +kernel
  obtain ⟨c, hcall, hkey⟩ := Option.map_eq_some_iff.1 hcallback
  have hout : (broker Unicode.ascii).out ((broker Unicode.ascii).after (bracketRun.take 2)) bracketRun[2] =
      .error .valueError := by decide +kernel
  refine ⟨Sample.fresh _ (by decide), fun _ => rfl, hkey ▸ CallbackFor.answered rfl hcall, hout, fun atomic => ?_⟩
  have hfails : ¬Succeeds Unicode.ascii ((broker Unicode.ascii).after (bracketRun.take 2)) bracketRun[2] := by
    rintro ⟨response, hresponse, -⟩
    rw [hout] at hresponse
    cases hresponse
  have hpruned := (atomic.failed hfails).1
  have hleft := hpruned.codes "code_c"
  have hnew : ((broker Unicode.ascii).after (bracketRun.take 2)).store.authorizationCodes.get? "code_c" =
      none := by decide +kernel
  rw [hnew] at hleft
  exact absurd hleft.none_left (by decide +kernel)

end Broker
