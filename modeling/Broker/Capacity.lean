import Broker.Handoffs

/-!
# How many handoff states are outstanding

An initiation is admitted when the handoff states it counts, those that are
unused and expire later, are fewer than the limits. A completion accepts
a state in the millisecond it expires, too: where none of these brings the
count to a limit (`HasRoom`), no more than the limits are ever acceptable
(`pending_bounded`). Where one does, one too many is admitted
(`pending_overrun`).
-/

namespace Broker

open Py Runs

variable {unicode : Unicode}

/-! ## Acceptable states -/

/-- `complete_sso_authorization` accepts the handoff state at the time `t`. -/
def isAcceptable (r : PendingSsoState) (t : ℤ) : Bool :=
  !truthyMs r.usedAt && t ≤ r.expiresAt && t < r.purgeAt

/-- The unused handoff state expires in this very millisecond: it is acceptable,
    but an initiation does not count it. -/
def isExpiring (r : PendingSsoState) (t : ℤ) : Bool :=
  r.usedAt.isNone && r.expiresAt = t && t < r.purgeAt

/-- The number of handoff states that are acceptable at the time `t`. -/
def acceptable (s : Store) (t : ℤ) : ℕ := s.pendingSsoStates.count fun r => isAcceptable r t

/-- Those of an initiator. -/
def acceptableFor (s : Store) (initiatorKey : String) (t : ℤ) : ℕ :=
  s.pendingSsoStates.count fun r => r.initiatorKey = initiatorKey && isAcceptable r t

/-- The acceptable states are those a completion taking place at the time `t`
    mints a code for. -/
theorem isAcceptable_iff_completes (service : AuthService) (rand : Rand) (session : Session)
    (s : Store) (handoffState : String) (t : ℤ) :
    (∃ code record, (update (service.completeSsoAuthorizationUpdater (fun _ => t) rand handoffState
        session) s).1 = .ok (.valid code record)) ↔
      ∃ r, s.pendingSsoStates.get? handoffState = some r ∧ isAcceptable r t = true := by
  constructor
  · rintro ⟨code, record, h⟩
    have houtcome := service.complete_outcome (fun _ => t) rand s handoffState session
    generalize update (service.completeSsoAuthorizationUpdater (fun _ => t) rand handoffState
      session) s = outcome at h houtcome
    cases houtcome with
    | refused notValid => exact absurd (Except.ok.inj h) (notValid code record)
    | @completed r found unused inTime =>
      rw [AuthService.get?_pendingSsoStates_prune, Option.filter_eq_some_iff] at found
      refine ⟨r, found.1, ?_⟩
      have hpurge : t < r.purgeAt := by simpa using found.2
      simp [isAcceptable, unused, inTime, hpurge]
  · rintro ⟨r, hr, h⟩
    simp only [isAcceptable, Bool.and_eq_true, Bool.not_eq_true', decide_eq_true_eq] at h
    obtain ⟨⟨hunused, hinTime⟩, hpurge⟩ := h
    have hfound : (service.prune s t).pendingSsoStates.get? handoffState = some r := by
      rw [AuthService.get?_pendingSsoStates_prune, hr]
      simp [Option.filter_some, hpurge]
    unfold update AuthService.completeSsoAuthorizationUpdater
    dsimp only
    rw [AuthService.classify_eq_active_iff.2 ⟨hfound, hunused, hinTime⟩]
    exact ⟨_, _, rfl⟩

/-- A handoff state that is acceptable at some time was so before. -/
theorem isAcceptable_of_le {r : PendingSsoState} {t t' : ℤ} (h : isAcceptable r t' = true)
    (hle : t ≤ t') : isAcceptable r t = true := by
  simp only [isAcceptable, Bool.and_eq_true, Bool.not_eq_true', decide_eq_true_eq] at h ⊢
  obtain ⟨⟨hunused, hinTime⟩, hpurge⟩ := h
  exact ⟨⟨hunused, hle.trans hinTime⟩, hle.trans_lt hpurge⟩

/-- The time of use of a stored handoff state is never zero. -/
theorem usedAt_cases {es : List Event} {k : String} {r : PendingSsoState}
    (h : ((broker unicode).after es).store.pendingSsoStates.get? k = some r) :
    r.usedAt = none ∨ truthyMs r.usedAt = true := by
  refine Machine.entry_induction (fun w : World => w.store.pendingSsoStates.get? k) es r h rfl
    (fun w e => pending_step unicode w e k) ?_
  intro es e o r ih h hstep
  cases hstep with
  | same => exact ih _ rfl
  | used i _ => exact .inr (truthyMs_now e i)
  | admitted _ _ => exact .inl rfl

/-- An acceptable handoff state counts, or expires in this very millisecond. -/
theorem active_or_expiring {r : PendingSsoState} {t : ℤ}
    (hused : r.usedAt = none ∨ truthyMs r.usedAt = true) (h : isAcceptable r t = true) :
    isActivePendingSsoState r t = true ∨ isExpiring r t = true := by
  simp only [isAcceptable, Bool.and_eq_true, Bool.not_eq_true', decide_eq_true_eq] at h
  obtain ⟨⟨hunused, hinTime⟩, hpurge⟩ := h
  have hnone : r.usedAt = none := by
    rcases hused with hnone | hused
    · exact hnone
    · rw [hunused] at hused
      cases hused
  rcases hinTime.lt_or_eq with hlt | heq
  · exact .inl (by simp [isActivePendingSsoState, hnone, hlt])
  · exact .inr (by simp [isExpiring, hnone, heq.symm, hpurge])

/-! ## Admission -/

/-- An initiation is admitted under the limit of its configuration. -/
structure Admits (w : World) (e : Event) (startedAt : ℤ) (request : SsoRequest) (limit : ℤ) :
    Prop where
  action : e.action = .beginSsoAuthorization startedAt request
  perSource : maxPendingSsoStatesPerSource e.service.config = .ok limit
  source : (AuthService.outstandingForSource (e.service.prune w.store (e.now 0))
    request.initiatorKey (e.now 1) : ℤ) < limit
  all : AuthService.activePending (e.service.prune w.store (e.now 0)) (e.now 1) <
    maxPendingSsoStates

/-- Whenever the event admits an initiation, the handoff states that expire in
    the very millisecond of its count leave it admissible. -/
def HasRoom (w : World) (e : Event) : Prop :=
  ∀ startedAt request limit, Admits w e startedAt request limit →
    (AuthService.outstandingForSource (e.service.prune w.store (e.now 0)) request.initiatorKey
        (e.now 1) + (e.service.prune w.store (e.now 0)).pendingSsoStates.count fun r =>
          r.initiatorKey = request.initiatorKey && isExpiring r (e.now 1) : ℤ) < limit ∧
    AuthService.activePending (e.service.prune w.store (e.now 0)) (e.now 1) +
        ((e.service.prune w.store (e.now 0)).pendingSsoStates.count fun r =>
          isExpiring r (e.now 1)) < maxPendingSsoStates

/-- An initiation changes nothing, or is admitted. -/
theorem begin_next (unicode : Unicode) {w : World} {e : Event} {startedAt : ℤ} {request : SsoRequest}
    (action : e.action = .beginSsoAuthorization startedAt request) :
    ((broker unicode).next w e).store = w.store ∨
    ∃ limit, Admits w e startedAt request limit ∧
      ((broker unicode).next w e).store.pendingSsoStates =
        (e.service.prune w.store (e.now 0)).pendingSsoStates.set
          (randomToken "ssostate" (e.rand.token 0))
          (e.service.pendingSsoState startedAt (e.now 1) (randomToken "ssostate" (e.rand.token 0))
            request) := by
  change (w.step unicode e).2.store = _ ∨ ∃ limit, _ ∧ (w.step unicode e).2.store.pendingSsoStates = _
  rw [World.step, action]
  dsimp only [World.commit]
  have houtcome := e.service.begin_sso_outcome e.now e.rand w.store startedAt request
  generalize update (e.service.beginSsoAuthorizationUpdater startedAt e.now e.rand request)
    w.store = outcome at houtcome ⊢
  cases houtcome with
  | raised _ => exact .inl rfl
  | admitted perSource source all => exact .inr ⟨_, ⟨action, perSource, source, all⟩, rfl⟩

/-- Nothing but an initiation makes a handoff state acceptable. -/
theorem acceptable_before {w : World} {e : Event} {k : String} {r : PendingSsoState} {t : ℤ}
    (quiet : ∀ startedAt request, e.action ≠ .beginSsoAuthorization startedAt request)
    (hr : ((broker unicode).next w e).store.pendingSsoStates.get? k = some r)
    (h : isAcceptable r t = true) : w.store.pendingSsoStates.get? k = some r := by
  have hstep := pending_step unicode w e k
  rw [hr] at hstep
  generalize hbefore : w.store.pendingSsoStates.get? k = o at hstep
  cases hstep with
  | same => rfl
  | used i _ => simp [isAcceptable, truthyMs_now e i] at h
  | admitted action _ => exact absurd action (quiet _ _)

/-- What an event does to the number of acceptable states of a kind, at a time
    not before its count: it does not grow, or the event admits an initiation,
    whose handoff state is all that comes in addition to what is in the store. -/
theorem acceptable_next (unicode : Unicode) (w : World) (e : Event) (t : ℤ) (p : PendingSsoState → Bool) :
    (((broker unicode).next w e).store.pendingSsoStates.count fun r => p r && isAcceptable r t) ≤
      (w.store.pendingSsoStates.count fun r => p r && isAcceptable r t) ∨
    ∃ startedAt request limit, Admits w e startedAt request limit ∧
      ((broker unicode).next w e).store.pendingSsoStates =
        (e.service.prune w.store (e.now 0)).pendingSsoStates.set
          (randomToken "ssostate" (e.rand.token 0))
          (e.service.pendingSsoState startedAt (e.now 1) (randomToken "ssostate" (e.rand.token 0))
            request) := by
  by_cases hbegin : ∃ startedAt request, e.action = .beginSsoAuthorization startedAt request
  · obtain ⟨startedAt, request, action⟩ := hbegin
    rcases begin_next unicode action (w := w) with hsame | ⟨limit, hadmits, hnext⟩
    · rw [hsame]
      exact .inl (le_refl _)
    · exact .inr ⟨startedAt, request, limit, hadmits, hnext⟩
  · push Not at hbegin
    refine .inl (Dict.count_le_of_get? fun k r hr hp => ⟨r, ?_, hp⟩)
    rw [Bool.and_eq_true] at hp
    exact acceptable_before hbegin hr hp.2

/-- After pruning, no more states are counted. -/
theorem count_prune_le (service : AuthService) (s : Store) (t : ℤ) (p : PendingSsoState → Bool) :
    (service.prune s t).pendingSsoStates.count p ≤ s.pendingSsoStates.count p := by
  refine Dict.count_le_of_get? fun k r hr hp => ⟨r, ?_, hp⟩
  rw [AuthService.get?_pendingSsoStates_prune, Option.filter_eq_some_iff] at hr
  exact hr.1

/-- In a reachable store, the acceptable states of a kind at a time not before
    `t` are counted at `t`, or expire in that very millisecond. -/
theorem acceptable_le (unicode : Unicode) (es : List Event) (service : AuthService) (t₀ : ℤ) {t t' : ℤ} (hle : t ≤ t')
    (p : PendingSsoState → Bool) :
    ((service.prune ((broker unicode).after es).store t₀).pendingSsoStates.count fun r =>
        p r && isAcceptable r t') ≤
      ((service.prune ((broker unicode).after es).store t₀).pendingSsoStates.count fun r =>
        p r && isActivePendingSsoState r t) +
      (service.prune ((broker unicode).after es).store t₀).pendingSsoStates.count fun r =>
        p r && isExpiring r t := by
  refine Dict.count_le_add _ fun k r hr hp => ?_
  rw [AuthService.get?_pendingSsoStates_prune, Option.filter_eq_some_iff] at hr
  rw [Bool.and_eq_true] at hp
  rcases active_or_expiring (usedAt_cases hr.1) (isAcceptable_of_le hp.2 hle) with hactive | hexpiring
  · exact .inl (by rw [hp.1, hactive]; rfl)
  · exact .inr (by rw [hp.1, hexpiring]; rfl)

/-- The limit of an initiator is positive. -/
theorem perSource_pos {config : AppConfig} {limit : ℤ}
    (h : maxPendingSsoStatesPerSource config = .ok limit) : 0 < limit := by
  rw [maxPendingSsoStatesPerSource] at h
  obtain ⟨_, -, h⟩ := exists_ok_of_bind h
  obtain ⟨_, -, h⟩ := exists_ok_of_bind h
  dsimp only at h
  split_ifs at h
  · cases h
  · obtain ⟨_, -, h⟩ := exists_ok_of_bind h
    cases h
    omega

/-! ## The bound -/

/-- In a run of services of one configuration, in which the states expiring in the
    very millisecond of an initiation's count leave it admissible, no more
    handoff states than the limits are acceptable at any time: at most
    `_MAX_PENDING_SSO_STATES` in all, and for each initiator at most
    `_max_pending_sso_states_per_source`. -/
theorem pending_bounded (config : AppConfig) (es : List Event)
    (configured : ∀ e ∈ es, e.service.config = config)
    (room : ∀ pre e post, es = pre ++ e :: post → HasRoom ((broker unicode).after pre) e)
    (t : ℤ) (time : ∀ e ∈ es, e.now 1 ≤ t) :
    acceptable ((broker unicode).after es).store t ≤ maxPendingSsoStates ∧
    ∀ limit initiatorKey, maxPendingSsoStatesPerSource config = .ok limit →
      (acceptableFor ((broker unicode).after es).store initiatorKey t : ℤ) ≤ limit := by
  induction es using List.reverseRecOn with
  | nil => exact ⟨Nat.zero_le _, fun limit _ h => (perSource_pos h).le⟩
  | append_singleton es e ih =>
    obtain ⟨hall, hsource⟩ := ih (fun f hf => configured f (List.mem_append_left [e] hf))
      (fun pre f post h => room pre f (post ++ [e]) (by rw [h]; simp))
      (fun f hf => time f (List.mem_append_left [e] hf))
    have hconfig := configured e (List.mem_append_right es List.mem_cons_self)
    have htime := time e (List.mem_append_right es List.mem_cons_self)
    have hroom := room es e [] rfl
    rw [Machine.after_snoc]
    constructor
    -- Only an admission adds a state, and it had room for one more.
    · have hstep := acceptable_next unicode ((broker unicode).after es) e t fun _ => true
      simp only [Bool.true_and] at hstep
      rcases hstep with hle | ⟨startedAt, request, limit, hadmits, hnext⟩
      · exact hle.trans hall
      · have hcounted := acceptable_le unicode es e.service (e.now 0) htime fun _ => true
        simp only [Bool.true_and] at hcounted
        have hadded := Dict.count_set_le
          (e.service.prune ((broker unicode).after es).store (e.now 0)).pendingSsoStates
          (fun r => isAcceptable r t) (randomToken "ssostate" (e.rand.token 0))
          (e.service.pendingSsoState startedAt (e.now 1) (randomToken "ssostate" (e.rand.token 0))
            request)
        have hbelow := (hroom startedAt request limit hadmits).2
        rw [acceptable, hnext]
        rw [AuthService.activePending] at hbelow
        omega
    · intro limit initiatorKey hlimit
      have hbefore := hsource limit initiatorKey hlimit
      rcases acceptable_next unicode ((broker unicode).after es) e t
        fun r => r.initiatorKey = initiatorKey with hle | ⟨startedAt, request, limit', hadmits, hnext⟩
      · unfold acceptableFor at hbefore ⊢
        omega
      -- All events read the same limit, so the admission had room under it.
      · have hsame : limit' = limit :=
          Except.ok.inj (hadmits.perSource.symm.trans (hconfig ▸ hlimit))
        subst hsame
        rw [acceptableFor, hnext]
        by_cases hkey : request.initiatorKey = initiatorKey
        · subst hkey
          have hcounted := acceptable_le unicode es e.service (e.now 0) htime
            fun r => r.initiatorKey = request.initiatorKey
          have hadded := Dict.count_set_le
            (e.service.prune ((broker unicode).after es).store (e.now 0)).pendingSsoStates
            (fun r => r.initiatorKey = request.initiatorKey && isAcceptable r t)
            (randomToken "ssostate" (e.rand.token 0))
            (e.service.pendingSsoState startedAt (e.now 1)
              (randomToken "ssostate" (e.rand.token 0)) request)
          have hbelow := (hroom startedAt request limit' hadmits).1
          rw [AuthService.outstandingForSource] at hbelow
          omega
        · -- The new state is another initiator's.
          have hadded := Dict.count_set_le_of_neg
            (e.service.prune ((broker unicode).after es).store (e.now 0)).pendingSsoStates
            (p := fun r => r.initiatorKey = initiatorKey && isAcceptable r t)
            (randomToken "ssostate" (e.rand.token 0))
            (v := e.service.pendingSsoState startedAt (e.now 1)
              (randomToken "ssostate" (e.rand.token 0)) request)
            (by simp [AuthService.pendingSsoState, hkey])
          have hpruned := count_prune_le e.service ((broker unicode).after es).store (e.now 0)
            fun r => r.initiatorKey = initiatorKey && isAcceptable r t
          rw [acceptableFor] at hbefore
          omega

/-- Two initiations. -/
def initiationsRun : List Event :=
  Sample.run Sample.service
    [("a", 1000, .beginSsoAuthorization 1000 Sample.ssoRequest),
     ("b", 2000, .beginSsoAuthorization 2000 Sample.ssoRequest)]

theorem pending_bounded_run :
    acceptable ((broker Unicode.ascii).after initiationsRun).store 3000 ≤ maxPendingSsoStates ∧
      (acceptableFor ((broker Unicode.ascii).after initiationsRun).store "203.0.113.7" 3000 : ℤ) ≤
        100 := by
  have hlimit : maxPendingSsoStatesPerSource Sample.config = .ok 100 := by decide +kernel
  have hroom : ∀ pre e post, initiationsRun = pre ++ e :: post →
      HasRoom ((broker Unicode.ascii).after pre) e := by
    intro pre e post h startedAt request limit hadmits
    have hsame : limit = 100 := by
      have hconfig : e.service.config = Sample.config := by
        have he : e ∈ initiationsRun := by
          rw [h]
          exact List.mem_append_right pre List.mem_cons_self
        obtain ⟨_, -, rfl⟩ := List.mem_map.1 he
        rfl
      exact Except.ok.inj (hadmits.perSource.symm.trans (hconfig ▸ hlimit))
    subst hsame
    obtain ⟨i, rfl, hi⟩ := Machine.exists_index h
    rcases i with _ | _ | i
    · obtain rfl : initiationsRun[0] = e := Option.some.inj hi
      obtain ⟨-, rfl⟩ := Action.beginSsoAuthorization.inj hadmits.action
      decide +kernel
    · obtain rfl : initiationsRun[1] = e := Option.some.inj hi
      obtain ⟨-, rfl⟩ := Action.beginSsoAuthorization.inj hadmits.action
      decide +kernel
    · cases hi
  obtain ⟨hall, hsource⟩ := pending_bounded Sample.config initiationsRun (by decide) hroom 3000
    (by decide)
  exact ⟨hall, hsource 100 "203.0.113.7" hlimit⟩

/-- A service that admits one initiation a minute, and ten outstanding ones, from
    each source. -/
def tightService : AuthService := ⟨{ Sample.config with rateLimit := ⟨1, 60000⟩ }, .null⟩

/-- One initiation a minute, for as long as a handoff state lives. -/
def overrunRun : List Event :=
  Sample.run tightService
    [("a", 1000, .beginSsoAuthorization 1000 Sample.ssoRequest),
     ("b", 61000, .beginSsoAuthorization 61000 Sample.ssoRequest),
     ("c", 121000, .beginSsoAuthorization 121000 Sample.ssoRequest),
     ("d", 181000, .beginSsoAuthorization 181000 Sample.ssoRequest),
     ("e", 241000, .beginSsoAuthorization 241000 Sample.ssoRequest),
     ("f", 301000, .beginSsoAuthorization 301000 Sample.ssoRequest),
     ("g", 361000, .beginSsoAuthorization 361000 Sample.ssoRequest),
     ("h", 421000, .beginSsoAuthorization 421000 Sample.ssoRequest),
     ("i", 481000, .beginSsoAuthorization 481000 Sample.ssoRequest),
     ("j", 541000, .beginSsoAuthorization 541000 Sample.ssoRequest),
     ("k", 601000, .beginSsoAuthorization 601000 Sample.ssoRequest)]

/-- The eleventh initiation comes in the millisecond in which the first one
    expires: it is admitted, and eleven handoff states are acceptable. -/
theorem pending_overrun :
    Fresh overrunRun ∧ Timed overrunRun ∧
      maxPendingSsoStatesPerSource tightService.config = .ok 10 ∧
      acceptableFor ((broker Unicode.ascii).after overrunRun).store "203.0.113.7" 601000 = 11 :=
  ⟨Sample.fresh _ (by decide), Sample.timed _ (by decide), by decide +kernel, by decide +kernel⟩

end Broker
