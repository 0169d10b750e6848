import Broker.Capacity

/-!
# A flood of sign-ins

Handoff states that are never completed stay stored, as tombstones, until their
retention is over, and an initiation only counts those that have not expired.
So the states created over any one lifetime are at most the limit, and those
stored were created over a lifetime and a retention: a flood fills the store
with no more than the limit for every lifetime in these (`flood_bounded`).
-/

namespace Broker

open Py Runs

variable {unicode : Unicode}

/-- An event of a flood: an initiation or a pruning, at one reading of the clock,
    by a service whose handoff states live `ttl` seconds and are then kept for
    `retention` seconds. -/
structure Floods (ttl retention : ℤ) (e : Event) : Prop where
  pendingTtl : e.service.config.resourceSpace.ssoPendingTtlSeconds = ttl
  replayRetention : e.service.config.resourceSpace.ssoReplayRetentionSeconds = retention
  reading : ∀ i, e.now i = e.now 0
  action : e.action = .prune ∨ ∃ request, e.action = .beginSsoAuthorization (e.now 0) request

/-- The handoff states created in the lifetime that ends at `x`. -/
def createdWithin (s : Store) (ttl x : ℤ) : ℕ :=
  s.pendingSsoStates.count fun r => x - ttl * 1000 < r.createdAt ∧ r.createdAt ≤ x

/-- The store of a flood, last changed at `t`. -/
structure Flooded (ttl retention : ℤ) (s : Store) (t : ℤ) : Prop where
  stored : ∀ k r, s.pendingSsoStates.get? k = some r → r.usedAt = none ∧
    r.expiresAt = r.createdAt + ttl * 1000 ∧ r.purgeAt = r.expiresAt + retention * 1000 ∧
    r.createdAt ≤ t ∧ t < r.purgeAt
  created : ∀ x, createdWithin s ttl x ≤ maxPendingSsoStates

namespace Flooded

variable {ttl retention : ℤ} {s : Store} {t : ℤ}

theorem initial : Flooded ttl retention Store.initial t :=
  ⟨fun _ _ h => (nomatch h), fun _ => Nat.zero_le _⟩

/-- Pruning keeps the store one of a flood. -/
theorem prune (h : Flooded ttl retention s t) (service : AuthService) {t' : ℤ} (hle : t ≤ t') :
    Flooded ttl retention (service.prune s t') t' where
  stored k r hr := by
    rw [AuthService.get?_pendingSsoStates_prune, Option.filter_eq_some_iff] at hr
    obtain ⟨hunused, hexpires, hpurge, hcreated, -⟩ := h.stored k r hr.1
    exact ⟨hunused, hexpires, hpurge, hcreated.trans hle, by simpa using hr.2⟩
  created x := (count_prune_le service s t' _).trans (h.created x)

/-- Of the states of a pruned store, those created in a lifetime that ends now or
    later are counted by an initiation. -/
theorem createdWithin_le_active (h : Flooded ttl retention s t) {x : ℤ} (hle : t ≤ x) :
    createdWithin s ttl x ≤ AuthService.activePending s t := by
  refine Dict.count_le_of_get? fun k r hr hp => ⟨r, hr, ?_⟩
  obtain ⟨hunused, hexpires, -, -, -⟩ := h.stored k r hr
  rw [decide_eq_true_eq] at hp
  have hlater : t < r.expiresAt := by omega
  simp [isActivePendingSsoState, hunused, hlater]

/-- An admitted initiation keeps the store one of a flood. -/
theorem admitted (h : Flooded ttl retention s t) (hT : 1 ≤ ttl) (hR : 0 ≤ retention)
    {service : AuthService} (pendingTtl : service.config.resourceSpace.ssoPendingTtlSeconds = ttl)
    (replayRetention : service.config.resourceSpace.ssoReplayRetentionSeconds = retention)
    (room : AuthService.activePending s t < maxPendingSsoStates) (k : String)
    (request : SsoRequest) {s' : Store}
    (hs' : s'.pendingSsoStates = s.pendingSsoStates.set k (service.pendingSsoState t t k request)) :
    Flooded ttl retention s' t where
  stored k' r hr := by
    rw [hs', Dict.get?_set] at hr
    split_ifs at hr
    · obtain rfl := Option.some.inj hr
      refine ⟨rfl, ?_, ?_, le_refl t, ?_⟩
      · rw [← pendingTtl]
        rfl
      · rw [← replayRetention]
        rfl
      · dsimp only [AuthService.pendingSsoState]
        omega
    · exact h.stored k' r hr
  created x := by
    rw [createdWithin, hs']
    by_cases hx : t ≤ x
    -- Those created in a lifetime that ends later are all active, and there is room for one.
    · have hcounted := h.createdWithin_le_active hx
      have hadded := Dict.count_set_le s.pendingSsoStates
        (fun r => x - ttl * 1000 < r.createdAt ∧ r.createdAt ≤ x) k
        (service.pendingSsoState t t k request)
      rw [createdWithin] at hcounted
      omega
    · -- The new state was not created in a lifetime that ended before.
      refine (Dict.count_set_le_of_neg _ k ?_).trans (h.created x)
      rw [decide_eq_false_iff_not]
      exact fun hcreated => hx hcreated.2

/-- How many states the store of a flood holds. -/
theorem length_le (h : Flooded ttl retention s t) (hT : 1 ≤ ttl) :
    s.pendingSsoStates.entries.length ≤
      maxPendingSsoStates * ⌈((ttl + retention : ℤ) : ℚ) / ttl⌉₊ := by
  generalize hn : ⌈((ttl + retention : ℤ) : ℚ) / ttl⌉₊ = n
  have hwidth : ttl + retention ≤ n * ttl := by
    have hpos : (0 : ℚ) < ttl := by exact_mod_cast hT
    have hceil := Nat.le_ceil (((ttl + retention : ℤ) : ℚ) / ttl)
    rw [hn, div_le_iff₀ hpos] at hceil
    exact_mod_cast hceil
  calc s.pendingSsoStates.entries.length
      = s.pendingSsoStates.count fun _ => true := by rw [Dict.count, List.countP_true]
    _ ≤ s.pendingSsoStates.count fun r =>
          t - n * (ttl * 1000) < r.createdAt ∧ r.createdAt ≤ t := by
        refine Dict.count_le_of_get? fun k r hr _ => ⟨r, hr, ?_⟩
        obtain ⟨-, hexpires, hpurge, hcreated, hkept⟩ := h.stored k r hr
        have hscaled : (ttl + retention) * 1000 ≤ n * (ttl * 1000) := by
          rw [← mul_assoc]
          exact mul_le_mul_of_nonneg_right hwidth (by decide)
        rw [decide_eq_true_eq]
        constructor <;> linarith
    _ ≤ maxPendingSsoStates * n :=
        Dict.count_windows_le s.pendingSsoStates (·.createdAt) h.created t n

end Flooded

/-- A run of a flood keeps the store one. -/
theorem flooded {ttl retention : ℤ} (hT : 1 ≤ ttl) (hR : 0 ≤ retention) (es : List Event)
    (timed : Timed es) (floods : ∀ e ∈ es, Floods ttl retention e) :
    ∃ t, (t = 0 ∨ ∃ e ∈ es, t = e.now 0) ∧
      Flooded ttl retention ((broker unicode).after es).store t := by
  induction es using List.reverseRecOn with
  | nil => exact ⟨0, .inl rfl, .initial⟩
  | append_singleton es e ih =>
    obtain ⟨t, ht, hflooded⟩ := ih timed.append_left fun f hf => floods f (List.mem_append_left [e] hf)
    have hfloods := floods e (List.mem_append_right es List.mem_cons_self)
    have hlater : t ≤ e.now 0 := by
      rcases ht with rfl | ⟨f, hf, rfl⟩
      · exact (e.clock.pos 0).le
      · exact (List.pairwise_append.1 timed.2).2.2 f hf e List.mem_cons_self 0 0
    have hlast : ∃ f ∈ es ++ [e], e.now 0 = f.now 0 :=
      ⟨e, List.mem_append_right es List.mem_cons_self, rfl⟩
    have hpruned := hflooded.prune e.service hlater
    rw [Machine.after_snoc]
    -- A pruning, or an initiation that is refused or admitted with room.
    rcases hfloods.action with action | ⟨request, action⟩
    · refine ⟨e.now 0, .inr hlast, ?_⟩
      change Flooded ttl retention (World.step unicode _ e).2.store _
      rw [World.step, action]
      exact hpruned
    · rcases begin_next unicode action (w := (broker unicode).after es) with hsame | ⟨limit, hadmits, hnext⟩
      · rw [hsame]
        refine ⟨t, ht.imp_right ?_, hflooded⟩
        rintro ⟨f, hf, h⟩
        exact ⟨f, List.mem_append_left [e] hf, h⟩
      · have hroom := hadmits.all
        rw [hfloods.reading 1] at hroom hnext
        exact ⟨e.now 0, .inr hlast, hpruned.admitted hT hR hfloods.pendingTtl
          hfloods.replayRetention hroom _ request hnext⟩

/-- However many sign-ins are initiated and none is completed, the store never
    holds more handoff states than the limit for every lifetime in a lifetime
    and a retention. -/
theorem flood_bounded (ttl retention : ℤ) (hT : 1 ≤ ttl) (hR : 0 ≤ retention) (es : List Event)
    (timed : Timed es) (floods : ∀ e ∈ es, Floods ttl retention e) :
    ((broker unicode).after es).store.pendingSsoStates.entries.length ≤
      maxPendingSsoStates * ⌈((ttl + retention : ℤ) : ℚ) / ttl⌉₊ := by
  obtain ⟨t, -, hflooded⟩ := flooded hT hR es timed floods
  exact hflooded.length_le hT

/-- Initiations, and a pruning that keeps the tombstone of the first. -/
def floodRun : List Event :=
  Sample.run Sample.service
    [("a", 1000, .beginSsoAuthorization 1000 Sample.ssoRequest),
     ("b", 700000, .beginSsoAuthorization 700000 Sample.ssoRequest),
     ("c", 800000, .prune)]

theorem flood_bounded_run :
    ((broker Unicode.ascii).after floodRun).store.pendingSsoStates.entries.length = 2 ∧
      ((broker Unicode.ascii).after floodRun).store.pendingSsoStates.entries.length ≤
        maxPendingSsoStates * ⌈((600 + 3600 : ℤ) : ℚ) / (600 : ℤ)⌉₊ := by
  refine ⟨by decide +kernel, flood_bounded 600 3600 (by decide) (by decide) floodRun
    (Sample.timed _ (by decide)) fun e he => ?_⟩
  obtain ⟨step, hstep, rfl⟩ := List.mem_map.1 he
  refine ⟨rfl, rfl, fun _ => rfl, ?_⟩
  simp only [List.mem_cons, List.not_mem_nil, or_false] at hstep
  rcases hstep with rfl | rfl | rfl
  · exact .inr ⟨_, rfl⟩
  · exact .inr ⟨_, rfl⟩
  · exact .inl rfl

end Broker
