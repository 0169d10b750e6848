import Broker.Steps

/-!
# What one event does to a record

The ways an event changes what is stored under a key, bucket by bucket: the
record stays, or goes, or changes in one of the ways of its kind, or is new.
-/

namespace Broker

open Py

variable (unicode : Unicode) (w : World) (e : Event) (k : String)

/-! ## Authorization codes -/

/-- What an event does to an authorization code. -/
inductive CodeStep : Option AuthorizationCode → Option AuthorizationCode → Prop
  | same (o : Option AuthorizationCode) : CodeStep o o
  | dropped (r : AuthorizationCode) : CodeStep (some r) none
  | issued {o : Option AuthorizationCode} {service : AuthService} {t : ℤ}
    {request : AuthorizationRequest} {session : Session}
    (issues : Issues unicode w e service t request session)
    (key : k = randomToken "code" (e.rand.token 0)) :
    CodeStep o (some (service.authorizationCode t e.rand request session))

/-! ## Access tokens -/

/-- What an event does to an access token. -/
inductive AccessStep : Option AccessToken → Option AccessToken → Prop
  | absent : AccessStep none none
  | kept {r : AccessToken} (key : e.action ≠ .revokeToken k)
    (user : ∀ u t, e.action = .revokeTokensForUser u t → ¬r.session.isFor u t) :
    AccessStep (some r) (some r)
  | relabelled {r : AccessToken} {stamped : TokenRecord} {call : ℕ}
    (action : e.action = .readAccessToken call k)
    (stamps : stampTokenRecordMetadata e.service.config r.toTokenRecord = some stamped) :
    AccessStep (some r) (some { r with toTokenRecord := stamped })
  | marked {r : AccessToken} {u t : String} (action : e.action = .revokeTokensForUser u t)
    (isFor : r.session.isFor u t) : AccessStep (some r) (some { r with revokedAt := some (e.now 1) })
  | dropped {r : AccessToken} (why : (∃ i, r.pruned (e.now i) = true) ∨ e.action = .revokeToken k) :
    AccessStep (some r) none
  | minted {o : Option AccessToken} {service : AuthService} {now : ℕ → ℤ} {session : Session}
    {scope clientId : String} (mints : Mints w e service now session scope clientId)
    (key : k = randomToken "at" (e.rand.token 0)) :
    AccessStep o (some (service.accessTokenRecord now e.rand session scope clientId))

/-! ## Refresh tokens -/

/-- What an event does to a refresh token. -/
inductive RefreshStep : Option RefreshToken → Option RefreshToken → Prop
  | absent : RefreshStep none none
  | kept {r : RefreshToken}
    (user : ∀ u t, e.action = .revokeTokensForUser u t → ¬r.session.isFor u t) :
    RefreshStep (some r) (some r)
  | relabelled {r : RefreshToken} {stamped : TokenRecord} {clientId : String}
    (action : e.action = .refreshAccessToken clientId k)
    (stamps : stampTokenRecordMetadata e.service.config r.toTokenRecord = some stamped) :
    RefreshStep (some r) (some { r with toTokenRecord := stamped })
  | rotated {r : RefreshToken} {stamped : TokenRecord} {opened : Session}
    (rotates : Rotates w e k r stamped opened) :
    RefreshStep (some r) (some { r with
      toTokenRecord := stamped
      revokedAt := some (e.now 1)
      rotationResponse := some (e.service.tokenResponse e.rand r.scope) })
  | revoked {r : RefreshToken} (action : e.action = .revokeToken k) :
    RefreshStep (some r) (some { r with revokedAt := some (e.now 1) })
  | marked {r : RefreshToken} {u t : String} (action : e.action = .revokeTokensForUser u t)
    (isFor : r.session.isFor u t) :
    RefreshStep (some r) (some { r with revokedAt := some (e.now 1) })
  | dropped {r : RefreshToken} {service : AuthService}
    (why : r.pruned (e.now 0) service.refreshGraceMs = true ∨
      r.pruned (e.now 2) service.refreshGraceMs = true) : RefreshStep (some r) none
  | minted {o : Option RefreshToken} {service : AuthService} {now : ℕ → ℤ} {session : Session}
    {scope clientId : String} (mints : Mints w e service now session scope clientId)
    (key : k = randomToken "rt" (e.rand.token 1)) :
    RefreshStep o (some (service.refreshTokenRecord now e.rand session scope clientId))

/-! ## Handoff states -/

/-- What an event does to a handoff state. -/
inductive PendingStep : Option PendingSsoState → Option PendingSsoState → Prop
  | same (o : Option PendingSsoState) : PendingStep o o
  | dropped {r : PendingSsoState} (i : ℕ) (why : r.purgeAt ≤ e.now i) : PendingStep (some r) none
  | used {r : PendingSsoState} (i : ℕ)
    (why : (∃ service session, Completes unicode w e service k session r) ∨
      e.action = .consumePendingSsoState k) :
    PendingStep (some r) (some { r with usedAt := some (e.now i) })
  | admitted {o : Option PendingSsoState} {startedAt : ℤ} {request : SsoRequest}
    (action : e.action = .beginSsoAuthorization startedAt request)
    (key : k = randomToken "ssostate" (e.rand.token 0)) :
    PendingStep o (some (e.service.pendingSsoState startedAt (e.now 1) k request))

/-! ## Asset grants -/

/-- What an event does to an asset grant. -/
inductive GrantStep : Option AssetGrant → Option AssetGrant → Prop
  | absent : GrantStep none none
  | kept {g : AssetGrant}
    (user : ∀ u t, e.action = .revokeTokensForUser u t → ¬(g.userId = u ∧ g.tenantId = t)) :
    GrantStep (some g) (some g)
  | marked {g : AssetGrant} {u t : String} (action : e.action = .revokeTokensForUser u t)
    (isFor : g.userId = u ∧ g.tenantId = t) : GrantStep (some g) (some { g with expiresAt := 0 })
  | dropped {g : AssetGrant} (i : ℕ) (why : g.expiresAt ≤ e.now i) : GrantStep (some g) none
  | granted {o : Option AssetGrant} {call : ℕ} {r : Request} {request : GrantRequest}
    (action : e.action = .createGrant call request) (inFlight : w.requests.get? call = some r)
    (key : k = randomToken "grant" (e.rand.token 0)) :
    GrantStep o (some ((AssetService.mk r.service.config).assetGrant (e.now 1) e.rand r.session
      request))

variable {unicode w e k}

/-! ## Codes and handoff states -/

theorem CodeStep.of_filter (o : Option AuthorizationCode) (p : AuthorizationCode → Bool) :
    CodeStep unicode w e k o (o.filter p) := by
  cases o with
  | none => exact .same none
  | some r =>
    rw [Option.filter_some]
    split_ifs
    · exact .same _
    · exact .dropped r

theorem code_step (unicode : Unicode) (w : World) (e : Event) (k : String) :
    CodeStep unicode w e k (w.store.authorizationCodes.get? k)
      (((broker unicode).next w e).store.authorizationCodes.get? k) := by
  have h := store_step unicode w e
  generalize ((broker unicode).next w e).store = s at h ⊢
  have hprune : ∀ service : AuthService, CodeStep unicode w e k (w.store.authorizationCodes.get? k)
      ((service.prune w.store (e.now 0)).authorizationCodes.get? k) := fun service => by
    rw [AuthService.get?_authorizationCodes_prune]
    exact .of_filter _ _
  cases h with
  | unchanged _ => exact .same _
  | pruned service _ => exact hprune service
  | @issued service _ _ _ issues =>
    dsimp only [AuthService.mintAuthorizationCode]
    rw [Dict.get?_set]
    split_ifs with hk
    · exact .issued issues hk
    · exact hprune service
  | @completed service _ _ _ _ completes =>
    dsimp only [AuthService.mintAuthorizationCode]
    rw [Dict.get?_set]
    split_ifs with hk
    · exact .issued (.completed completes) hk
    · rw [AuthService.get?_authorizationCodes_prune, AuthService.get?_authorizationCodes_prune,
        Option.filter_filter]
      exact .of_filter _ _
  | @burned _ _ _ code _ _ =>
    dsimp only [AuthService.burned]
    rw [Dict.get?_erase]
    split_ifs with hk
    -- A code that is presented is gone, whatever is answered.
    · cases w.store.authorizationCodes.get? k with
      | none => exact .same none
      | some r => exact .dropped r
    · exact hprune e.service
  | @paired _ x _ _ => exact hprune x.service
  | grantsPruned _ _ => exact .same _
  | granted _ _ => exact .same _
  | _ => exact hprune e.service

theorem PendingStep.of_filter (o : Option PendingSsoState) (i : ℕ) :
    PendingStep unicode w e k o (o.filter fun r => !decide (r.purgeAt ≤ e.now i)) := by
  cases o with
  | none => exact .same none
  | some r =>
    rw [Option.filter_some]
    split_ifs with h
    · exact .same _
    · exact .dropped i (by simpa using h)

theorem pending_step (unicode : Unicode) (w : World) (e : Event) (k : String) :
    PendingStep unicode w e k (w.store.pendingSsoStates.get? k)
      (((broker unicode).next w e).store.pendingSsoStates.get? k) := by
  have h := store_step unicode w e
  generalize ((broker unicode).next w e).store = s at h ⊢
  have hprune : ∀ service : AuthService, PendingStep unicode w e k
      (w.store.pendingSsoStates.get? k)
      ((service.prune w.store (e.now 0)).pendingSsoStates.get? k) := fun service => by
    rw [AuthService.get?_pendingSsoStates_prune]
    exact .of_filter _ 0
  cases h with
  | unchanged _ => exact .same _
  | pruned service _ => exact hprune service
  | @issued service _ _ _ _ => exact hprune service
  | @completed service handoffState session record _ completes =>
    have hfound := completes.found
    dsimp only [AuthService.mintAuthorizationCode]
    rw [Dict.get?_modify, AuthService.get?_pendingSsoStates_prune]
    split_ifs with hk
    · subst hk
      -- The state is found after one pruning and marked after another.
      rw [hfound, Option.filter_some]
      rw [AuthService.get?_pendingSsoStates_prune, Option.filter_eq_some_iff] at hfound
      rw [hfound.1]
      split_ifs with hpurge
      · exact .used 4 (.inl ⟨service, session, completes⟩)
      · exact .dropped 2 (by simpa using hpurge)
    · rw [AuthService.get?_pendingSsoStates_prune]
      cases w.store.pendingSsoStates.get? k with
      | none => exact .same none
      | some r =>
        rw [Option.filter_some]
        split_ifs with h0
        · exact .of_filter _ 2
        · exact .dropped 0 (by simpa using h0)
  | @consumed handoffState action =>
    dsimp only
    rw [Dict.get?_modify, AuthService.get?_pendingSsoStates_prune]
    split_ifs with hk
    · subst hk
      cases w.store.pendingSsoStates.get? k with
      | none => exact .same none
      | some r =>
        rw [Option.filter_some]
        split_ifs with h0
        · exact .used 2 (.inr action)
        · exact .dropped 0 (by simpa using h0)
    · exact .of_filter _ 0
  | @admitted _ _ _ action _ _ _ =>
    dsimp only
    rw [Dict.get?_set]
    split_ifs with hk
    · subst hk
      exact .admitted action rfl
    · exact hprune e.service
  | @paired _ x _ _ => exact hprune x.service
  | grantsPruned _ _ => exact .same _
  | granted _ _ => exact .same _
  | _ => exact hprune e.service

/-! ## Access tokens -/

theorem AccessStep.of_filter (o : Option AccessToken) (p : AccessToken → Bool)
    (hp : ∀ r, p r = false → ∃ i, r.pruned (e.now i) = true)
    (key : (∃ r, o.filter p = some r) → e.action ≠ .revokeToken k)
    (user : ∀ u t, e.action ≠ .revokeTokensForUser u t) : AccessStep w e k o (o.filter p) := by
  cases o with
  | none => exact .absent
  | some r =>
    cases hr : p r with
    | true =>
      have hkey := key ⟨r, Option.filter_some_pos hr⟩
      rw [Option.filter_some_pos hr]
      exact .kept hkey fun u t ha => absurd ha (user u t)
    | false =>
      rw [Option.filter_some_neg hr]
      exact .dropped (.inl (hp r hr))

theorem access_step (unicode : Unicode) (w : World) (e : Event) (k : String) :
    AccessStep w e k (w.store.accessTokens.get? k)
      (((broker unicode).next w e).store.accessTokens.get? k) := by
  have h := store_step unicode w e
  generalize ((broker unicode).next w e).store = s at h ⊢
  -- A token that a pruning drops is pruned at one of the times of the event.
  have hp : ∀ (i : ℕ) (r : AccessToken), (!r.pruned (e.now i)) = false →
      ∃ i, r.pruned (e.now i) = true := fun i r hr => ⟨i, by simpa using hr⟩
  have hsame : e.action.revokes = false →
      AccessStep w e k (w.store.accessTokens.get? k) (w.store.accessTokens.get? k) :=
    fun quiet => by
      cases w.store.accessTokens.get? k with
      | none => exact .absent
      | some r =>
        exact .kept (ne_revokeToken_of_quiet quiet k)
          fun u t ha => absurd ha (ne_revokeTokensForUser_of_quiet quiet u t)
  have hprune : e.action.revokes = false → ∀ service : AuthService,
      AccessStep w e k (w.store.accessTokens.get? k)
        ((service.prune w.store (e.now 0)).accessTokens.get? k) := fun quiet service => by
    rw [AuthService.get?_accessTokens_prune]
    exact .of_filter _ _ (hp 0) (fun _ => ne_revokeToken_of_quiet quiet k)
      (ne_revokeTokensForUser_of_quiet quiet)
  cases h with
  | unchanged quiet => exact hsame quiet
  | pruned service quiet => exact hprune quiet service
  | @issued service _ _ quiet _ => exact hprune quiet service
  | @completed service _ _ _ quiet _ =>
    -- Completing an initiation prunes twice.
    dsimp only [AuthService.mintAuthorizationCode]
    rw [AuthService.get?_accessTokens_prune, AuthService.get?_accessTokens_prune,
      Option.filter_filter]
    refine .of_filter _ _ (fun r hr => ?_) (fun _ => ne_revokeToken_of_quiet quiet k)
      (ne_revokeTokensForUser_of_quiet quiet)
    rw [Bool.and_eq_false_iff] at hr
    exact hr.elim (hp 0 r) (hp 2 r)
  | consumed action => exact hprune (by rw [action]; rfl) e.service
  | admitted action _ _ _ => exact hprune (by rw [action]; rfl) e.service
  | burned action => exact hprune (by rw [action]; rfl) e.service
  | @paired _ x action inFlight =>
    dsimp only [AuthService.writeTokenPairToState]
    rw [Dict.get?_set]
    split_ifs with hk
    · exact .minted (.exchanged action inFlight) hk
    · exact hprune (by rw [action]; rfl) x.service
  | relabelled action _ _ => exact hprune (by rw [action]; rfl) e.service
  | rotated rotates =>
    dsimp only [AuthService.writeTokenPairToState]
    rw [Dict.get?_set]
    split_ifs with hk
    · exact .minted (.rotated rotates) hk
    · exact hprune (by rw [rotates.action]; rfl) e.service
  | read action found stamps =>
    dsimp only
    rw [Dict.get?_set]
    split_ifs with hk
    · subst hk
      rw [AuthService.get?_accessTokens_prune, Option.filter_eq_some_iff] at found
      rw [found.1]
      exact .relabelled action stamps
    · exact hprune (by rw [action]; rfl) e.service
  | @revokedAccess token action =>
    dsimp only
    rw [Dict.get?_erase]
    split_ifs with hk
    · subst hk
      cases w.store.accessTokens.get? k with
      | none => exact .absent
      | some r => exact .dropped (.inr action)
    · rw [AuthService.get?_accessTokens_prune]
      refine .of_filter _ _ (hp 0) (fun _ ha => hk ?_) fun u t ha => ?_
      · exact (Action.revokeToken.inj (action.symm.trans ha)).symm
      · exact Action.noConfusion (action.symm.trans ha)
  | @revokedRefresh token action missing =>
    dsimp only
    rw [AuthService.get?_accessTokens_prune]
    refine .of_filter _ _ (hp 0) (fun live ha => ?_) fun u t ha => ?_
    -- The route looks for an access token first, so none was stored.
    · obtain ⟨r, hr⟩ := live
      rw [Action.revokeToken.inj (action.symm.trans ha), AuthService.get?_accessTokens_prune, hr]
        at missing
      cases missing
    · exact Action.noConfusion (action.symm.trans ha)
  | @notRevoked token action missing =>
    rw [AuthService.get?_accessTokens_prune]
    refine .of_filter _ _ (hp 0) (fun live ha => ?_) fun u t ha => ?_
    · obtain ⟨r, hr⟩ := live
      rw [Action.revokeToken.inj (action.symm.trans ha), AuthService.get?_accessTokens_prune, hr]
        at missing
      cases missing
    · exact Action.noConfusion (action.symm.trans ha)
  | @revokedUser userId tenantId action =>
    dsimp only
    rw [Dict.get?_map, AuthService.get?_accessTokens_prune]
    cases w.store.accessTokens.get? k with
    | none => exact .absent
    | some r =>
      cases hr : r.pruned (e.now 0) with
      | true =>
        rw [Option.filter_some_neg (by simp [hr])]
        exact .dropped (.inl ⟨0, hr⟩)
      | false =>
        rw [Option.filter_some_pos (by simp [hr]), Option.map_some]
        split_ifs with hfor
        · exact .marked action hfor
        · refine .kept (fun ha => Action.noConfusion (action.symm.trans ha)) fun u t ha => ?_
          obtain ⟨rfl, rfl⟩ := Action.revokeTokensForUser.inj (action.symm.trans ha)
          exact hfor
  | grantsPruned _ quiet => exact hsame quiet
  | granted action _ => exact hsame (by rw [action]; rfl)

/-! ## Refresh tokens -/

theorem RefreshStep.of_prune (o : Option RefreshToken) (service : AuthService) {i : ℕ}
    (hi : i = 0 ∨ i = 2) (user : ∀ u t, e.action ≠ .revokeTokensForUser u t) :
    RefreshStep w e k o (o.filter fun r => !r.pruned (e.now i) service.refreshGraceMs) := by
  cases o with
  | none => exact .absent
  | some r =>
    cases hr : r.pruned (e.now i) service.refreshGraceMs with
    | true =>
      rw [Option.filter_some_neg (by simp [hr])]
      rcases hi with rfl | rfl
      · exact .dropped (.inl hr)
      · exact .dropped (.inr hr)
    | false =>
      rw [Option.filter_some_pos (by simp [hr])]
      exact .kept fun u t ha => absurd ha (user u t)

theorem refresh_step (unicode : Unicode) (w : World) (e : Event) (k : String) :
    RefreshStep w e k (w.store.refreshTokens.get? k)
      (((broker unicode).next w e).store.refreshTokens.get? k) := by
  have h := store_step unicode w e
  generalize ((broker unicode).next w e).store = s at h ⊢
  have hsame : e.action.revokes = false →
      RefreshStep w e k (w.store.refreshTokens.get? k) (w.store.refreshTokens.get? k) :=
    fun quiet => by
      cases w.store.refreshTokens.get? k with
      | none => exact .absent
      | some r => exact .kept fun u t ha => absurd ha (ne_revokeTokensForUser_of_quiet quiet u t)
  have hprune : (∀ u t, e.action ≠ .revokeTokensForUser u t) → ∀ service : AuthService,
      RefreshStep w e k (w.store.refreshTokens.get? k)
        ((service.prune w.store (e.now 0)).refreshTokens.get? k) := fun user service => by
    rw [AuthService.get?_refreshTokens_prune]
    exact .of_prune _ service (.inl rfl) user
  cases h with
  | unchanged quiet => exact hsame quiet
  | pruned service quiet => exact hprune (ne_revokeTokensForUser_of_quiet quiet) service
  | @issued service _ _ quiet _ => exact hprune (ne_revokeTokensForUser_of_quiet quiet) service
  | @completed service _ _ _ quiet _ =>
    -- Completing an initiation prunes twice.
    dsimp only [AuthService.mintAuthorizationCode]
    rw [AuthService.get?_refreshTokens_prune, AuthService.get?_refreshTokens_prune]
    have user := ne_revokeTokensForUser_of_quiet quiet
    cases w.store.refreshTokens.get? k with
    | none => exact .absent
    | some r =>
      cases hr : r.pruned (e.now 0) service.refreshGraceMs with
      | true =>
        rw [Option.filter_some_neg (by simp [hr])]
        exact .dropped (.inl hr)
      | false =>
        rw [Option.filter_some_pos (by simp [hr])]
        exact .of_prune _ service (.inr rfl) user
  | consumed action =>
    exact hprune (ne_revokeTokensForUser_of_quiet (quiet_of_eq action rfl)) e.service
  | admitted action _ _ _ =>
    exact hprune (ne_revokeTokensForUser_of_quiet (quiet_of_eq action rfl)) e.service
  | burned action =>
    exact hprune (ne_revokeTokensForUser_of_quiet (quiet_of_eq action rfl)) e.service
  | @paired _ x action inFlight =>
    dsimp only [AuthService.writeTokenPairToState]
    rw [Dict.get?_set]
    split_ifs with hk
    · exact .minted (.exchanged action inFlight) hk
    · exact hprune (ne_revokeTokensForUser_of_quiet (quiet_of_eq action rfl)) x.service
  | relabelled action found stamps =>
    dsimp only
    rw [Dict.get?_set]
    split_ifs with hk
    · subst hk
      rw [AuthService.get?_refreshTokens_prune, Option.filter_eq_some_iff] at found
      rw [found.1]
      exact .relabelled action stamps
    · exact hprune (ne_revokeTokensForUser_of_quiet (quiet_of_eq action rfl)) e.service
  | rotated rotates =>
    dsimp only [AuthService.writeTokenPairToState]
    rw [Dict.get?_set]
    split_ifs with hk
    · subst hk
      rw [rotates.stored]
      exact .rotated rotates
    · rw [Dict.get?_set]
      split_ifs with hk'
      · exact .minted (.rotated rotates) hk'
      · rw [Dict.get?_set_of_ne _ hk]
        exact hprune (ne_revokeTokensForUser_of_quiet (quiet_of_eq rotates.action rfl)) e.service
  | read action _ _ =>
    exact hprune (ne_revokeTokensForUser_of_quiet (quiet_of_eq action rfl)) e.service
  | revokedAccess action => exact hprune (ne_revokeTokensForUser_of_revokeToken action) e.service
  | @revokedRefresh token action _ =>
    have user := ne_revokeTokensForUser_of_revokeToken action
    dsimp only
    rw [Dict.get?_modify, AuthService.get?_refreshTokens_prune]
    split_ifs with hk
    · subst hk
      cases w.store.refreshTokens.get? k with
      | none => exact .absent
      | some r =>
        cases hr : r.pruned (e.now 0) e.service.refreshGraceMs with
        | true =>
          rw [Option.filter_some_neg (by simp [hr])]
          exact .dropped (.inl hr)
        | false =>
          rw [Option.filter_some_pos (by simp [hr])]
          exact .revoked action
    · exact .of_prune _ e.service (.inl rfl) user
  | notRevoked action _ => exact hprune (ne_revokeTokensForUser_of_revokeToken action) e.service
  | @revokedUser userId tenantId action =>
    dsimp only
    rw [Dict.get?_map, AuthService.get?_refreshTokens_prune]
    cases w.store.refreshTokens.get? k with
    | none => exact .absent
    | some r =>
      cases hr : r.pruned (e.now 0) e.service.refreshGraceMs with
      | true =>
        rw [Option.filter_some_neg (by simp [hr])]
        exact .dropped (.inl hr)
      | false =>
        rw [Option.filter_some_pos (by simp [hr]), Option.map_some]
        split_ifs with hfor
        · exact .marked action hfor
        · refine .kept fun u t ha => ?_
          obtain ⟨rfl, rfl⟩ := Action.revokeTokensForUser.inj (action.symm.trans ha)
          exact hfor
  | grantsPruned _ quiet => exact hsame quiet
  | granted action _ => exact hsame (by rw [action]; rfl)

/-! ## Asset grants -/

theorem GrantStep.of_filter (o : Option AssetGrant) (i : ℕ)
    (user : ∀ u t, e.action ≠ .revokeTokensForUser u t) :
    GrantStep w e k o (o.filter fun g => !decide (g.expiresAt ≤ e.now i)) := by
  cases o with
  | none => exact .absent
  | some g =>
    rw [Option.filter_some]
    split_ifs with h
    · exact .kept fun u t ha => absurd ha (user u t)
    · exact .dropped i (by simpa using h)

theorem grant_step (unicode : Unicode) (w : World) (e : Event) (k : String) :
    GrantStep w e k (w.store.assetGrants.get? k)
      (((broker unicode).next w e).store.assetGrants.get? k) := by
  have h := store_step unicode w e
  generalize ((broker unicode).next w e).store = s at h ⊢
  have hprune : (∀ u t, e.action ≠ .revokeTokensForUser u t) → ∀ service : AuthService,
      GrantStep w e k (w.store.assetGrants.get? k)
        ((service.prune w.store (e.now 0)).assetGrants.get? k) := fun user service => by
    rw [AuthService.get?_assetGrants_prune]
    exact .of_filter _ 0 user
  have hgrants : (∀ u t, e.action ≠ .revokeTokensForUser u t) → ∀ i,
      GrantStep w e k (w.store.assetGrants.get? k)
        ((pruneExpiredGrants w.store (e.now i)).assetGrants.get? k) := fun user i => by
    rw [pruneExpiredGrants, Dict.get?_filter]
    exact .of_filter _ i user
  cases h with
  | unchanged quiet =>
    cases w.store.assetGrants.get? k with
    | none => exact .absent
    | some g => exact .kept fun u t ha => absurd ha (ne_revokeTokensForUser_of_quiet quiet u t)
  | pruned service quiet => exact hprune (ne_revokeTokensForUser_of_quiet quiet) service
  | @issued service _ _ quiet _ => exact hprune (ne_revokeTokensForUser_of_quiet quiet) service
  | @completed service _ _ _ quiet _ =>
    have user := ne_revokeTokensForUser_of_quiet quiet
    -- Completing an initiation prunes twice.
    dsimp only [AuthService.mintAuthorizationCode]
    rw [AuthService.get?_assetGrants_prune, AuthService.get?_assetGrants_prune]
    cases w.store.assetGrants.get? k with
    | none => exact .absent
    | some g =>
      rw [Option.filter_some]
      split_ifs with h0
      · exact .of_filter _ 2 user
      · exact .dropped 0 (by simpa using h0)
  | @paired _ x action _ =>
    exact hprune (ne_revokeTokensForUser_of_quiet (quiet_of_eq action rfl)) x.service
  | @revokedUser userId tenantId action =>
    dsimp only
    rw [Dict.get?_map, AuthService.get?_assetGrants_prune]
    cases w.store.assetGrants.get? k with
    | none => exact .absent
    | some g =>
      rw [Option.filter_some]
      split_ifs with h0
      · rw [Option.map_some]
        split_ifs with hfor
        · exact .marked action hfor
        · refine .kept fun u t ha => ?_
          obtain ⟨rfl, rfl⟩ := Action.revokeTokensForUser.inj (action.symm.trans ha)
          exact hfor
      · exact .dropped 0 (by simpa using h0)
  | grantsPruned i quiet => exact hgrants (ne_revokeTokensForUser_of_quiet quiet) i
  | granted action inFlight =>
    dsimp only
    rw [Dict.get?_set]
    split_ifs with hk
    · exact .granted action inFlight hk
    · exact hgrants (ne_revokeTokensForUser_of_quiet (quiet_of_eq action rfl)) 0
  | rotated rotates =>
    exact hprune (ne_revokeTokensForUser_of_quiet (quiet_of_eq rotates.action rfl)) e.service
  | consumed action =>
    exact hprune (ne_revokeTokensForUser_of_quiet (quiet_of_eq action rfl)) e.service
  | admitted action _ _ _ =>
    exact hprune (ne_revokeTokensForUser_of_quiet (quiet_of_eq action rfl)) e.service
  | burned action =>
    exact hprune (ne_revokeTokensForUser_of_quiet (quiet_of_eq action rfl)) e.service
  | relabelled action _ _ =>
    exact hprune (ne_revokeTokensForUser_of_quiet (quiet_of_eq action rfl)) e.service
  | read action _ _ =>
    exact hprune (ne_revokeTokensForUser_of_quiet (quiet_of_eq action rfl)) e.service
  | revokedAccess action => exact hprune (ne_revokeTokensForUser_of_revokeToken action) e.service
  | revokedRefresh action _ => exact hprune (ne_revokeTokensForUser_of_revokeToken action) e.service
  | notRevoked action _ => exact hprune (ne_revokeTokensForUser_of_revokeToken action) e.service

end Broker
