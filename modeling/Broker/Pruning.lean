import Broker.Calls

/-!
# Pruning is invisible

Every operation prunes the store before it looks at it, so it cannot see what
an earlier pruning has removed (`Agree`): additional prunings, anywhere in a
run, change no answer (`pruning_invisible`). All services are those of one grace
period: a shorter one would prune what a longer one still replays. What looks at
the store without pruning it, the inspection of a handoff state and the callback
that begins with one, is not among these operations.
-/

namespace Broker

open Py Runs

variable {unicode : Unicode}

/-! ## Stores that agree -/

/-- What is left at `t'` is left at `t`. -/
theorem pruneExpired_pruneExpired (s : Store) {t t' : ℤ} (h : t ≤ t') (grace : ℤ) :
    pruneExpired (pruneExpired s t grace) t' grace = pruneExpired s t' grace := by
  -- What a later pruning keeps, an earlier one does, bucket by bucket.
  have hcodes : ∀ r : AuthorizationCode, (!r.expired t') = true → (!r.expired t) = true := by
    intro r hr
    simp only [AuthorizationCode.expired, Bool.not_eq_true', decide_eq_false_iff_not] at hr ⊢
    omega
  have haccess : ∀ r : AccessToken, (!r.pruned t') = true → (!r.pruned t) = true := by
    intro r hr
    simp only [AccessToken.pruned, Bool.not_eq_true', Bool.or_eq_false_iff,
      decide_eq_false_iff_not] at hr ⊢
    exact ⟨by omega, hr.2⟩
  have hrefresh : ∀ r : RefreshToken, (!r.pruned t' grace) = true → (!r.pruned t grace) = true := by
    intro r hr
    simp only [RefreshToken.pruned, RefreshToken.pastGrace, Bool.not_eq_true', Bool.or_eq_false_iff,
      Bool.and_eq_false_iff, decide_eq_false_iff_not] at hr ⊢
    refine ⟨?_, hr.2.imp_right fun hle => by omega⟩
    -- A revoked token is kept until its grace has passed.
    cases hrevoked : r.revokedAt with
    | none => rfl
    | some u =>
      rw [hrevoked] at hr
      simp only [Option.any_some, Bool.and_eq_false_iff, decide_eq_false_iff_not] at hr ⊢
      exact hr.1.imp_right fun hle => by omega
  have hgrants : ∀ r : AssetGrant, (!decide (r.expiresAt ≤ t')) = true →
      (!decide (r.expiresAt ≤ t)) = true := by
    intro r hr
    simp only [Bool.not_eq_true', decide_eq_false_iff_not] at hr ⊢
    omega
  have hpending : ∀ r : PendingSsoState, (!decide (r.purgeAt ≤ t')) = true →
      (!decide (r.purgeAt ≤ t)) = true := by
    intro r hr
    simp only [Bool.not_eq_true', decide_eq_false_iff_not] at hr ⊢
    omega
  unfold pruneExpired
  dsimp only
  rw [Dict.filter_filter_of_imp _ fun _ => hcodes, Dict.filter_filter_of_imp _ fun _ => haccess,
    Dict.filter_filter_of_imp _ fun _ => hrefresh, Dict.filter_filter_of_imp _ fun _ => hgrants,
    Dict.filter_filter_of_imp _ fun _ => hpending]

/-- The stores are the same but for what is pruned at `t`. -/
def Agree (grace t : ℤ) (s s' : Store) : Prop := pruneExpired s t grace = pruneExpired s' t grace

namespace Agree

variable {grace t t' : ℤ} {s s' : Store}

theorem refl (s : Store) : Agree grace t s s := rfl

theorem later (h : Agree grace t s s') (hle : t ≤ t') : Agree grace t' s s' := by
  rw [Agree, ← pruneExpired_pruneExpired s hle, h, pruneExpired_pruneExpired s' hle]

/-- A pruning changes nothing but what is pruned. -/
theorem prune (h : Agree grace t s s') : Agree grace t s (pruneExpired s' t grace) := by
  rw [Agree, pruneExpired_pruneExpired s' (le_refl t)]
  exact h

/-- The grants of stores that agree are the same but for those that have expired. -/
theorem assetGrants (h : Agree grace t s s') (hle : t ≤ t') :
    (pruneExpiredGrants s t').assetGrants = (pruneExpiredGrants s' t').assetGrants := by
  have hgrants := congrArg Store.assetGrants (h.later hle)
  exact hgrants

/-- Stores that agree do so with the same grants put into each. -/
theorem withGrants (h : Agree grace t s s') (grants : Dict String AssetGrant) :
    Agree grace t { s with assetGrants := grants } { s' with assetGrants := grants } := by
  unfold Agree pruneExpired at h ⊢
  injection h with hcodes haccess hrefresh _ hpending
  dsimp only
  rw [hcodes, haccess, hrefresh, hpending]

/-- A transaction whose updater does the same in stores that agree. -/
theorem update (h : Agree grace t s s') {α : Type} {u : Updater α} (hu : u s = u s') :
    (Broker.update u s).1 = (Broker.update u s').1 ∧
      Agree grace t (Broker.update u s).2 (Broker.update u s').2 := by
  unfold Broker.update
  rw [← hu]
  cases u s with
  | error e => exact ⟨rfl, h⟩
  | ok a => exact ⟨rfl, .refl _⟩

end Agree

/-! ## Operations that prune first -/

section Updaters

variable (service : AuthService) {now : ℕ → ℤ} (rand : Rand) {s s' : Store}
  (h : service.prune s (now 0) = service.prune s' (now 0))

include h

theorem beginAuthorization_congr (request : AuthorizationRequest) (session : Session) :
    service.beginAuthorizationUpdater now rand request session s =
      service.beginAuthorizationUpdater now rand request session s' := by
  rw [AuthService.beginAuthorizationUpdater, AuthService.beginAuthorizationUpdater,
    AuthService.mintAuthorizationCode, AuthService.mintAuthorizationCode, h]

theorem beginSso_congr (startedAt : ℤ) (request : SsoRequest) :
    service.beginSsoAuthorizationUpdater startedAt now rand request s =
      service.beginSsoAuthorizationUpdater startedAt now rand request s' := by
  rw [AuthService.beginSsoAuthorizationUpdater, AuthService.beginSsoAuthorizationUpdater, h]

theorem completeSso_congr (handoffState : String) (session : Session) :
    service.completeSsoAuthorizationUpdater now rand handoffState session s =
      service.completeSsoAuthorizationUpdater now rand handoffState session s' := by
  rw [AuthService.completeSsoAuthorizationUpdater, AuthService.completeSsoAuthorizationUpdater, h]

theorem consume_congr (handoffState : String) :
    service.consumePendingSsoStateUpdater now handoffState s =
      service.consumePendingSsoStateUpdater now handoffState s' := by
  rw [AuthService.consumePendingSsoStateUpdater, AuthService.consumePendingSsoStateUpdater, h]

theorem exchange_congr (clientId redirectUri code : String) (codeVerifier : Option String) :
    service.exchangeUpdater now clientId redirectUri code codeVerifier s =
      service.exchangeUpdater now clientId redirectUri code codeVerifier s' := by
  rw [AuthService.exchangeUpdater, AuthService.exchangeUpdater, h]

theorem createTokenPair_congr (session : Session) (scope clientId : String) :
    service.createTokenPairUpdater now rand session scope clientId s =
      service.createTokenPairUpdater now rand session scope clientId s' := by
  rw [AuthService.createTokenPairUpdater, AuthService.createTokenPairUpdater, h]

theorem refresh_congr (clientId token : String) :
    service.refreshUpdater now rand clientId token s =
      service.refreshUpdater now rand clientId token s' := by
  rw [AuthService.refreshUpdater, AuthService.refreshUpdater, h]

theorem read_congr (token : String) :
    service.readUpdater now token s = service.readUpdater now token s' := by
  rw [AuthService.readUpdater, AuthService.readUpdater, h]

theorem revokeToken_congr (token : String) :
    service.revokeTokenUpdater now token s = service.revokeTokenUpdater now token s' := by
  rw [AuthService.revokeTokenUpdater, AuthService.revokeTokenUpdater, h]

theorem revokeTokensForUser_congr (userId tenantId : String) :
    service.revokeTokensForUserUpdater now userId tenantId s =
      service.revokeTokensForUserUpdater now userId tenantId s' := by
  rw [AuthService.revokeTokensForUserUpdater, AuthService.revokeTokensForUserUpdater, h]

end Updaters

/-! ## Operations on grants -/

section Grants

variable (service : AssetService) (now : ℕ → ℤ) {grace t : ℤ} {s s' : Store}

/-- Creating a grant prunes the grants first, and answers whatever is stored. -/
theorem Agree.createGrant (h : Agree grace t s s') (hle : t ≤ now 0) (rand : Rand)
    (session : Session) (request : GrantRequest) :
    (Broker.update (service.createGrantUpdater now rand session request) s).1 =
        (Broker.update (service.createGrantUpdater now rand session request) s').1 ∧
      Agree grace t (Broker.update (service.createGrantUpdater now rand session request) s).2
        (Broker.update (service.createGrantUpdater now rand session request) s').2 := by
  have hgrants := h.assetGrants hle
  unfold Broker.update AssetService.createGrantUpdater
  dsimp only
  rw [hgrants]
  cases isoFromMs (now 1 + service.config.oauth.signedUrlTtlSeconds * 1000) with
  | error error => exact ⟨rfl, h⟩
  | ok expires => exact ⟨rfl, h.withGrants _⟩

/-- Verifying a grant prunes the grants before it looks for one. -/
theorem Agree.verifyGrant (h : Agree grace t s s') (hle : t ≤ now 1)
    (grantId expiresAt signature : Option String) :
    (service.verifyGrant now grantId expiresAt signature s).1 =
        (service.verifyGrant now grantId expiresAt signature s').1 ∧
      Agree grace t (service.verifyGrant now grantId expiresAt signature s).2
        (service.verifyGrant now grantId expiresAt signature s').2 := by
  have hgrants := h.assetGrants hle
  unfold AssetService.verifyGrant
  split_ifs
  · exact ⟨rfl, h⟩
  · dsimp only
    cases int (expiresAt.getD "") with
    | none => exact ⟨rfl, h⟩
    | some expiry =>
      dsimp only
      split_ifs
      · exact ⟨rfl, h⟩
      · exact ⟨rfl, h⟩
      · exact ⟨rfl, h⟩
      · unfold Broker.update AssetService.grantUpdater
        dsimp only
        rw [hgrants]
        have hafter : Agree grace t (pruneExpiredGrants s (now 1)) (pruneExpiredGrants s' (now 1)) := by
          have hafter' : pruneExpiredGrants s' (now 1) =
              { s' with assetGrants := (pruneExpiredGrants s (now 1)).assetGrants } := by
            rw [hgrants]
            rfl
          rw [hafter']
          exact h.withGrants _
        cases (pruneExpiredGrants s' (now 1)).assetGrants.get? (grantId.getD "") with
        | none => exact ⟨rfl, hafter⟩
        | some grant => exact ⟨rfl, hafter⟩

end Grants

/-! ## Calls -/

/-- The action is a call of a service: it is no part of the callback route, which
    inspects the store without pruning it. -/
def Action.ofService : Action → Bool
  | receiveCallback _ _ _ => false
  | answerCallback _ _ _ => false
  | _ => true

/-- The answer of the action is one of an operation that prunes what it looks at. -/
def Action.compared : Action → Bool
  | inspectPendingSsoState _ => false
  | prune => false
  | _ => true

/-- The same calls are in flight, with services of the grace period, and the
    stores agree. -/
structure Follows (grace t : ℤ) (w w' : World) : Prop where
  calls : w' = { w with store := w'.store }
  store : Agree grace t w.store w'.store
  signIns : ∀ call x, w.signIns.get? call = some x → x.service.refreshGraceMs = grace
  exchanges : ∀ call x, w.exchanges.get? call = some x → x.service.refreshGraceMs = grace

/-- The calls in flight are of the grace period after an event of it. -/
theorem grace_next (unicode : Unicode) {grace : ℤ} {w : World} {e : Event} (he : e.service.refreshGraceMs = grace)
    (signIns : ∀ call x, w.signIns.get? call = some x → x.service.refreshGraceMs = grace)
    (exchanges : ∀ call x, w.exchanges.get? call = some x → x.service.refreshGraceMs = grace) :
    (∀ call x, ((broker unicode).next w e).signIns.get? call = some x →
      x.service.refreshGraceMs = grace) ∧
    ∀ call x, ((broker unicode).next w e).exchanges.get? call = some x →
      x.service.refreshGraceMs = grace := by
  constructor
  · intro call x hx
    have hstep := sign_in_step unicode w e call
    rw [hx] at hstep
    generalize hbefore : w.signIns.get? call = o at hstep
    cases hstep with
    | same => exact signIns call x hbefore
    | started _ => exact he
  · intro call x hx
    have hstep := exchange_step unicode w e call
    rw [hx] at hstep
    generalize hbefore : w.exchanges.get? call = o at hstep
    cases hstep with
    | same _ => exact exchanges call x hbefore
    | burned burns => rwa [burns.service]

/-- What an event does to worlds that agree: it leaves worlds that do, and gives
    the same answer, if it is compared. -/
structure SameStep (grace t : ℤ) (compared : Bool) (r r' : Except PyError Answer × World) :
    Prop where
  answer : compared = true → r.1 = r'.1
  calls : r'.2 = { r.2 with store := r'.2.store }
  store : Agree grace t r.2.store r'.2.store

/-- A transaction that does the same in stores that agree. -/
theorem SameStep.commit {grace t : ℤ} {s s' : Store} (h : Agree grace t s s') {α : Type}
    {u : Updater α} (hu : u s = u s') (w : World) (answer : α → Answer) (compared : Bool) :
    SameStep grace t compared (w.commit (update u s) answer)
      ({ w with store := s' }.commit (update u s') answer) := by
  obtain ⟨hresult, hstore⟩ := h.update hu
  refine ⟨fun _ => ?_, rfl, hstore⟩
  rw [World.commit, World.commit, hresult]

theorem same_step (unicode : Unicode) {grace t : ℤ} {w w' : World} (h : Follows grace t w w') {e : Event}
    (he : e.service.refreshGraceMs = grace) (later : t ≤ e.now 0) (clock : ∀ i, e.now 0 ≤ e.now i)
    (action : e.action.ofService = true) :
    SameStep grace (e.now 0) e.action.compared (w.step unicode e) (w'.step unicode e) := by
  obtain ⟨hcalls, hagree, hsignIns, hexchanges⟩ := h
  generalize w'.store = s' at hcalls hagree
  subst hcalls
  have hstore : Agree grace (e.now 0) w.store s' := hagree.later later
  have hsame : SameStep grace (e.now 0) e.action.compared (.ok .none, w)
      (.ok .none, { w with store := s' }) := ⟨fun _ => rfl, rfl, hstore⟩
  -- The stores are the same once pruned, and every transaction prunes first.
  have hprune : ∀ service : AuthService, service.refreshGraceMs = grace →
      service.prune w.store (e.now 0) = service.prune s' (e.now 0) := by
    rintro service rfl
    exact hstore
  have hself := hprune e.service he
  unfold World.step
  cases ha : e.action with
  | authenticate call request session => exact ⟨fun _ => rfl, rfl, hstore⟩
  | beginAuthorization call =>
    dsimp only
    cases hx : w.signIns.get? call with
    | none => exact ha ▸ hsame
    | some x =>
      exact .commit hstore (beginAuthorization_congr x.service e.rand
        (hprune x.service (hsignIns call x hx)) x.request x.session)
        { w with signIns := w.signIns.erase call } _ _
  | beginAuthorizationFromSession request session =>
    exact .commit hstore (beginAuthorization_congr e.service e.rand hself request _) w _ _
  | beginSsoAuthorization startedAt request =>
    exact .commit hstore (beginSso_congr e.service e.rand hself startedAt request) w _ _
  | inspectPendingSsoState handoffState => exact ⟨fun h => (nomatch h), rfl, hstore⟩
  | completeSsoAuthorization handoffState session =>
    exact .commit hstore (completeSso_congr e.service e.rand hself handoffState session) w _ _
  | consumePendingSsoState handoffState =>
    exact .commit hstore (consume_congr e.service hself handoffState) w _ _
  | receiveCallback call rate form =>
    -- The callback route is no action of the service.
    rw [ha] at action
    cases action
  | answerCallback call authenticatedAt result =>
    rw [ha] at action
    cases action
  | exchangeAuthorizationCode call clientId redirectUri code codeVerifier =>
    dsimp only
    unfold AuthService.exchangeAuthorizationCode
    split_ifs
    · obtain ⟨hresult, hafter⟩ := hstore.update
        (exchange_congr e.service hself clientId redirectUri code codeVerifier)
      generalize update (e.service.exchangeUpdater e.now clientId redirectUri code codeVerifier)
        w.store = o at hresult hafter ⊢
      generalize update (e.service.exchangeUpdater e.now clientId redirectUri code codeVerifier)
        s' = o' at hresult hafter ⊢
      obtain ⟨result, after⟩ := o
      obtain ⟨_, after'⟩ := o'
      cases hresult
      rcases result with error | error | ⟨session, scope⟩
      · exact ⟨fun _ => rfl, rfl, hafter⟩
      · exact ⟨fun _ => rfl, rfl, hafter⟩
      · exact ⟨fun _ => rfl, rfl, hafter⟩
    · exact ⟨fun _ => rfl, rfl, hstore⟩
  | createTokenPair call =>
    dsimp only
    cases hx : w.exchanges.get? call with
    | none => exact ha ▸ hsame
    | some x =>
      exact .commit hstore (createTokenPair_congr x.service e.rand
        (hprune x.service (hexchanges call x hx)) x.session x.scope x.clientId)
        { w with exchanges := w.exchanges.erase call } _ _
  | refreshAccessToken clientId refreshToken =>
    dsimp only
    unfold AuthService.refreshAccessToken
    split_ifs
    · exact .commit hstore (refresh_congr e.service e.rand hself clientId refreshToken) w _ _
    · exact ⟨fun _ => rfl, rfl, hstore⟩
  | readAccessToken call token =>
    dsimp only
    unfold AuthService.readAccessToken
    obtain ⟨hresult, hafter⟩ := hstore.update (read_congr e.service hself token)
    generalize update (e.service.readUpdater e.now token) w.store = o at hresult hafter ⊢
    generalize update (e.service.readUpdater e.now token) s' = o' at hresult hafter ⊢
    obtain ⟨result, after⟩ := o
    obtain ⟨_, after'⟩ := o'
    cases hresult
    rcases result with error | _ | record
    · exact ⟨fun _ => rfl, rfl, hafter⟩
    · exact ⟨fun _ => rfl, rfl, hafter⟩
    · exact ⟨fun _ => rfl, rfl, hafter⟩
  | createGrant call request =>
    dsimp only
    cases hx : w.requests.get? call with
    | none => exact ha ▸ hsame
    | some r =>
      -- A grant is written to what is pruned of grants alone.
      obtain ⟨hresult, hafter⟩ := hstore.createGrant ⟨r.service.config⟩ e.now (le_refl _)
        e.rand r.session request
      refine ⟨fun _ => ?_, rfl, hafter⟩
      dsimp only [World.commit]
      rw [hresult]
  | verifyGrant grantId expiresAt signature =>
    obtain ⟨hresult, hafter⟩ := hstore.verifyGrant ⟨e.service.config⟩ e.now (clock 1)
      grantId expiresAt signature
    refine ⟨fun _ => ?_, rfl, hafter⟩
    dsimp only [World.commit]
    rw [hresult]
  | revokeToken token =>
    exact .commit hstore (revokeToken_congr e.service hself token) w _ _
  | revokeTokensForUser userId tenantId =>
    exact .commit hstore (revokeTokensForUser_congr e.service hself userId tenantId) w _ _
  | prune =>
    refine ⟨fun h => (nomatch h), rfl, ?_⟩
    dsimp only
    rw [hself]
    exact .refl _
  | finish call => exact ⟨fun _ => rfl, rfl, hstore⟩

/-! ## Runs -/

/-- Worlds that agree at the start of what is left of a run. -/
def Aligned (grace : ℤ) (rest : List Event) (w w' : World) : Prop :=
  Timed rest ∧ (∀ e ∈ rest, e.service.refreshGraceMs = grace ∧ e.action.ofService = true) ∧
    ∃ t, (∀ e ∈ rest, t ≤ e.now 0) ∧ Follows grace t w w'

theorem Aligned.next {grace t : ℤ} {e : Event} {rest : List Event} (timed : Timed (e :: rest))
    (h : ∀ f ∈ e :: rest, f.service.refreshGraceMs = grace ∧ f.action.ofService = true)
    {w w' : World} (hnow : e.now 0 = t) (follows : Follows grace t w w') :
    Aligned grace rest w w' := by
  obtain ⟨clock, order⟩ := timed
  obtain ⟨hlater, hrest⟩ := List.pairwise_cons.1 order
  subst hnow
  exact ⟨⟨fun f hf => clock f (List.mem_cons_of_mem e hf), hrest⟩,
    fun f hf => h f (List.mem_cons_of_mem e hf), e.now 0, fun f hf => hlater f hf 0 0, follows⟩

/-- Prunings inserted into a run change no compared answer. -/
theorem pruning_invisible (grace : ℤ) (es es' : List Event)
    (inserts : Inserts (fun e => e.action = .prune) es es') (timed : Timed es')
    (services : ∀ e ∈ es', e.service.refreshGraceMs = grace ∧ e.action.ofService = true) :
    (broker unicode).answers (·.action.compared) World.initial es =
      (broker unicode).answers (·.action.compared) World.initial es' := by
  have hinitial : ∀ t, Follows grace t World.initial World.initial := fun t =>
    ⟨rfl, .refl _, fun call x hx => (nomatch hx), fun call x hx => (nomatch hx)⟩
  have hstart : Aligned grace es' World.initial World.initial := by
    cases es' with
    | nil => exact ⟨timed, services, 0, fun e he => absurd he List.not_mem_nil, hinitial 0⟩
    | cons e rest =>
      refine ⟨timed, services, e.now 0, fun f hf => ?_, hinitial _⟩
      rcases List.mem_cons.1 hf with rfl | hf
      · exact le_refl _
      · exact (List.pairwise_cons.1 timed.2).1 f hf 0 0
  refine Machine.answers_eq_of_inserts (Aligned grace) (fun e he => ?_) ?_ ?_ inserts hstart
  · rw [he]
    rfl
  -- An event of both runs: the worlds answer it alike and stay aligned.
  · rintro e rest w w' ⟨htimed, h, t, hlater, hfollows⟩
    obtain ⟨hgrace, haction⟩ := h e List.mem_cons_self
    have hstep := same_step unicode hfollows hgrace (hlater e List.mem_cons_self)
      (fun i => htimed.1 e List.mem_cons_self 0 i (Nat.zero_le i)) haction
    obtain ⟨hsignIns, hexchanges⟩ :=
      grace_next unicode hgrace hfollows.signIns hfollows.exchanges
    exact ⟨.next htimed h rfl ⟨hstep.calls, hstep.store, hsignIns, hexchanges⟩, hstep.answer⟩
  -- A pruning of the second run alone.
  · rintro e rest w w' hprune ⟨htimed, h, t, hlater, hfollows⟩
    refine .next htimed h rfl ?_
    have hnext : (broker unicode).next w' e =
        { w' with store := pruneExpired w'.store (e.now 0) grace } := by
      rw [← (h e List.mem_cons_self).1]
      simp only [Machine.next, broker, World.step, hprune]
      rfl
    rw [hnext]
    refine ⟨?_, (hfollows.store.later (hlater e List.mem_cons_self)).prune, hfollows.signIns,
      hfollows.exchanges⟩
    rw [hfollows.calls]

/-- A sign-in whose refresh token is rotated and replayed. -/
def replaySteps : List (String × ℤ × Action) :=
  [("a", 1000, .beginAuthorizationFromSession Sample.request Sample.session),
   ("b", 2000, .exchangeAuthorizationCode 0 "canva-client" "https://canva.example/return" "code_a"
     (some Sample.verifier)),
   ("c", 2000, .createTokenPair 0),
   ("d", 3000, .refreshAccessToken "canva-client" "rt_c"),
   ("e", 32000, .refreshAccessToken "canva-client" "rt_c")]

/-- The same, with a pruning between the rotation and the replay, when the access
    token is revoked and the code is used. -/
def prunedSteps : List (String × ℤ × Action) :=
  replaySteps.take 4 ++ ("f", 31000, .prune) :: replaySteps.drop 4

theorem pruning_invisible_run :
    (broker Unicode.ascii).answers (·.action.compared) World.initial
        (Sample.run Sample.service replaySteps) =
      (broker Unicode.ascii).answers (·.action.compared) World.initial
        (Sample.run Sample.service prunedSteps) := by
  have hservice : ∀ s ∈ prunedSteps, s.2.2.ofService = true := by decide
  refine pruning_invisible 30000 _ _ ?_ (Sample.timed _ (by decide)) fun e he => ?_
  · exact .keep _ (.keep _ (.keep _ (.keep _ (.insert _ rfl (.keep _ .nil)))))
  · obtain ⟨s, hs, rfl⟩ := List.mem_map.1 he
    exact ⟨rfl, hservice s hs⟩

end Broker
