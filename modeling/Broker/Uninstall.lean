import Broker.Revocation

/-!
# Revoking the tokens of a user

`revoke_tokens_for_user` marks the tokens and the grants stored for a user and
tenant, and nothing that turns into a token or a grant later. If nothing such
is around (`Settled`), then nothing of the user is accepted until a sign-in
that starts afterwards has issued a code (`uninstall_complete`). Otherwise it
may be: a code that was outstanding is exchanged for a pair that is read
(`uninstall_incomplete`).

The invariant is `Uninstalled`: what is stored for the user is revoked, and no
code or call in flight is the user's.
-/

namespace Broker

open Py Runs

variable {unicode : Unicode}

/-! ## What is accepted, and when again -/

/-- The event is answered with something of the user's: the record of an access
    token, the tokens for a refresh token, or an asset grant. -/
inductive Accepts (unicode : Unicode) (w : World) (e : Event) (userId tenantId : String) : Prop
  | read {call : ℕ} {token : String} {r : AccessToken} (action : e.action = .readAccessToken call token)
    (out : (broker unicode).out w e = .ok (.record (some r))) (isFor : r.session.isFor userId tenantId)
  | refreshed {clientId token : String} {r : RefreshToken} {response : TokenResponse}
    (action : e.action = .refreshAccessToken clientId token)
    (out : (broker unicode).out w e = .ok (.tokens (.ok response)))
    (stored : w.store.refreshTokens.get? token = some r) (isFor : r.session.isFor userId tenantId)
  | verified {grantId expiresAt signature : Option String} {grant : AssetGrant}
    (action : e.action = .verifyGrant grantId expiresAt signature)
    (out : (broker unicode).out w e = .ok (.verification (.ok grant)))
    (isFor : grant.userId = userId ∧ grant.tenantId = tenantId)

/-- The action is the last part of a sign-in. -/
def Action.signsIn : Action → Bool
  | beginAuthorization _ => true
  | beginAuthorizationFromSession _ _ => true
  | completeSsoAuthorization _ _ => true
  | answerCallback _ _ _ => true
  | _ => false

theorem Issues.signsIn {w : World} {e : Event} {service : AuthService} {t : ℤ}
    {request : AuthorizationRequest} {session : Session}
    (h : Issues unicode w e service t request session) : e.action.signsIn = true := by
  cases h with
  | beginAuthorization action _ => rw [action]; rfl
  | beginAuthorizationFromSession action => rw [action]; rfl
  | completed completes =>
    have hattempt := completes.attempt
    rw [World.completion] at hattempt
    cases ha : e.action with
    | completeSsoAuthorization _ _ => rfl
    | answerCallback _ _ _ => rfl
    | _ => rw [ha] at hattempt; cases hattempt

/-- The event issues a code for the user. -/
def IssuesFor (unicode : Unicode) (w : World) (e : Event) (userId tenantId : String) : Prop :=
  ∃ service t request session, Issues unicode w e service t request session ∧
    session.isFor userId tenantId

/-- After the run `es`, the event taken after `mid` goes on with no sign-in that
    was in flight already: a password sign-in is one authenticated in `mid`, and
    in flight since. -/
def StartedSince (unicode : Unicode) (es mid : List Event) (e : Event) : Prop :=
  ∀ call, e.action = .beginAuthorization call →
    ∃ l a l' request session, mid = l ++ a :: l' ∧ a.action = .authenticate call request session ∧
      ∀ m m', l' = m ++ m' → ((broker unicode).after (es ++ (l ++ a :: m))).signIns.get? call =
        some ⟨a.service, request, a.service.signInSession request session⟩

/-- After the run `es`, a sign-in of the user started in `mid` and has issued a
    code. -/
def SignedInAgain (unicode : Unicode) (es mid : List Event) (userId tenantId : String) : Prop :=
  Occurs mid fun l e => IssuesFor unicode ((broker unicode).after (es ++ l)) e userId tenantId ∧
    StartedSince unicode es l e

/-- A password sign-in that was not in flight after `es` is one that started
    since. -/
theorem startedSince_of_not_inFlight {es mid : List Event} {e : Event}
    (h : ∀ call s, e.action = .beginAuthorization call →
      ((broker unicode).after (es ++ mid)).signIns.get? call = some s →
      ((broker unicode).after es).signIns.get? call ≠ some s)
    (inFlight : ∀ call, e.action = .beginAuthorization call →
      ((broker unicode).after (es ++ mid)).signIns.get? call ≠ none) :
    StartedSince unicode es mid e := by
  intro call action
  obtain ⟨s, hs⟩ := Option.ne_none_iff_exists'.1 (inFlight call action)
  have hbefore := h call s action hs
  obtain ⟨l, a, l', rfl, hnot, hheld⟩ := Machine.exists_last_entry
    (Q := fun l => ((broker unicode).after (es ++ l)).signIns.get? call = some s)
    (by rwa [List.append_nil]) hs
  have hstep := sign_in_step unicode ((broker unicode).after (es ++ l)) a call
  rw [← Machine.after_snoc, List.append_assoc, hheld [] l' rfl] at hstep
  generalize hold : ((broker unicode).after (es ++ l)).signIns.get? call = o at hstep
  cases hstep with
  | same => exact absurd hold hnot
  | @started request session action' => exact ⟨l, a, l', request, session, rfl, action', hheld⟩

/-! ## The invariant -/

/-- What is stored for the user is revoked, no response is cached for the user,
    and no code or call in flight is the user's. -/
structure Uninstalled (w : World) (userId tenantId : String) : Prop where
  codes : ∀ k r, w.store.authorizationCodes.get? k = some r → ¬r.session.isFor userId tenantId
  exchanges : ∀ call x, w.exchanges.get? call = some x → ¬x.session.isFor userId tenantId
  requests : ∀ call r, w.requests.get? call = some r → ¬r.session.isFor userId tenantId
  access : ∀ k r, w.store.accessTokens.get? k = some r → r.session.isFor userId tenantId →
    truthyMs r.revokedAt = true
  refresh : ∀ k r, w.store.refreshTokens.get? k = some r → r.session.isFor userId tenantId →
    truthyMs r.revokedAt = true ∧ r.rotationResponse = none
  grants : ∀ k g, w.store.assetGrants.get? k = some g → g.userId = userId → g.tenantId = tenantId →
    g.expiresAt ≤ 0

namespace Uninstalled

variable {w : World} {e : Event} {u t : String}

/-- No read hands out a record of the user's. -/
theorem not_reads (h : Uninstalled w u t) {token : String} {record : AccessToken}
    {stamped : TokenRecord} {opened : Session} (reads : Reads w e token record stamped opened) :
    ¬opened.isFor u t := by
  intro isFor
  have hfound := reads.found
  have hidentity : opened.identity = record.session.identity :=
    (identity_of_open reads.opens).trans (Relabels.of_stamp reads.stamps).identity
  have hrevoked := h.access token record reads.stored ((isFor_congr hidentity u t).1 isFor)
  simp [AccessToken.pruned, hrevoked] at hfound

/-- No refresh token of the user's is rotated. -/
theorem not_rotates (h : Uninstalled w u t) {token : String} {record : RefreshToken}
    {stamped : TokenRecord} {opened : Session} (rotates : Rotates w e token record stamped opened) :
    ¬record.session.isFor u t := by
  intro isFor
  have hlive := rotates.live
  rw [(h.refresh token record rotates.stored isFor).1] at hlive
  cases hlive

/-- No pair is minted for the user. -/
theorem not_mints (h : Uninstalled w u t) {service : AuthService} {now : ℕ → ℤ} {session : Session}
    {scope clientId : String} (mints : Mints w e service now session scope clientId) :
    ¬session.isFor u t := by
  intro isFor
  cases mints with
  | exchanged _ inFlight => exact h.exchanges _ _ inFlight isFor
  | @rotated token record stamped opened rotates =>
    have hidentity : session.identity = record.session.identity :=
      (identity_of_open rotates.opens).trans (Relabels.of_stamp rotates.stamps).identity
    exact h.not_rotates rotates ((isFor_congr hidentity u t).1 isFor)

/-- Nothing of the user's is accepted. -/
theorem not_accepts (h : Uninstalled w u t) : ¬Accepts unicode w e u t := by
  intro haccepts
  cases haccepts with
  | read action out isFor =>
    obtain ⟨record, stamped, opened, hreads, rfl⟩ := read_answer action out
    exact h.not_reads hreads isFor
  | refreshed action out stored isFor =>
    rcases refresh_answer action out with ⟨record, _, _, hrotates, -⟩ | ⟨record, hreplays, -⟩
    · have hfound := hrotates.found
      rw [AuthService.get?_refreshTokens_prune, Option.filter_eq_some_iff, stored] at hfound
      obtain rfl := Option.some.inj hfound.1
      exact h.not_rotates hrotates isFor
    · have hfound := hreplays.found
      rw [AuthService.get?_refreshTokens_prune, Option.filter_eq_some_iff, stored] at hfound
      obtain rfl := Option.some.inj hfound.1
      have hcached := hreplays.cached
      rw [(h.refresh _ _ stored isFor).2] at hcached
      cases hcached
  | verified action out isFor =>
    obtain ⟨hfound, htime⟩ := verify_answer action out
    have hexpired := h.grants _ _ hfound isFor.1 isFor.2
    have hpos : 0 < e.now 1 := e.clock.pos 1
    omega

/-- The invariant is kept by every event that issues no code for the user. -/
theorem next (h : Uninstalled w u t) (quiet : ¬IssuesFor unicode w e u t) :
    Uninstalled ((broker unicode).next w e) u t where
  codes k r hr isFor := by
    have hstep := code_step unicode w e k
    rw [hr] at hstep
    generalize hold : w.store.authorizationCodes.get? k = o at hstep
    cases hstep with
    | same => exact h.codes k r hold isFor
    | issued issues _ => exact quiet ⟨_, _, _, _, issues, isFor⟩
  exchanges call x hx isFor := by
    have hstep := exchange_step unicode w e call
    rw [hx] at hstep
    generalize hold : w.exchanges.get? call = o at hstep
    cases hstep with
    | same _ => exact h.exchanges call x hold isFor
    | burned burns =>
      exact h.codes _ _ burns.stored ((isFor_congr (identity_of_open burns.opens) u t).1 isFor)
  requests call r hr isFor := by
    have hstep := request_step unicode w e call
    rw [hr] at hstep
    generalize hold : w.requests.get? call = o at hstep
    cases hstep with
    | same => exact h.requests call r hold isFor
    | read reads => exact h.not_reads reads isFor
  access k r hr isFor := by
    have hstep := access_step unicode w e k
    rw [hr] at hstep
    generalize hold : w.store.accessTokens.get? k = o at hstep
    cases hstep with
    | kept _ _ => exact h.access k r hold isFor
    | @relabelled r' _ _ _ stamps =>
      have hidentity := (Relabels.of_stamp stamps).identity
      exact h.access k r' hold ((isFor_congr hidentity u t).1 isFor)
    -- Marking is what an uninstall does.
    | marked _ _ => exact truthyMs_now e 1
    | @minted _ service _ session scope clientId mints _ =>
      have hidentity := identity_tokenRecord service e.rand session scope clientId
      exact absurd ((isFor_congr hidentity u t).1 isFor) (h.not_mints mints)
  refresh k r hr isFor := by
    have hstep := refresh_step unicode w e k
    rw [hr] at hstep
    generalize hold : w.store.refreshTokens.get? k = o at hstep
    cases hstep with
    | kept _ => exact h.refresh k r hold isFor
    | @relabelled r' _ _ _ stamps =>
      have hidentity := (Relabels.of_stamp stamps).identity
      exact h.refresh k r' hold ((isFor_congr hidentity u t).1 isFor)
    | rotated rotates =>
      have hidentity := (Relabels.of_stamp rotates.stamps).identity
      exact absurd ((isFor_congr hidentity u t).1 isFor) (h.not_rotates rotates)
    | revoked _ => exact ⟨truthyMs_now e 1, (h.refresh k _ hold isFor).2⟩
    | marked _ _ => exact ⟨truthyMs_now e 1, (h.refresh k _ hold isFor).2⟩
    | @minted _ service _ session scope clientId mints _ =>
      have hidentity := identity_tokenRecord service e.rand session scope clientId
      exact absurd ((isFor_congr hidentity u t).1 isFor) (h.not_mints mints)
  grants k g hg hu ht := by
    have hstep := grant_step unicode w e k
    rw [hg] at hstep
    generalize hold : w.store.assetGrants.get? k = o at hstep
    cases hstep with
    | kept _ => exact h.grants k g hold hu ht
    | marked _ _ => exact le_refl 0
    -- A grant needs an authorised request, and the user has none.
    | granted _ inFlight _ => exact absurd ⟨hu, ht⟩ (h.requests _ _ inFlight)

end Uninstalled

/-! ## The revocation -/

/-- At the revocation, once it has pruned the store, nothing of the user's is
    around that may turn into a token or a grant later: no code, no sign-in, no
    exchange and no request in flight, and no response cached for a replay. -/
structure Settled (w : World) (e : Event) (userId tenantId : String) : Prop where
  codes : ∀ k r, (e.service.prune w.store (e.now 0)).authorizationCodes.get? k = some r →
    ¬r.session.isFor userId tenantId
  signIns : ∀ call s, w.signIns.get? call = some s → ¬s.session.isFor userId tenantId
  exchanges : ∀ call x, w.exchanges.get? call = some x → ¬x.session.isFor userId tenantId
  requests : ∀ call r, w.requests.get? call = some r → ¬r.session.isFor userId tenantId
  responses : ∀ k r, (e.service.prune w.store (e.now 0)).refreshTokens.get? k = some r →
    r.session.isFor userId tenantId → r.rotationResponse = none

/-- What the revocation does: the store is pruned and marked, and the calls in
    flight go on. -/
theorem revokeTokensForUser_next (unicode : Unicode) {w : World} {e : Event} {u t : String}
    (action : e.action = .revokeTokensForUser u t) :
    (broker unicode).next w e =
      (let state := e.service.prune w.store (e.now 0)
      { w with store := { state with
        accessTokens := state.accessTokens.map fun r =>
          if r.session.isFor u t then { r with revokedAt := some (e.now 1) } else r
        refreshTokens := state.refreshTokens.map fun r =>
          if r.session.isFor u t then { r with revokedAt := some (e.now 1) } else r
        assetGrants := state.assetGrants.map fun r =>
          if r.userId = u ∧ r.tenantId = t then { r with expiresAt := 0 } else r } }) := by
  change (w.step unicode e).2 = _
  rw [World.step, action]
  rfl

/-- The revocation establishes the invariant, if nothing of the user's is around. -/
theorem Settled.uninstalled {w : World} {e : Event} {u t : String} (h : Settled w e u t)
    (action : e.action = .revokeTokensForUser u t) :
    Uninstalled ((broker unicode).next w e) u t := by
  rw [revokeTokensForUser_next unicode action]
  refine ⟨h.codes, h.exchanges, h.requests, fun k r hr isFor => ?_, fun k r hr isFor => ?_,
    fun k g hg hu ht => ?_⟩
  · dsimp only at hr
    rw [Dict.get?_map, Option.map_eq_some_iff] at hr
    obtain ⟨r', -, rfl⟩ := hr
    split_ifs at isFor ⊢ with hfor
    · exact truthyMs_now e 1
    · exact absurd isFor hfor
  · dsimp only at hr
    rw [Dict.get?_map, Option.map_eq_some_iff] at hr
    obtain ⟨r', hr', rfl⟩ := hr
    split_ifs at isFor ⊢ with hfor
    · exact ⟨truthyMs_now e 1, h.responses k r' hr' hfor⟩
    · exact absurd isFor hfor
  · dsimp only at hg
    rw [Dict.get?_map, Option.map_eq_some_iff] at hg
    obtain ⟨g', -, rfl⟩ := hg
    split_ifs at hu ht ⊢ with hfor
    · exact le_refl 0
    · exact absurd ⟨hu, ht⟩ hfor

/-- A code is issued for the user by a sign-in that started since, if none was in
    flight. -/
theorem signedInAgain_of_issues {es l l' : List Event} {e : Event} {u t : String}
    (none : ∀ call s, ((broker unicode).after es).signIns.get? call = some s → ¬s.session.isFor u t)
    (issues : IssuesFor unicode ((broker unicode).after (es ++ l)) e u t) :
    SignedInAgain unicode es (l ++ e :: l') u t := by
  refine ⟨l, e, l', rfl, issues, ?_⟩
  obtain ⟨service, τ, request, session, hissues, isFor⟩ := issues
  have hcall : ∀ call, e.action = .beginAuthorization call →
      ∃ s, ((broker unicode).after (es ++ l)).signIns.get? call = some s ∧ s.session.isFor u t := by
    intro call action
    cases hissues with
    | beginAuthorization action' inFlight =>
      cases Action.beginAuthorization.inj (action.symm.trans action')
      exact ⟨_, inFlight, isFor⟩
    | beginAuthorizationFromSession action' => exact Action.noConfusion (action.symm.trans action')
    | completed completes => exact absurd action (completes.ne_begin.1 call)
  refine startedSince_of_not_inFlight (fun call s action hs hbefore => ?_) fun call action => ?_
  · obtain ⟨s', hs', hfor⟩ := hcall call action
    rw [hs] at hs'
    exact none call s hbefore (Option.some.inj hs' ▸ hfor)
  · obtain ⟨s, hs, -⟩ := hcall call action
    rw [hs]
    exact Option.some_ne_none s

/-- Once the tokens of a user have been revoked in a run, with nothing of the
    user's around that turns into one later, no access token, refresh token or
    grant of the user is accepted until a sign-in of the user that started after
    the revocation has issued a code. -/
theorem uninstall_complete (pre mid : List Event) (e f : Event) (userId tenantId : String)
    (action : e.action = .revokeTokensForUser userId tenantId)
    (settled : Settled ((broker unicode).after pre) e userId tenantId)
    (accepts : Accepts unicode ((broker unicode).after (pre ++ [e] ++ mid)) f userId tenantId) :
    SignedInAgain unicode (pre ++ [e]) mid userId tenantId := by
  by_contra hnever
  have hsignIns : ∀ call s, ((broker unicode).after (pre ++ [e])).signIns.get? call = some s →
      ¬s.session.isFor userId tenantId := by
    rw [Machine.after_snoc, revokeTokensForUser_next unicode action]
    exact settled.signIns
  have hinvariant : ∀ l l', mid = l ++ l' →
      Uninstalled ((broker unicode).after (pre ++ [e] ++ l)) userId tenantId := by
    intro l
    induction l using List.reverseRecOn with
    | nil =>
      intro l' _
      rw [List.append_nil, Machine.after_snoc]
      exact settled.uninstalled action
    | append_singleton l g ih =>
      rintro l' rfl
      rw [← List.append_assoc, Machine.after_snoc]
      refine (ih ([g] ++ l') (List.append_assoc _ _ _)).next fun issues => hnever ?_
      rw [List.append_assoc, List.singleton_append]
      exact signedInAgain_of_issues hsignIns issues
  exact (hinvariant mid [] (List.append_nil mid).symm).not_accepts accepts

/-- The answer is the record of an access token of the user's. -/
def isRecordFor (userId tenantId : String) : Except PyError Answer → Bool
  | .ok (.record (some r)) => decide (r.session.isFor userId tenantId)
  | _ => false

theorem Accepts.of_isRecordFor {w : World} {e : Event} {u t : String} {call : ℕ} {token : String}
    (action : e.action = .readAccessToken call token)
    (h : isRecordFor u t ((broker unicode).out w e) = true) : Accepts unicode w e u t := by
  unfold isRecordFor at h
  split at h
  · exact .read action ‹_› (of_decide_eq_true h)
  · cases h

/-- A sign-in whose tokens are revoked for its user, and a second one that is read. -/
def uninstallRun : List Event :=
  Sample.run Sample.service
    [("a", 1000, .beginAuthorizationFromSession Sample.request Sample.session),
     ("b", 2000, .exchangeAuthorizationCode 0 "canva-client" "https://canva.example/return" "code_a"
       (some Sample.verifier)),
     ("c", 2000, .createTokenPair 0),
     ("d", 3000, .revokeTokensForUser "tenant_dam:ada" "tenant_dam"),
     ("e", 4000, .authenticate 1 Sample.request Sample.session),
     ("f", 4000, .beginAuthorization 1),
     ("g", 5000, .exchangeAuthorizationCode 2 "canva-client" "https://canva.example/return" "code_f"
       (some Sample.verifier)),
     ("h", 5000, .createTokenPair 2),
     ("i", 6000, .readAccessToken 3 "at_h")]

theorem uninstall_complete_run :
    SignedInAgain Unicode.ascii (uninstallRun.take 3 ++ [uninstallRun[3]])
      ((uninstallRun.take 8).drop 4) "tenant_dam:ada" "tenant_dam" := by
  refine uninstall_complete (uninstallRun.take 3) ((uninstallRun.take 8).drop 4) uninstallRun[3]
    uninstallRun[8] "tenant_dam:ada" "tenant_dam" rfl ⟨?_, ?_, ?_, ?_, ?_⟩
    (.of_isRecordFor rfl (by decide +kernel))
  · exact (Dict.forall_get?_iff _).2 (by decide +kernel)
  · exact (Dict.forall_get?_iff _).2 (by decide +kernel)
  · exact (Dict.forall_get?_iff _).2 (by decide +kernel)
  · exact (Dict.forall_get?_iff _).2 (by decide +kernel)
  · exact (Dict.forall_get?_iff _).2 (by decide +kernel)

/-- A code that is outstanding when the tokens of its user are revoked. -/
def outstandingRun : List Event :=
  Sample.run Sample.service
    [("a", 1000, .authenticate 0 Sample.request Sample.session),
     ("b", 1000, .beginAuthorization 0),
     ("c", 2000, .revokeTokensForUser "tenant_dam:ada" "tenant_dam"),
     ("d", 3000, .exchangeAuthorizationCode 1 "canva-client" "https://canva.example/return" "code_b"
       (some Sample.verifier)),
     ("e", 3000, .createTokenPair 1),
     ("f", 4000, .readAccessToken 2 "at_e")]

/-- An outstanding code outlives the revocation: its pair is created and read
    without another sign-in. -/
theorem uninstall_incomplete :
    Fresh outstandingRun ∧ Timed outstandingRun ∧
      outstandingRun[2].action = .revokeTokensForUser "tenant_dam:ada" "tenant_dam" ∧
      Accepts Unicode.ascii ((broker Unicode.ascii).after (outstandingRun.take 5)) outstandingRun[5]
        "tenant_dam:ada" "tenant_dam" ∧
      ¬SignedInAgain Unicode.ascii (outstandingRun.take 3) ((outstandingRun.take 5).drop 3)
        "tenant_dam:ada" "tenant_dam" := by
  refine ⟨Sample.fresh _ (by decide), Sample.timed _ (by decide), rfl,
    .of_isRecordFor rfl (by decide +kernel), ?_⟩
  rintro ⟨l, g, l', hmid, ⟨service, t, request, session, hissues, -⟩, -⟩
  have hg : g ∈ [outstandingRun[3], outstandingRun[4]] := by
    change g ∈ (outstandingRun.take 5).drop 3
    rw [hmid]
    exact List.mem_append_right l List.mem_cons_self
  rw [List.mem_cons, List.mem_singleton] at hg
  rcases hg with rfl | rfl
  · exact Bool.noConfusion hissues.signsIn
  · exact Bool.noConfusion hissues.signsIn

end Broker
