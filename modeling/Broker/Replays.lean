import Broker.Revocation

/-!
# Replays

A rotated refresh token presented again is answered with the response of its
rotation, for the grace period from the time the token is marked as revoked
with. The rotation marks it; so does any revocation that finds it, with its own
time. As long as none does later, no refresh of the token succeeds later than
the grace period after its rotation (`replays_end`).
-/

namespace Broker

open Py Runs

variable {unicode : Unicode}

/-! ## Marks -/

/-- The event revokes the refresh token, by itself or for its user, and finds it
    still stored once it has pruned the store. -/
structure MarksRefresh (w : World) (e : Event) (token : String) (record : RefreshToken) : Prop where
  found : (e.service.prune w.store (e.now 0)).refreshTokens.get? token = some record
  revokes : e.action = .revokeToken token ∨
    ∃ u t, e.action = .revokeTokensForUser u t ∧ record.session.isFor u t

/-- A refresh token that a revocation leaves in the store was there once it had
    pruned it. -/
theorem found_of_revokes {w : World} {e : Event} {token : String} {r r' : RefreshToken}
    (revokes : e.action.revokes = true)
    (before : w.store.refreshTokens.get? token = some r)
    (after : ((broker unicode).next w e).store.refreshTokens.get? token = some r') :
    (e.service.prune w.store (e.now 0)).refreshTokens.get? token = some r := by
  rw [AuthService.get?_refreshTokens_prune, before, Option.filter_some]
  split_ifs with hkept
  · rfl
  -- Were it pruned, no revocation would put it back.
  · have hnone : (e.service.prune w.store (e.now 0)).refreshTokens.get? token = none := by
      rw [AuthService.get?_refreshTokens_prune, before, Option.filter_some, if_neg hkept]
    have hquiet : ∀ a : Action, e.action = a → a.revokes = false → False := by
      rintro a rfl hfalse
      rw [revokes] at hfalse
      cases hfalse
    have h := store_step unicode w e
    generalize ((broker unicode).next w e).store = s at h after
    cases h with
    | unchanged quiet => exact (hquiet _ rfl quiet).elim
    | pruned _ quiet => exact (hquiet _ rfl quiet).elim
    | issued quiet _ => exact (hquiet _ rfl quiet).elim
    | completed quiet _ => exact (hquiet _ rfl quiet).elim
    | consumed action => exact (hquiet _ action rfl).elim
    | admitted action _ _ _ => exact (hquiet _ action rfl).elim
    | burned action => exact (hquiet _ action rfl).elim
    | paired action _ => exact (hquiet _ action rfl).elim
    | relabelled action _ _ => exact (hquiet _ action rfl).elim
    | rotated rotates => exact (hquiet _ rotates.action rfl).elim
    | read action _ _ => exact (hquiet _ action rfl).elim
    | grantsPruned _ quiet => exact (hquiet _ rfl quiet).elim
    | granted action _ => exact (hquiet _ action rfl).elim
    | revokedAccess _ =>
      dsimp only at after
      rw [hnone] at after
      cases after
    | revokedRefresh _ _ =>
      dsimp only at after
      rw [Dict.get?_modify, hnone, Option.map_none, ite_self] at after
      cases after
    | notRevoked _ _ =>
      rw [hnone] at after
      cases after
    | revokedUser _ =>
      dsimp only at after
      rw [Dict.get?_map, hnone] at after
      cases after

/-- The refresh token, if stored, is revoked, at `t` at the latest. -/
def RevokedBy (s : Store) (token : String) (t : ℤ) : Prop :=
  ∀ r, s.refreshTokens.get? token = some r →
    truthyMs r.revokedAt = true ∧ ∀ t', r.revokedAt = some t' → t' ≤ t

/-- A refresh token revoked at `t` stays so, but for revocations that find it
    later. -/
theorem RevokedBy.next {es : List Event} {e : Event} {token : String} {t : ℤ}
    (h : RevokedBy ((broker unicode).after es).store token t) (fresh : Fresh (es ++ [e]))
    (drawn : Drawn "rt" es token)
    (unmarked : ∀ r, MarksRefresh ((broker unicode).after es) e token r → e.now 1 ≤ t) :
    RevokedBy ((broker unicode).after (es ++ [e])).store token t := by
  intro r hr
  rw [Machine.after_snoc] at hr
  have hmark : ∀ r₀ : RefreshToken,
      ((broker unicode).after es).store.refreshTokens.get? token = some r₀ →
      (e.action = .revokeToken token ∨
        ∃ u t, e.action = .revokeTokensForUser u t ∧ r₀.session.isFor u t) → e.now 1 ≤ t := by
    intro r₀ hr₀ hrevokes
    have hloud : e.action.revokes = true := by
      rcases hrevokes with ha | ⟨_, _, ha, -⟩ <;> rw [ha] <;> rfl
    exact unmarked r₀ ⟨found_of_revokes hloud hr₀ hr, hrevokes⟩
  have hstep := refresh_step unicode ((broker unicode).after es) e token
  rw [hr] at hstep
  generalize hold : ((broker unicode).after es).store.refreshTokens.get? token = o at hstep
  cases hstep with
  | kept _ => exact h r hold
  | relabelled _ _ =>
    have hr₀ := h _ hold
    exact hr₀
  | rotated rotates =>
    -- A token revoked already is not rotated.
    have hlive := rotates.live
    rw [(h _ hold).1] at hlive
    cases hlive
  | revoked action =>
    refine ⟨truthyMs_now e 1, fun t' ht' => ?_⟩
    obtain rfl := Option.some.inj ht'
    exact hmark _ hold (.inl action)
  | marked action isFor =>
    refine ⟨truthyMs_now e 1, fun t' ht' => ?_⟩
    obtain rfl := Option.some.inj ht'
    exact hmark _ hold (.inr ⟨_, _, action, isFor⟩)
  | minted _ key => exact absurd (key ▸ drawn) (fresh.not_drawn 1)

/-- A rotated refresh token is revoked at its rotation, until a revocation finds
    it later. -/
theorem rotates_revokedBy {pre post : List Event} {e : Event} {token : String}
    {record : RefreshToken} {stamped : TokenRecord} {opened : Session}
    (fresh : Fresh (pre ++ e :: post))
    (rotates : Rotates ((broker unicode).after pre) e token record stamped opened)
    (unmarked : ∀ mid g rest r, post = mid ++ g :: rest →
      MarksRefresh ((broker unicode).after (pre ++ e :: mid)) g token r → g.now 1 ≤ e.now 1) :
    RevokedBy ((broker unicode).after (pre ++ e :: post)).store token (e.now 1) := by
  have hdrawn : Drawn "rt" (pre ++ [e]) token :=
    ((refresh_born unicode).drawn_of_eq_some rotates.stored).append [e]
  induction post using List.reverseRecOn with
  | nil =>
    intro r hr
    rw [Machine.after_snoc, Machine.next, rotates_step rotates, Dict.get?_set_self,
      Option.some.injEq] at hr
    subst hr
    exact ⟨truthyMs_now e 1, fun t' ht' => (Option.some.inj ht').ge⟩
  | append_singleton post g ih =>
    have happend : pre ++ e :: (post ++ [g]) = (pre ++ e :: post) ++ [g] := by simp
    rw [happend] at fresh ⊢
    have hbefore := ih fresh.append_left fun mid f rest r hpost hmarks =>
      unmarked mid f (rest ++ [g]) r (by rw [hpost]; simp) hmarks
    have hsplit : pre ++ e :: post = (pre ++ [e]) ++ post := by simp
    exact hbefore.next fresh (hsplit ▸ hdrawn.append post) fun r hmarks =>
      unmarked post g [] r rfl hmarks

/-! ## The replay window -/

/-- After the rotation of a refresh token, no refresh of it succeeds later than
    the grace period, if no revocation that finds the token still stored falls
    later than the rotation. -/
theorem replays_end (pre mid : List Event) (e f : Event) (clientId token : String)
    (record : RefreshToken) (stamped : TokenRecord) (opened : Session) (response : TokenResponse)
    (fresh : Fresh (pre ++ e :: mid))
    (rotates : Rotates ((broker unicode).after pre) e token record stamped opened)
    (unmarked : ∀ l g rest r, mid = l ++ g :: rest →
      MarksRefresh ((broker unicode).after (pre ++ e :: l)) g token r → g.now 1 ≤ e.now 1)
    (action : f.action = .refreshAccessToken clientId token)
    (success : (broker unicode).out ((broker unicode).after (pre ++ e :: mid)) f =
      .ok (.tokens (.ok response))) :
    f.now 1 ≤ e.now 1 + f.service.refreshGraceMs := by
  have hrevoked := rotates_revokedBy fresh rotates unmarked
  rcases refresh_answer action success with ⟨r, _, _, hrotates, -, -⟩ | ⟨r, hreplays, -⟩
  · have hlive := hrotates.live
    rw [(hrevoked r hrotates.stored).1] at hlive
    cases hlive
  · obtain ⟨t, ht, -, hgrace⟩ := hreplays.revoked
    have htime := (hrevoked r hreplays.stored).2 t ht
    omega

/-- A refresh token rotated, revoked in the same millisecond, and presented again at the
    end of the grace period. Meanwhile another user is revoked. -/
def replayedTwice : List Event :=
  Sample.run Sample.service
    [("a", 1000, .beginAuthorizationFromSession Sample.request Sample.session),
     ("b", 2000, .exchangeAuthorizationCode 0 "canva-client" "https://canva.example/return" "code_a"
       (some Sample.verifier)),
     ("c", 2000, .createTokenPair 0),
     ("d", 3000, .refreshAccessToken "canva-client" "rt_c"),
     ("e", 3000, .revokeToken "rt_c"),
     ("f", 20000, .revokeTokensForUser "tenant_dam:eve" Sample.session.tenant.id),
     ("g", 33000, .refreshAccessToken "canva-client" "rt_c")]

/-- A refresh of a token without a cached response rotates it. -/
theorem rotates_of_unrotated {es : List Event} {e : Event} {clientId token : String}
    {response : TokenResponse} (action : e.action = .refreshAccessToken clientId token)
    (success : (broker unicode).out ((broker unicode).after es) e = .ok (.tokens (.ok response)))
    (unrotated : (((broker unicode).after es).store.refreshTokens.get? token).all
      (·.rotationResponse.isNone) = true) :
    ∃ record stamped opened,
      Rotates ((broker unicode).after es) e token record stamped opened := by
  rcases refresh_answer action success with ⟨r, s, o, hrotates, -, -⟩ | ⟨r, hreplays, -⟩
  · exact ⟨r, s, o, hrotates⟩
  · rw [hreplays.stored, Option.all_some, hreplays.cached] at unrotated
    cases unrotated

theorem replays_end_run :
    (broker Unicode.ascii).out ((broker Unicode.ascii).after (replayedTwice.take 6)) replayedTwice[6] =
        .ok (.tokens (.ok ⟨"at_d", "Bearer", 3600, some "rt_d", "dam:read"⟩)) ∧
      (replayedTwice[6]).now 1 ≤
        (replayedTwice[3]).now 1 + (replayedTwice[6]).service.refreshGraceMs := by
  have hrun : Fresh replayedTwice := Sample.fresh _ (by decide)
  have hfresh : Fresh
      (replayedTwice.take 3 ++ replayedTwice[3] :: [replayedTwice[4], replayedTwice[5]]) :=
    Fresh.append_left (show Fresh (_ ++ replayedTwice.drop 6) from hrun)
  have hrotation : (broker Unicode.ascii).out ((broker Unicode.ascii).after (replayedTwice.take 3))
      replayedTwice[3] = .ok (.tokens (.ok ⟨"at_d", "Bearer", 3600, some "rt_d", "dam:read"⟩)) := by
    decide +kernel
  have hreplay : (broker Unicode.ascii).out ((broker Unicode.ascii).after (replayedTwice.take 6))
      replayedTwice[6] = .ok (.tokens (.ok ⟨"at_d", "Bearer", 3600, some "rt_d", "dam:read"⟩)) := by
    decide +kernel
  -- The token is not of the user who is revoked meanwhile.
  have hother : (((replayedTwice[5]).service.prune
      ((broker Unicode.ascii).after
        (replayedTwice.take 3 ++ [replayedTwice[3], replayedTwice[4]])).store
      ((replayedTwice[5]).now 0)).refreshTokens.get? "rt_c").all
        (fun r => !decide (r.session.user.id = "tenant_dam:eve")) = true := by
    decide +kernel
  obtain ⟨record, stamped, opened, rotates⟩ := rotates_of_unrotated rfl hrotation (by decide +kernel)
  refine ⟨hreplay, replays_end (replayedTwice.take 3) [replayedTwice[4], replayedTwice[5]]
    replayedTwice[3] replayedTwice[6] "canva-client" "rt_c" record stamped opened _
    hfresh rotates (fun l g rest r hmid hmarks => ?_) rfl hreplay⟩
  rcases l with _ | ⟨g', l⟩
  · -- The token's own revocation is as early as the rotation.
    rw [List.nil_append, List.cons.injEq] at hmid
    exact hmid.1 ▸ le_rfl
  rw [List.cons_append, List.cons.injEq] at hmid
  obtain ⟨rfl, hmid⟩ := hmid
  rcases l with _ | ⟨g'', l⟩
  · rw [List.nil_append, List.cons.injEq] at hmid
    obtain ⟨rfl, -⟩ := hmid
    rcases hmarks.revokes with haction | ⟨u, t, haction, hfor⟩
    · cases haction
    · have hfound := hmarks.found
      cases haction
      rw [hfound, Option.all_some, hfor.1] at hother
      cases hother
  · rw [List.cons_append, List.cons.injEq] at hmid
    cases l <;> cases hmid.2

/-- A revocation within the grace period moves the window: the response of the
    rotation at 3000 ms is replayed at 34000 ms, past its 30 seconds. -/
theorem replay_window_moved :
    Fresh replayedRun ∧ Timed replayedRun ∧
      (∃ record stamped opened, Rotates ((broker Unicode.ascii).after (replayedRun.take 3))
        replayedRun[3] "rt_c" record stamped opened) ∧
      (broker Unicode.ascii).out ((broker Unicode.ascii).after (replayedRun.take 5)) replayedRun[5] =
        .ok (.tokens (.ok ⟨"at_d", "Bearer", 3600, some "rt_d", "dam:read"⟩)) ∧
      (replayedRun[3]).now 1 + (replayedRun[5]).service.refreshGraceMs < (replayedRun[5]).now 1 := by
  have hrotation : (broker Unicode.ascii).out ((broker Unicode.ascii).after (replayedRun.take 3))
      replayedRun[3] = .ok (.tokens (.ok ⟨"at_d", "Bearer", 3600, some "rt_d", "dam:read"⟩)) := by
    decide +kernel
  exact ⟨Sample.fresh _ (by decide), Sample.timed _ (by decide),
    rotates_of_unrotated rfl hrotation (by decide +kernel), by decide +kernel, by decide +kernel⟩

end Broker
