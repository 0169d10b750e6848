import Broker.AccessTokens

/-!
# Revoking a token

`revoke_token` removes an access token, and marks a refresh token as revoked:
neither is accepted again, unless the refresh token was rotated before
(`revocation_final`). A rotated one is revoked already, and its revocation only
sets the time anew from which its cached response is replayed
(`revocation_replayed`).
-/

namespace Broker

open Py Runs

variable {unicode : Unicode}

/-- After the run `es`, no event of `post` is handed anything out for the token:
    reads of it answer no record, and refreshes with it no tokens. -/
def Rejected (unicode : Unicode) (es post : List Event) (token : String) : Prop :=
  ∀ mid f rest, post = mid ++ f :: rest →
    (∀ call r, f.action = .readAccessToken call token →
      (broker unicode).out ((broker unicode).after (es ++ mid)) f ≠ .ok (.record (some r))) ∧
    ∀ clientId response, f.action = .refreshAccessToken clientId token →
      (broker unicode).out ((broker unicode).after (es ++ mid)) f ≠ .ok (.tokens (.ok response))

/-- Access and refresh tokens are never the same. -/
theorem not_drawn_at_rt {es fs : List Event} {k : String} (h : Drawn "at" es k) :
    ¬Drawn "rt" fs k := by
  obtain ⟨e, -, i, rfl⟩ := h
  rintro ⟨f, -, j, hk⟩
  have hlist := congrArg String.toList hk
  simp [randomToken, String.toList_append] at hlist

/-- A token without an access token record, and with its refresh token record
    revoked without a cached response, is rejected from then on. -/
theorem rejected_of_retired {es post : List Event} {token : String}
    (access : ∀ mid rest, post = mid ++ rest →
      ((broker unicode).after (es ++ mid)).store.accessTokens.get? token = none)
    (refresh : ∀ mid rest, post = mid ++ rest →
      RevokedWith ((broker unicode).after (es ++ mid)).store token none) :
    Rejected unicode es post token := by
  intro mid f rest hpost
  have haccess := access mid (f :: rest) hpost
  have hrefresh := refresh mid (f :: rest) hpost
  refine ⟨fun call r action hout => ?_, fun clientId response action hout => ?_⟩
  · obtain ⟨record, stamped, opened, hreads, -⟩ := read_answer action hout
    have hfound := hreads.found
    rw [AuthService.get?_accessTokens_prune, haccess] at hfound
    cases hfound
  · rcases refresh_answer action hout with ⟨record, _, _, hrotates, -⟩ | ⟨record, hreplays, -⟩
    · have hlive := hrotates.live
      rw [(hrefresh record hrotates.stored).1] at hlive
      cases hlive
    · have hcached := hreplays.cached
      rw [(hrefresh record hreplays.stored).2] at hcached
      cases hcached

/-- After `revoke_token(t)` has answered true in a run, `t` is never accepted
    again, if no response was cached with it: if it is an access token, or a
    refresh token not rotated yet. -/
theorem revocation_final (pre post : List Event) (e : Event) (token : String)
    (fresh : Fresh (pre ++ e :: post)) (action : e.action = .revokeToken token)
    (answered : (broker unicode).out ((broker unicode).after pre) e = .ok (.revoked true))
    (unrotated : ∀ r, (e.service.prune ((broker unicode).after pre).store (e.now 0)).refreshTokens.get?
      token = some r → r.rotationResponse = none) :
    Rejected unicode (pre ++ [e]) post token := by
  rw [List.append_cons] at fresh
  have hfresh : ∀ mid rest, post = mid ++ rest → Fresh (pre ++ [e] ++ mid) := by
    rintro mid rest rfl
    rw [← List.append_assoc] at fresh
    exact fresh.append_left
  rcases revoke_answer action answered with ⟨record, hfound⟩ | ⟨-, record, hfound, hnext⟩
  · -- An access token: its record is gone, and its key is no refresh token.
    rw [AuthService.get?_accessTokens_prune, Option.filter_eq_some_iff] at hfound
    have hdrawn : Drawn "at" (pre ++ [e]) token :=
      ((access_born unicode).drawn_of_eq_some hfound.1).append [e]
    have hgone : ((broker unicode).after (pre ++ [e])).store.accessTokens.get? token = none := by
      rw [Machine.after_snoc]
      exact revokeToken_next action
    refine rejected_of_retired
      (fun mid rest h => (access_born unicode).gone (hfresh mid rest h) hdrawn hgone)
      fun mid rest h r hr => ?_
    have hrefresh : Drawn "rt" (pre ++ [e] ++ mid) token :=
      (refresh_born unicode).drawn_of_eq_some hr
    exact absurd hrefresh (not_drawn_at_rt hdrawn)
  · -- A refresh token: it is revoked without a cached response, and no access token.
    have hcached := unrotated record hfound
    rw [AuthService.get?_refreshTokens_prune, Option.filter_eq_some_iff] at hfound
    have hdrawn : Drawn "rt" (pre ++ [e]) token :=
      ((refresh_born unicode).drawn_of_eq_some hfound.1).append [e]
    have hrevoked : RevokedWith ((broker unicode).after (pre ++ [e])).store token none := by
      intro r hr
      rw [Machine.after_snoc, hnext, Option.some.injEq] at hr
      subst hr
      exact ⟨truthyMs_now e 1, hcached⟩
    refine rejected_of_retired (fun mid rest h => ?_)
      fun mid rest h => hrevoked.for_good hdrawn mid (hfresh mid rest h)
    by_contra hstored
    exact not_drawn_at_rt ((access_born unicode).drawn hstored) hdrawn

/-- A refresh token, revoked and presented again. -/
def revokedRun : List Event :=
  Sample.run Sample.service
    [("a", 1000, .beginAuthorizationFromSession Sample.request Sample.session),
     ("b", 2000, .exchangeAuthorizationCode 0 "canva-client" "https://canva.example/return" "code_a"
       (some Sample.verifier)),
     ("c", 2000, .createTokenPair 0),
     ("d", 3000, .revokeToken "rt_c"),
     ("e", 4000, .refreshAccessToken "canva-client" "rt_c")]

theorem revocation_final_run :
    Rejected Unicode.ascii (revokedRun.take 4) (revokedRun.drop 4) "rt_c" := by
  have hfresh : Fresh revokedRun := Sample.fresh _ (by decide)
  have hunrotated : (((revokedRun[3]).service.prune
      ((broker Unicode.ascii).after (revokedRun.take 3)).store ((revokedRun[3]).now 0)).refreshTokens.get?
        "rt_c").all (·.rotationResponse.isNone) := by
    decide +kernel
  refine revocation_final (revokedRun.take 3) (revokedRun.drop 4) revokedRun[3] "rt_c" hfresh rfl
    (by decide +kernel) fun r hr => ?_
  rw [hr] at hunrotated
  simpa using hunrotated

/-- A refresh token, rotated, revoked and presented again. -/
def replayedRun : List Event :=
  Sample.run Sample.service
    [("a", 1000, .beginAuthorizationFromSession Sample.request Sample.session),
     ("b", 2000, .exchangeAuthorizationCode 0 "canva-client" "https://canva.example/return" "code_a"
       (some Sample.verifier)),
     ("c", 2000, .createTokenPair 0),
     ("d", 3000, .refreshAccessToken "canva-client" "rt_c"),
     ("e", 4000, .revokeToken "rt_c"),
     ("f", 34000, .refreshAccessToken "canva-client" "rt_c")]

/-- The revocation of a rotated refresh token is not final: its response is
    replayed after it, and later than it would have been without. -/
theorem revocation_replayed :
    Fresh replayedRun ∧ Timed replayedRun ∧
      (broker Unicode.ascii).out ((broker Unicode.ascii).after (replayedRun.take 4)) replayedRun[4] =
        .ok (.revoked true) ∧
      ¬Rejected Unicode.ascii (replayedRun.take 5) (replayedRun.drop 5) "rt_c" := by
  refine ⟨Sample.fresh _ (by decide), Sample.timed _ (by decide), by decide +kernel, fun h => ?_⟩
  have hreplay : (broker Unicode.ascii).out ((broker Unicode.ascii).after (replayedRun.take 5))
      replayedRun[5] = .ok (.tokens (.ok ⟨"at_d", "Bearer", 3600, some "rt_d", "dam:read"⟩)) := by
    decide +kernel
  exact (h [] replayedRun[5] [] rfl).2 "canva-client" _ rfl hreplay

end Broker
