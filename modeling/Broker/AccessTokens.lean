import Broker.Lineages

/-!
# The life of an access token

An access token is read exactly from its minting until it expires or is
revoked, by services that know its client and open its session
(`read_iff_live`). Neither pruning nor what other calls do ends its life early
(`stored_while_live`), and a revocation is final (`revoked_for_good`,
`marked_for_good`).
-/

namespace Broker

open Py Runs

variable {unicode : Unicode}

/-- The event revokes the access token `k` of the session. -/
def RevokesAccess (e : Event) (k : String) (session : Session) : Prop :=
  e.action = .revokeToken k ∨ ∃ u t, e.action = .revokeTokensForUser u t ∧ session.isFor u t

/-- The event that minted a token, seen from the store it leaves. -/
theorem mintsAccess_next (unicode : Unicode) {w : World} {e : Event} {k : String} {r₀ : AccessToken}
    (mints : MintsAccess w e k r₀) :
    ((broker unicode).next w e).store.accessTokens.get? k = some r₀ := by
  obtain ⟨rfl, service, now, session, scope, clientId, hmints, rfl⟩ := mints
  cases hmints with
  | @exchanged call x action inFlight =>
    change (w.step unicode e).2.store.accessTokens.get? _ = _
    rw [World.step, action]
    dsimp only
    rw [inFlight]
    exact Dict.get?_set_self _ _ _
  | @rotated token record stamped opened rotates =>
    rw [Machine.next, rotates_step rotates, (Relabels.of_stamp rotates.stamps).scope]
    exact Dict.get?_set_self _ _ _

/-- A stored access token is the one minted under its key, but for its labels. -/
theorem access_like {b mid : List Event} {f : Event} {k : String} {r₀ r : AccessToken}
    (fresh : Fresh (b ++ f :: mid)) (mints : MintsAccess ((broker unicode).after b) f k r₀)
    (hr : ((broker unicode).after (b ++ f :: mid)).store.accessTokens.get? k = some r) :
    Relabels r.toTokenRecord r₀.toTokenRecord ∧ r.expiresAt = r₀.expiresAt := by
  obtain ⟨b', f', mid', hsplit, r₁, mints₁, hlike, hexpires⟩ := access_origin hr
  obtain ⟨rfl, rfl, -⟩ :=
    fresh.position_unique rfl hsplit (randomToken_inj (mints.key.symm.trans mints₁.key))
  have hsame : r₁ = r₀ := Option.some.inj
    ((mintsAccess_next unicode mints₁).symm.trans (mintsAccess_next unicode mints))
  exact hsame ▸ ⟨hlike, hexpires⟩

/-- A live access token is stored, unrevoked: nothing but its expiry and its
    revocation removes it. -/
theorem stored_while_live {b mid : List Event} {f : Event} {k : String} {r₀ : AccessToken}
    (fresh : Fresh (b ++ f :: mid)) (mints : MintsAccess ((broker unicode).after b) f k r₀)
    (unrevoked : ∀ g ∈ mid, ¬RevokesAccess g k r₀.session)
    (unexpired : ∀ g ∈ mid, ∀ i, g.now i < r₀.expiresAt) :
    ∃ r, ((broker unicode).after (b ++ f :: mid)).store.accessTokens.get? k = some r ∧
      Relabels r.toTokenRecord r₀.toTokenRecord ∧ r.expiresAt = r₀.expiresAt ∧
      r.revokedAt = none := by
  induction mid using List.reverseRecOn with
  | nil =>
    refine ⟨r₀, ?_, .refl _, rfl, ?_⟩
    · rw [Machine.after_snoc]
      exact mintsAccess_next unicode mints
    · obtain ⟨_, _, _, _, _, _, _, rfl⟩ := mints
      rfl
  | append_singleton mid g ih =>
    have happend : b ++ f :: (mid ++ [g]) = (b ++ f :: mid) ++ [g] := by simp
    rw [happend] at fresh ⊢
    obtain ⟨r, hr, hlike, hexpires, hlive⟩ := ih fresh.append_left
      (fun g' hg' => unrevoked g' (List.mem_append_left [g] hg'))
      (fun g' hg' => unexpired g' (List.mem_append_left [g] hg'))
    have hg : g ∈ mid ++ [g] := List.mem_append_right mid List.mem_cons_self
    rw [Machine.after_snoc]
    have hstep := access_step unicode ((broker unicode).after (b ++ f :: mid)) g k
    rw [hr] at hstep
    generalize ((broker unicode).next ((broker unicode).after (b ++ f :: mid)) g).store.accessTokens.get?
      k = o at hstep
    cases hstep with
    | kept _ _ => exact ⟨r, rfl, hlike, hexpires, hlive⟩
    | relabelled _ stamps => exact ⟨_, rfl, (Relabels.of_stamp stamps).trans hlike, hexpires, hlive⟩
    -- Nobody revoked the token, and it has not expired, so no step drops or marks it.
    | marked action isFor =>
      refine absurd (.inr ⟨_, _, action, ?_⟩) (unrevoked g hg)
      exact (isFor_congr hlike.identity _ _).1 isFor
    | dropped why =>
      rcases why with ⟨i, hpruned⟩ | action
      · have htime := unexpired g hg i
        simp only [AccessToken.pruned, hlive, truthyMs, Option.any_none, Bool.or_false,
          decide_eq_true_eq, hexpires] at hpruned
        omega
      · exact absurd (.inl action) (unrevoked g hg)
    | minted _ key =>
      -- The key was drawn before: no later event mints under it.
      have hdrawn : Drawn "at" (b ++ f :: mid) k :=
        (access_born unicode).drawn_of_eq_some hr
      exact absurd (key ▸ hdrawn) (fresh.not_drawn 0)

/-- A revocation leaves no access token under its key. -/
theorem revokeToken_next {w : World} {e : Event} {k : String} (action : e.action = .revokeToken k) :
    ((broker unicode).next w e).store.accessTokens.get? k = none := by
  have hstep := access_step unicode w e k
  generalize ((broker unicode).next w e).store.accessTokens.get? k = o at hstep ⊢
  generalize w.store.accessTokens.get? k = o' at hstep
  cases hstep with
  | absent => rfl
  | kept key _ => exact absurd action key
  | relabelled action' _ => exact Action.noConfusion (action.symm.trans action')
  | marked action' _ => exact Action.noConfusion (action.symm.trans action')
  | dropped _ => rfl
  | minted mints _ =>
    cases mints with
    | exchanged action' _ => exact Action.noConfusion (action.symm.trans action')
    | rotated rotates => exact Action.noConfusion (action.symm.trans rotates.action)

/-- A stored access token was not revoked by `revoke_token` since it was minted. -/
theorem revoked_for_good {b mid : List Event} {f : Event} {k : String} {r₀ r : AccessToken}
    (fresh : Fresh (b ++ f :: mid)) (mints : MintsAccess ((broker unicode).after b) f k r₀)
    (hr : ((broker unicode).after (b ++ f :: mid)).store.accessTokens.get? k = some r) :
    ∀ g ∈ mid, g.action ≠ .revokeToken k := by
  intro g hg action
  obtain ⟨p, q, rfl⟩ := List.append_of_mem hg
  have hsplit : b ++ f :: (p ++ g :: q) = (b ++ f :: p) ++ [g] ++ q := by simp
  rw [hsplit] at fresh hr
  have hdrawn : Drawn "at" (b ++ f :: p ++ [g]) k := ⟨f, by simp, 0, mints.key⟩
  have hgone : ((broker unicode).after (b ++ f :: p ++ [g])).store.accessTokens.get? k = none := by
    rw [Machine.after_snoc]
    exact revokeToken_next action
  rw [(access_born unicode).gone fresh hdrawn hgone] at hr
  cases hr

/-- An access token marked as revoked stays so, as long as it is stored. -/
theorem marked_for_good {es mid : List Event} {k : String} (fresh : Fresh (es ++ mid))
    (drawn : Drawn "at" es k)
    (marked : ∀ r, ((broker unicode).after es).store.accessTokens.get? k = some r →
      truthyMs r.revokedAt = true) :
    ∀ r, ((broker unicode).after (es ++ mid)).store.accessTokens.get? k = some r →
      truthyMs r.revokedAt = true := by
  induction mid using List.reverseRecOn with
  | nil => rwa [List.append_nil]
  | append_singleton mid g ih =>
    rw [← List.append_assoc] at fresh ⊢
    have hbefore := ih fresh.append_left
    intro r hr
    rw [Machine.after_snoc] at hr
    have hstep := access_step unicode ((broker unicode).after (es ++ mid)) g k
    rw [hr] at hstep
    generalize hold : ((broker unicode).after (es ++ mid)).store.accessTokens.get? k = o at hstep
    cases hstep with
    | kept _ _ => exact hbefore r hold
    | relabelled _ _ =>
      have hmark := hbefore _ hold
      exact hmark
    | marked _ _ => exact truthyMs_now g 1
    | minted _ key => exact absurd (key ▸ drawn.append mid) (fresh.not_drawn 0)

/-- A stored access token that is not marked as revoked was not revoked for its
    user since it was minted. -/
theorem unmarked_of_user {b mid : List Event} {f : Event} {k : String} {r₀ r : AccessToken}
    (fresh : Fresh (b ++ f :: mid)) (mints : MintsAccess ((broker unicode).after b) f k r₀)
    (hr : ((broker unicode).after (b ++ f :: mid)).store.accessTokens.get? k = some r)
    (live : truthyMs r.revokedAt = false) :
    ∀ g ∈ mid, ∀ u t, g.action = .revokeTokensForUser u t → ¬r₀.session.isFor u t := by
  intro g hg u t action isFor
  obtain ⟨p, q, rfl⟩ := List.append_of_mem hg
  have hsplit : b ++ f :: (p ++ g :: q) = (b ++ f :: (p ++ [g])) ++ q := by simp
  rw [hsplit] at fresh hr
  have hdrawn : Drawn "at" (b ++ f :: (p ++ [g])) k := ⟨f, by simp, 0, mints.key⟩
  have hmarked : ∀ r, ((broker unicode).after (b ++ f :: (p ++ [g]))).store.accessTokens.get? k =
      some r → truthyMs r.revokedAt = true := by
    intro r' hr'
    have happend : b ++ f :: (p ++ [g]) = (b ++ f :: p) ++ [g] := by simp
    rw [happend] at hr' fresh
    rw [Machine.after_snoc] at hr'
    have hstep := access_step unicode ((broker unicode).after (b ++ f :: p)) g k
    rw [hr'] at hstep
    generalize hold : ((broker unicode).after (b ++ f :: p)).store.accessTokens.get? k = o at hstep
    cases hstep with
    | kept _ user =>
      have hlike := (access_like fresh.append_left.append_left mints hold).1
      exact absurd ((isFor_congr hlike.identity u t).2 isFor) (user u t action)
    | relabelled action' _ => exact Action.noConfusion (action.symm.trans action')
    | marked _ _ => exact truthyMs_now g 1
    | minted mints' _ =>
      cases mints' with
      | exchanged action' _ => exact Action.noConfusion (action.symm.trans action')
      | rotated rotates => exact Action.noConfusion (action.symm.trans rotates.action)
  rw [marked_for_good fresh hdrawn hmarked r hr] at live
  cases live

/-- A record that is read was minted by an exchange or a rotation, and has
    neither expired nor been revoked since. -/
theorem minted_of_read {pre : List Event} {e : Event} {call : ℕ} {k : String} {r : AccessToken}
    (fresh : Fresh pre) (action : e.action = .readAccessToken call k)
    (read : (broker unicode).out ((broker unicode).after pre) e = .ok (.record (some r))) :
    ∃ b f mid service now session scope clientId, pre = b ++ f :: mid ∧
      Mints ((broker unicode).after b) f service now session scope clientId ∧
      k = randomToken "at" (f.rand.token 0) ∧
      e.now 0 < now 0 + service.config.oauth.tokenTtlSeconds * 1000 ∧
      (∀ g ∈ mid, g.action ≠ .revokeToken k ∧
        g.action ≠ .revokeTokensForUser session.user.id session.tenant.id) ∧
      isConfiguredClient e.service.config clientId = true ∧
      (service.tokenSession f.rand session clientId).opens e.service.fieldCipher := by
  obtain ⟨record, stamped, opened, hreads, -⟩ := read_answer action read
  have hfound := hreads.found
  rw [AuthService.get?_accessTokens_prune, Option.filter_eq_some_iff] at hfound
  obtain ⟨hstored, hpruned⟩ := hfound
  simp only [AccessToken.pruned, Bool.not_or, Bool.and_eq_true, Bool.not_eq_true',
    decide_eq_false_iff_not, not_le] at hpruned
  obtain ⟨b, f, mid, rfl, r₀, mints, hlike, hexpires⟩ := access_origin hstored
  -- The record is not marked, so neither the token nor its user has been revoked.
  have hkey := revoked_for_good fresh mints hstored
  have huser := unmarked_of_user fresh mints hstored hpruned.2
  obtain ⟨hk, service, now, session, scope, clientId, hmints, rfl⟩ := mints
  refine ⟨b, f, mid, service, now, session, scope, clientId, rfl, hmints, hk, ?_,
    fun g hg => ⟨hkey g hg, fun ha => huser g hg _ _ ha ?_⟩, ?_, ?_⟩
  · exact lt_of_lt_of_eq hpruned.1 hexpires
  · exact (isFor_congr (identity_tokenRecord service f.rand session scope clientId) _ _).2
      ⟨rfl, rfl⟩
  · rw [← show record.clientId = clientId from hlike.clientId]
    exact exists_stamp_iff.1 ⟨stamped, hreads.stamps⟩
  · exact (hlike.opens _).1 (((Relabels.of_stamp hreads.stamps).opens _).1 ⟨opened, hreads.opens⟩)

/-- The record of a minted token is read until its expiry, if it is not revoked
    in between, by a service that knows its client and opens its session. -/
theorem read_of_minted {b mid post : List Event} {f e : Event} {service : AuthService}
    {now : ℕ → ℤ} {session : Session} {scope clientId : String} {call : ℕ} {k : String}
    (fresh : Fresh (b ++ f :: mid)) (timed : Timed (b ++ f :: (mid ++ e :: post)))
    (mints : Mints ((broker unicode).after b) f service now session scope clientId)
    (key : k = randomToken "at" (f.rand.token 0)) (action : e.action = .readAccessToken call k)
    (unexpired : e.now 0 < now 0 + service.config.oauth.tokenTtlSeconds * 1000)
    (unrevoked : ∀ g ∈ mid, g.action ≠ .revokeToken k ∧
      g.action ≠ .revokeTokensForUser session.user.id session.tenant.id)
    (client : isConfiguredClient e.service.config clientId = true)
    (opens : (service.tokenSession f.rand session clientId).opens e.service.fieldCipher) :
    ∃ r, (broker unicode).out ((broker unicode).after (b ++ f :: mid)) e =
      .ok (.record (some r)) := by
  have hmints : MintsAccess ((broker unicode).after b) f k
      (service.accessTokenRecord now f.rand session scope clientId) :=
    ⟨key, service, now, session, scope, clientId, mints, rfl⟩
  -- The record of the mint is still there, but for its label.
  have hidentity := identity_tokenRecord service f.rand session scope clientId
  have hunrevoked : ∀ g ∈ mid, ¬RevokesAccess g k
      (service.tokenRecord f.rand session scope clientId).session := by
    rintro g hg (ha | ⟨u, t, ha, hfor⟩)
    · exact (unrevoked g hg).1 ha
    · rw [isFor_congr hidentity] at hfor
      obtain ⟨rfl, rfl⟩ := hfor
      exact (unrevoked g hg).2 ha
  have hunexpired : ∀ g ∈ mid, ∀ i, g.now i <
      now 0 + service.config.oauth.tokenTtlSeconds * 1000 := fun g hg i =>
    lt_of_le_of_lt (timed.le_of_before (List.mem_cons_of_mem f hg) i 0) unexpired
  obtain ⟨r, hr, hlike, hexpires, hlive⟩ := stored_while_live fresh hmints hunrevoked hunexpired
  obtain ⟨stamped, hstamps⟩ : ∃ stamped,
      stampTokenRecordMetadata e.service.config r.toTokenRecord = some stamped := by
    rw [exists_stamp_iff, hlike.clientId]
    exact client
  obtain ⟨opened, hopened⟩ := ((Relabels.of_stamp hstamps).opens _).2 ((hlike.opens _).2 opens)
  refine ⟨_, read_succeeds action ?_ hstamps hopened⟩
  rw [AuthService.get?_accessTokens_prune, hr, Option.filter_eq_some_iff]
  refine ⟨rfl, ?_⟩
  simp only [AccessToken.pruned, hlive, truthyMs, Option.any_none, Bool.or_false,
    Bool.not_eq_true', decide_eq_false_iff_not, not_le, hexpires]
  exact unexpired

/-- Reading an access token returns a record exactly when an exchange or a
    rotation minted it, it has not expired, it was not revoked since, by itself
    or for its user, and the service knows its client and opens its session. -/
theorem read_iff_live (es pre post : List Event) {e : Event} {call : ℕ} {k : String}
    (fresh : Fresh es) (timed : Timed es) (split : es = pre ++ e :: post)
    (action : e.action = .readAccessToken call k) :
    (∃ r, (broker unicode).out ((broker unicode).after pre) e = .ok (.record (some r))) ↔
    ∃ b f mid service now session scope clientId, pre = b ++ f :: mid ∧
      Mints ((broker unicode).after b) f service now session scope clientId ∧
      k = randomToken "at" (f.rand.token 0) ∧
      e.now 0 < now 0 + service.config.oauth.tokenTtlSeconds * 1000 ∧
      (∀ g ∈ mid, g.action ≠ .revokeToken k ∧
        g.action ≠ .revokeTokensForUser session.user.id session.tenant.id) ∧
      isConfiguredClient e.service.config clientId = true ∧
      (service.tokenSession f.rand session clientId).opens e.service.fieldCipher := by
  have hfresh : Fresh pre := (split ▸ fresh).append_left
  constructor
  · rintro ⟨r, read⟩
    exact minted_of_read hfresh action read
  · rintro ⟨b, f, mid, service, now, session, scope, clientId, rfl, mints, key, unexpired,
      unrevoked, client, opens⟩
    have hsplit : es = b ++ f :: (mid ++ e :: post) := by rw [split]; simp
    exact read_of_minted hfresh (hsplit ▸ timed) mints key action unexpired unrevoked client opens

/-- An exchange, and a read of its access token. -/
def readRun : List Event :=
  Sample.run Sample.service
    [("a", 1000, .beginAuthorizationFromSession Sample.request Sample.session),
     ("b", 2000, .exchangeAuthorizationCode 0 "canva-client" "https://canva.example/return" "code_a"
       (some Sample.verifier)),
     ("c", 2000, .createTokenPair 0),
     ("d", 3600000, .readAccessToken 1 "at_c")]

/-- The record an answer gives. -/
def Answer.record? : Answer → Option AccessToken
  | .record r => r
  | _ => Option.none

theorem Answer.eq_record {o : Except PyError Answer}
    (h : (o.toOption.bind Answer.record?).isSome = true) : ∃ r, o = .ok (.record (some r)) := by
  rcases o with _ | answer
  · cases h
  · cases answer with
    | record r =>
      obtain ⟨r, rfl⟩ := Option.isSome_iff_exists.1 h
      exact ⟨r, rfl⟩
    | _ => cases h

theorem read_iff_live_run :
    (∃ r, (broker Unicode.ascii).out ((broker Unicode.ascii).after (readRun.take 3)) readRun[3] =
      .ok (.record (some r))) ∧
    ∃ b f mid, readRun.take 3 = b ++ f :: mid ∧ "at_c" = randomToken "at" (f.rand.token 0) ∧
      ∀ g ∈ mid, g.action ≠ .revokeToken "at_c" := by
  have hfresh : Fresh readRun := Sample.fresh _ (by decide)
  have htimed : Timed readRun := Sample.timed _ (by decide)
  have hread : (((broker Unicode.ascii).out ((broker Unicode.ascii).after (readRun.take 3))
      readRun[3]).toOption.bind Answer.record?).isSome = true := by decide +kernel
  obtain ⟨b, f, mid, _, _, _, _, _, hsplit, -, hkey, -, hrevoked, -⟩ :=
    (read_iff_live readRun (readRun.take 3) [] hfresh htimed rfl rfl).1 (Answer.eq_record hread)
  exact ⟨Answer.eq_record hread, b, f, mid, hsplit, hkey, fun g hg => (hrevoked g hg).1⟩

end Broker
