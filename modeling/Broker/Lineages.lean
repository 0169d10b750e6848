import Mathlib.Logic.Relation
import Broker.Exchanges

/-!
# Rotation and lineages

The pairs minted for a code (`MintedFor`): that of its exchange, and those of
the rotations of their refresh tokens. A rotated token stays revoked with its
response cached (`rotated_for_good`), so it is rotated once (`rotates_once`),
and the refresh tokens of a code form one chain. Client, scope and identity are
those of the sign-in all along (`mintedFor_mints`).
-/

namespace Broker

open Py Runs

variable {unicode : Unicode}

/-- In a fresh run, a draw tells its event. -/
theorem Fresh.position_unique {es pre pre' post post' : List Event} {e e' : Event} {i j : ℕ}
    (fresh : Fresh es) (h : es = pre ++ e :: post) (h' : es = pre' ++ e' :: post')
    (draw : e.rand.token i = e'.rand.token j) : pre = pre' ∧ e = e' ∧ post = post' := by
  rcases Machine.position_cases (h.symm.trans h') with heq | ⟨mid, rfl, -⟩ | ⟨mid, rfl, -⟩
  · exact heq
  · rw [h'] at fresh
    exact absurd draw ((List.pairwise_append.1 fresh).2.2 e (by simp) e' (by simp) i j)
  · rw [h] at fresh
    exact absurd draw.symm ((List.pairwise_append.1 fresh).2.2 e' (by simp) e (by simp) j i)

/-! ## Rotation -/

/-- The stored refresh token, if any, is revoked, with this cached response. -/
def RevokedWith (s : Store) (token : String) (cached : Option TokenResponse) : Prop :=
  ∀ r, s.refreshTokens.get? token = some r →
    truthyMs r.revokedAt = true ∧ r.rotationResponse = cached

theorem truthyMs_now (e : Event) (i : ℕ) : truthyMs (some (e.now i)) = true := by
  have hne : e.now i ≠ 0 := (e.clock.pos i).ne'
  simpa [truthyMs] using hne

/-- A refresh token that is revoked stays so, and its cached response stays as it
    is. -/
theorem RevokedWith.for_good {es : List Event} {token : String} {cached : Option TokenResponse}
    (drawn : Drawn "rt" es token)
    (h : RevokedWith ((broker unicode).after es).store token cached) :
    ∀ post, Fresh (es ++ post) →
      RevokedWith ((broker unicode).after (es ++ post)).store token cached := by
  intro post
  induction post using List.reverseRecOn with
  | nil => exact fun _ => by rwa [List.append_nil]
  | append_singleton post f ih =>
    intro fresh r hr
    rw [← List.append_assoc] at fresh hr
    have hbefore := ih fresh.append_left
    rw [Machine.after_snoc] at hr
    have hstep := refresh_step unicode ((broker unicode).after (es ++ post)) f token
    rw [hr] at hstep
    generalize hold : ((broker unicode).after (es ++ post)).store.refreshTokens.get? token = o
      at hstep
    cases hstep with
    | kept _ => exact hbefore _ hold
    | relabelled _ _ =>
      have h := hbefore _ hold
      exact h
    | rotated rotates =>
      have hlive := rotates.live
      rw [(hbefore _ hold).1] at hlive
      cases hlive
    | revoked _ => exact ⟨truthyMs_now f 1, (hbefore _ hold).2⟩
    | marked _ _ => exact ⟨truthyMs_now f 1, (hbefore _ hold).2⟩
    | minted _ key => exact absurd (key ▸ drawn.append post) (fresh.not_drawn 1)

/-- A rotation answers the pair it mints. -/
theorem rotates_answer {w : World} {e : Event} {token : String} {record : RefreshToken}
    {stamped : TokenRecord} {opened : Session} (h : Rotates w e token record stamped opened) :
    (broker unicode).out w e =
      .ok (.tokens (.ok (e.service.tokenResponse e.rand record.scope))) := by
  rw [Machine.out, rotates_step h, (Relabels.of_stamp h.stamps).scope]
  rfl

/-- A rotated token is revoked, and has the response cached. -/
theorem rotates_revokedWith {w : World} {e : Event} {token : String} {record : RefreshToken}
    {stamped : TokenRecord} {opened : Session} (h : Rotates w e token record stamped opened) :
    RevokedWith ((broker unicode).next w e).store token
      (some (e.service.tokenResponse e.rand record.scope)) := by
  intro r hr
  rw [Machine.next, rotates_step h, Dict.get?_set_self, Option.some.injEq] at hr
  subst hr
  refine ⟨truthyMs_now e 1, ?_⟩
  rw [(Relabels.of_stamp h.stamps).scope]
  rfl

/-- A rotated token stays revoked, with its response cached. -/
theorem rotated_for_good {pre post : List Event} {e : Event} {token : String}
    {record : RefreshToken} {stamped : TokenRecord} {opened : Session}
    (fresh : Fresh (pre ++ e :: post))
    (rotates : Rotates ((broker unicode).after pre) e token record stamped opened) :
    RevokedWith ((broker unicode).after (pre ++ e :: post)).store token
      (some (e.service.tokenResponse e.rand record.scope)) := by
  have hdrawn : Drawn "rt" (pre ++ [e]) token :=
    ((refresh_born unicode).drawn_of_eq_some rotates.stored).append [e]
  rw [List.append_cons] at fresh ⊢
  have hnext : RevokedWith ((broker unicode).after (pre ++ [e])).store token
      (some (e.service.tokenResponse e.rand record.scope)) := by
    rw [Machine.after_snoc]
    exact rotates_revokedWith rotates
  exact hnext.for_good hdrawn post fresh

/-- An event rotates at most one token. -/
theorem Rotates.unique {w : World} {e : Event} {token token' : String}
    {record record' : RefreshToken} {stamped stamped' : TokenRecord} {opened opened' : Session}
    (h : Rotates w e token record stamped opened)
    (h' : Rotates w e token' record' stamped' opened') :
    token = token' ∧ record = record' ∧ stamped = stamped' ∧ opened = opened' := by
  have haction := h.action.symm.trans h'.action
  rw [Action.refreshAccessToken.injEq] at haction
  obtain ⟨-, rfl⟩ := haction
  obtain rfl := Option.some.inj (h.found.symm.trans h'.found)
  obtain rfl := Option.some.inj (h.stamps.symm.trans h'.stamps)
  exact ⟨rfl, rfl, rfl, Except.ok.inj (h.opens.symm.trans h'.opens)⟩

/-- A refresh token is rotated at most once. -/
theorem rotates_once {es pre pre' post post' : List Event} {e e' : Event} {token : String}
    {record record' : RefreshToken} {stamped stamped' : TokenRecord} {opened opened' : Session}
    (fresh : Fresh es) (h : es = pre ++ e :: post) (h' : es = pre' ++ e' :: post')
    (rotates : Rotates ((broker unicode).after pre) e token record stamped opened)
    (rotates' : Rotates ((broker unicode).after pre') e' token record' stamped' opened') :
    pre = pre' ∧ e = e' ∧ post = post' := by
  refine Machine.position_unique
    (fun pre e => ∃ record stamped opened,
      Rotates ((broker unicode).after pre) e token record stamped opened)
    (fun l f mid f' rest hes ⟨_, _, _, hrotates⟩ ⟨_, _, _, hrotates'⟩ => ?_) h h'
    ⟨_, _, _, rotates⟩ ⟨_, _, _, rotates'⟩
  have hfresh : Fresh (l ++ f :: mid) := by
    have happend : l ++ f :: (mid ++ f' :: rest) = (l ++ f :: mid) ++ f' :: rest := by simp
    rw [hes, happend] at fresh
    exact fresh.append_left
  have hlive := hrotates'.live
  rw [(rotated_for_good hfresh hrotates _ hrotates'.stored).1] at hlive
  cases hlive

/-- A refresh call that succeeds answers the pair of the one rotation of its
    token, now or before. -/
theorem refresh_success {es pre post : List Event} {e : Event} {clientId token : String}
    {response : TokenResponse} (h : es = pre ++ e :: post)
    (action : e.action = .refreshAccessToken clientId token)
    (success : (broker unicode).out ((broker unicode).after pre) e =
      .ok (.tokens (.ok response))) :
    Occurs es fun pre e => ∃ record stamped opened,
      Rotates ((broker unicode).after pre) e token record stamped opened ∧
      response = e.service.tokenResponse e.rand record.scope := by
  rcases refresh_answer action success with
    ⟨record, stamped, opened, hrotates, -, hresponse⟩ | ⟨record, hreplays, -⟩
  · exact ⟨pre, e, post, h, record, stamped, opened, hrotates, hresponse⟩
  · rw [h]
    exact (rotation_origin hreplays.stored hreplays.cached).append _

/-! ## Lineages -/

/-- The event mints a pair for the code: that of its exchange, or that of the
    rotation of a refresh token of such a pair. -/
inductive MintedFor (unicode : Unicode) (es : List Event) (code : String) :
    List Event → Event → Prop
  | exchanged {pre post : List Event} {e : Event} {x : Exchange} (split : es = pre ++ e :: post)
    (creates : CreatesPair ((broker unicode).after pre) e code x) : MintedFor unicode es code pre e
  | rotated {pre pre' post : List Event} {e e' : Event} {record : RefreshToken}
    {stamped : TokenRecord} {opened : Session} (parent : MintedFor unicode es code pre e)
    (split : es = pre' ++ e' :: post)
    (rotates : Rotates ((broker unicode).after pre') e' (randomToken "rt" (e.rand.token 1)) record
      stamped opened) : MintedFor unicode es code pre' e'

theorem MintedFor.split {es pre : List Event} {e : Event} {code : String}
    (h : MintedFor unicode es code pre e) : ∃ post, es = pre ++ e :: post := by
  cases h with
  | exchanged split _ => exact ⟨_, split⟩
  | rotated _ split _ => exact ⟨_, split⟩

/-- The refresh token `k` descends from the code. -/
def Descends (unicode : Unicode) (es : List Event) (code k : String) : Prop :=
  ∃ pre e, MintedFor unicode es code pre e ∧ k = randomToken "rt" (e.rand.token 1)

/-- The refresh token `k` was rotated to `k'`. -/
def RotatedTo (unicode : Unicode) (es : List Event) (k k' : String) : Prop :=
  Occurs es fun pre e => ∃ record stamped opened,
    Rotates ((broker unicode).after pre) e k record stamped opened ∧
    k' = randomToken "rt" (e.rand.token 1)

theorem rotatedTo_unique {es : List Event} (fresh : Fresh es) :
    Relator.RightUnique (RotatedTo unicode es) := by
  rintro k k₁ k₂ ⟨pre, e, post, h, _, _, _, hrotates, rfl⟩ ⟨pre', e', post', h', _, _, _, hrotates', rfl⟩
  obtain ⟨-, rfl, -⟩ := rotates_once fresh h h' hrotates hrotates'
  rfl

/-- The tokens that descend from a code go back to the one of its exchange. -/
theorem exists_root {es : List Event} {code k : String} (h : Descends unicode es code k) :
    ∃ root, (Occurs es fun pre e => (∃ x, CreatesPair ((broker unicode).after pre) e code x) ∧
        root = randomToken "rt" (e.rand.token 1)) ∧
      Relation.ReflTransGen (RotatedTo unicode es) root k := by
  obtain ⟨pre, e, hminted, rfl⟩ := h
  induction hminted with
  | @exchanged pre post e x split creates =>
    exact ⟨_, ⟨pre, e, post, split, ⟨x, creates⟩, rfl⟩, .refl⟩
  | @rotated pre pre' post e e' record stamped opened _ split rotates ih =>
    obtain ⟨root, hroot, hchain⟩ := ih
    exact ⟨root, hroot, hchain.tail ⟨pre', e', post, split, record, stamped, opened, rotates, rfl⟩⟩

/-- The refresh tokens that descend from a code form a chain. -/
theorem descends_chain {es : List Event} (fresh : Fresh es) {code k k' : String}
    (h : Descends unicode es code k) (h' : Descends unicode es code k') :
    Relation.ReflTransGen (RotatedTo unicode es) k k' ∨
      Relation.ReflTransGen (RotatedTo unicode es) k' k := by
  obtain ⟨root, ⟨pre, e, post, hes, ⟨x, hcreates⟩, rfl⟩, hchain⟩ := exists_root h
  obtain ⟨root', ⟨pre', e', post', hes', ⟨x', hcreates'⟩, rfl⟩, hchain'⟩ := exists_root h'
  obtain ⟨-, rfl, -⟩ := creates_pair_once fresh hes hes' hcreates hcreates'
  exact Relation.ReflTransGen.total_of_right_unique (rotatedTo_unique fresh) hchain hchain'

/-- A rotated refresh token is revoked, as long as it is stored. -/
theorem revoked_of_rotatedTo {es : List Event} (fresh : Fresh es) {k k' : String}
    (h : RotatedTo unicode es k k') {r : RefreshToken}
    (hr : ((broker unicode).after es).store.refreshTokens.get? k = some r) :
    truthyMs r.revokedAt = true := by
  obtain ⟨pre, e, post, rfl, _, _, _, hrotates, -⟩ := h
  exact (rotated_for_good fresh hrotates r hr).1

/-- Of the refresh tokens that descend from a code, at most one is stored
    unrevoked. -/
theorem unrevoked_unique {es : List Event} (fresh : Fresh es) {code k k' : String}
    {r r' : RefreshToken} (h : Descends unicode es code k) (h' : Descends unicode es code k')
    (hr : ((broker unicode).after es).store.refreshTokens.get? k = some r)
    (hr' : ((broker unicode).after es).store.refreshTokens.get? k' = some r')
    (live : truthyMs r.revokedAt = false) (live' : truthyMs r'.revokedAt = false) : k = k' := by
  rcases descends_chain fresh h h' with hchain | hchain
  · rcases hchain.cases_head with heq | ⟨next, hrotated, -⟩
    · exact heq
    · rw [revoked_of_rotatedTo fresh hrotated hr] at live
      cases live
  · rcases hchain.cases_head with heq | ⟨next, hrotated, -⟩
    · exact heq.symm
    · rw [revoked_of_rotatedTo fresh hrotated hr'] at live'
      cases live'

/-! ## One pair for each rotation -/

/-- The event newly stores the pair of a response, and no other token. -/
structure StoresPair (unicode : Unicode) (w : World) (e : Event) (response : TokenResponse) :
    Prop where
  access : w.store.accessTokens.get? response.accessToken = none ∧
    ((broker unicode).next w e).store.accessTokens.get? response.accessToken ≠ none
  refresh : ∃ k, response.refreshToken = some k ∧ w.store.refreshTokens.get? k = none ∧
    ((broker unicode).next w e).store.refreshTokens.get? k ≠ none
  onlyAccess : ∀ k, w.store.accessTokens.get? k = none →
    ((broker unicode).next w e).store.accessTokens.get? k ≠ none → k = response.accessToken
  onlyRefresh : ∀ k, w.store.refreshTokens.get? k = none →
    ((broker unicode).next w e).store.refreshTokens.get? k ≠ none → response.refreshToken = some k

/-- A rotation stores the pair it answers, and nothing else that is new. -/
theorem rotates_storesPair {pre post : List Event} {e : Event} {token : String}
    {record : RefreshToken} {stamped : TokenRecord} {opened : Session}
    (fresh : Fresh (pre ++ e :: post))
    (rotates : Rotates ((broker unicode).after pre) e token record stamped opened) :
    StoresPair unicode ((broker unicode).after pre) e
      (e.service.tokenResponse e.rand record.scope) := by
  -- The event draws the tokens of its pair, so nothing is stored under them before.
  have hnone : ((broker unicode).after pre).store.accessTokens.get?
      (randomToken "at" (e.rand.token 0)) = none := by
    by_contra h
    exact fresh.not_drawn 0 ((access_born unicode).drawn h)
  have hnone' : ((broker unicode).after pre).store.refreshTokens.get?
      (randomToken "rt" (e.rand.token 1)) = none := by
    by_contra h
    exact fresh.not_drawn 1 ((refresh_born unicode).drawn h)
  refine ⟨⟨hnone, ?_⟩, ⟨_, rfl, hnone', ?_⟩, fun k hbefore hafter => ?_, fun k hbefore hafter => ?_⟩
  · rw [Machine.next, rotates_step rotates]
    dsimp only [AuthService.writeTokenPairToState, AuthService.tokenResponse,
      AuthService.accessTokenRecord]
    rw [Dict.get?_set_self]
    exact Option.some_ne_none _
  · rw [Machine.next, rotates_step rotates]
    dsimp only [AuthService.writeTokenPairToState, AuthService.refreshTokenRecord]
    rw [Dict.get?_set]
    split_ifs
    · exact Option.some_ne_none _
    · rw [Dict.get?_set_self]
      exact Option.some_ne_none _
  · have hstep := access_step unicode ((broker unicode).after pre) e k
    rw [hbefore] at hstep
    generalize ((broker unicode).next ((broker unicode).after pre) e).store.accessTokens.get? k = o
      at hstep hafter
    cases hstep with
    | absent => exact absurd rfl hafter
    | minted _ key => exact key
  · have hstep := refresh_step unicode ((broker unicode).after pre) e k
    rw [hbefore] at hstep
    generalize ((broker unicode).next ((broker unicode).after pre) e).store.refreshTokens.get? k = o
      at hstep hafter
    cases hstep with
    | absent => exact absurd rfl hafter
    | minted _ key => exact congrArg some key.symm

/-- A refresh call that stores a token rotates the one it presents. -/
theorem rotates_of_storesToken {w : World} {e : Event} {clientId token : String}
    (action : e.action = .refreshAccessToken clientId token) (h : StoresToken unicode w e) :
    ∃ record stamped opened, Rotates w e token record stamped opened := by
  rcases storesToken_cases h with ⟨_, _, ⟨_, hcreate, -⟩, -⟩ | ⟨token', record, stamped, opened, hrotates⟩
  · exact Action.noConfusion (action.symm.trans hcreate)
  · have haction := action.symm.trans hrotates.action
    rw [Action.refreshAccessToken.injEq] at haction
    rw [haction.2]
    exact ⟨record, stamped, opened, hrotates⟩

/-- Every refresh token is rotated at most once: the calls that succeed on it
    all answer one response, that of the only call on it that stores a pair.
    The refresh tokens descended from a code form a chain, in which at most one
    is ever stored unrevoked. -/
theorem refresh_rotates_once (es : List Event) (fresh : Fresh es) :
    (∀ token pre e post pre' e' post' clientId clientId' response response',
      es = pre ++ e :: post → es = pre' ++ e' :: post' →
      e.action = .refreshAccessToken clientId token →
      e'.action = .refreshAccessToken clientId' token →
      (broker unicode).out ((broker unicode).after pre) e = .ok (.tokens (.ok response)) →
      (broker unicode).out ((broker unicode).after pre') e' = .ok (.tokens (.ok response')) →
      response = response') ∧
    (∀ token pre e post clientId response, es = pre ++ e :: post →
      e.action = .refreshAccessToken clientId token →
      (broker unicode).out ((broker unicode).after pre) e = .ok (.tokens (.ok response)) →
      ∃ b f rest, es = b ++ f :: rest ∧
        (∃ clientId, f.action = .refreshAccessToken clientId token) ∧
        (broker unicode).out ((broker unicode).after b) f = .ok (.tokens (.ok response)) ∧
        StoresPair unicode ((broker unicode).after b) f response ∧
        ∀ b' f' rest' clientId', es = b' ++ f' :: rest' →
          f'.action = .refreshAccessToken clientId' token →
          StoresToken unicode ((broker unicode).after b') f' → b' = b ∧ f' = f ∧ rest' = rest) ∧
    (∀ code k k', Descends unicode es code k → Descends unicode es code k' →
      Relation.ReflTransGen (RotatedTo unicode es) k k' ∨
      Relation.ReflTransGen (RotatedTo unicode es) k' k) ∧
    ∀ code k k' r r', Descends unicode es code k → Descends unicode es code k' →
      ((broker unicode).after es).store.refreshTokens.get? k = some r →
      ((broker unicode).after es).store.refreshTokens.get? k' = some r' →
      truthyMs r.revokedAt = false → truthyMs r'.revokedAt = false → k = k' := by
  refine ⟨?_, ?_, fun _ _ _ => descends_chain fresh, fun _ _ _ _ _ => unrevoked_unique fresh⟩
  -- Both answers are those of the one rotation.
  · intro token pre e post pre' e' post' clientId clientId' response response' h h' action action'
      success success'
    obtain ⟨b, f, rest, hb, _, _, _, hrotates, rfl⟩ := refresh_success h action success
    obtain ⟨b', f', rest', hb', _, _, _, hrotates', rfl⟩ := refresh_success h' action' success'
    obtain ⟨rfl, rfl, -⟩ := rotates_once fresh hb hb' hrotates hrotates'
    have hrecord := hrotates.found.symm.trans hrotates'.found
    rw [Option.some.inj hrecord]
  · intro token pre e post clientId response h action success
    obtain ⟨b, f, rest, hb, record, _, _, hrotates, rfl⟩ := refresh_success h action success
    refine ⟨b, f, rest, hb, ⟨_, hrotates.action⟩, rotates_answer hrotates,
      rotates_storesPair (hb ▸ fresh) hrotates, fun b' f' rest' clientId' hb' action' hstores => ?_⟩
    obtain ⟨_, _, _, hrotates'⟩ := rotates_of_storesToken action' hstores
    exact rotates_once fresh hb' hb hrotates' hrotates

/-- An exchange, and two presentations of its refresh token. -/
def refreshRun : List Event :=
  Sample.run Sample.service
    [("a", 1000, .beginAuthorizationFromSession Sample.request Sample.session),
     ("b", 2000, .exchangeAuthorizationCode 0 "canva-client" "https://canva.example/return" "code_a"
       (some Sample.verifier)),
     ("c", 2000, .createTokenPair 0),
     ("d", 3000, .refreshAccessToken "canva-client" "rt_c"),
     ("e", 4000, .refreshAccessToken "canva-client" "rt_c")]

theorem refresh_rotates_once_run :
    ∃ b f rest, refreshRun = b ++ f :: rest ∧
      StoresPair Unicode.ascii ((broker Unicode.ascii).after b) f
        ⟨"at_d", "Bearer", 3600, some "rt_d", "dam:read"⟩ := by
  have hfresh : Fresh refreshRun := Sample.fresh _ (by decide)
  have hreplay : (broker Unicode.ascii).out ((broker Unicode.ascii).after (refreshRun.take 4))
      refreshRun[4] = .ok (.tokens (.ok ⟨"at_d", "Bearer", 3600, some "rt_d", "dam:read"⟩)) := by
    decide +kernel
  obtain ⟨-, honce, -⟩ := refresh_rotates_once refreshRun hfresh
  obtain ⟨b, f, rest, hsplit, -, -, hstores, -⟩ :=
    honce "rt_c" (refreshRun.take 4) refreshRun[4] [] "canva-client" _ rfl rfl hreplay
  exact ⟨b, f, rest, hsplit, hstores⟩

/-! ## Identity -/

theorem Completes.unique {w : World} {e : Event} {service service' : AuthService}
    {handoffState handoffState' : String} {session session' : Session}
    {record record' : PendingSsoState} (h : Completes unicode w e service handoffState session record)
    (h' : Completes unicode w e service' handoffState' session' record') :
    service = service' ∧ handoffState = handoffState' ∧ session = session' ∧ record = record' := by
  have hattempt := h.attempt.symm.trans h'.attempt
  simp only [Option.some.injEq, Prod.mk.injEq] at hattempt
  obtain ⟨rfl, rfl, rfl⟩ := hattempt
  exact ⟨rfl, rfl, rfl, Option.some.inj (h.found.symm.trans h'.found)⟩

/-- A completion is a call of `complete_sso_authorization` or of the callback. -/
theorem Completes.ne_begin {w : World} {e : Event} {service : AuthService} {handoffState : String}
    {session : Session} {record : PendingSsoState}
    (h : Completes unicode w e service handoffState session record) :
    (∀ call, e.action ≠ .beginAuthorization call) ∧
      ∀ request session, e.action ≠ .beginAuthorizationFromSession request session := by
  have hattempt := h.attempt
  rw [World.completion] at hattempt
  refine ⟨fun call ha => ?_, fun request session ha => ?_⟩ <;>
    · rw [ha] at hattempt
      cases hattempt

/-- An event issues at most one code. -/
theorem Issues.unique {w : World} {e : Event} {service service' : AuthService} {t t' : ℤ}
    {request request' : AuthorizationRequest} {session session' : Session}
    (h : Issues unicode w e service t request session)
    (h' : Issues unicode w e service' t' request' session') :
    service = service' ∧ t = t' ∧ request = request' ∧ session = session' := by
  cases h with
  | beginAuthorization action inFlight =>
    cases h' with
    | beginAuthorization action' inFlight' =>
      cases Action.beginAuthorization.inj (action.symm.trans action')
      cases Option.some.inj (inFlight.symm.trans inFlight')
      exact ⟨rfl, rfl, rfl, rfl⟩
    | beginAuthorizationFromSession action' => exact Action.noConfusion (action.symm.trans action')
    | completed completes => exact absurd action (completes.ne_begin.1 _)
  | beginAuthorizationFromSession action =>
    cases h' with
    | beginAuthorization action' _ => exact Action.noConfusion (action.symm.trans action')
    | beginAuthorizationFromSession action' =>
      obtain ⟨rfl, rfl⟩ := Action.beginAuthorizationFromSession.inj (action.symm.trans action')
      exact ⟨rfl, rfl, rfl, rfl⟩
    | completed completes => exact absurd action (completes.ne_begin.2 _ _)
  | completed completes =>
    cases h' with
    | beginAuthorization action' _ => exact absurd action' (completes.ne_begin.1 _)
    | beginAuthorizationFromSession action' => exact absurd action' (completes.ne_begin.2 _ _)
    | completed completes' =>
      obtain ⟨rfl, rfl, rfl, rfl⟩ := completes.unique completes'
      exact ⟨rfl, rfl, rfl, rfl⟩

/-- The pairs minted for a code are for the client, the scope and the identity
    of the sign-in that issued it. -/
theorem mintedFor_mints {es : List Event} (fresh : Fresh es) {code : String}
    {b rest : List Event} {f : Event} {service : AuthService} {t : ℤ}
    {request : AuthorizationRequest} {session : Session} (hsign : es = b ++ f :: rest)
    (issues : Issues unicode ((broker unicode).after b) f service t request session)
    (hcode : code = randomToken "code" (f.rand.token 0)) {pre : List Event} {e : Event}
    (h : MintedFor unicode es code pre e) :
    ∀ service' now session' scope clientId,
      Mints ((broker unicode).after pre) e service' now session' scope clientId →
      clientId = request.clientId ∧ scope = request.scope ∧ session'.identity = session.identity := by
  induction h with
  | @exchanged pre post e x split creates =>
    intro service' now session' scope clientId mints
    obtain ⟨call, action, inFlight⟩ := creates.inFlight
    cases mints with
    | rotated rotates => exact Action.noConfusion (action.symm.trans rotates.action)
    | exchanged action' inFlight' =>
      cases Action.createTokenPair.inj (action.symm.trans action')
      cases Option.some.inj (inFlight.symm.trans inFlight')
      obtain ⟨c, g, mid, record, rfl, burns, -⟩ := exchange_origin inFlight
      obtain ⟨-, d, g', mid', rfl, service₁, t₁, request₁, session₁, issues₁, hcode₁, hrecord⟩ :=
        burns_issued burns
      have hsplit : es = d ++ g' :: (mid' ++ g :: (mid ++ e :: post)) := by
        rw [split]
        simp
      have hkey : randomToken "code" (g'.rand.token 0) = randomToken "code" (f.rand.token 0) := by
        rw [← hcode₁, creates.code, hcode]
      obtain ⟨rfl, rfl, -⟩ := fresh.position_unique hsplit hsign (randomToken_inj hkey)
      obtain ⟨rfl, rfl, rfl, rfl⟩ := issues.unique issues₁
      refine ⟨?_, ?_, ?_⟩
      · rw [← burns.client, hrecord]
        rfl
      · rw [burns.scope, hrecord]
        rfl
      · rw [identity_of_open burns.opens, hrecord]
        exact identity_seal _ _ _
  | @rotated pre pre' post e e' record stamped opened parent split rotates ih =>
    intro service' now session' scope clientId mints
    cases mints with
    | exchanged action' _ => exact Action.noConfusion (action'.symm.trans rotates.action)
    | rotated rotates' =>
      obtain ⟨rfl, rfl, rfl, rfl⟩ := rotates.unique rotates'
      obtain ⟨p, g, mid, rfl, r₀, hmints, hlike, -⟩ := refresh_origin rotates.stored
      -- The rotated token is the one of the parent's pair.
      obtain ⟨post', hparent⟩ := parent.split
      have hsplit : es = p ++ g :: (mid ++ e' :: post) := by
        rw [split]
        simp
      obtain ⟨rfl, rfl, -⟩ := fresh.position_unique hparent hsplit (randomToken_inj hmints.key)
      obtain ⟨service₁, now₁, session₁, scope₁, clientId₁, hmints₁, rfl⟩ := hmints.minted
      obtain ⟨hclient, hscope, hidentity⟩ := ih _ _ _ _ _ hmints₁
      refine ⟨hlike.clientId.trans hclient, hlike.scope.trans hscope, ?_⟩
      rw [identity_of_open rotates.opens, (Relabels.of_stamp rotates.stamps).identity,
        hlike.identity]
      exact (identity_tokenRecord _ _ _ _ _).trans hidentity

/-- Every pair is minted for a code that a sign-in issued. -/
theorem exists_mintedFor {es : List Event} : ∀ (n : ℕ) {pre post : List Event} {e : Event}
    {service : AuthService} {now : ℕ → ℤ} {session : Session} {scope clientId : String},
    pre.length = n → es = pre ++ e :: post →
    Mints ((broker unicode).after pre) e service now session scope clientId →
    ∃ b f rest, es = b ++ f :: rest ∧ (∃ service t request session,
        Issues unicode ((broker unicode).after b) f service t request session) ∧
      MintedFor unicode es (randomToken "code" (f.rand.token 0)) pre e := by
  intro n
  -- A rotated token was minted before, so the history gets shorter.
  induction n using Nat.strong_induction_on with
  | _ n ih =>
    intro pre post e service now session scope clientId hlength hes mints
    cases mints with
    | @exchanged call x action inFlight =>
      obtain ⟨c, g, mid, record, rfl, burns, -⟩ := exchange_origin inFlight
      obtain ⟨-, b, f, mid', rfl, service, t, request, session, issues, hcode, -⟩ :=
        burns_issued burns
      refine ⟨b, f, mid' ++ g :: (mid ++ e :: post), ?_, ⟨_, _, _, _, issues⟩,
        .exchanged hes ⟨⟨call, action, inFlight⟩, hcode⟩⟩
      rw [hes]
      simp
    | @rotated token record stamped opened rotates =>
      obtain ⟨p, g, mid, rfl, r₀, hmints, -, -⟩ := refresh_origin rotates.stored
      obtain ⟨service₁, now₁, session₁, scope₁, clientId₁, hmints₁, -⟩ := hmints.minted
      have hsplit : es = p ++ g :: (mid ++ e :: post) := by
        rw [hes]
        simp
      have hshorter : p.length < n := by
        rw [← hlength, List.length_append, List.length_cons]
        omega
      obtain ⟨b, f, rest, hb, issues, hparent⟩ := ih p.length hshorter rfl hsplit hmints₁
      exact ⟨b, f, rest, hb, issues, .rotated hparent hes (hmints.key ▸ rotates)⟩

/-- The record is for the client and the scope of a request, and its session for
    the identity of the session that signed in. -/
structure Carries (r : TokenRecord) (request : AuthorizationRequest) (session : Session) :
    Prop where
  clientId : r.clientId = request.clientId
  scope : r.scope = request.scope
  identity : r.session.identity = session.identity

/-- A record is for what its pair was minted for, whatever its label. -/
theorem Carries.of_relabels {r : TokenRecord} {request : AuthorizationRequest}
    {session minted : Session} {service : AuthService} {rand : Rand} {scope clientId : String}
    (like : Relabels r (service.tokenRecord rand minted scope clientId))
    (mints : clientId = request.clientId ∧ scope = request.scope ∧
      minted.identity = session.identity) : Carries r request session := by
  obtain ⟨hclient, hscope, hidentity⟩ := mints
  have hminted := identity_tokenRecord service rand minted scope clientId
  exact ⟨like.clientId.trans hclient, like.scope.trans hscope,
    like.identity.trans (hminted.trans hidentity)⟩

/-- A position of a part of a run that comes first is one of the run. -/
theorem split_of_append {es l' p mid : List Event} {g : Event} (h : es = p ++ g :: mid ++ l') :
    es = p ++ g :: (mid ++ l') := by
  rw [h, List.append_assoc, List.cons_append]

/-- Client, scope and identity are those of the sign-in all along the lineage of
    its code: in every record stored for the pairs minted for it, and in every
    record a read of them hands out. Their refresh tokens are redeemed by that
    client only, for that scope. Every stored record belongs to such a
    lineage. -/
theorem lineage_keeps_identity (es : List Event) (fresh : Fresh es) :
    (∀ b f rest service t request session, es = b ++ f :: rest →
      Issues unicode ((broker unicode).after b) f service t request session →
      ∀ pre e, MintedFor unicode es (randomToken "code" (f.rand.token 0)) pre e →
        (∀ l l', es = l ++ l' →
          (∀ r, ((broker unicode).after l).store.accessTokens.get?
            (randomToken "at" (e.rand.token 0)) = some r → Carries r.toTokenRecord request session) ∧
          ∀ r, ((broker unicode).after l).store.refreshTokens.get?
            (randomToken "rt" (e.rand.token 1)) = some r → Carries r.toTokenRecord request session) ∧
        (∀ l g l' call r, es = l ++ g :: l' →
          g.action = .readAccessToken call (randomToken "at" (e.rand.token 0)) →
          (broker unicode).out ((broker unicode).after l) g = .ok (.record (some r)) →
          Carries r.toTokenRecord request session) ∧
        ∀ l g l' clientId response, es = l ++ g :: l' →
          g.action = .refreshAccessToken clientId (randomToken "rt" (e.rand.token 1)) →
          (broker unicode).out ((broker unicode).after l) g = .ok (.tokens (.ok response)) →
          clientId = request.clientId ∧ response.scope = request.scope) ∧
    ∀ l l', es = l ++ l' →
      (∀ k r, ((broker unicode).after l).store.accessTokens.get? k = some r →
        ∃ b f rest, es = b ++ f :: rest ∧ (∃ service t request session,
            Issues unicode ((broker unicode).after b) f service t request session) ∧
          ∃ pre e, MintedFor unicode es (randomToken "code" (f.rand.token 0)) pre e ∧
            k = randomToken "at" (e.rand.token 0)) ∧
      ∀ k r, ((broker unicode).after l).store.refreshTokens.get? k = some r →
        ∃ b f rest, es = b ++ f :: rest ∧ (∃ service t request session,
            Issues unicode ((broker unicode).after b) f service t request session) ∧
          Descends unicode es (randomToken "code" (f.rand.token 0)) k := by
  refine ⟨fun b f rest service t request session hsign issues pre e hminted => ?_,
    fun l l' hl => ⟨fun k r hr => ?_, fun k r hr => ?_⟩⟩
  · obtain ⟨post, hsplit⟩ := hminted.split
    have hmints := mintedFor_mints fresh hsign issues rfl hminted
    -- Stored records, by the event that minted them: tokens are fresh, so it is this one.
    have haccess : ∀ l l', es = l ++ l' → ∀ r, ((broker unicode).after l).store.accessTokens.get?
        (randomToken "at" (e.rand.token 0)) = some r → Carries r.toTokenRecord request session := by
      intro l l' hl r hr
      obtain ⟨p, g, mid, rfl, r₀, hmints₀, hlike, -⟩ := access_origin hr
      obtain ⟨rfl, rfl, -⟩ :=
        fresh.position_unique hsplit (split_of_append hl) (randomToken_inj hmints₀.key)
      obtain ⟨_, _, _, _, _, hmints₁, rfl⟩ := hmints₀.minted
      exact .of_relabels hlike (hmints _ _ _ _ _ hmints₁)
    have hrefresh : ∀ l l', es = l ++ l' → ∀ r, ((broker unicode).after l).store.refreshTokens.get?
        (randomToken "rt" (e.rand.token 1)) = some r → Carries r.toTokenRecord request session := by
      intro l l' hl r hr
      obtain ⟨p, g, mid, rfl, r₀, hmints₀, hlike, -⟩ := refresh_origin hr
      obtain ⟨rfl, rfl, -⟩ :=
        fresh.position_unique hsplit (split_of_append hl) (randomToken_inj hmints₀.key)
      obtain ⟨_, _, _, _, _, hmints₁, rfl⟩ := hmints₀.minted
      exact .of_relabels hlike (hmints _ _ _ _ _ hmints₁)
    refine ⟨fun l l' hl => ⟨haccess l l' hl, hrefresh l l' hl⟩,
      fun l g l' call r hl action hout => ?_, fun l g l' clientId response hl action hout => ?_⟩
    -- Sessions read with the access token.
    · obtain ⟨record, stamped, opened, hreads, rfl⟩ := read_answer action hout
      have hcarries := haccess l (g :: l') hl record hreads.stored
      have hstamp := Relabels.of_stamp hreads.stamps
      exact ⟨hstamp.clientId.trans hcarries.clientId, hstamp.scope.trans hcarries.scope,
        (identity_of_open hreads.opens).trans (hstamp.identity.trans hcarries.identity)⟩
    -- Pairs answered for the refresh token, by its rotation or again from the record.
    · obtain ⟨p, g', rest', hp, record, stamped, opened, hrotates, rfl⟩ :=
        refresh_success hl action hout
      have hcarries := hrefresh p (g' :: rest') hp record hrotates.stored
      refine ⟨?_, hcarries.scope⟩
      rcases refresh_answer action hout with ⟨record', _, _, hrotates', rfl, -⟩ | ⟨record', hreplays, rfl⟩
      · exact (hrefresh l (g :: l') hl record' hrotates'.stored).clientId
      · exact (hrefresh l (g :: l') hl record' hreplays.stored).clientId
  -- Every stored token descends from the code of some sign-in.
  · obtain ⟨p, g, mid, rfl, r₀, hmints₀, -, -⟩ := access_origin hr
    obtain ⟨_, _, _, _, _, hmints₁, -⟩ := hmints₀.minted
    obtain ⟨b, f, rest, hb, issues, hminted⟩ :=
      exists_mintedFor p.length rfl (split_of_append hl) hmints₁
    exact ⟨b, f, rest, hb, issues, p, g, hminted, hmints₀.key⟩
  · obtain ⟨p, g, mid, rfl, r₀, hmints₀, -, -⟩ := refresh_origin hr
    obtain ⟨_, _, _, _, _, hmints₁, -⟩ := hmints₀.minted
    obtain ⟨b, f, rest, hb, issues, hminted⟩ :=
      exists_mintedFor p.length rfl (split_of_append hl) hmints₁
    exact ⟨b, f, rest, hb, issues, p, g, hminted, hmints₀.key⟩

theorem lineage_keeps_identity_run :
    ∃ b f service t request session r,
      Issues Unicode.ascii ((broker Unicode.ascii).after b) f service t request session ∧
      ((broker Unicode.ascii).after refreshRun).store.accessTokens.get? "at_d" = some r ∧
      Carries r.toTokenRecord request session := by
  have hfresh : Fresh refreshRun := Sample.fresh _ (by decide)
  have hstored : (((broker Unicode.ascii).after refreshRun).store.accessTokens.get? "at_d").isSome :=
    by decide +kernel
  obtain ⟨r, hr⟩ := Option.isSome_iff_exists.1 hstored
  obtain ⟨hcarries, hcovered⟩ := lineage_keeps_identity refreshRun hfresh
  obtain ⟨b, f, rest, hb, ⟨service, t, request, session, hissues⟩, pre, e, hminted, hkey⟩ :=
    (hcovered refreshRun [] (List.append_nil _).symm).1 "at_d" r hr
  obtain ⟨hstore, -, -⟩ :=
    hcarries b f rest service t request session hb hissues pre e hminted
  rw [hkey] at hr
  exact ⟨b, f, service, t, request, session, r, hissues, hkey ▸ hr,
    (hstore refreshRun [] (List.append_nil _).symm).1 r hr⟩

end Broker
