import Broker.Origins

/-!
# Exchanging a code

An exchange burns its code in a first transaction and creates the token pair in
a second one. Once a code is burned it is gone for good (`code_gone`), so at
most one exchange of it gets past its checks (`burns_once`) and at most one
pair is ever created for it (`creates_pair_once`), whatever runs in between.
What the exchange had to show is read off the code's own record
(`burns_issued`).
-/

namespace Broker

open Py Runs

variable {unicode : Unicode}

/-- The event creates the token pair of an exchange of the code. -/
structure CreatesPair (w : World) (e : Event) (code : String) (x : Exchange) : Prop where
  inFlight : ∃ call, e.action = .createTokenPair call ∧ w.exchanges.get? call = some x
  code : x.code = code

/-- The event newly stores an access or a refresh token. -/
def StoresToken (unicode : Unicode) (w : World) (e : Event) : Prop :=
  (∃ k, w.store.accessTokens.get? k = none ∧
    ((broker unicode).next w e).store.accessTokens.get? k ≠ none) ∨
  ∃ k, w.store.refreshTokens.get? k = none ∧
    ((broker unicode).next w e).store.refreshTokens.get? k ≠ none

/-! ## Burned codes -/

/-- A burned code is never stored again. -/
theorem code_gone {pre post : List Event} {e : Event} {call : ℕ} {x : Exchange}
    {record : AuthorizationCode} (fresh : Fresh (pre ++ e :: post))
    (burns : Burns unicode ((broker unicode).after pre) e call x record) :
    ((broker unicode).after (pre ++ e :: post)).store.authorizationCodes.get? x.code = none := by
  have hdrawn : Drawn "code" pre x.code :=
    (codes_born unicode).drawn_of_eq_some burns.stored
  have happend : pre ++ e :: post = (pre ++ [e]) ++ post := by simp
  rw [happend] at fresh ⊢
  refine (codes_born unicode).gone fresh (hdrawn.append [e]) ?_
  rw [Machine.after_snoc]
  exact burns.gone

/-- At most one exchange of a code gets past its checks. -/
theorem burns_once {es pre pre' post post' : List Event} {e e' : Event} {call call' : ℕ}
    {x x' : Exchange} {record record' : AuthorizationCode} (fresh : Fresh es)
    (h : es = pre ++ e :: post) (h' : es = pre' ++ e' :: post')
    (burns : Burns unicode ((broker unicode).after pre) e call x record)
    (burns' : Burns unicode ((broker unicode).after pre') e' call' x' record')
    (same : x.code = x'.code) : pre = pre' ∧ e = e' ∧ post = post' := by
  refine Machine.position_unique
    (fun pre e => ∃ call y record,
      Burns unicode ((broker unicode).after pre) e call y record ∧ y.code = x.code)
    (fun l f mid f' rest hes ⟨_, y, _, hburns, hy⟩ ⟨_, y', _, hburns', hy'⟩ => ?_) h h'
    ⟨call, x, record, burns, rfl⟩ ⟨call', x', record', burns', same.symm⟩
  have hfresh : Fresh (l ++ f :: mid) := by
    rw [hes] at fresh
    have happend : l ++ f :: (mid ++ f' :: rest) = (l ++ f :: mid) ++ f' :: rest := by simp
    exact Fresh.append_left (happend ▸ fresh)
  have hgone := code_gone hfresh hburns
  have hfound := hburns'.found
  rw [AuthService.get?_authorizationCodes_prune, hy', ← hy, hgone] at hfound
  cases hfound

/-- The exchange showed what the code was issued for, before it expired. -/
theorem burns_issued {pre : List Event} {e : Event} {call : ℕ} {x : Exchange}
    {record : AuthorizationCode}
    (burns : Burns unicode ((broker unicode).after pre) e call x record) :
    e.now 0 < record.expiresAt ∧ Occurs pre fun pre e => ∃ service t request session,
      Issues unicode ((broker unicode).after pre) e service t request session ∧
      x.code = randomToken "code" (e.rand.token 0) ∧
      record = service.authorizationCode t e.rand request session := by
  have hfound := burns.found
  rw [AuthService.get?_authorizationCodes_prune, Option.filter_eq_some_iff] at hfound
  refine ⟨?_, code_origin hfound.1⟩
  simpa [AuthorizationCode.expired] using hfound.2

/-! ## Pairs -/

/-- Once its pair is created, an exchange is no longer in flight. -/
theorem exchanges_createTokenPair (unicode : Unicode) (w : World) {e : Event} {call : ℕ}
    (action : e.action = .createTokenPair call) :
    ((broker unicode).next w e).exchanges.get? call = none := by
  have hstep := exchange_step unicode w e call
  generalize ((broker unicode).next w e).exchanges.get? call = o at hstep
  cases hstep with
  | same hne => exact absurd action hne
  | ended => rfl
  | burned burns => exact Action.noConfusion (action.symm.trans burns.action)

/-- At most one pair is created for a code. -/
theorem creates_pair_once {es pre pre' post post' : List Event} {e e' : Event} {code : String}
    {x x' : Exchange} (fresh : Fresh es) (h : es = pre ++ e :: post) (h' : es = pre' ++ e' :: post')
    (creates : CreatesPair ((broker unicode).after pre) e code x)
    (creates' : CreatesPair ((broker unicode).after pre') e' code x') :
    pre = pre' ∧ e = e' ∧ post = post' := by
  refine Machine.position_unique
    (fun pre e => ∃ x, CreatesPair ((broker unicode).after pre) e code x)
    (fun l f mid f' rest hes ⟨y, ⟨c, hc, hy⟩, hcode⟩ ⟨y', ⟨c', hc', hy'⟩, hcode'⟩ => ?_) h h'
    ⟨x, creates⟩ ⟨x', creates'⟩
  -- Both exchanges burned the code at the same event, so they are the same call.
  obtain ⟨b, g, between, record, rfl, hburns, -⟩ := exchange_origin hy
  obtain ⟨b', g', between', record', hb', hburns', hheld'⟩ := exchange_origin hy'
  have hrun : es = b ++ g :: (between ++ f :: (mid ++ f' :: rest)) := by rw [hes]; simp
  have hrun' : es = b' ++ g' :: (between' ++ f' :: rest) := by
    rw [hes, ← List.cons_append, ← List.append_assoc, hb']
    simp
  obtain ⟨rfl, rfl, hbetween⟩ := burns_once fresh hrun hrun' hburns hburns' (hcode.trans hcode'.symm)
  have hcall : c = c' := by
    have haction := hburns.action.symm.trans hburns'.action
    rw [Action.exchangeAuthorizationCode.injEq] at haction
    exact haction.1
  subst hcall
  -- The first pair ended the call, which the second one still found in flight.
  have hsplit : between' = (between ++ [f]) ++ mid := by
    refine (List.append_left_inj (f' :: rest)).1 ?_
    rw [← hbetween]
    simp
  have hstill := hheld' (between ++ [f]) mid hsplit
  have hended := exchanges_createTokenPair unicode ((broker unicode).after (b ++ g :: between)) hc
  rw [← Machine.after_snoc] at hended
  have happend : b ++ g :: (between ++ [f]) = (b ++ g :: between) ++ [f] := by simp
  rw [happend, hended] at hstill
  cases hstill

/-- The creation of a pair answers it, and stores its records. -/
theorem creates_pair_stored (unicode : Unicode) {w : World} {e : Event} {code : String} {x : Exchange}
    (creates : CreatesPair w e code x) :
    (broker unicode).out w e = .ok (.tokens (.ok (x.service.tokenResponse e.rand x.scope))) ∧
      ((broker unicode).next w e).store.accessTokens.get?
          (x.service.tokenResponse e.rand x.scope).accessToken =
        some (x.service.accessTokenRecord (fun i => e.now (i + 1)) e.rand x.session x.scope x.clientId) ∧
      ∃ k, (x.service.tokenResponse e.rand x.scope).refreshToken = some k ∧
        ((broker unicode).next w e).store.refreshTokens.get? k =
          some (x.service.refreshTokenRecord (fun i => e.now (i + 1)) e.rand x.session x.scope
            x.clientId) := by
  obtain ⟨⟨call, action, inFlight⟩, -⟩ := creates
  have hstep : (broker unicode).step w e = { w with exchanges := w.exchanges.erase call }.commit
      (update (x.service.createTokenPairUpdater e.now e.rand x.session x.scope x.clientId) w.store)
      fun tokens => .tokens (.ok tokens) := by
    change w.step unicode e = _
    rw [World.step, action]
    dsimp only
    rw [inFlight]
  refine ⟨?_, ?_, _, rfl, ?_⟩
  · rw [Machine.out, hstep]
    rfl
  · rw [Machine.next, hstep]
    exact Dict.get?_set_self _ _ _
  · rw [Machine.next, hstep]
    exact Dict.get?_set_self _ _ _

/-- The pair of an exchange is answered and stored for the client of the
    exchange and the scope of its code. -/
theorem creates_pair_records (unicode : Unicode) {w : World} {e : Event} {code : String} {x : Exchange}
    (creates : CreatesPair w e code x) :
    ∃ response, (broker unicode).out w e = .ok (.tokens (.ok response)) ∧
      response.scope = x.scope ∧
      (∃ r, ((broker unicode).next w e).store.accessTokens.get? response.accessToken = some r ∧
        r.clientId = x.clientId ∧ r.scope = x.scope) ∧
      ∃ k r, response.refreshToken = some k ∧
        ((broker unicode).next w e).store.refreshTokens.get? k = some r ∧
        r.clientId = x.clientId ∧ r.scope = x.scope := by
  obtain ⟨hout, haccess, k, hk, hrefresh⟩ := creates_pair_stored unicode creates
  exact ⟨_, hout, rfl, ⟨_, haccess, rfl, rfl⟩, k, _, hk, hrefresh, rfl, rfl⟩

/-- A token is newly stored by an exchange or by a rotation only. -/
theorem storesToken_cases {w : World} {e : Event} (h : StoresToken unicode w e) :
    (∃ code x, CreatesPair w e code x) ∨
      ∃ token record stamped opened, Rotates w e token record stamped opened := by
  have hmints : ∃ service now session scope clientId, Mints w e service now session scope clientId := by
    rcases h with ⟨k, hbefore, hafter⟩ | ⟨k, hbefore, hafter⟩
    · have hstep := access_step unicode w e k
      rw [hbefore] at hstep
      generalize ((broker unicode).next w e).store.accessTokens.get? k = o at hstep hafter
      cases hstep with
      | absent => exact absurd rfl hafter
      | minted mints _ => exact ⟨_, _, _, _, _, mints⟩
    · have hstep := refresh_step unicode w e k
      rw [hbefore] at hstep
      generalize ((broker unicode).next w e).store.refreshTokens.get? k = o at hstep hafter
      cases hstep with
      | absent => exact absurd rfl hafter
      | minted mints _ => exact ⟨_, _, _, _, _, mints⟩
  obtain ⟨_, _, _, _, _, mints⟩ := hmints
  cases mints with
  | exchanged action inFlight => exact .inl ⟨_, _, ⟨_, action, inFlight⟩, rfl⟩
  | rotated rotates => exact .inr ⟨_, _, _, _, rotates⟩

/-- Each authorization code yields at most one token pair, for the client and
    the scope it was issued for, and through an exchange, before its expiry,
    that names its client and its redirect URI and proves its challenge; no two
    exchanges of a code both succeed. All other pairs come from rotations. -/
theorem code_yields_one_pair (es : List Event) (fresh : Fresh es) :
    (∀ code pre e post pre' e' post' x x', es = pre ++ e :: post → es = pre' ++ e' :: post' →
      CreatesPair ((broker unicode).after pre) e code x →
      CreatesPair ((broker unicode).after pre') e' code x' → pre = pre' ∧ e = e' ∧ post = post') ∧
    (∀ pre e post pre' e' post' call call' x x' record record',
      es = pre ++ e :: post → es = pre' ++ e' :: post' →
      Burns unicode ((broker unicode).after pre) e call x record →
      Burns unicode ((broker unicode).after pre') e' call' x' record' → x.code = x'.code →
      pre = pre' ∧ e = e' ∧ post = post') ∧
    (∀ pre e post, es = pre ++ e :: post → StoresToken unicode ((broker unicode).after pre) e →
      (∃ code x, CreatesPair ((broker unicode).after pre) e code x) ∨
      ∃ token record stamped opened,
        Rotates ((broker unicode).after pre) e token record stamped opened) ∧
    ∀ code pre e post x, es = pre ++ e :: post → CreatesPair ((broker unicode).after pre) e code x →
      ∃ b f mid call clientId redirectUri verifier record,
        -- The exchange call: it named the client and the redirect URI, and proved the challenge.
        pre = b ++ f :: mid ∧
        f.action = .exchangeAuthorizationCode call clientId redirectUri code (some verifier) ∧
        f.now 0 < record.expiresAt ∧ record.clientId = clientId ∧
        record.redirectUri = redirectUri ∧ record.codeChallenge = some (sha256B64url verifier) ∧
        -- The sign-in that issued the code, with this record.
        (Occurs b fun pre e => ∃ service t request session,
          Issues unicode ((broker unicode).after pre) e service t request session ∧
          code = randomToken "code" (e.rand.token 0) ∧
          record = service.authorizationCode t e.rand request session) ∧
        -- The pair.
        ∃ response, (broker unicode).out ((broker unicode).after pre) e =
            .ok (.tokens (.ok response)) ∧ response.scope = record.scope ∧
          (∃ r, ((broker unicode).after (pre ++ [e])).store.accessTokens.get?
              response.accessToken = some r ∧
            r.clientId = record.clientId ∧ r.scope = record.scope) ∧
          ∃ k r, response.refreshToken = some k ∧
            ((broker unicode).after (pre ++ [e])).store.refreshTokens.get? k = some r ∧
            r.clientId = record.clientId ∧ r.scope = record.scope := by
  refine ⟨fun code pre e post pre' e' post' x x' => creates_pair_once fresh,
    fun pre e post pre' e' post' call call' x x' record record' => burns_once fresh,
    fun pre e post _ => storesToken_cases, fun code pre e post x hes creates => ?_⟩
  obtain ⟨call, action, inFlight⟩ := creates.inFlight
  obtain ⟨b, f, mid, record, rfl, burns, -⟩ := exchange_origin inFlight
  obtain ⟨htime, hissued⟩ := burns_issued burns
  obtain ⟨verifier, hverifier⟩ : ∃ verifier, x.codeVerifier = some verifier := by
    have hproof := burns.proof
    cases hv : x.codeVerifier with
    | none => rw [hv] at hproof; cases hproof
    | some verifier => exact ⟨verifier, rfl⟩
  have haction := burns.action
  have hchallenge := burns.challenge
  rw [hverifier, Option.map_some] at hchallenge
  rw [hverifier, creates.code] at haction
  rw [creates.code] at hissued
  obtain ⟨response, hout, hscope, ⟨r, hr, hrc, hrs⟩, k, r', hk, hr', hrc', hrs'⟩ :=
    creates_pair_records unicode creates
  refine ⟨b, f, mid, call, _, _, verifier, record, rfl, ?_, htime, burns.client, burns.redirect,
    hchallenge.symm, hissued, response, hout, hscope.trans burns.scope,
    ⟨r, ?_, hrc.trans burns.client.symm, hrs.trans burns.scope⟩, k, r', hk, ?_,
    hrc'.trans burns.client.symm, hrs'.trans burns.scope⟩
  · exact haction
  · rw [Machine.after_snoc]
    exact hr
  · rw [Machine.after_snoc]
    exact hr'

/-- A sign-in, its exchange and the creation of its pair. -/
def exchangeRun : List Event :=
  Sample.run Sample.service
    [("a", 1000, .beginAuthorizationFromSession Sample.request Sample.session),
     ("b", 2000, .exchangeAuthorizationCode 0 "canva-client" "https://canva.example/return" "code_a"
       (some Sample.verifier)),
     ("c", 2000, .createTokenPair 0)]

theorem code_yields_one_pair_run :
    ∃ pre e post x response, exchangeRun = pre ++ e :: post ∧
      CreatesPair ((broker Unicode.ascii).after pre) e "code_a" x ∧
      (broker Unicode.ascii).out ((broker Unicode.ascii).after pre) e =
        .ok (.tokens (.ok response)) := by
  have hfresh : Fresh exchangeRun := Sample.fresh _ (by decide)
  have hcode : (((broker Unicode.ascii).after (exchangeRun.take 2)).exchanges.get? 0).map (·.code) =
      some "code_a" := by decide +kernel
  obtain ⟨x, hx, hcode⟩ := Option.map_eq_some_iff.1 hcode
  have creates : CreatesPair ((broker Unicode.ascii).after (exchangeRun.take 2)) exchangeRun[2]
    "code_a" x := ⟨⟨0, rfl, hx⟩, hcode⟩
  obtain ⟨-, -, -, hpair⟩ := code_yields_one_pair exchangeRun hfresh
  obtain ⟨_, _, _, _, _, _, _, _, -, -, -, -, -, -, -, response, hout, -⟩ :=
    hpair "code_a" (exchangeRun.take 2) exchangeRun[2] [] x rfl creates
  exact ⟨_, _, [], x, response, rfl, creates, hout⟩

end Broker
