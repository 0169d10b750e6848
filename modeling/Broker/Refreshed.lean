import Broker.Labels
import Broker.Replays
import Broker.Sealing

/-!
# What a refresh hands out

A refresh answers the pair of the one rotation of its token, minted by this
call or cached since an earlier one. Its access token is read as long as it
would be without the refresh: until the lifetime counted from the rotation is
over, or the token is revoked (`refreshed_read_iff`). The response is the same
all along, and so overstates the rest of the lifetime (`replayed_response_stale`).

That the session of a minted token opens again rests on Fernet: it decrypts
what it encrypts, and what opens was sealed by the services, so is not marked
as sealed itself (`Session.Genuine`).
-/

namespace Broker

open Py Runs

variable {unicode : Unicode}

/-! ## Opening what was sealed -/

/-- Fernet as documented: its tokens are ASCII, and decrypt to what they encrypt. -/
structure Fernet.Lawful (f : Fernet) : Prop where
  ascii : ∀ iv bytes, (f.encrypt iv bytes).toList.all (·.toNat < 128) = true
  decrypt : ∀ iv bytes, f.decrypt (f.encrypt iv bytes) = some bytes

namespace FieldCipher

def Lawful : FieldCipher → Prop
  | null => True
  | fernet f => f.Lawful

/-- What a cipher leaves alone, it opens as it is. -/
theorem open_of_unmarked (cipher : FieldCipher) {v : String} (h : isSealed v = false) :
    cipher.open v = .ok v := by
  cases cipher with
  | null => rw [FieldCipher.open, h, if_neg Bool.false_ne_true]
  | fernet f => rw [FieldCipher.open, h, if_neg Bool.false_ne_true]

/-- Sealing a value does not change what it opens to. -/
theorem open_seal {cipher : FieldCipher} (lawful : cipher.Lawful) (iv : ℕ) (v : String) :
    cipher.open (cipher.seal iv v) = cipher.open v := by
  cases cipher with
  | null => rfl
  | fernet f =>
    rw [FieldCipher.seal]
    split_ifs with h
    · rfl
    · rw [open_of_unmarked _ (Bool.eq_false_of_not_eq_true h), FieldCipher.open,
        if_pos (isSealed_append _)]
      have hdrop : String.ofList ((encPrefix ++ f.encrypt iv v.toUTF8).toList.drop encPrefix.length) =
          f.encrypt iv v.toUTF8 := by
        rw [String.toList_append, ← String.length_toList, List.drop_left, String.ofList_toList]
      have hutf8 : String.fromUTF8? v.toUTF8 = some v := by
        rw [String.toUTF8_eq_toByteArray, String.fromUTF8?, dif_pos v.isValidUTF8]
        rfl
      rw [hdrop, if_pos (lawful.ascii _ _), lawful.decrypt]
      dsimp only
      rw [hutf8]
      rfl

end FieldCipher

theorem openField_some (cipher : FieldCipher) (v : String) :
    openField cipher (some v) = (cipher.open v).map some := by
  by_cases hv : v = ""
  · have hempty : isSealed "" = false := by decide
    rw [hv, cipher.open_of_unmarked hempty]
    rfl
  · unfold openField
    split
    · next h => cases h
    · next h => exact absurd (Option.some.inj h) hv
    · next h => rw [Option.some.inj h]

theorem openField_seal {cipher : FieldCipher} (lawful : cipher.Lawful) (iv : ℕ)
    (o : Option String) :
    openField cipher (o.map fun v => if v ≠ "" then cipher.seal iv v else v) =
      openField cipher o := by
  cases o with
  | none => rfl
  | some v =>
    rw [Option.map_some]
    split_ifs
    · rw [openField_some, openField_some, FieldCipher.open_seal lawful]
    · rfl

/-- Sealing a session does not change what it opens to. -/
theorem open_sealSession {cipher : FieldCipher} (lawful : cipher.Lawful) (iv : ℕ → ℕ)
    (s : Session) : openSessionDict cipher (sealSession cipher iv s) = openSessionDict cipher s := by
  unfold openSessionDict
  rw [sealSession, openField_seal lawful, openField_seal lawful]

theorem open_stamp (cipher : FieldCipher) (s : Session) (clientId : String)
    (integration : Option String) :
    openSessionDict cipher (stampBrokerSessionMetadata s clientId integration) =
      (openSessionDict cipher s).map (stampBrokerSessionMetadata · clientId integration) := by
  unfold openSessionDict
  rw [stampBrokerSessionMetadata]
  cases openField cipher s.upstream.sessionKey with
  | error e => rfl
  | ok sessionKey =>
    cases openField cipher s.user.email with
    | error e => rfl
    | ok email => rfl

/-! ## Genuine sessions -/

/-- No sensitive field of the session is marked as sealed. -/
structure Session.Unmarked (s : Session) : Prop where
  sessionKey : ∀ v, s.upstream.sessionKey = some v → isSealed v = false
  email : ∀ v, s.user.email = some v → isSealed v = false

/-- If the session opens, then to what is not marked as sealed. -/
def Session.Genuine (cipher : FieldCipher) (s : Session) : Prop :=
  ∀ opened, openSessionDict cipher s = .ok opened → opened.Unmarked

/-- A session that is not marked opens as it is. -/
theorem open_of_unmarked {cipher : FieldCipher} {s : Session} (h : s.Unmarked) :
    openSessionDict cipher s = .ok s := by
  have hfield : ∀ o : Option String, (∀ v, o = some v → isSealed v = false) →
      openField cipher o = .ok o := by
    intro o ho
    cases o with
    | none => rfl
    | some v =>
      rw [openField_some, cipher.open_of_unmarked (ho v rfl)]
      rfl
  rw [openSessionDict, hfield _ h.sessionKey, hfield _ h.email]
  rfl

namespace Session.Genuine

variable {cipher : FieldCipher} {s : Session}

theorem of_unmarked (h : s.Unmarked) : s.Genuine cipher := by
  intro opened hopened
  rw [open_of_unmarked h] at hopened
  cases hopened
  exact h

theorem stamp (h : s.Genuine cipher) (clientId : String) (integration : Option String) :
    (stampBrokerSessionMetadata s clientId integration).Genuine cipher := by
  intro opened hopened
  rw [open_stamp] at hopened
  cases hs : openSessionDict cipher s with
  | error e =>
    rw [hs] at hopened
    cases hopened
  | ok s' =>
    rw [hs] at hopened
    cases hopened
    exact ⟨(h s' hs).sessionKey, (h s' hs).email⟩

theorem sealed (lawful : cipher.Lawful) (h : s.Genuine cipher) (iv : ℕ → ℕ) :
    (sealSession cipher iv s).Genuine cipher := by
  intro opened hopened
  rw [open_sealSession lawful] at hopened
  exact h opened hopened

/-- Without a key, nothing that is marked opens. -/
theorem null (s : Session) : s.Genuine .null := by
  have hfield : ∀ o o' : Option String, openField .null o = .ok o' →
      ∀ v, o' = some v → isSealed v = false := by
    rintro o o' ho v rfl
    cases o with
    | none => cases ho
    | some u =>
      rw [openField_some, FieldCipher.open] at ho
      split_ifs at ho with hu
      · cases ho
      · cases ho
        exact Bool.eq_false_of_not_eq_true hu
  intro opened hopened
  rw [openSessionDict] at hopened
  obtain ⟨sessionKey, hsessionKey, hopened⟩ := exists_ok_of_bind hopened
  obtain ⟨email, hemail, hopened⟩ := exists_ok_of_bind hopened
  cases hopened
  exact ⟨hfield _ _ hsessionKey, hfield _ _ hemail⟩

end Session.Genuine

/-! ## The sessions of minted pairs -/

/-- Every service of the run has the cipher, and no sign-in brings a session
    that opens to what is marked as sealed. -/
structure OneKey (unicode : Unicode) (cipher : FieldCipher) (es : List Event) : Prop where
  lawful : cipher.Lawful
  fieldCipher : ∀ e ∈ es, e.service.fieldCipher = cipher
  genuine : ∀ pre e post service t request session, es = pre ++ e :: post →
    Issues unicode ((broker unicode).after pre) e service t request session →
    session.Genuine cipher

namespace OneKey

variable {cipher : FieldCipher} {es pre post : List Event} {e : Event} {service : AuthService}

theorem append_left (h : OneKey unicode cipher (pre ++ post)) : OneKey unicode cipher pre where
  lawful := h.lawful
  fieldCipher e he := h.fieldCipher e (List.mem_append_left post he)
  genuine l f rest service t request session hl :=
    h.genuine l f (rest ++ post) service t request session (by simp [hl])

/-- A service that takes part in the event has the cipher. -/
theorem served (h : OneKey unicode cipher (pre ++ e :: post))
    (served : ∃ f ∈ pre ++ [e], service = f.service) : service.fieldCipher = cipher := by
  obtain ⟨f, hf, rfl⟩ := served
  rw [List.append_cons] at h
  exact h.fieldCipher f (List.mem_append_left post hf)

/-- The session of an exchange in flight is not marked: it was opened. -/
theorem exchange_unmarked (h : OneKey unicode cipher es) {call : ℕ} {x : Exchange}
    (inFlight : ((broker unicode).after es).exchanges.get? call = some x) :
    x.session.Unmarked := by
  obtain ⟨pre, e, post, record, rfl, burns, -⟩ := exchange_origin inFlight
  obtain ⟨l, f, rest, rfl, service, t, request, session, issues, -, rfl⟩ := code_origin burns.stored
  have hsession : session.Genuine cipher :=
    h.append_left.genuine l f rest service t request session rfl issues
  have hopens := burns.opens
  rw [h.fieldCipher e (by simp), AuthService.authorizationCode,
    h.append_left.served issues.served] at hopens
  exact hsession.sealed h.lawful f.rand.iv x.session hopens

/-- The session a pair is minted with is not marked: it was opened. -/
theorem mints_unmarked (h : OneKey unicode cipher (pre ++ e :: post)) {now : ℕ → ℤ}
    {session : Session} {scope clientId : String}
    (mints : Mints ((broker unicode).after pre) e service now session scope clientId)
    (stored : ∀ k r, ((broker unicode).after pre).store.refreshTokens.get? k = some r →
      r.session.Genuine cipher) : session.Unmarked := by
  cases mints with
  | exchanged _ inFlight => exact h.append_left.exchange_unmarked inFlight
  | rotated rotates =>
    have hopens := rotates.opens
    rw [h.fieldCipher e (by simp)] at hopens
    exact of_stamped (fun _ clientId integration hs => hs.stamp clientId integration) rotates.stamps
      (stored _ _ rotates.stored) _ hopens

theorem refresh_genuine (h : OneKey unicode cipher es) {k : String} {r : RefreshToken}
    (stored : ((broker unicode).after es).store.refreshTokens.get? k = some r) :
    r.session.Genuine cipher := by
  refine refresh_session (fun _ clientId integration hs => hs.stamp clientId integration)
    (fun pre e post split service now session scope clientId mints hall => ?_) stored
  subst split
  rw [AuthService.tokenRecord, AuthService.tokenSession, h.served mints.served]
  exact ((Session.Genuine.of_unmarked (h.mints_unmarked mints hall)).stamp _ _).sealed h.lawful _

/-- The session of a pair opens under the cipher it was sealed with. -/
theorem opens (h : OneKey unicode cipher (pre ++ e :: post)) {now : ℕ → ℤ} {session : Session}
    {scope clientId : String}
    (mints : Mints ((broker unicode).after pre) e service now session scope clientId) :
    (service.tokenSession e.rand session clientId).opens cipher := by
  have hunmarked := h.mints_unmarked mints fun _ _ => h.append_left.refresh_genuine
  rw [AuthService.tokenSession, h.served mints.served, Session.opens, open_sealSession h.lawful,
    open_stamp, open_of_unmarked hunmarked]
  exact ⟨_, rfl⟩

end OneKey

/-! ## Reads of a minted token -/

/-- An event mints at most one pair. -/
theorem Mints.unique {w : World} {e : Event} {service service' : AuthService} {now now' : ℕ → ℤ}
    {session session' : Session} {scope scope' clientId clientId' : String}
    (h : Mints w e service now session scope clientId)
    (h' : Mints w e service' now' session' scope' clientId') :
    service = service' ∧ now = now' ∧ session = session' ∧ scope = scope' ∧
      clientId = clientId' := by
  cases h with
  | exchanged action inFlight =>
    cases h' with
    | exchanged action' inFlight' =>
      cases Action.createTokenPair.inj (action.symm.trans action')
      cases inFlight.symm.trans inFlight'
      exact ⟨rfl, rfl, rfl, rfl, rfl⟩
    | rotated rotates => exact Action.noConfusion (action.symm.trans rotates.action)
  | rotated rotates =>
    cases h' with
    | exchanged action _ => exact Action.noConfusion (action.symm.trans rotates.action)
    | rotated rotates' =>
      obtain ⟨-, rfl, -, rfl⟩ := rotates.unique rotates'
      exact ⟨rfl, rfl, rfl, rfl, rfl⟩

/-- When the access token that an event minted is read. -/
theorem read_iff_of_mints {b mid post : List Event} {g e : Event} {service : AuthService}
    {now : ℕ → ℤ} {session : Session} {scope clientId : String} {call : ℕ}
    (fresh : Fresh (b ++ g :: (mid ++ e :: post))) (timed : Timed (b ++ g :: (mid ++ e :: post)))
    (mints : Mints ((broker unicode).after b) g service now session scope clientId)
    (action : e.action = .readAccessToken call (randomToken "at" (g.rand.token 0))) :
    (∃ r, (broker unicode).out ((broker unicode).after (b ++ g :: mid)) e =
      .ok (.record (some r))) ↔
    e.now 0 < now 0 + service.config.oauth.tokenTtlSeconds * 1000 ∧
      (∀ h ∈ mid, h.action ≠ .revokeToken (randomToken "at" (g.rand.token 0)) ∧
        h.action ≠ .revokeTokensForUser session.user.id session.tenant.id) ∧
      isConfiguredClient e.service.config clientId = true ∧
      (service.tokenSession g.rand session clientId).opens e.service.fieldCipher := by
  have hsplit : b ++ g :: (mid ++ e :: post) = (b ++ g :: mid) ++ e :: post := by simp
  have hfresh : Fresh (b ++ g :: mid) := (hsplit ▸ fresh).append_left
  constructor
  · rintro ⟨r, read⟩
    obtain ⟨b', g', mid', service', now', session', scope', clientId', hpre, mints', hkey, hlive⟩ :=
      minted_of_read hfresh action read
    obtain ⟨rfl, rfl, rfl⟩ := hfresh.position_unique rfl hpre (randomToken_inj hkey)
    obtain ⟨rfl, rfl, rfl, rfl, rfl⟩ := mints.unique mints'
    exact hlive
  · rintro ⟨unexpired, unrevoked, client, opens⟩
    exact read_of_minted hfresh timed mints rfl action unexpired unrevoked client opens

/-- A record read is that of the token minted, with its expiry. -/
theorem expiresAt_of_read {b mid : List Event} {g e : Event} {service : AuthService}
    {now : ℕ → ℤ} {session : Session} {scope clientId : String} {call : ℕ} {r : AccessToken}
    (fresh : Fresh (b ++ g :: mid))
    (mints : Mints ((broker unicode).after b) g service now session scope clientId)
    (action : e.action = .readAccessToken call (randomToken "at" (g.rand.token 0)))
    (read : (broker unicode).out ((broker unicode).after (b ++ g :: mid)) e =
      .ok (.record (some r))) :
    r.expiresAt = now 0 + service.config.oauth.tokenTtlSeconds * 1000 := by
  obtain ⟨record, stamped, opened, reads, rfl⟩ := read_answer action read
  have hlike := access_like fresh ⟨rfl, _, _, _, _, _, mints, rfl⟩ reads.stored
  exact hlike.2

/-! ## Refreshed tokens -/

/-- The record of a refresh token is for one client all along. -/
theorem refresh_clientId {es post : List Event} {token : String} {r r' : RefreshToken}
    (fresh : Fresh (es ++ post))
    (before : ((broker unicode).after es).store.refreshTokens.get? token = some r)
    (after : ((broker unicode).after (es ++ post)).store.refreshTokens.get? token = some r') :
    r'.clientId = r.clientId := by
  obtain ⟨b, g, mid, rfl, r₀, mints, hlike, -⟩ := refresh_origin before
  obtain ⟨b', g', mid', hsplit, r₀', mints', hlike', -⟩ := refresh_origin after
  obtain ⟨hkey, service, now, session, scope, clientId, hmints, rfl⟩ := mints
  obtain ⟨hkey', service', now', session', scope', clientId', hmints', rfl⟩ := mints'
  have hassoc : (b ++ g :: mid) ++ post = b ++ g :: (mid ++ post) := by simp
  obtain ⟨rfl, rfl, -⟩ :=
    fresh.position_unique hassoc hsplit (randomToken_inj (hkey.symm.trans hkey'))
  obtain ⟨-, -, -, -, rfl⟩ := hmints.unique hmints'
  exact hlike'.clientId.trans hlike.clientId.symm

/-- A refresh that succeeds answers the pair of the one rotation of its token,
    which this call makes or replays. Right after it, the access token is read
    exactly until the lifetime counted from the rotation is over, if neither it
    nor its user's tokens were revoked since; the record read says so. -/
theorem refreshed_read_iff (pre : List Event) (e f : Event) (cipher : FieldCipher) (call : ℕ)
    (clientId token : String) (response : TokenResponse) (fresh : Fresh (pre ++ [e, f]))
    (timed : Timed (pre ++ [e, f])) (key : OneKey unicode cipher (pre ++ [e, f]))
    (action : e.action = .refreshAccessToken clientId token)
    (success : (broker unicode).out ((broker unicode).after pre) e = .ok (.tokens (.ok response)))
    (read : f.action = .readAccessToken call response.accessToken)
    (same : f.service = e.service) :
    ∃ b g mid record stamped opened, pre ++ [e] = b ++ g :: mid ∧
      Rotates ((broker unicode).after b) g token record stamped opened ∧
      response = g.service.tokenResponse g.rand record.scope ∧
      (g = e ∧ mid = [] ∨ ∃ replayed, Replays ((broker unicode).after pre) e token replayed response) ∧
      ((∃ r, (broker unicode).out ((broker unicode).after (pre ++ [e])) f =
          .ok (.record (some r))) ↔
        f.now 0 < g.now 2 + response.expiresIn * 1000 ∧
        ∀ h ∈ mid, h.action ≠ .revokeToken response.accessToken ∧
          h.action ≠ .revokeTokensForUser opened.user.id opened.tenant.id) ∧
      ∀ r, (broker unicode).out ((broker unicode).after (pre ++ [e])) f = .ok (.record (some r)) →
        r.expiresAt = g.now 2 + response.expiresIn * 1000 := by
  have hconfigured : isConfiguredClient f.service.config clientId = true :=
    same ▸ refresh_configured action success
  -- Whichever rotation is answered, the read is one of the access token it minted.
  have hlife : ∀ b g mid record stamped opened, pre ++ [e] = b ++ g :: mid →
      Rotates ((broker unicode).after b) g token record stamped opened →
      record.clientId = clientId →
      response = g.service.tokenResponse g.rand record.scope →
      ((∃ r, (broker unicode).out ((broker unicode).after (pre ++ [e])) f =
          .ok (.record (some r))) ↔
        f.now 0 < g.now 2 + response.expiresIn * 1000 ∧
        ∀ h ∈ mid, h.action ≠ .revokeToken response.accessToken ∧
          h.action ≠ .revokeTokensForUser opened.user.id opened.tenant.id) ∧
      ∀ r, (broker unicode).out ((broker unicode).after (pre ++ [e])) f = .ok (.record (some r)) →
        r.expiresAt = g.now 2 + response.expiresIn * 1000 := by
    rintro b g mid record stamped opened hsplit rotates rfl rfl
    have hrun : pre ++ [e, f] = b ++ g :: (mid ++ f :: []) := by
      have happend := congrArg (· ++ [f]) hsplit
      simpa using happend
    rw [hrun] at fresh timed key
    have hmints : Mints ((broker unicode).after b) g g.service (fun i => g.now (i + 2)) opened
        record.scope record.clientId := .rotated rotates
    have hopens := key.opens hmints
    rw [← key.fieldCipher f (by simp)] at hopens
    have hiff := read_iff_of_mints fresh timed hmints read
    have hfresh : Fresh (b ++ g :: mid) := by
      have hassoc : b ++ g :: (mid ++ [f]) = (b ++ g :: mid) ++ [f] := by simp
      rw [hassoc] at fresh
      exact fresh.append_left
    rw [hsplit]
    refine ⟨hiff.trans ⟨fun ⟨htime, hrevoked, _, _⟩ => ⟨htime, hrevoked⟩,
      fun ⟨htime, hrevoked⟩ => ⟨htime, hrevoked, hconfigured, hopens⟩⟩, fun r hr => ?_⟩
    exact expiresAt_of_read hfresh hmints read hr
  rcases refresh_answer action success with
    ⟨record, stamped, opened, rotates, hclient, hresponse⟩ | ⟨replayed, replays, hclient⟩
  · exact ⟨pre, e, [], record, stamped, opened, rfl, rotates, hresponse, .inl ⟨rfl, rfl⟩,
      hlife pre e [] record stamped opened rfl rotates hclient hresponse⟩
  · have hstored := replays.stored
    obtain ⟨b, g, mid, rfl, record, stamped, opened, rotates, hresponse⟩ :=
      rotation_origin hstored replays.cached
    have hsame := refresh_clientId fresh.append_left rotates.stored hstored
    have hsplit : b ++ g :: mid ++ [e] = b ++ g :: (mid ++ [e]) := by simp
    exact ⟨b, g, mid ++ [e], record, stamped, opened, hsplit, rotates, hresponse,
      .inr ⟨replayed, replays⟩, hlife b g (mid ++ [e]) record stamped opened hsplit rotates
        (hsame.symm.trans hclient) hresponse⟩

/-- A run without a key has one. -/
theorem oneKey_sample (steps : List (String × ℤ × Action)) :
    OneKey unicode .null (Sample.run Sample.service steps) where
  lawful := trivial
  fieldCipher e he := by
    obtain ⟨s, -, rfl⟩ := List.mem_map.1 he
    rfl
  genuine _ _ _ _ _ _ session _ _ := .null session

/-- A refresh token rotated at 3000 ms, and replayed twice: the access token is
    read after the first replay, and revoked before the second. -/
def staleRun : List Event :=
  Sample.run Sample.service
    [("a", 1000, .beginAuthorizationFromSession Sample.request Sample.session),
     ("b", 2000, .exchangeAuthorizationCode 0 "canva-client" "https://canva.example/return" "code_a"
       (some Sample.verifier)),
     ("c", 2000, .createTokenPair 0),
     ("d", 3000, .refreshAccessToken "canva-client" "rt_c"),
     ("e", 4000, .refreshAccessToken "canva-client" "rt_c"),
     ("f", 4000, .readAccessToken 1 "at_d"),
     ("g", 5000, .revokeToken "at_d"),
     ("h", 6000, .refreshAccessToken "canva-client" "rt_c"),
     ("i", 6000, .readAccessToken 2 "at_d")]

theorem refreshed_read_iff_run :
    ∃ g ∈ staleRun.take 5, ∀ r, (broker Unicode.ascii).out
      ((broker Unicode.ascii).after (staleRun.take 5)) staleRun[5] = .ok (.record (some r)) →
      r.expiresAt = g.now 2 + 3600 * 1000 := by
  have hfresh : Fresh staleRun := Sample.fresh _ (by decide)
  have htimed : Timed staleRun := Sample.timed _ (by decide)
  have hkey : OneKey Unicode.ascii .null staleRun := oneKey_sample _
  obtain ⟨b, g, mid, _, _, _, hsplit, -, -, -, -, hexpires⟩ :=
    refreshed_read_iff (staleRun.take 4) staleRun[4] staleRun[5] .null 1 "canva-client" "rt_c"
      ⟨"at_d", "Bearer", 3600, some "rt_d", "dam:read"⟩
      (Fresh.append_left (show Fresh (staleRun.take 6 ++ staleRun.drop 6) from hfresh))
      (Timed.append_left (show Timed (staleRun.take 6 ++ staleRun.drop 6) from htimed))
      (OneKey.append_left (show OneKey _ _ (staleRun.take 6 ++ staleRun.drop 6) from hkey))
      rfl (by decide +kernel) rfl rfl
  have hmem : g ∈ staleRun.take 4 ++ [staleRun[4]] := by
    rw [hsplit]
    exact List.mem_append_right _ List.mem_cons_self
  exact ⟨g, hmem, hexpires⟩

/-- A replayed response is no measure of its access token: a second after the
    rotation it promises the whole lifetime again, and it is answered when the
    token has been revoked. -/
theorem replayed_response_stale :
    Fresh staleRun ∧ Timed staleRun ∧
      (broker Unicode.ascii).out ((broker Unicode.ascii).after (staleRun.take 4)) staleRun[4] =
        .ok (.tokens (.ok ⟨"at_d", "Bearer", 3600, some "rt_d", "dam:read"⟩)) ∧
      (∃ r, (broker Unicode.ascii).out ((broker Unicode.ascii).after (staleRun.take 5)) staleRun[5] =
        .ok (.record (some r)) ∧ r.expiresAt - 4000 < 3600 * 1000) ∧
      (broker Unicode.ascii).out ((broker Unicode.ascii).after (staleRun.take 7)) staleRun[7] =
        .ok (.tokens (.ok ⟨"at_d", "Bearer", 3600, some "rt_d", "dam:read"⟩)) ∧
      (broker Unicode.ascii).out ((broker Unicode.ascii).after (staleRun.take 8)) staleRun[8] =
        .ok (.record none) := by
  refine ⟨Sample.fresh _ (by decide), Sample.timed _ (by decide), by decide +kernel,
    ⟨{ clientId := "canva-client", scope := "dam:read", integration := some "canva"
       session := { Sample.session with broker := some ⟨"canva-client", some "canva"⟩ }
       accessToken := "at_d", expiresAt := 3603000, createdAt := 3000, revokedAt := none },
      by decide +kernel, by decide⟩, by decide +kernel, by decide +kernel⟩

end Broker
