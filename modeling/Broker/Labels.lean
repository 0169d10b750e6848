import Broker.AccessTokens

/-!
# Integration labels

A stored session is labelled with its OAuth client and the integration the
client had when it was labelled. The registry of clients may change with every
event of a run: what an event hands out or mints is labelled by the registry in
force at that event, and the tokens of a client that is no longer in it are
neither read nor refreshed (`labels_current`).
-/

namespace Broker

open Py Runs

variable {unicode : Unicode} {w : World} {e : Event}

/-- The integration a registry assigns to a client. An empty name is none. -/
def assignedIntegration (config : AppConfig) (clientId : String) : Option String :=
  (integrationForClientId config clientId).filter (· ≠ "")

/-- The record is labelled for its client, with the integration the registry
    assigns to it. -/
structure TokenRecord.Labelled (config : AppConfig) (r : TokenRecord) : Prop where
  integration : r.integration = integrationForClientId config r.clientId
  broker : r.session.broker = some ⟨r.clientId, assignedIntegration config r.clientId⟩

/-! ## Where labels are written -/

theorem broker_stamp (config : AppConfig) (session : Session) (clientId : String) :
    (stampBrokerSessionMetadata session clientId
        (integrationForClientId config clientId)).broker =
      some ⟨clientId, assignedIntegration config clientId⟩ := by
  rw [stampBrokerSessionMetadata, assignedIntegration]
  cases integrationForClientId config clientId with
  | none => rfl
  | some name =>
    rw [Option.filter_some, truthyStr, Option.any_some]

theorem broker_of_open {cipher : FieldCipher} {s s' : Session}
    (h : openSessionDict cipher s = .ok s') : s'.broker = s.broker := by
  rw [openSessionDict] at h
  obtain ⟨sessionKey, -, h⟩ := exists_ok_of_bind h
  obtain ⟨email, -, h⟩ := exists_ok_of_bind h
  cases h
  rfl

namespace TokenRecord.Labelled

theorem of_stamp {config : AppConfig} {r stamped : TokenRecord}
    (stamps : stampTokenRecordMetadata config r = some stamped) : stamped.Labelled config := by
  rw [stampTokenRecordMetadata] at stamps
  split_ifs at stamps
  cases stamps
  exact ⟨rfl, broker_stamp config r.session r.clientId⟩

theorem tokenRecord (service : AuthService) (rand : Rand) (session : Session)
    (scope clientId : String) :
    (service.tokenRecord rand session scope clientId).Labelled service.config :=
  ⟨rfl, broker_stamp service.config session clientId⟩

theorem opened {config : AppConfig} {cipher : FieldCipher} {r : TokenRecord} {session : Session}
    (h : r.Labelled config) (opens : openSessionDict cipher r.session = .ok session) :
    ({ r with session } : TokenRecord).Labelled config :=
  ⟨h.integration, (broker_of_open opens).trans h.broker⟩

end TokenRecord.Labelled

/-! ## What is handed out -/

/-- A read hands out a configured client's record. -/
theorem Reads.configured {token : String} {record : AccessToken} {stamped : TokenRecord}
    {opened : Session} (h : Reads w e token record stamped opened) :
    isConfiguredClient e.service.config record.clientId = true :=
  exists_stamp_iff.1 ⟨stamped, h.stamps⟩

/-- A refresh that answers tokens is one of a configured client. -/
theorem refresh_configured {clientId token : String} {response : TokenResponse}
    (action : e.action = .refreshAccessToken clientId token)
    (h : (broker unicode).out w e = .ok (.tokens (.ok response))) :
    isConfiguredClient e.service.config clientId = true := by
  by_contra hclient
  change (w.step unicode e).1 = _ at h
  rw [World.step, action] at h
  dsimp only [World.commit] at h
  rw [AuthService.refreshAccessToken, if_neg hclient] at h
  cases h

/-- The client of a refresh that answers tokens is the one the token is for. -/
theorem refresh_client {clientId token : String} {response : TokenResponse}
    (action : e.action = .refreshAccessToken clientId token)
    (h : (broker unicode).out w e = .ok (.tokens (.ok response))) :
    ∃ r, w.store.refreshTokens.get? token = some r ∧ r.clientId = clientId := by
  rcases refresh_answer action h with ⟨r, _, _, rotates, rfl, -⟩ | ⟨r, replays, rfl⟩
  · exact ⟨r, rotates.stored, rfl⟩
  · exact ⟨r, replays.stored, rfl⟩

/-- The answer to an event that mints a pair hands it out. -/
theorem Mints.answer {service : AuthService} {now : ℕ → ℤ} {session : Session}
    {scope clientId : String} (h : Mints w e service now session scope clientId) :
    (broker unicode).out w e = .ok (.tokens (.ok (service.tokenResponse e.rand scope))) := by
  cases h with
  | exchanged action inFlight =>
    change (w.step unicode e).1 = _
    rw [World.step, action]
    dsimp only
    rw [inFlight]
    rfl
  | rotated rotates =>
    rw [Machine.out, rotates_step rotates, (Relabels.of_stamp rotates.stamps).scope]
    rfl

/-- The refresh token of a pair is stored, with a record labelled for the
    client of the pair. -/
theorem Mints.refresh_labelled {service : AuthService} {now : ℕ → ℤ} {session : Session}
    {scope clientId : String} (h : Mints w e service now session scope clientId) :
    ∃ r, ((broker unicode).next w e).store.refreshTokens.get? (randomToken "rt" (e.rand.token 1)) =
        some r ∧ r.clientId = clientId ∧ r.toTokenRecord.Labelled service.config := by
  cases h with
  | @exchanged call x action inFlight =>
    refine ⟨x.service.refreshTokenRecord (fun i => e.now (i + 1)) e.rand x.session x.scope
      x.clientId, ?_, rfl, .tokenRecord x.service e.rand x.session x.scope x.clientId⟩
    change (w.step unicode e).2.store.refreshTokens.get? _ = _
    rw [World.step, action]
    dsimp only
    rw [inFlight]
    exact Dict.get?_set_self _ _ _
  | @rotated token record stamped opened rotates =>
    rw [Machine.next, rotates_step rotates]
    dsimp only [AuthService.writeTokenPairToState]
    rw [Dict.get?_set]
    split_ifs
    · -- The new token is drawn as the rotated one: the rotated record is stored.
      exact ⟨_, rfl, (Relabels.of_stamp rotates.stamps).clientId, .of_stamp rotates.stamps⟩
    · exact ⟨_, Dict.get?_set_self _ _ _, rfl, .tokenRecord _ _ _ _ _⟩

/-! ## Labels are current -/

variable (unicode w e) in
/-- The labels of what an event hands out and mints are those of the registry
    in force. -/
structure LabelsCurrent : Prop where
  read : ∀ call token r, e.action = .readAccessToken call token →
    (broker unicode).out w e = .ok (.record (some r)) → r.toTokenRecord.Labelled e.service.config
  /-- An exchange or a refresh that mints a pair hands it out. -/
  answered : ∀ service now session scope clientId,
    Mints w e service now session scope clientId →
    (broker unicode).out w e = .ok (.tokens (.ok (service.tokenResponse e.rand scope)))
  mintedAccess : ∀ service now session scope clientId,
    Mints w e service now session scope clientId →
    ∃ r, ((broker unicode).next w e).store.accessTokens.get?
        (randomToken "at" (e.rand.token 0)) = some r ∧
      r.clientId = clientId ∧ r.toTokenRecord.Labelled service.config
  mintedRefresh : ∀ service now session scope clientId,
    Mints w e service now session scope clientId →
    ∃ r, ((broker unicode).next w e).store.refreshTokens.get?
        (randomToken "rt" (e.rand.token 1)) = some r ∧
      r.clientId = clientId ∧ r.toTokenRecord.Labelled service.config
  /-- The access token of a client that is not configured is not read. -/
  unread : ∀ call token r, e.action = .readAccessToken call token →
    w.store.accessTokens.get? token = some r →
    isConfiguredClient e.service.config r.clientId = false →
    ∀ handed, (broker unicode).out w e ≠ .ok (.record (some handed))
  /-- The refresh token of a client that is not configured is not refreshed. -/
  unrefreshed : ∀ clientId token r, e.action = .refreshAccessToken clientId token →
    w.store.refreshTokens.get? token = some r →
    isConfiguredClient e.service.config r.clientId = false →
    ∀ response, (broker unicode).out w e ≠ .ok (.tokens (.ok response))

/-- In every state reached, and whatever the registries of the services so far,
    the labels of what is handed out and minted are those of the registry in
    force. -/
theorem labels_current (unicode : Unicode) (es : List Event) (e : Event) :
    LabelsCurrent unicode ((broker unicode).after es) e where
  read call token r action h := by
    obtain ⟨record, stamped, opened, reads, rfl⟩ := read_answer action h
    exact (TokenRecord.Labelled.of_stamp reads.stamps).opened reads.opens
  answered _ _ _ _ _ mints := mints.answer
  mintedAccess service now session scope clientId mints :=
    ⟨service.accessTokenRecord now e.rand session scope clientId,
      mintsAccess_next unicode ⟨rfl, _, _, _, _, _, mints, rfl⟩, rfl,
      .tokenRecord service e.rand session scope clientId⟩
  mintedRefresh _ _ _ _ _ mints := mints.refresh_labelled
  unread call token r action stored unconfigured handed h := by
    obtain ⟨record, stamped, opened, reads, -⟩ := read_answer action h
    have found := reads.found
    rw [AuthService.get?_accessTokens_prune, stored, Option.filter_eq_some_iff] at found
    obtain ⟨rfl⟩ := Option.some.inj found.1
    exact Bool.false_ne_true (unconfigured.symm.trans reads.configured)
  unrefreshed clientId token r action stored unconfigured response h := by
    obtain ⟨r', stored', rfl⟩ := refresh_client action h
    obtain rfl := Option.some.inj (stored.symm.trans stored')
    exact Bool.false_ne_true (unconfigured.symm.trans (refresh_configured action h))

end Broker
