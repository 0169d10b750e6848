import Broker.Origins

/-!
# Encryption at rest

With a Fernet key in every service, no sensitive field of a session is ever
stored in the clear (`stored_sealed`): what mints a session into a bucket seals
it, and what labels a stored session again, reads it or rotates its token,
leaves its sealed fields alone. Nothing else that is stored is made of a
session's sensitive fields.
-/

namespace Broker

open Py Runs

variable {unicode : Unicode}

/-! ## Sealed sessions -/

/-- Every sensitive field of the session that is not empty carries the marker
    of sealed values. -/
structure Session.Sealed (s : Session) : Prop where
  sessionKey : ∀ v, s.upstream.sessionKey = some v → v ≠ "" → isSealed v
  email : ∀ v, s.user.email = some v → v ≠ "" → isSealed v

theorem isSealed_append (text : String) : isSealed (encPrefix ++ text) = true := by
  rw [isSealed, String.toList_append, List.isPrefixOf_iff_prefix]
  exact List.prefix_append _ _

/-- Fernet seals: what it leaves alone is sealed already. -/
theorem FieldCipher.isSealed_seal (f : Fernet) (iv : ℕ) (v : String) :
    isSealed ((FieldCipher.fernet f).seal iv v) = true := by
  rw [FieldCipher.seal]
  split_ifs with h
  · exact h
  · exact isSealed_append _

theorem sealed_sealSession (f : Fernet) (iv : ℕ → ℕ) (s : Session) :
    (sealSession (.fernet f) iv s).Sealed := by
  have hfield : ∀ (i : ℕ) (o : Option String) (v : String),
      o.map (fun x => if x ≠ "" then (FieldCipher.fernet f).seal (iv i) x else x) = some v →
      v ≠ "" → isSealed v = true := by
    intro i o v hv hne
    obtain ⟨x, rfl, rfl⟩ := Option.map_eq_some_iff.1 hv
    by_cases hx : x = ""
    · rw [if_neg (not_not_intro hx)] at hne
      exact absurd hx hne
    · rw [if_pos hx]
      exact FieldCipher.isSealed_seal f (iv i) x
  exact ⟨hfield 0 s.upstream.sessionKey, hfield 1 s.user.email⟩

/-- The label of a session is no sensitive field. -/
theorem Session.Sealed.stamp {s : Session} (h : s.Sealed) (clientId : String)
    (integration : Option String) : (stampBrokerSessionMetadata s clientId integration).Sealed :=
  ⟨h.sessionKey, h.email⟩

/-! ## Sealed stores -/

/-- The service has a Fernet key. -/
def AuthService.Keyed (service : AuthService) : Prop :=
  ∃ f, service.fieldCipher = .fernet f

theorem AuthService.Keyed.sealed_code {service : AuthService} (h : service.Keyed) (t : ℤ)
    (rand : Rand) (request : AuthorizationRequest) (session : Session) :
    (service.authorizationCode t rand request session).session.Sealed := by
  obtain ⟨f, hf⟩ := h
  rw [AuthService.authorizationCode, hf]
  exact sealed_sealSession f _ _

theorem AuthService.Keyed.sealed_token {service : AuthService} (h : service.Keyed) (rand : Rand)
    (session : Session) (scope clientId : String) :
    (service.tokenRecord rand session scope clientId).session.Sealed := by
  obtain ⟨f, hf⟩ := h
  rw [AuthService.tokenRecord, AuthService.tokenSession, hf]
  exact sealed_sealSession f _ _

variable {es : List Event} {k : String}

theorem code_sealed (keyed : ∀ e ∈ es, e.service.Keyed) {r : AuthorizationCode}
    (h : ((broker unicode).after es).store.authorizationCodes.get? k = some r) :
    r.session.Sealed := by
  obtain ⟨pre, e, post, rfl, service, t, request, session, issues, -, rfl⟩ := code_origin h
  obtain ⟨f, hf, rfl⟩ := issues.served
  refine (keyed f ?_).sealed_code t e.rand request session
  rw [List.append_cons]
  exact List.mem_append_left post hf

/-- A pair minted in a run is sealed. -/
theorem Mints.sealed {post : List Event} {e : Event} {service : AuthService} {now : ℕ → ℤ}
    {session : Session} {scope clientId : String} {pre : List Event}
    (keyed : ∀ e ∈ es, e.service.Keyed) (split : es = pre ++ e :: post)
    (mints : Mints ((broker unicode).after pre) e service now session scope clientId) :
    (service.tokenRecord e.rand session scope clientId).session.Sealed := by
  obtain ⟨f, hf, rfl⟩ := mints.served
  refine (keyed f ?_).sealed_token e.rand _ _ _
  rw [split, List.append_cons]
  exact List.mem_append_left post hf

/-! ## What else is stored -/

/-- The session without its sensitive fields. -/
def Session.concealed (s : Session) : Session :=
  { s with
    user := { s.user with email := none }
    upstream := { s.upstream with sessionKey := none } }

/-- A grant holds nothing of the sensitive fields of its session. -/
theorem assetGrant_concealed (service : AssetService) (t : ℤ) (rand : Rand) (session : Session)
    (request : GrantRequest) :
    service.assetGrant t rand session.concealed request =
      service.assetGrant t rand session request := rfl

/-- A stored grant is what the request in flight asked for, from a session
    without its sensitive fields. -/
theorem grant_concealed {es : List Event} {k : String} {g : AssetGrant}
    (h : ((broker unicode).after es).store.assetGrants.get? k = some g) :
    Occurs es fun pre e => ∃ call r request, e.action = .createGrant call request ∧
      ((broker unicode).after pre).requests.get? call = some r ∧
      g = { (AssetService.mk r.service.config).assetGrant (e.now 1) e.rand r.session.concealed
              request with
            expiresAt := g.expiresAt } := by
  refine (grant_origin h).imp ?_
  rintro pre e ⟨r, request, g₀, grants, heq⟩
  obtain ⟨call, action, inFlight⟩ := grants.action
  refine ⟨call, r, request, action, inFlight, ?_⟩
  rw [assetGrant_concealed, ← grants.grant]
  exact heq

/-- The sensitive fields of sessions, in a store reached by the events `es`: in
    the buckets of codes and tokens they are sealed, and the rest of what is
    stored is made without them. -/
structure SealedStore (unicode : Unicode) (es : List Event) (s : Store) : Prop where
  authorizationCodes : ∀ k r, s.authorizationCodes.get? k = some r → r.session.Sealed
  accessTokens : ∀ k r, s.accessTokens.get? k = some r → r.session.Sealed
  refreshTokens : ∀ k r, s.refreshTokens.get? k = some r → r.session.Sealed
  /-- A cached response is made of what was drawn for it, a lifetime and a scope. -/
  rotationResponses : ∀ k r response, s.refreshTokens.get? k = some r →
    r.rotationResponse = some response →
    ∃ e ∈ es, ∃ scope, response = e.service.tokenResponse e.rand scope
  /-- A handoff state is made of what its initiation asked for. -/
  pendingSsoStates : ∀ k r, s.pendingSsoStates.get? k = some r →
    ∃ e ∈ es, ∃ startedAt request, e.action = .beginSsoAuthorization startedAt request ∧
      { r with usedAt := none } = e.service.pendingSsoState startedAt (e.now 1) k request
  /-- A grant is made of what its creation asked for, and of the rest of the
      session in flight. -/
  assetGrants : ∀ k g, s.assetGrants.get? k = some g →
    Occurs es fun pre e => ∃ call r request, e.action = .createGrant call request ∧
      ((broker unicode).after pre).requests.get? call = some r ∧
      g = { (AssetService.mk r.service.config).assetGrant (e.now 1) e.rand r.session.concealed
              request with
            expiresAt := g.expiresAt }

/-- With a Fernet key in every service, whatever is stored of a session's
    sensitive fields is sealed, in every state reached. -/
theorem stored_sealed (unicode : Unicode) (es : List Event) (keyed : ∀ e ∈ es, e.service.Keyed) :
    SealedStore unicode es ((broker unicode).after es).store where
  authorizationCodes _ _ h := code_sealed keyed h
  accessTokens _ _ h :=
    access_session (fun _ clientId integration hs => hs.stamp clientId integration)
      (fun _ _ _ split _ _ _ _ _ mints => mints.sealed keyed split) h
  refreshTokens _ _ h :=
    refresh_session (fun _ clientId integration hs => hs.stamp clientId integration)
      (fun _ _ _ split _ _ _ _ _ mints _ => mints.sealed keyed split) h
  rotationResponses _ _ _ h hcached :=
    Occurs.exists_mem (rotation_origin h hcached) fun _ _ ⟨record, _, _, _, heq⟩ =>
      ⟨record.scope, heq⟩
  pendingSsoStates _ _ h :=
    Occurs.exists_mem (pending_origin h) fun _ _ ⟨startedAt, request, initiates, heq⟩ =>
      ⟨startedAt, request, initiates.action, heq⟩
  assetGrants _ _ h := grant_concealed h

/-- A service with a Fernet key, which encrypts the sample session key and
    decrypts it again. -/
def Sample.keyed : AuthService where
  config := Sample.config
  fieldCipher := .fernet ⟨fun _ _ => "gAAAAA", fun _ => some "session-key".toUTF8⟩

/-- A sign-in, its code exchanged, its token rotated, and the new token read. -/
def Sample.sealedRun : List Event :=
  Sample.run Sample.keyed
    [("a", 1000, .beginAuthorizationFromSession Sample.request Sample.session),
     ("b", 2000, .exchangeAuthorizationCode 1 "canva-client" "https://canva.example/return" "code_a"
       (some Sample.verifier)),
     ("c", 2000, .createTokenPair 1),
     ("d", 3000, .refreshAccessToken "canva-client" "rt_c"),
     ("e", 4000, .readAccessToken 2 "at_d")]

theorem Sample.sealedRun_keyed : ∀ e ∈ Sample.sealedRun, e.service.Keyed := by
  intro e he
  obtain ⟨s, -, rfl⟩ := List.mem_map.1 he
  exact ⟨_, rfl⟩

theorem stored_sealed_run :
    (((broker Unicode.ascii).after Sample.sealedRun).store.accessTokens.get? "at_d").map
        (·.session.upstream.sessionKey) = some (some "enc:v1:gAAAAA") ∧
      SealedStore Unicode.ascii Sample.sealedRun ((broker Unicode.ascii).after Sample.sealedRun).store :=
  ⟨by decide +kernel, stored_sealed Unicode.ascii _ Sample.sealedRun_keyed⟩

end Broker
