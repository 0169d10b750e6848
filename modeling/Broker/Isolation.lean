import Broker.PasswordSignIns
import Broker.Serving

/-!
# Isolation of tenants

What the broker serves under the URL of a grant is what the user of the grant may see
(`assets_isolated`): in every run whose sessions are those that the sign-ins return, and whose
grants are those that the content routes ask for. An asset of the fixture data is served of the
tenant of its user only, and never if it is restricted to others; and the broker fetches for the
sessions of live tenants only.
-/

namespace Broker

open Py Runs

/-! ## Identities -/

/-- The session that an event brings in. -/
def Action.session? : Action → Option Session
  | .authenticate _ _ session => some session
  | .beginAuthorizationFromSession _ session => some session
  | .completeSsoAuthorization _ session => some session
  | _ => none

/-- The sessions that a run brings in are those of sign-ins. -/
def FromSignIns (py : Interpreter) (es : List Event) : Prop :=
  ∀ e ∈ es, ∀ session, e.action.session? = some session → Authenticated py session

section Identities

variable {py : Interpreter}

/-- A handoff is completed for a session that the event brings in, or that ResourceSpace has answered. -/
theorem authenticated_of_completion {w : World} {e : Event} {service : AuthService} {handoffState : String}
    {session : Session} (h : w.completion py.unicode e = some (service, handoffState, session)) :
    e.action.session? = some session ∨ Authenticated py session := by
  rw [World.completion] at h
  cases haction : e.action with
  | completeSsoAuthorization handoffState' session' =>
    rw [haction] at h
    cases h
    exact .inl rfl
  | answerCallback call authenticatedAt result =>
    rw [haction] at h
    dsimp only at h
    cases hcall : w.callbacks.get? call with
    | none =>
      rw [hcall] at h
      cases h
    | some c =>
      rw [hcall] at h
      dsimp only at h
      cases hresult : authenticateWithSessionKey py.unicode c.service.config authenticatedAt
          c.callback.record.tenant c.callback.sessionKey c.callback.username result with
      | error error =>
        rw [hresult] at h
        cases h
      | ok session' =>
        rw [hresult] at h
        cases h
        exact .inr (.handoff _ _ _ _ _ _ hresult)
  | _ =>
    rw [haction] at h
    cases h

/-- A code is issued for the identity of a session of a sign-in. -/
theorem authenticated_of_issues {pre post : List Event} {e : Event} {service : AuthService} {t : ℤ}
    {request : AuthorizationRequest} {session : Session} (signIns : FromSignIns py (pre ++ e :: post))
    (h : Issues py.unicode ((broker py.unicode).after pre) e service t request session) :
    ∃ signedIn, Authenticated py signedIn ∧ session.identity = signedIn.identity := by
  have he : e ∈ pre ++ e :: post := List.mem_append_right _ List.mem_cons_self
  cases h with
  | beginAuthorization action inFlight =>
    obtain ⟨l, f, rest, rfl, request', session', haction, rfl⟩ := sign_in_origin inFlight
    refine ⟨session', signIns f (by simp) session' ?_, rfl⟩
    rw [haction]
    rfl
  | @beginAuthorizationFromSession _ session action =>
    refine ⟨session, signIns e he session ?_, rfl⟩
    rw [action]
    rfl
  | @completed _ _ session _ completes =>
    exact ⟨session, (authenticated_of_completion completes.attempt).elim (signIns e he session) id, rfl⟩

/-- The identity is that of a session of a sign-in. -/
def Identity.SignedIn (py : Interpreter) (identity : Identity) : Prop :=
  ∃ session, Authenticated py session ∧ identity = session.identity

theorem FromSignIns.of_append {es fs : List Event} (h : FromSignIns py (es ++ fs)) : FromSignIns py es :=
  fun e he => h e (List.mem_append_left fs he)

/-- Tokens are stored for the identities of sign-ins. -/
theorem signedIn_of_mints {pre post : List Event} {e : Event} {service : AuthService} {now : ℕ → ℤ}
    {session : Session} {scope clientId : String} (signIns : FromSignIns py (pre ++ e :: post))
    (refresh : ∀ k r, ((broker py.unicode).after pre).store.refreshTokens.get? k = some r →
      r.session.identity.SignedIn py)
    (h : Mints ((broker py.unicode).after pre) e service now session scope clientId) :
    session.identity.SignedIn py := by
  cases h with
  | exchanged action inFlight =>
    obtain ⟨l, f, rest, record, rfl, burns, -⟩ := exchange_origin inFlight
    obtain ⟨l', f', rest', rfl, service', t, request, session', issues, -, hrecord⟩ := code_origin burns.stored
    have hsplit : (l' ++ f' :: rest' ++ f :: rest) ++ e :: post =
      l' ++ f' :: (rest' ++ f :: rest ++ e :: post) := by simp
    rw [hsplit] at signIns
    obtain ⟨signedIn, hsignedIn, hidentity⟩ := authenticated_of_issues signIns issues
    refine ⟨signedIn, hsignedIn, ?_⟩
    rw [identity_of_open burns.opens, hrecord, ← hidentity]
    exact identity_seal _ _ _
  | rotated rotates =>
    obtain ⟨signedIn, hsignedIn, hidentity⟩ := refresh _ _ rotates.stored
    refine ⟨signedIn, hsignedIn, ?_⟩
    rw [identity_of_open rotates.opens, (Relabels.of_stamp rotates.stamps).identity, hidentity]

theorem signedIn_of_refreshToken {es : List Event} (signIns : FromSignIns py es) {k : String} {r : RefreshToken}
    (h : ((broker py.unicode).after es).store.refreshTokens.get? k = some r) :
    r.session.identity.SignedIn py := by
  refine @refresh_session py.unicode (fun s => s.identity.SignedIn py) (fun _ _ _ h => h) es k r ?_ h
  rintro pre e post rfl service now session scope clientId mints refresh
  rw [identity_tokenRecord]
  exact signedIn_of_mints signIns refresh mints

/-- A request goes on with a session of a user who has signed in. -/
theorem signedIn_of_request {es : List Event} (signIns : FromSignIns py es) {call : ℕ} {r : Request}
    (h : ((broker py.unicode).after es).requests.get? call = some r) : r.session.identity.SignedIn py := by
  obtain ⟨pre, e, post, rfl, token, record, stamped, opened, reads, rfl⟩ := request_origin h
  rw [identity_of_open reads.opens, (Relabels.of_stamp reads.stamps).identity]
  refine @access_session py.unicode (fun s => s.identity.SignedIn py) (fun _ _ _ h => h) pre token record ?_
    reads.stored
  rintro pre' e' post' rfl service now session scope clientId mints
  have hsplit : (pre' ++ e' :: post') ++ e :: post = pre' ++ e' :: (post' ++ e :: post) := by simp
  rw [hsplit] at signIns
  rw [identity_tokenRecord]
  exact signedIn_of_mints signIns (fun k r => signedIn_of_refreshToken signIns.of_append) mints

end Identities

/-! ## What grants are asked for -/

/-- The source of a preview, as a grant has it. -/
def ListedSource.Stores (listed : ListedSource) (source : AssetSource) : Prop :=
  source.kind = listed.kind ∧ source.url.map Json.str = listed.url ∧ source.assetId = listed.assetId ∧
    source.variant = listed.variant ∧ source.mimeType = some listed.mimeType ∧
    source.width = listed.width ∧ source.height = listed.height

/-- The grant that `create_preview_grant` creates for this. -/
structure PreviewRequest.Asks (preview : PreviewRequest) (request : GrantRequest) : Prop where
  pathPrefix : request.pathPrefix = AssetService.previewPath
  source : ∃ listed, preview.source = some listed ∧ listed.Stores request.source
  mimeType : request.mimeType = preview.mimeType
  filename : optionalStr request.filename = preview.filename

/-- The grant that `create_download_grant` creates for this. -/
structure DownloadSource.Asks (d : DownloadSource) (request : GrantRequest) : Prop where
  pathPrefix : request.pathPrefix = AssetService.downloadPath
  source : request.source = d.source
  mimeType : request.mimeType = some d.mimeType
  filename : optionalStr request.filename = d.filename

section Offers

variable (py : Interpreter) (httpx : Httpx)

/-- What the content routes ask grants for with a session: the previews of the assets that are listed,
    and a download. -/
inductive Offered (session : Session) (request : GrantRequest) : Prop
  | fixturePreview (mode : session.upstream.mode = "fixture") (q : AssetQuery) {asset : ListedAsset}
    (listed : asset ∈ (listFixtureAssets py session q).items) (asks : (previewRequest asset).Asks request)
  | livePreview (mode : session.upstream.mode ≠ "fixture") (api : LiveApi) (q : AssetQuery) {page : AssetPage}
    {asset : ListedAsset} (answered : listLiveAssets py api q = .ok page) (listed : asset ∈ page.items)
    (asks : (previewRequest asset).Asks request)
  | download (backend : Backend session) (hops : DownloadHops) {assetId : String} {d : DownloadSource}
    (found : (getDownloadSource py httpx hops backend assetId).result = .ok d) (asks : d.Asks request)

/-- The grants of a run are those that the content routes ask for. -/
def Offers (es : List Event) : Prop :=
  ∀ pre e post call request r, es = pre ++ e :: post → e.action = .createGrant call request →
    ((broker py.unicode).after pre).requests.get? call = some r → Offered py httpx r.session request

variable {py httpx}

/-- What a user is offered of the fixture data. -/
structure Shown (user : FixtureUser) (asset : FixtureAsset) : Prop where
  known : asset ∈ Fixture.assets
  tenant : asset.tenantId = user.tenantId
  unrestricted : asset.restrictedTo = [] ∨ user.id ∈ asset.restrictedTo
  importable : Fixture.isAssetImportable asset = true

theorem shown_of_canUserSeeAsset {user : FixtureUser} {asset : FixtureAsset} (known : asset ∈ Fixture.assets)
    (sees : Fixture.canUserSeeAsset (some user) asset = true)
    (importable : Fixture.isAssetImportable asset = true) : Shown user asset := by
  rw [Fixture.canUserSeeAsset, Option.any_some, Bool.and_eq_true, decide_eq_true_eq, Bool.or_eq_true,
    List.isEmpty_iff, List.contains_iff_mem] at sees
  exact ⟨known, sees.1.symm, sees.2, importable⟩

/-- An asset that is listed for the session of a fixture user. -/
theorem shown_of_listed {session : Session} {user : FixtureUser} {q : AssetQuery} {listed : ListedAsset}
    (huser : Fixture.getUserById session.user.id = some user)
    (h : listed ∈ (listFixtureAssets py session q).items) :
    ∃ asset, Shown user asset ∧ listed = buildFixtureAsset asset := by
  rw [listFixtureAssets] at h
  obtain ⟨asset, hasset, rfl⟩ := List.mem_map.1 h
  obtain ⟨hmem, hsees, himport⟩ := of_mem_visibleFixtureAssets (mem_of_mem_slice hasset)
  rw [huser] at hsees
  exact ⟨asset, shown_of_canUserSeeAsset hmem hsees himport, rfl⟩

theorem kind_of_optionalSource {record : Record} {url : Json} {source : ListedSource}
    (h : optionalSource py record url = .ok (some source)) : source.kind = "proxy" := by
  rw [optionalSource] at h
  split_ifs at h
  · cases hsource : proxySource py record url with
    | error e =>
      rw [hsource] at h
      cases h
    | ok source' =>
      rw [hsource] at h
      cases h
      obtain ⟨mimeType, -, hsource⟩ := exists_ok_of_bind hsource
      obtain ⟨width, -, hsource⟩ := exists_ok_of_bind hsource
      obtain ⟨height, -, hsource⟩ := exists_ok_of_bind hsource
      cases hsource
      rfl
  · cases h

/-- The previews of a live asset are to be fetched. -/
theorem kind_of_built {record : Record} {asset : ListedAsset} (h : buildLiveAsset py record = .ok asset)
    {source : ListedSource} (hsource : (previewRequest asset).source = some source) :
    source.kind = "proxy" := by
  obtain ⟨width, -, h⟩ := exists_ok_of_bind h
  obtain ⟨height, -, h⟩ := exists_ok_of_bind h
  obtain ⟨thumbnailSource, hthumbnail, h⟩ := exists_ok_of_bind h
  obtain ⟨previewSource, hpreview, h⟩ := exists_ok_of_bind h
  obtain ⟨createdAt, -, h⟩ := exists_ok_of_bind h
  obtain ⟨updatedAt, -, h⟩ := exists_ok_of_bind h
  cases h
  replace hsource : (previewSource <|> thumbnailSource) = some source := hsource
  cases previewSource with
  | none =>
    obtain rfl : thumbnailSource = some source := hsource
    exact kind_of_optionalSource hthumbnail
  | some preview =>
    obtain rfl : preview = source := Option.some.inj hsource
    exact kind_of_optionalSource hpreview

/-- The sources of the assets of a live page are to be fetched. -/
theorem kind_of_livePreview {api : LiveApi} {q : AssetQuery} {page : AssetPage} {asset : ListedAsset}
    (answered : listLiveAssets py api q = .ok page) (listed : asset ∈ page.items) {source : ListedSource}
    (hsource : (previewRequest asset).source = some source) : source.kind = "proxy" := by
  obtain ⟨listing, -, h⟩ := exists_ok_of_bind answered
  obtain ⟨_, -, h⟩ := exists_ok_of_bind h
  obtain ⟨⟨total, records⟩, -, h⟩ := exists_ok_of_bind h
  dsimp only at h
  split_ifs at h with hempty
  · cases h
    cases listed
  · obtain ⟨previews, -, h⟩ := exists_ok_of_bind h
    obtain ⟨_, -, h⟩ := exists_ok_of_bind h
    obtain ⟨shown, hshown, h⟩ := exists_ok_of_bind h
    cases h
    obtain ⟨ref, -, href⟩ := List.mem_filterMap.1 listed
    have hasset : asset ∈ shown := by
      have hget := Dict.get?_foldl_set ListedAsset.id (fun asset => asset) shown ∅ ref
      rw [← byId, href, Dict.get?_empty, Option.or_none, Option.map_id'] at hget
      exact List.mem_reverse.1 (List.mem_of_find?_eq_some hget.symm)
    obtain ⟨⟨total', rows⟩, -, hshown⟩ := exists_ok_of_bind hshown
    obtain ⟨built, hbuilt, hshown⟩ := exists_ok_of_bind hshown
    cases hshown
    obtain ⟨record, -, hrecord⟩ := exists_of_forall₂ (mapM_ok_iff.1 hbuilt) (List.mem_of_mem_filter hasset)
    exact kind_of_built hrecord hsource

theorem kind_of_liveDownload {session : LiveSession} {hops : DownloadHops} {assetId : String} {d : DownloadSource}
    (h : (getLiveDownloadSource py httpx session hops assetId).result = .ok d) : d.source.kind = "proxy" := by
  rw [getLiveDownloadSource] at h
  obtain ⟨resource, -, h⟩ := Traced.result_bind_eq_ok.1 h
  split_ifs at h
  obtain ⟨record, -, h⟩ := Traced.result_bind_eq_ok.1 h
  obtain ⟨mimeType, -, h⟩ := Traced.result_bind_eq_ok.1 h
  split_ifs at h
  obtain ⟨originalUrl, -, h⟩ := Traced.result_bind_eq_ok.1 h
  split_ifs at h
  cases h
  rfl

/-- A session of a fixture user is offered what the user is shown. -/
theorem shown_of_offered {session : Session} {request : GrantRequest} (h : Offered py httpx session request)
    (mode : session.upstream.mode = "fixture") {user : FixtureUser}
    (huser : Fixture.getUserById session.user.id = some user) :
    request.source.kind = "fixture" ∧ ∃ asset, Shown user asset ∧ request.source.assetId = some asset.id := by
  cases h with
  | fixturePreview _ q listed asks =>
    obtain ⟨asset, hshown, rfl⟩ := shown_of_listed huser listed
    obtain ⟨source, hsource, hkind, -, hasset, -⟩ := asks.source
    cases hsource
    exact ⟨hkind, asset, hshown, hasset⟩
  | livePreview live => exact absurd mode live
  | download backend hops found asks =>
    cases backend with
    | fixture _ =>
      obtain ⟨asset, hmem, rfl, -, hsees, himport, rfl⟩ := getFixtureDownloadSource_iff.1 found
      rw [huser] at hsees
      rw [asks.source]
      exact ⟨rfl, asset, shown_of_canUserSeeAsset hmem hsees himport, rfl⟩
    | live live => exact absurd mode live

/-- A session of a live tenant is offered what is to be fetched. -/
theorem kind_of_offered {session : Session} {request : GrantRequest} (h : Offered py httpx session request)
    (mode : session.upstream.mode ≠ "fixture") : request.source.kind = "proxy" := by
  cases h with
  | fixturePreview fixture => exact absurd fixture mode
  | livePreview _ api q answered listed asks =>
    obtain ⟨source, hsource, hkind, -⟩ := asks.source
    exact hkind.trans (kind_of_livePreview answered listed hsource)
  | download backend hops found asks =>
    rw [asks.source]
    cases backend with
    | fixture fixture => exact absurd fixture mode
    | live _ live _ => exact kind_of_liveDownload found

end Offers

/-! ## Isolation -/

/-- The grant is stored under the id for a request with the session. -/
def GrantedTo (unicode : Unicode) (es : List Event) (grantId : String) (grant : AssetGrant)
    (session : Session) : Prop :=
  ∃ pre e post r request, es = pre ++ e :: post ∧ Grants ((broker unicode).after pre) e grantId r request grant ∧
    r.session = session

section Isolated

variable {py : Interpreter} {httpx : Httpx} {network : AssetNetwork} {config : AssetProxyConfig}
  {service : AssetService} {grantId expires signature : Option String}

/-- Whatever is served under the URL of a grant belongs to the user that the grant was created for. To
    a fixture user it is the drawing of an asset of the tenant that the user signed in to, which is not
    restricted to others. Only for the session of a live tenant it is fetched, as `Serves` has it. -/
theorem assets_isolated {es : List Event} {clock : Clock} {response : AssetResponse} {body : List UInt8}
    (signIns : FromSignIns py es) (offers : Offers py httpx es)
    (h : serveAsset py.unicode network config service clock.now grantId expires signature
      ((broker py.unicode).after es).store = .ok response) (hbody : response.content = .bytes body) :
    ∃ grant session, GrantedTo py.unicode es (grantId.getD "") grant session ∧
      session.isFor grant.userId grant.tenantId ∧ Serves py.unicode network config grant body ∧
      (session.upstream.mode = "fixture" → ∃ user asset accent doc,
        Fixture.getUserById grant.userId = some user ∧ user.tenantId = grant.tenantId ∧ Shown user asset ∧
        Fixture.accents.lookup asset.id = some accent ∧
        renderFixtureSvg asset accent (grant.source.variant.getD "preview") = .ok doc ∧
        body = Url.utf8 doc) ∧
      (session.upstream.mode ≠ "fixture" → grant.source.kind = "proxy") := by
  rcases serveAsset_cases h with ⟨grant, haccepted, hdelivers⟩ | ⟨-, -, code, message, hcontent⟩
  · obtain ⟨hstored, hlive, -⟩ := accepted_of_serveGrant haccepted
    have hpos := clock.pos 1
    obtain ⟨pre, e, post, r, request, rfl, hgrants, -⟩ := granted_of_stored hstored (by omega)
    obtain ⟨body', hcontent, hserves⟩ := hdelivers.serves
    obtain rfl : body' = body := AssetContent.bytes.inj (hcontent.symm.trans hbody)
    obtain ⟨call, haction, hinFlight⟩ := hgrants.action
    have hoffered := offers pre e post call request r rfl haction hinFlight
    have hgrant := hgrants.grant
    have hsource : grant.source = request.source := by rw [hgrant]; rfl
    have hfor : r.session.isFor grant.userId grant.tenantId := by rw [hgrant]; exact ⟨rfl, rfl⟩
    refine ⟨grant, r.session, ⟨pre, e, post, r, request, rfl, hgrants, rfl⟩, hfor, hserves, fun mode => ?_,
      fun mode => hsource ▸ kind_of_offered hoffered mode⟩
    -- The session of the request has the identity of one that has been signed in.
    obtain ⟨signedIn, hsignedIn, hidentity⟩ := signedIn_of_request signIns.of_append hinFlight
    have hmode : signedIn.upstream.mode = "fixture" := by
      rw [← mode]
      exact (congrArg Identity.mode hidentity).symm
    obtain ⟨user, huser, htenant⟩ := hidentity ▸ homed_of_authenticated hsignedIn hmode
    obtain ⟨hkind, asset, hshown, hasset⟩ := shown_of_offered hoffered mode huser
    cases hserves with
    | @drawn asset' accent doc _ hid hknown hcolour hdrawing =>
      have hsame : asset' = asset := Option.some.inj ((Fixture.getAssetById_of_mem asset' hknown).symm.trans
        ((Option.some.inj ((hsource ▸ hid).symm.trans hasset)) ▸ Fixture.getAssetById_of_mem asset hshown.known))
      exact ⟨user, asset, accent, doc, hfor.1 ▸ huser, htenant.trans hfor.2, hshown, hsame ▸ hcolour,
        hsame ▸ hdrawing, rfl⟩
    | fetched hfetched => exact absurd (hsource ▸ hkind) hfetched
  · rw [hcontent] at hbody
    cases hbody

end Isolated

namespace Sample

/-- A deployment with the fixture data. -/
def fixtureConfig : AppConfig := { config with resourceSpace := { config.resourceSpace with mode := "fixture" } }

theorem fixtureRun_signIns : FromSignIns plainInterpreter fixtureRun := by
  intro e he session hsession
  obtain ⟨⟨draw, t, action⟩, hstep, rfl⟩ := List.mem_map.1 he
  have hauthenticated : (authenticateFixtureTenant Unicode.ascii "2026-01-01T00:00:00Z"
      (some "https://globex.demo.resourcespace.local") "Clara" "clara-password").toOption = some clara := by
    decide +kernel
  replace hsession : action.session? = some session := hsession
  have hsteps : fixtureSteps.map (fun s => s.2.2.session?) = [some clara, none, none, none, none] := rfl
  have hmem : some session ∈ fixtureSteps.map (fun s => s.2.2.session?) :=
    List.mem_map.2 ⟨_, hstep, hsession⟩
  rw [hsteps] at hmem
  simp only [List.mem_cons, List.not_mem_nil, or_false, reduceCtorEq, Option.some.injEq] at hmem
  obtain rfl := hmem
  cases hresult : authenticateFixtureTenant Unicode.ascii "2026-01-01T00:00:00Z"
      (some "https://globex.demo.resourcespace.local") "Clara" "clara-password" with
  | error e =>
    rw [hresult] at hauthenticated
    cases hauthenticated
  | ok session =>
    rw [hresult] at hauthenticated
    cases hauthenticated
    exact .password plainHttpx resolver fixtureConfig loginHop _ _ _ _ none hresult

theorem fixtureRequest_offered : Offered plainInterpreter plainHttpx claraRequest.session fixtureRequest := by
  have hlisted : buildFixtureAsset globexProduct ∈ (listFixtureAssets plainInterpreter claraRequest.session
      ⟨"", none, 0, 50, "updated_desc"⟩).items := by
    refine List.mem_map.2 ⟨globexProduct, ?_, rfl⟩
    have hlength : (visibleFixtureAssets plainInterpreter claraRequest.session "" none "updated_desc").length ≤ 50 :=
      (@length_fixtureListing plainInterpreter ⟨none, "", "updated_desc", []⟩ claraRequest.session).trans
        (by decide)
    have hwindow := slice_window (visibleFixtureAssets plainInterpreter claraRequest.session "" none
      "updated_desc") 0 50
    rw [List.drop_zero, List.take_of_length_le hlength] at hwindow
    change globexProduct ∈ slice _ _ _
    refine (congrArg (globexProduct ∈ ·) hwindow).mpr ?_
    exact mem_visibleFixtureAssets_of_sees globexProduct_mem (by decide +kernel) (by decide)
  exact .fixturePreview rfl _ hlisted ⟨rfl, ⟨_, rfl, rfl, rfl, rfl, rfl, rfl, rfl, rfl⟩, rfl, rfl⟩

theorem fixtureRun_offers : Offers plainInterpreter plainHttpx fixtureRun := by
  intro pre e post call request r hsplit haction hinFlight
  have hrun : fixtureRun = fixtureRun.take 4 ++ fixtureRun[4] :: [] := rfl
  rcases Machine.position_cases (hsplit.symm.trans hrun) with ⟨rfl, rfl, -⟩ | ⟨mid, hmid, -⟩ | ⟨mid, -, hmid⟩
  · cases haction
    obtain rfl : claraRequest = r := Option.some.inj (fixtureRun_inFlight.symm.trans hinFlight)
    exact fixtureRequest_offered
  · have he : e ∈ run service (fixtureSteps.take 4) := by
      have htake : run service (fixtureSteps.take 4) = fixtureRun.take 4 := rfl
      rw [htake, hmid]
      exact List.mem_append_right _ List.mem_cons_self
    obtain ⟨⟨draw, t, action⟩, hstep, rfl⟩ := List.mem_map.1 he
    obtain rfl : action = .createGrant call request := haction
    have hsteps : (fixtureSteps.take 4).map (fun s => s.2.2 matches .createGrant _ _) =
      [false, false, false, false] := rfl
    have hmem : true ∈ (fixtureSteps.take 4).map (fun s => s.2.2 matches .createGrant _ _) :=
      List.mem_map.2 ⟨_, hstep, rfl⟩
    rw [hsteps] at hmem
    exact absurd hmem (by decide)
  · exact absurd (congrArg List.length hmid) (by simp)

end Sample

theorem assets_isolated_clara :
    ∃ response body grant session, serveAsset Unicode.ascii Sample.noNetwork Sample.assetProxy ⟨Sample.config⟩
        (fun _ => 5000) (some "grant_e") (some "304000") (some Sample.signedGrant.signature)
        ((broker Unicode.ascii).after Sample.fixtureRun).store = .ok response ∧
      response.content = .bytes body ∧ GrantedTo Unicode.ascii Sample.fixtureRun "grant_e" grant session ∧
      session.isFor grant.userId grant.tenantId := by
  obtain ⟨response, hstatus, hserved⟩ := Sample.fixtureRun_served
  rcases serveAsset_cases hserved with ⟨_, -, hdelivers⟩ | ⟨hrefused, -⟩
  · obtain ⟨body, hbody, -⟩ := hdelivers.serves
    obtain ⟨grant, session, hgranted, hfor, -⟩ := @assets_isolated Sample.plainInterpreter Sample.plainHttpx
      _ _ _ _ _ _ _ (Sample.verification Sample.signedGrant.signature).clock _ _ Sample.fixtureRun_signIns
      Sample.fixtureRun_offers hserved hbody
    exact ⟨response, body, grant, session, hserved, hbody, hgranted, hfor⟩
  · rw [hstatus] at hrefused
    exact absurd hrefused (by decide)

end Broker
