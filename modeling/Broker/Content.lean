import Broker.AccessTokens
import Broker.Finder
import Broker.Routes
import Broker.Serving
import Broker.Sources

/-!
# Content routes

The routes that a client uses with a bearer token (`routes/content.py`): to upload an export
(`contentResourcesUpload`), to download an asset (`contentResourcesDownloadUrl`), and to find
resources (`contentResourcesFind`).

Whatever these routes do, they do for a token that a user has signed in for, with the scope that the
route requires, as long as the token lives (`content_authorised`). What they send goes to public
addresses of the tenant that the user signed in to, or of the hosts of exports.
-/

namespace Broker

open Py Runs

/-! ## Requests -/

/-- `read_bearer_token`. -/
def readBearerToken (authorization : Option String) : Option String :=
  let header := (authorization.getD "").toList
  if startsWith header "Bearer ".toList then some (String.ofList (header.drop "Bearer ".toList.length))
  else none

/-- The record that is read for a token, and what its session is used with. -/
structure ReadToken where
  record : AccessToken
  backend : Backend record.session

/-- What the content routes find of a request before its body. -/
structure ContentRequest where
  rate : RateLimitResult
  /-- The `Authorization` header. -/
  authorization : Option String
  /-- `read_access_token`. -/
  read : String → Except PyError (Option ReadToken)

inductive ContentResponse (α : Type)
  /-- The error body `json_error`. -/
  | error (statusCode : ℤ) (code message : String) (retryAfter : Option ℤ)
  /-- The error body that Canva reads. -/
  | failed (statusCode : ℤ) (errorCode : String)
  | success (body : α)
  deriving DecidableEq, Repr

/-- What a content route does: it sends a request, or has a grant created for a download. -/
inductive ContentEffect
  | send (effect : Effect)
  | createGrant (source : DownloadSource)

/-- The answer to a request that is refused by the rate limiter. -/
def rateLimited {α : Type} (rate : RateLimitResult) : ContentResponse α :=
  .error 429 "RATE_LIMITED" "Too many requests." (some (max 1 (rate.retryAfterMs / 1000)))

/-- The checks of the bearer token, for a scope: an answer, or the token. -/
def ContentRequest.requireScope {α : Type} (request : ContentRequest) (required : String) :
    Except PyError (ContentResponse α ⊕ ReadToken) :=
  let token := readBearerToken request.authorization
  if !truthyStr token then
    .ok (.inl (.error 401 "MISSING_BEARER_TOKEN" "Missing bearer token." none))
  else do
    match ← request.read (token.getD "") with
    | none => return .inl (.error 401 "SESSION_EXPIRED" "Access token is invalid or expired." none)
    | some read =>
      if !tokenHasScope read.record required then
        return .inl (.error 403 "INSUFFICIENT_SCOPE" ("Token is missing the " ++ required ++ " scope.") none)
      else return .inr read

/-! ## Uploads -/

/-- What an upload is asked for by a body. -/
structure UploadArguments where
  sourceUrl : String
  containerId : String
  title : Option String
  deriving DecidableEq, Repr

/-- The JSON of a body, none if it is not valid. -/
def loadBody (depth : ℕ) (rawBody : String) : Except PyError (Option Json) :=
  if rawBody = "" then .ok (some (.dict []))
  else
    match Json.loads depth rawBody.toList with
    | .ok value => .ok (some value)
    | .error .recursion => .error .recursionError
    | .error _ => .ok none

/-- `value.startswith(("http://", "https://"))`. -/
def isWebUrl (value : String) : Bool :=
  startsWith value.toList "http://".toList || startsWith value.toList "https://".toList

/-- The checks of the fields of a body. -/
def uploadArguments (body : Record) : ContentResponse String ⊕ UploadArguments :=
  let sourceUrl := jsonStr (body.field "url")
  let containerId := jsonStr (body.field "containerId")
  let title := (body.field "title").orElse (body.field "designTitle")
  if !sourceUrl.any isWebUrl then .inl (.error 400 "INVALID_REQUEST" "A valid `url` is required." none)
  else if !truthyStr containerId then
    .inl (.error 400 "INVALID_REQUEST" "A valid `containerId` is required." none)
  else .inr ⟨sourceUrl.getD "", containerId.getD "", jsonStr title⟩

/-- `_map_upload_error`. -/
def mapUploadError (error : ResourceSpaceError) : ℤ × String :=
  if error.code = "UPSTREAM_SESSION_EXPIRED" then (401, "CONFIGURATION_REQUIRED")
  else if ["FORBIDDEN", "UNKNOWN_TENANT"].contains error.code then (403, "FORBIDDEN")
  else if error.code = "NOT_FOUND" then (404, "NOT_FOUND")
  else if ["INVALID_TENANT_URL", "INVALID_REQUEST"].contains error.code then (400, "INVALID_REQUEST")
  else if error.code = "UPSTREAM_UNAVAILABLE" then (502, "TIMEOUT")
  else (502, "INTERNAL_ERROR")

section Routes

variable (py : Interpreter) (imaging : Imaging) (httpx : Httpx) (config : UploadConfig)

/-- `upload_resource`. -/
def uploadResource (hops : UploadHops) {session : Session} (backend : Backend session)
    (arguments : UploadArguments) : Traced Effect PyError String :=
  let collectionRef := decodeCollectionContainerId (some arguments.containerId)
  if !truthyStr collectionRef then
    throw (refusal "INVALID_REQUEST" "Unsupported container id for upload." 400)
  else
    match backend with
    | .fixture _ => throw (refusal "FORBIDDEN" "Uploads are not available against fixture tenants." 403)
    | .live _ live _ =>
      (uploadLiveResource py imaging httpx config live hops
        ⟨Text.ofString (collectionRef.getD ""), arguments.sourceUrl,
          arguments.title.map Text.ofString⟩).mapError UploadError.error

/-- The answer to an upload, from what it returns or raises. -/
def answerUpload : Except PyError String → ContentResponse String
  | .ok id => .success id
  | .error error =>
    let (statusCode, errorCode) := mapUploadError (mapError error)
    .failed statusCode errorCode

/-- `content_resources_upload`, of a body that is none if it is not UTF-8. -/
def contentResourcesUpload (hops : UploadHops) (request : ContentRequest) (rawBody : Option String) :
    Traced ContentEffect PyError (ContentResponse String) :=
  if !request.rate.allowed then return rateLimited request.rate
  else
    match rawBody with
    | none => throw .unicodeError
    | some rawBody => do
      match ← Traced.lift (request.requireScope "dam:write") with
      | .inl response => return response
      | .inr token =>
        match ← Traced.lift (loadBody py.depth rawBody) with
        | none => return .error 400 "INVALID_REQUEST" "Request body was not valid JSON." none
        | some body =>
          match uploadArguments (← Traced.lift (recordOf body)) with
          | .inl response => return response
          | .inr arguments =>
            let result ← ((uploadResource py imaging httpx config hops token.backend arguments).mapEvents
              .send).attempt
            return answerUpload result

/-! ## Downloads -/

/-- The body of an answer to a download. -/
structure DownloadUrl where
  url : String
  expiresAt : String
  mimeType : String
  deriving DecidableEq, Repr

/-- The answer to an error of a download. -/
def downloadFailed {α : Type} (error : PyError) : ContentResponse α :=
  let mapped := mapError error
  .error (if mapped.statusCode = 0 then 500 else mapped.statusCode) mapped.code mapped.message none

/-- `content_resources_download_url`, with what `create_download_grant` returns. -/
def contentResourcesDownloadUrl (hops : DownloadHops)
    (createDownloadGrant : Session → DownloadSource → Except PyError GrantResponse)
    (request : ContentRequest) (assetId : String) :
    Traced ContentEffect PyError (ContentResponse DownloadUrl) :=
  if !request.rate.allowed then return rateLimited request.rate
  else do
    match ← Traced.lift (request.requireScope "dam:read") with
    | .inl response => return response
    | .inr token =>
      match ← ((getDownloadSource py httpx hops token.backend assetId).mapEvents
        fun sent => .send (.request sent)).attempt with
      | .error error => return downloadFailed error
      | .ok download =>
        Traced.emit (.createGrant download)
        let grant ← Traced.lift (createDownloadGrant token.record.session download)
        return .success ⟨grant.url, grant.expiresAt, download.mimeType⟩

end Routes

/-! ## What is sent -/

/-- The request is one of the session: to the API of its tenant, in a URL that is signed with its key,
    at addresses that are not blocked. -/
structure ApiRequest.SentWith (httpx : Httpx) (live : LiveSession) (sent : ApiRequest) : Prop where
  headers : sent.headers = resourcespaceRequestHeaders (brokerIntegrationFromSession live.session)
  attempts : IsPinnedTo httpx (buildSignedApiUrl live.apiUrl live.session.user.username live.sessionKey
    sent.params) sent.attempts

section Sent

variable {py : Interpreter} {imaging : Imaging} {httpx : Httpx} {config : UploadConfig} {live : LiveSession}

theorem emits_sendRequest (hop : ApiHop) (params : ApiParams) (file : Option NamedFile) :
    (sendRequest py httpx live hop params file).Emits (·.SentWith httpx live) := by
  refine .bind (.lift _) fun pinned hpinned => ?_
  refine .bind (.emit ⟨rfl, isPinnedTo_of_pinRequest hpinned hop.reply⟩) fun _ _ => ?_
  cases (firstReachable hop.reply pinned.urls).2 with
  | none => exact .throw _
  | some response => exact .pure response

theorem emits_callLiveApi (hop : ApiHop) (params : ApiParams) :
    (callLiveApi py httpx live hop params).Emits (·.SentWith httpx live) :=
  .bind (emits_sendRequest hop params none) fun _ _ => .lift _

theorem emits_postMultipartLiveApi (hop : ApiHop) (params : ApiParams) (file : NamedFile) :
    (postMultipartLiveApi py httpx live hop params file).Emits (·.SentWith httpx live) :=
  .bind (emits_sendRequest hop params (some file)) fun _ _ => .lift _

theorem emits_getLiveDownloadSource (hops : DownloadHops) (assetId : String) :
    (getLiveDownloadSource py httpx live hops assetId).Emits (·.SentWith httpx live) := by
  refine .bind (emits_callLiveApi _ _) fun resource _ => ?_
  split_ifs
  · exact .throw _
  · refine .bind (.lift _) fun record _ => .bind (.lift _) fun mimeType _ => ?_
    split_ifs
    · exact .throw _
    · refine .bind (emits_callLiveApi _ _) fun originalUrl _ => ?_
      split_ifs
      · exact .throw _
      · exact .pure _

/-- What an upload sends with a session: requests to the API, and such for the export that are safe. -/
def Effect.SentWith (unicode : Unicode) (httpx : Httpx) (config : UploadConfig) (live : LiveSession) :
    Effect → Prop
  | .request sent => sent.SentWith httpx live
  | .fetch fetched => ∃ hop, SafeFetch unicode httpx config hop fetched

theorem emits_apiStep {α : Type} {x : Traced ApiRequest PyError α} (h : x.Emits (·.SentWith httpx live)) :
    (apiStep x).Emits (·.SentWith py.unicode httpx config live) := by
  have hmapped : (x.mapEvents Effect.request).Emits (·.SentWith py.unicode httpx config live) := .mapEvents h
  exact hmapped.mapError _

theorem emits_downloadStep (agree : HostsAgree py.unicode httpx) (hops : UploadHops) (sourceUrl : String) :
    (downloadStep py httpx config hops sourceUrl).Emits (·.SentWith py.unicode httpx config live) := by
  have hrun := @safeRun_downloadLoop py.unicode httpx config agree hops.download 5 0 sourceUrl
  have hmapped : ((downloadBytes py.unicode httpx config hops.download sourceUrl).mapEvents
      Effect.fetch).Emits (·.SentWith py.unicode httpx config live) := by
    refine .mapEvents fun fetched hfetched => ?_
    obtain ⟨k, hk⟩ := List.mem_iff_getElem?.1 hfetched
    exact ⟨_, hrun.safe k fetched hk⟩
  exact hmapped.mapError _

theorem emits_createResource (hops : UploadHops) :
    (createResource py imaging httpx live hops).Emits (·.SentWith httpx live) := by
  refine .bind (emits_callLiveApi _ _) fun newRef _ => ?_
  split_ifs
  · exact .pure _
  · exact .throw _

theorem emits_uploadFile (hops : UploadHops) (ref : String) (file : NamedFile) :
    (uploadFile py imaging httpx live hops ref file).Emits (·.SentWith httpx live) := by
  refine .bind (emits_postMultipartLiveApi _ _ _) fun result _ => ?_
  split_ifs
  · exact .throw _
  · exact .pure _

theorem emits_uploadPreview (hops : UploadHops) (ref : String) (file : NamedFile) :
    (uploadPreview py imaging httpx config live hops ref file).Emits (·.SentWith httpx live) := by
  rw [uploadPreview]
  cases imaging.buildJpegPreview file.bytes config.maxImagePixels with
  | none => exact .pure ()
  | some bytes =>
    cases bytes with
    | nil => exact .pure ()
    | cons byte bytes =>
      refine .tryCatch (.bind (emits_postMultipartLiveApi _ _ _) fun _ _ => .pure ()) fun error => ?_
      cases error with
      | resourceSpaceError _ => exact .pure ()
      | _ => exact .throw _

theorem emits_updateTitle (hops : UploadHops) (ref : String) (title : Option Text) :
    (updateTitle py httpx live hops ref title).Emits (·.SentWith httpx live) := by
  rw [updateTitle.eq_def]
  split
  · exact .pure ()
  · exact .pure ()
  · exact .bind (.lift _) fun _ _ => .bind (emits_callLiveApi _ _) fun _ _ => .pure ()

theorem emits_linkResource (hops : UploadHops) (ref : String) (collectionRef : Text) :
    (linkResource py httpx live hops ref collectionRef).Emits (·.SentWith httpx live) := by
  refine .bind (.lift _) fun _ _ => .bind (emits_callLiveApi _ _) fun result _ => ?_
  split_ifs
  · exact .throw _
  · exact .pure _

/-- Whatever an upload sends is sent with its session. -/
theorem emits_uploadLiveResource (agree : HostsAgree py.unicode httpx) (hops : UploadHops)
    (request : UploadRequest) :
    (uploadLiveResource py imaging httpx config live hops request).Emits
      (·.SentWith py.unicode httpx config live) := by
  refine .bind (emits_apiStep (emits_createResource hops)) fun ref _ => ?_
  refine .bind (emits_downloadStep agree hops _) fun file _ => ?_
  refine .bind (emits_apiStep (emits_uploadFile hops ref file)) fun _ _ => ?_
  refine .bind (emits_apiStep (emits_uploadPreview hops ref file)) fun _ _ => ?_
  refine .bind (emits_apiStep (emits_updateTitle hops ref _)) fun _ _ => ?_
  exact .bind (emits_apiStep (emits_linkResource hops ref _)) fun _ _ => .pure ref

end Sent

/-! ## What the routes do -/

/-- The request is let through, for the scope: with the token, and with what is read for it. -/
structure ContentRequest.Admits (request : ContentRequest) (required token : String) (read : ReadToken) :
    Prop where
  rate : request.rate.allowed = true
  bearer : readBearerToken request.authorization = some token
  found : request.read token = .ok (some read)
  scope : tokenHasScope read.record required = true

theorem ContentRequest.admits_of_requireScope {α : Type} {request : ContentRequest} {required : String}
    {read : ReadToken} (rate : request.rate.allowed = true)
    (h : (request.requireScope required : Except PyError (ContentResponse α ⊕ ReadToken)) = .ok (.inr read)) :
    ∃ token, request.Admits required token read := by
  rw [requireScope] at h
  cases hbearer : readBearerToken request.authorization with
  | none =>
    rw [hbearer] at h
    cases h
  | some token =>
    rw [hbearer] at h
    split_ifs at h
    · cases h
    cases hread : request.read token with
    | error error =>
      rw [Option.getD_some, hread] at h
      cases h
    | ok found =>
      rw [Option.getD_some, hread] at h
      cases found with
      | none => cases h
      | some found =>
        dsimp only [bind, Except.bind] at h
        split_ifs at h with hscope
        · cases h
        cases h
        exact ⟨token, rate, hbearer, hread, by simpa using hscope⟩

section Done

variable (py : Interpreter) (httpx : Httpx) (config : UploadConfig)

/-- What a content route may do with a session: to send requests with it, or to have a grant created for
    an asset that it finds. -/
inductive ContentEffect.DoneFor (session : Session) : ContentEffect → Prop
  | send {effect : Effect} (live : LiveSession) (same : live.session = session)
    (mode : session.upstream.mode ≠ "fixture") (sent : effect.SentWith py.unicode httpx config live) :
    DoneFor session (.send effect)
  | createGrant {download : DownloadSource} (backend : Backend session) (hops : DownloadHops)
    (assetId : String) (found : (getDownloadSource py httpx hops backend assetId).result = .ok download) :
    DoneFor session (.createGrant download)

/-- What a content route does is done for the session of a request that it lets through. -/
def ContentEffect.Admitted (request : ContentRequest) (required : String) (effect : ContentEffect) : Prop :=
  ∃ token read, request.Admits required token read ∧
    effect.DoneFor py httpx config read.record.session

variable {py httpx config} {imaging : Imaging}

theorem emits_uploadResource (agree : HostsAgree py.unicode httpx) (hops : UploadHops) {session : Session}
    (backend : Backend session) (arguments : UploadArguments) :
    ((uploadResource py imaging httpx config hops backend arguments).mapEvents ContentEffect.send).Emits
      (·.DoneFor py httpx config session) := by
  rw [uploadResource.eq_def]
  dsimp only
  split_ifs
  · exact .mapEvents (.throw _)
  · cases backend with
    | fixture _ => exact .mapEvents (.throw _)
    | live mode live same =>
      exact .mapEvents (.mapError ((emits_uploadLiveResource agree hops _).mono
        fun _ sent => .send live same mode sent) _)

theorem contentResourcesUpload_emits (agree : HostsAgree py.unicode httpx) (hops : UploadHops)
    (request : ContentRequest) (rawBody : Option String) :
    (contentResourcesUpload py imaging httpx config hops request rawBody).Emits
      (·.Admitted py httpx config request "dam:write") := by
  rw [contentResourcesUpload.eq_def]
  split_ifs with hrate
  · exact .pure _
  · cases rawBody with
    | none => exact .throw _
    | some rawBody =>
      refine .bind (.lift _) fun checked hchecked => ?_
      cases checked with
      | inl response => exact .pure response
      | inr read =>
        obtain ⟨token, hadmits⟩ := ContentRequest.admits_of_requireScope (by simpa using hrate) hchecked
        refine .bind (.lift _) fun body _ => ?_
        cases body with
        | none => exact .pure _
        | some body =>
          refine .bind (.lift _) fun record _ => ?_
          cases uploadArguments record with
          | inl response => exact .pure response
          | inr arguments =>
            refine .bind (.attempt ((emits_uploadResource agree hops read.backend arguments).mono ?_))
              fun _ _ => .pure _
            exact fun effect hdone => ⟨token, read, hadmits, hdone⟩

theorem emits_getDownloadSource {session : Session} (backend : Backend session) (hops : DownloadHops)
    (assetId : String) :
    (getDownloadSource py httpx hops backend assetId).Emits
      fun sent => (ContentEffect.send (.request sent)).DoneFor py httpx config session := by
  rw [getDownloadSource.eq_def]
  cases backend with
  | fixture _ => exact .lift _
  | live mode live same =>
    exact (emits_getLiveDownloadSource hops assetId).mono fun _ sent => .send live same mode sent

theorem contentResourcesDownloadUrl_emits (hops : DownloadHops)
    (createDownloadGrant : Session → DownloadSource → Except PyError GrantResponse)
    (request : ContentRequest) (assetId : String) :
    (contentResourcesDownloadUrl py httpx hops createDownloadGrant request assetId).Emits
      (·.Admitted py httpx config request "dam:read") := by
  rw [contentResourcesDownloadUrl]
  split_ifs with hrate
  · exact .pure _
  · refine .bind (.lift _) fun checked hchecked => ?_
    cases checked with
    | inl response => exact .pure response
    | inr read =>
      obtain ⟨token, hadmits⟩ := ContentRequest.admits_of_requireScope (by simpa using hrate) hchecked
      refine .bind (.attempt (.mapEvents fun sent hsent => ⟨token, read, hadmits, ?_⟩)) fun found hfound => ?_
      · exact emits_getDownloadSource read.backend hops assetId sent hsent
      · cases found with
        | error error => exact .pure _
        | ok download =>
          refine .bind (.emit ⟨token, read, hadmits, .createGrant read.backend hops assetId ?_⟩) fun _ _ =>
            .bind (.lift _) fun _ _ => .pure _
          exact Except.ok.inj hfound

end Done

/-! ## Runs -/

section Runs

variable (unicode : Unicode)

/-- The event after the run reads the token that the request bears, and what it answers is what is read. -/
def ContentRequest.ReadsAfter (request : ContentRequest) (es : List Event) (e : Event) : Prop :=
  ∀ token, readBearerToken request.authorization = some token →
    (∃ call, e.action = .readAccessToken call token) ∧
    (request.read token).map (Option.map ReadToken.record) =
      ((broker unicode).out ((broker unicode).after es) e).map Answer.record?

/-- A user has signed in for the session in the run, and has been granted the scope. The token is one of the
    pairs that were minted for it, and lives at the time: it has not expired, and neither it nor the tokens
    of the user have been revoked since. -/
def Authorised (es : List Event) (now : ℤ) (required token : String) (session : Session) : Prop :=
  ∃ b f rest service t request signIn, es = b ++ f :: rest ∧
    Issues unicode ((broker unicode).after b) f service t request signIn ∧
    required.toList ∈ request.scope.toList.splitOnP isSpace ∧ session.identity = signIn.identity ∧
    ∃ pre e mid r₀, es = pre ++ e :: mid ∧
      MintedFor unicode es (randomToken "code" (f.rand.token 0)) pre e ∧
      MintsAccess ((broker unicode).after pre) e token r₀ ∧ now < r₀.expiresAt ∧
      ∀ g ∈ mid, ¬RevokesAccess g token r₀.session

variable {unicode} {es : List Event} {e : Event}

theorem authorised_of_reads (fresh : Fresh es) {token required : String} {record : AccessToken}
    {stamped : TokenRecord} {opened : Session}
    (h : Reads ((broker unicode).after es) e token record stamped opened)
    (scope : tokenHasScope (openedRecord record stamped opened) required = true) :
    Authorised unicode es (e.now 0) required token opened := by
  have hfound := h.found
  rw [AuthService.get?_accessTokens_prune, Option.filter_eq_some_iff] at hfound
  obtain ⟨hstored, hpruned⟩ := hfound
  simp only [AccessToken.pruned, Bool.not_or, Bool.and_eq_true, Bool.not_eq_true',
    decide_eq_false_iff_not, not_le] at hpruned
  obtain ⟨pre, m, mid, rfl, r₀, mints, hlike, hexpires⟩ := access_origin hstored
  have hkey := revoked_for_good fresh mints hstored
  have huser := unmarked_of_user fresh mints hstored hpruned.2
  obtain ⟨service, now, session, tokenScope, clientId, hmints, hr₀⟩ := mints.minted
  obtain ⟨b, f, rest, hsign, ⟨service', t, request, signIn, issues⟩, hminted⟩ :=
    exists_mintedFor pre.length rfl rfl hmints
  -- The pairs of a code carry what it was issued for.
  obtain ⟨-, hscope, hidentity⟩ := mintedFor_mints fresh hsign issues rfl hminted _ _ _ _ _ hmints
  have hstamped := Relabels.of_stamp h.stamps
  refine ⟨b, f, rest, service', t, request, signIn, hsign, issues, ?_, ?_, pre, m, mid, r₀, rfl, hminted,
    mints, lt_of_lt_of_eq hpruned.1 hexpires, fun g hg hrevokes => ?_⟩
  · have hsame : (openedRecord record stamped opened).scope = request.scope := by
      rw [← hscope]
      exact hstamped.scope.trans (hlike.scope.trans (hr₀ ▸ rfl))
    rw [tokenHasScope, List.contains_iff_mem, hsame] at scope
    exact List.mem_of_mem_filter scope
  · rw [identity_of_open h.opens, hstamped.identity, hlike.identity, hr₀, ← hidentity]
    exact identity_tokenRecord service m.rand session tokenScope clientId
  · rcases hrevokes with haction | ⟨u, t, haction, hfor⟩
    · exact hkey g hg haction
    · exact huser g hg u t haction hfor

/-- A request that is let through is authorised. -/
theorem ContentRequest.Admits.authorised (fresh : Fresh es) {request : ContentRequest}
    (reads : request.ReadsAfter unicode es e) {required token : String} {read : ReadToken}
    (h : request.Admits required token read) :
    Authorised unicode es (e.now 0) required token read.record.session := by
  obtain ⟨⟨call, haction⟩, hanswer⟩ := reads token h.bearer
  rw [h.found] at hanswer
  cases hout : (broker unicode).out ((broker unicode).after es) e with
  | error error =>
    rw [hout] at hanswer
    cases hanswer
  | ok answer =>
    rw [hout] at hanswer
    replace hanswer : some read.record = answer.record? := Except.ok.inj hanswer
    cases answer with
    | record found =>
      obtain rfl : some read.record = found := hanswer
      obtain ⟨record, stamped, opened, hreads, hrecord⟩ := read_answer haction hout
      rw [hrecord]
      exact authorised_of_reads fresh hreads (hrecord ▸ h.scope)
    | _ => cases hanswer

/-- What is done for a request that is let through is authorised. -/
theorem ContentEffect.Admitted.authorised (fresh : Fresh es) {py : Interpreter} {httpx : Httpx}
    {config : UploadConfig} {request : ContentRequest} (reads : request.ReadsAfter unicode es e)
    {required : String} {effect : ContentEffect} (h : effect.Admitted py httpx config request required) :
    ∃ token session, readBearerToken request.authorization = some token ∧
      Authorised unicode es (e.now 0) required token session ∧ effect.DoneFor py httpx config session := by
  obtain ⟨token, read, hadmits, hdone⟩ := h
  exact ⟨token, _, hadmits.bearer, hadmits.authorised fresh reads, hdone⟩

/-- The find route, with what it finds of the request before its body. -/
def ContentRequest.find (py : Interpreter) (request : ContentRequest)
    (service : Session → ResourceSpaceService) (grants : PreviewGrants) (body : FindRequest) :
    Except PyError FindResponse :=
  let token := readBearerToken request.authorization
  contentResourcesFind py service grants request.rate token
    ((request.read (token.getD "")).map (Option.map ReadToken.record)) body

/-- What the find route answers to a request that it does not let through depends on no service. -/
theorem ContentRequest.admits_of_find {py : Interpreter} {request : ContentRequest}
    {service service' : Session → ResourceSpaceService} {grants grants' : PreviewGrants} {body : FindRequest}
    (h : request.find py service grants body ≠ request.find py service' grants' body) :
    ∃ token read, request.Admits "dam:read" token read := by
  rw [find, find, contentResourcesFind, contentResourcesFind] at h
  split_ifs at h with hrate htoken
  · exact absurd rfl h
  · exact absurd rfl h
  cases hbearer : readBearerToken request.authorization with
  | none =>
    rw [hbearer] at htoken
    exact absurd rfl htoken
  | some token =>
    rw [hbearer, Option.getD_some] at h
    cases hread : request.read token with
    | error error =>
      rw [hread] at h
      exact absurd rfl h
    | ok found =>
      rw [hread] at h
      cases found with
      | none => exact absurd rfl h
      | some read =>
        dsimp only [Except.map, Option.map, bind, Except.bind] at h
        split_ifs at h with hscope
        · exact absurd rfl h
        · exact ⟨token, read, by simpa using hrate, hbearer, hread, by simpa using hscope⟩

/-- What the content routes do in a run is authorised. Those for uploads and downloads send and have
    created only what is done for the session of a user who has signed in, whose token the request bears and
    lives, and who has been granted the scope of the route. What the find route answers to others does not
    depend on what there is to be found. -/
theorem content_authorised {py : Interpreter} {imaging : Imaging} {httpx : Httpx} {config : UploadConfig}
    (agree : HostsAgree py.unicode httpx) (fresh : Fresh es) {request : ContentRequest}
    (reads : request.ReadsAfter py.unicode es e) :
    (∀ hops rawBody, (contentResourcesUpload py imaging httpx config hops request rawBody).Emits
      fun effect => ∃ token session, readBearerToken request.authorization = some token ∧
        Authorised py.unicode es (e.now 0) "dam:write" token session ∧
        effect.DoneFor py httpx config session) ∧
    (∀ hops createDownloadGrant assetId,
      (contentResourcesDownloadUrl py httpx hops createDownloadGrant request assetId).Emits
        fun effect => ∃ token session, readBearerToken request.authorization = some token ∧
          Authorised py.unicode es (e.now 0) "dam:read" token session ∧
          effect.DoneFor py httpx config session) ∧
    ∀ service service' grants grants' body,
      request.find py service grants body ≠ request.find py service' grants' body →
      ∃ token session, readBearerToken request.authorization = some token ∧
        Authorised py.unicode es (e.now 0) "dam:read" token session := by
  refine ⟨fun hops rawBody => ?_, fun hops createDownloadGrant assetId => ?_,
    fun service service' grants grants' body h => ?_⟩
  · exact (contentResourcesUpload_emits agree hops request rawBody).mono fun effect hadmitted =>
      hadmitted.authorised fresh reads
  · exact (contentResourcesDownloadUrl_emits hops createDownloadGrant request assetId).mono
      fun effect hadmitted => hadmitted.authorised fresh reads
  · obtain ⟨token, read, hadmits⟩ := ContentRequest.admits_of_find h
    exact ⟨token, _, hadmits.bearer, hadmits.authorised fresh reads⟩

end Runs

namespace Sample

/-- What the read of the access token answers in the run of the fixture user. -/
theorem fixtureRun_reads : ∃ record : AccessToken,
    (broker Unicode.ascii).out ((broker Unicode.ascii).after (fixtureRun.take 3)) fixtureRun[3] =
      .ok (.record (some record)) ∧ record.session = claraRequest.session ∧ record.scope = "dam:read" := by
  have hread : ((((broker Unicode.ascii).out ((broker Unicode.ascii).after (fixtureRun.take 3))
      fixtureRun[3]).toOption.bind Answer.record?).map fun r => (r.session, r.scope)) =
        some (claraRequest.session, "dam:read") := by
    decide +kernel
  generalize (broker Unicode.ascii).out ((broker Unicode.ascii).after (fixtureRun.take 3)) fixtureRun[3] =
    out at hread
  obtain ⟨record, hrecord, hsame⟩ := Option.map_eq_some_iff.1 hread
  obtain ⟨record', rfl⟩ := Answer.eq_record (Option.isSome_iff_exists.2 ⟨record, hrecord⟩)
  obtain rfl : record' = record := Option.some.inj hrecord
  exact ⟨record', rfl, congrArg Prod.fst hsame, congrArg Prod.snd hsame⟩

/-- The source of the download of her asset. -/
def globexDownload : DownloadSource where
  source := ⟨"fixture", none, some "asset_globex_product", some "full", some "image/svg+xml", some 1400,
    some 900⟩
  mimeType := "image/svg+xml"
  filename := .str "globex-product-showcase.svg"

end Sample

/-- The fixture user, who has been granted the scope of downloads, has a grant created for an asset. -/
theorem content_authorised_clara : ∃ (request : ContentRequest) (token : String) (session : Session),
    .createGrant Sample.globexDownload ∈ (contentResourcesDownloadUrl Sample.plainInterpreter Sample.httpx
      ⟨Sample.answering .null, Sample.answering .null⟩ (fun _ _ => .error .osError) request
      "asset_globex_product").trace ∧
    readBearerToken request.authorization = some token ∧
    Authorised Unicode.ascii (Sample.fixtureRun.take 3) (Sample.fixtureRun[3].now 0) "dam:read" token
      session := by
  obtain ⟨record, hout, hsession, hscope⟩ := Sample.fixtureRun_reads
  have hmode : record.session.upstream.mode = "fixture" := by rw [hsession]; rfl
  generalize hrequest : (ContentRequest.mk ⟨true, 0⟩ (some "Bearer at_c")
    fun _ => .ok (some ⟨record, .fixture hmode⟩)) = request
  have hbearer : readBearerToken request.authorization = some "at_c" := by
    have hheader : readBearerToken (some "Bearer at_c") = some "at_c" := by decide +kernel
    rw [← hrequest]
    exact hheader
  have hreads : request.ReadsAfter Unicode.ascii (Sample.fixtureRun.take 3) Sample.fixtureRun[3] := by
    rintro token htoken
    obtain rfl : "at_c" = token := Option.some.inj (hbearer.symm.trans htoken)
    rw [hout, ← hrequest]
    exact ⟨⟨1, rfl⟩, rfl⟩
  have hdraws : (Sample.fixtureSteps.take 3).map Prod.fst = ["a", "b", "c"] := rfl
  have hfresh : Fresh (Sample.fixtureRun.take 3) :=
    @Sample.fresh Sample.service (Sample.fixtureSteps.take 3) (by rw [hdraws]; decide)
  have hchecked : (request.requireScope "dam:read" : Except PyError (ContentResponse DownloadUrl ⊕ ReadToken)) =
      .ok (.inr ⟨record, .fixture hmode⟩) := by
    have hgranted : tokenHasScope record "dam:read" = true := by
      rw [tokenHasScope, hscope]
      decide +kernel
    rw [ContentRequest.requireScope, hbearer, ← hrequest]
    dsimp only [bind, Except.bind]
    rw [hgranted]
    rfl
  have hfound : getFixtureDownloadSource Sample.plainInterpreter record.session "asset_globex_product" =
      .ok Sample.globexDownload := by
    rw [hsession]
    exact getFixtureDownloadSource_iff.2 ⟨Sample.globexProduct, Sample.globexProduct_mem, rfl, rfl,
      by decide +kernel, by decide +kernel, rfl⟩
  have hmem : .createGrant Sample.globexDownload ∈ (contentResourcesDownloadUrl Sample.plainInterpreter
      Sample.httpx ⟨Sample.answering .null, Sample.answering .null⟩ (fun _ _ => .error .osError) request
      "asset_globex_product").trace := by
    rw [contentResourcesDownloadUrl, if_neg (by rw [← hrequest]; exact Bool.false_ne_true)]
    refine Traced.mem_trace_bind.2 (.inr ⟨_, hchecked, ?_⟩)
    refine Traced.mem_trace_bind.2 (.inr ⟨_, congrArg Except.ok hfound, ?_⟩)
    exact Traced.mem_trace_bind.2 (.inl (List.mem_singleton_self _))
  obtain ⟨-, hdownloads, -⟩ := @content_authorised (Sample.fixtureRun.take 3) Sample.fixtureRun[3]
    Sample.plainInterpreter Sample.noPreviews Sample.httpx (Sample.limited 0) Sample.hostsAgree hfresh
    request hreads
  obtain ⟨token, session, htoken, hauthorised, -⟩ := hdownloads _ _ _ _ hmem
  exact ⟨request, token, session, hmem, htoken, hauthorised⟩

end Broker
