import Broker.ApiCalls
import Broker.Downloads

/-!
# Uploads

An upload to a live tenant (`uploadLiveResource`): a resource is created, the export
downloaded and uploaded as its file, a preview uploaded and the title set, and the
resource added to a collection.

The resource is created before the export is downloaded, so an export that fails leaves
a resource without a file behind (`failed_export_requests`).

The title and the collection are strings that may hold surrogates, for which no URL can be
signed; this is found out only when the resource has its file.
-/

namespace Broker

open Py

/-! ## Answers -/

/-- `value in (False, "false")`. -/
def isFalse : Json → Bool
  | .bool b => !b
  | .int n => n = 0
  | .float (.finite q) => q = 0
  | .str s => s = "false"
  | _ => false

/-- `value in (False, "false", "", None)`. -/
def isFailure (value : Json) : Bool := isFalse value || value = .str "" || value = .null

/-- `value.strip().lstrip("-").isdigit()`. -/
def isSignedDigits (py : Interpreter) (value : String) : Bool :=
  let digits := (strip value.toList).dropWhile (· = '-')
  !digits.isEmpty && digits.all py.isDigit

/-- What an answer to `create_resource` is taken for: a reference, or a failure. -/
def isReference (py : Interpreter) (value : Json) : Bool :=
  !isFailure value &&
    match value with
    | .str s => isSignedDigits py s
    | _ => true

/-! ## Parameters -/

def createParams : ApiParams where
  function := "create_resource"
  others := [("resource_type", .int 1), ("archive", .int 0)]

def uploadParams (ref : String) : ApiParams where
  function := "upload_multipart"
  others := [("ref", .str ref), ("no_exif", .int 0), ("revert", .int 0)]

def previewUploadParams (ref : String) : ApiParams where
  function := "upload_multipart"
  others := [("ref", .str ref), ("no_exif", .int 1), ("revert", .int 0), ("previewonly", .int 1)]

def titleParams (ref title : String) : ApiParams where
  function := "update_field"
  others := [("resource", .str ref), ("field", .int 8), ("value", .str title)]

def linkParams (ref collectionRef : String) : ApiParams where
  function := "add_resource_to_collection"
  others := [("resource", .str ref), ("collection", .str collectionRef)]

/-! ## Uploads -/

/-- What an upload sends: a request to the API, or one for the export. -/
inductive Effect
  | request (request : ApiRequest)
  | fetch (fetch : Fetch)
  deriving DecidableEq, Repr

/-- Whether a resource is created. -/
def Effect.creates : Effect → Bool
  | .request sent => sent.params.function = "create_resource"
  | .fetch _ => false

/-- What an upload raises, in the download of its export or in another step. -/
inductive UploadError
  | download (error : PyError)
  | step (error : PyError)
  deriving DecidableEq, Repr

/-- The exception that is raised. -/
def UploadError.error : UploadError → PyError
  | download error => error
  | step error => error

/-- What the steps of an upload meet. -/
structure UploadHops where
  create : ApiHop
  download : ℕ → Hop
  upload : ApiHop
  preview : ApiHop
  title : ApiHop
  link : ApiHop

/-- What an upload is asked for. -/
structure UploadRequest where
  collectionRef : Text
  sourceUrl : String
  title : Option Text

/-- What the interpreter and Pillow supply to an upload. -/
structure Imaging where
  /-- `repr(value)`. -/
  pyRepr : Json → String
  /-- `_build_jpeg_preview`, none when it raises. -/
  buildJpegPreview : List UInt8 → ℤ → Option (List UInt8)

/-- `UPLOAD_FAILED`. -/
def uploadFailed (message : String) : PyError := refusal "UPLOAD_FAILED" message 502

/-- `try: …; except ResourceSpaceError: pass`. -/
def suppress {E α : Type} (x : Traced E PyError α) : Traced E PyError Unit :=
  tryCatch (x >>= fun _ => return ()) fun
    | .resourceSpaceError _ => return ()
    | error => throw error

section Uploads

variable (py : Interpreter) (imaging : Imaging) (httpx : Httpx) (config : UploadConfig)
  (session : LiveSession) (hops : UploadHops)

/-- A resource is created. -/
def createResource : Traced ApiRequest PyError String := do
  let newRef ← callLiveApi py httpx session hops.create createParams
  if isReference py newRef then return String.ofList (strip (newRef.text py.repr).toList)
  else throw (uploadFailed ("ResourceSpace create_resource returned: " ++ imaging.pyRepr newRef))

/-- The export is uploaded as the file of a resource. -/
def uploadFile (ref : String) (file : NamedFile) : Traced ApiRequest PyError Unit := do
  let uploadResult ← postMultipartLiveApi py httpx session hops.upload (uploadParams ref) file
  if isFailure uploadResult then
    throw (uploadFailed ("ResourceSpace upload_multipart returned: " ++ imaging.pyRepr uploadResult ++
      " (resource ref " ++ ref ++ ")"))

/-- A preview is uploaded, if one can be made of the file; that it is refused is ignored. -/
def uploadPreview (ref : String) (file : NamedFile) : Traced ApiRequest PyError Unit :=
  match imaging.buildJpegPreview file.bytes config.maxImagePixels with
  | none | some [] => return ()
  | some bytes =>
    suppress (postMultipartLiveApi py httpx session hops.preview (previewUploadParams ref)
      ⟨bytes, "preview.jpg", "image/jpeg"⟩)

/-- The title of a resource is set, if there is one: it is encoded for the URL of the call. -/
def updateTitle (ref : String) : Option Text → Traced ApiRequest PyError Unit
  | none | some [] => return ()
  | some title => do
    let value ← Traced.lift (encodable title)
    let _ ← callLiveApi py httpx session hops.title (titleParams ref value)

/-- A resource is added to a collection, whose reference is encoded for the URL of the call. -/
def linkResource (ref : String) (collectionRef : Text) : Traced ApiRequest PyError Unit := do
  let collection ← Traced.lift (encodable collectionRef)
  let linkResult ← callLiveApi py httpx session hops.link (linkParams ref collection)
  if isFalse linkResult then
    throw (refusal "LINK_FAILED"
      "Resource was created but could not be added to the collection." 502)

/-- A step of an upload that calls the API. -/
def apiStep {α : Type} (x : Traced ApiRequest PyError α) : Traced Effect UploadError α :=
  (x.mapEvents .request).mapError .step

/-- The download of the export. -/
def downloadStep (sourceUrl : String) : Traced Effect UploadError NamedFile :=
  ((downloadBytes py.unicode httpx config hops.download sourceUrl).mapEvents .fetch).mapError .download

/-- `_upload_live_resource`: the id that it returns. -/
def uploadLiveResource (request : UploadRequest) : Traced Effect UploadError String := do
  let ref ← apiStep (createResource py imaging httpx session hops)
  let file ← downloadStep py httpx config hops request.sourceUrl
  apiStep (uploadFile py imaging httpx session hops ref file)
  apiStep (uploadPreview py imaging httpx config session hops ref file)
  apiStep (updateTitle py httpx session hops ref request.title)
  apiStep (linkResource py httpx session hops ref request.collectionRef)
  return ref

/-- No resource was created by a run whose download failed. -/
def NoOrphan (run : Traced Effect UploadError String) : Prop :=
  ∀ error, run.result = .error (.download error) →
    ∀ effect ∈ run.trace, effect.creates = false

end Uploads

/-! ## Orphans -/

section Orphans

variable {py : Interpreter} {imaging : Imaging} {httpx : Httpx} {config : UploadConfig}
  {session : LiveSession} {hops : UploadHops}

theorem not_download_of_apiStep {α : Type} (x : Traced ApiRequest PyError α) (error : PyError) :
    (apiStep x).result ≠ .error (.download error) := by
  rw [apiStep, Ne, Traced.result_mapError_eq_error]
  rintro ⟨_, -, h⟩
  cases h

theorem result_apiStep {α : Type} {x : Traced ApiRequest PyError α} {a : α} :
    (apiStep x).result = .ok a ↔ x.result = .ok a := Traced.result_mapError_eq_ok

theorem result_downloadStep {sourceUrl : String} {error : PyError} :
    (downloadStep py httpx config hops sourceUrl).result = .error (.download error) ↔
      (downloadBytes py.unicode httpx config hops.download sourceUrl).result = .error error := by
  rw [downloadStep, Traced.result_mapError_eq_error]
  constructor
  · rintro ⟨_, h, he⟩
    cases he
    exact h
  · exact fun h => ⟨error, h, rfl⟩

/-- A resource is created when the call is answered with a reference. -/
theorem result_createResource {ref : String} :
    (createResource py imaging httpx session hops).result = .ok ref ↔
      ∃ newRef, (callLiveApi py httpx session hops.create createParams).result = .ok newRef ∧
        isReference py newRef = true ∧ String.ofList (strip (newRef.text py.repr).toList) = ref := by
  rw [createResource, Traced.result_bind_eq_ok]
  refine exists_congr fun newRef => and_congr_right fun _ => ?_
  by_cases href : isReference py newRef = true
  · rw [if_pos href]
    exact ⟨fun h => ⟨href, Except.ok.inj h⟩, fun h => congrArg Except.ok h.2⟩
  · rw [if_neg href]
    exact ⟨fun h => (nomatch h), fun h => absurd h.1 href⟩

theorem trace_createResource :
    (createResource py imaging httpx session hops).trace =
      (callLiveApi py httpx session hops.create createParams).trace := by
  rw [createResource]
  cases h : (callLiveApi py httpx session hops.create createParams).result with
  | error e => rw [Traced.bind_of_error h]
  | ok newRef =>
    rw [Traced.bind_of_ok h]
    split_ifs
    · exact List.append_nil _
    · exact List.append_nil _

/-- A run fails in its download when the resource has been created and the download fails. -/
theorem download_error_iff {request : UploadRequest} {error : PyError} :
    (uploadLiveResource py imaging httpx config session hops request).result = .error (.download error) ↔
      (∃ ref, (createResource py imaging httpx session hops).result = .ok ref) ∧
        (downloadBytes py.unicode httpx config hops.download request.sourceUrl).result = .error error := by
  rw [uploadLiveResource, Traced.result_bind_eq_error, or_iff_right (not_download_of_apiStep _ error)]
  constructor
  · rintro ⟨ref, href, h⟩
    refine ⟨⟨ref, result_apiStep.1 href⟩, ?_⟩
    rw [Traced.result_bind_eq_error] at h
    refine result_downloadStep.1 (h.resolve_right ?_)
    -- No later step raises what a download raises.
    rintro ⟨file, -, h⟩
    rw [Traced.result_bind_eq_error, or_iff_right (not_download_of_apiStep _ error)] at h
    obtain ⟨_, -, h⟩ := h
    rw [Traced.result_bind_eq_error, or_iff_right (not_download_of_apiStep _ error)] at h
    obtain ⟨_, -, h⟩ := h
    rw [Traced.result_bind_eq_error, or_iff_right (not_download_of_apiStep _ error)] at h
    obtain ⟨_, -, h⟩ := h
    rw [Traced.result_bind_eq_error, or_iff_right (not_download_of_apiStep _ error)] at h
    obtain ⟨_, -, h⟩ := h
    cases h
  · rintro ⟨⟨ref, href⟩, h⟩
    refine ⟨ref, result_apiStep.2 href, ?_⟩
    rw [Traced.result_bind_eq_error]
    exact .inl (result_downloadStep.2 h)

/-- A resource is created by a single request. -/
theorem trace_apiStep_createResource {ref : String}
    (h : (createResource py imaging httpx session hops).result = .ok ref) :
    ∃ first, (apiStep (createResource py imaging httpx session hops)).trace = [.request first] ∧
      first.params = createParams := by
  obtain ⟨newRef, hnewRef, -⟩ := result_createResource.1 h
  obtain ⟨first, htrace, hparams⟩ := trace_of_callLiveApi hnewRef
  refine ⟨first, ?_, hparams⟩
  change (createResource py imaging httpx session hops).trace.map Effect.request = _
  rw [trace_createResource, htrace, List.map_singleton]

/-- A run whose download fails has created a resource, and has sent the tenant nothing else. -/
theorem failed_export_requests (request : UploadRequest) {error : PyError}
    (h : (uploadLiveResource py imaging httpx config session hops request).result =
      .error (.download error)) :
    ∃ first : ApiRequest, ∃ fetches : List Fetch,
      (uploadLiveResource py imaging httpx config session hops request).trace =
        .request first :: fetches.map .fetch ∧ first.params = createParams := by
  obtain ⟨⟨ref, href⟩, hdownload⟩ := download_error_iff.1 h
  obtain ⟨first, hcreate, hparams⟩ := trace_apiStep_createResource href
  have hfailed : ((downloadStep py httpx config hops request.sourceUrl).result) =
      .error (.download error) := result_downloadStep.2 hdownload
  rw [uploadLiveResource, Traced.bind_of_ok (result_apiStep.2 href), Traced.bind_of_error hfailed, hcreate]
  exact ⟨first, _, rfl, hparams⟩

end Orphans

/-! ## Sample uploads -/

namespace Sample

/-- A URL without a user and a port, as `httpx` finds it. -/
def plainUrl (url : String) : HttpxUrl :=
  let scheme := url.toList.takeWhile (· ≠ ':')
  let rest := (url.toList.dropWhile (· ≠ ':')).drop 3
  let host := rest.takeWhile (· ≠ '/')
  { scheme, host, rawHost := host, port := none
    withHost := fun address =>
      String.ofList (scheme ++ "://".toList ++ address ++ rest.dropWhile (· ≠ '/')) }

def plainHttpx : Httpx where
  url url := some (plainUrl url)
  join _ _ := .error .valueError
  rawHost _ := none

def damSession : LiveSession where
  session :=
    { tenant :=
        { id := "tenant_dam", slug := none, name := none, baseUrl := "https://dam.example"
          apiUrl := some "https://dam.example/api/", rootCollections := [], collectionChildren := [] }
      user := { id := "7", username := "alice", displayName := "Alice", role := "editor", email := none }
      upstream := { mode := "live", sessionKey := some "key", authenticatedAt := "" }
      broker := none }
  apiUrl := "https://dam.example/api/"
  sessionKey := "key"
  has_apiUrl := rfl
  has_sessionKey := rfl

def plainInterpreter : Interpreter where
  unicode := .ascii
  isDigit := isDigit
  repr _ := ""
  depth := 100
  dumpsDepth := 100
  isoDate _ := .error .typeError

/-- Previews are not made. -/
def noPreviews : Imaging where
  pyRepr _ := ""
  buildJpegPreview _ _ := none

/-- A call that is answered with the value. -/
def answering (value : Json) : ApiHop where
  pinning := resolver
  reply _ := .response ⟨200, .ok value, ""⟩

/-- A tenant that answers the calls with the values, and an export of three bytes. -/
def answeringHops (created linked : Json) : UploadHops where
  create := answering created
  download _ := exportHop threeBytes
  upload := answering (.bool true)
  preview := answering (.bool true)
  title := answering (.bool true)
  link := answering linked

theorem plainUrl_dam (rest : String) :
    plainUrl ("https://dam.example/api/" ++ rest) =
      ⟨"https".toList, "dam.example".toList, "dam.example".toList, none,
        fun host => String.ofList ("https://".toList ++ host ++ "/api/".toList ++ rest.toList)⟩ := by
  rw [plainUrl, String.toList_append]
  congr 1
  funext host
  rw [List.append_assoc _ "/api/".toList]
  rfl

theorem pinRequest_dam (rest : String) :
    pinRequest .ascii plainHttpx.rawHost resolver plainHttpx ("https://dam.example/api/" ++ rest) [] =
      .ok ⟨[String.ofList ("https://93.184.216.34/api/".toList ++ rest.toList)],
        "dam.example".toList, "dam.example".toList⟩ := by
  generalize hu : "https://dam.example/api/" ++ rest = url
  have hurl : plainHttpx.url url = some
      ⟨"https".toList, "dam.example".toList, "dam.example".toList, none,
        fun host => String.ofList ("https://".toList ++ host ++ "/api/".toList ++ rest.toList)⟩ := by
    rw [← hu]
    exact congrArg some (plainUrl_dam rest)
  have haddresses : resolvePinnedAddresses .ascii plainHttpx.rawHost resolver "dam.example".toList =
      .ok ["93.184.216.34".toList] := by decide +kernel
  have hheader : authorityForHeader "dam.example".toList none = "dam.example".toList := by
    decide +kernel
  have hweb : ¬("https".toList ≠ "https".toList ∨ "dam.example".toList = []) := by decide +kernel
  have hstarts : "https://93.184.216.34/api/".toList =
    "https://".toList ++ "93.184.216.34".toList ++ "/api/".toList := by decide +kernel
  rw [hstarts]
  -- The texts are not evaluated from here on.
  clear hu
  generalize plainHttpx.rawHost = rawHost at haddresses ⊢
  generalize "dam.example".toList = host at hurl haddresses hheader hweb ⊢
  generalize "93.184.216.34".toList = address at haddresses ⊢
  simp only [pinRequest, hurl, if_neg hweb, List.isEmpty_nil, Bool.not_true, Bool.false_and,
    Bool.false_eq_true, if_false, haddresses, hheader]
  rfl

theorem sendRequest_answering (value : Json) (params : ApiParams) (file : Option NamedFile) :
    (sendRequest plainInterpreter plainHttpx damSession (answering value) params file).result =
      .ok ⟨200, .ok value, ""⟩ := by
  rw [sendRequest, buildSignedApiUrl]
  change (Traced.lift (pinRequest .ascii plainHttpx.rawHost resolver plainHttpx
    ("https://dam.example/api/" ++ "?" ++ _ ++ "&sign=" ++ _ ++ "&authmode=sessionkey") []) >>= _ :
    Traced ApiRequest PyError ApiResponse).result = _
  rw [String.append_assoc, String.append_assoc, String.append_assoc, String.append_assoc, pinRequest_dam]
  rfl

theorem callLiveApi_answering (value : Json) (params : ApiParams) :
    (callLiveApi plainInterpreter plainHttpx damSession (answering value) params).result = .ok value :=
  Traced.result_bind_eq_ok.2 ⟨_, sendRequest_answering value params none, rfl⟩

theorem createResource_seven (linked : Json) :
    (createResource plainInterpreter noPreviews plainHttpx damSession
      (answeringHops (.int 7) linked)).result = .ok "7" :=
  result_createResource.2 ⟨_, callLiveApi_answering _ _, by decide, by decide +kernel⟩

/-- An upload whose export is not over HTTPS. -/
def rejectedUpload : Traced Effect UploadError String :=
  uploadLiveResource plainInterpreter noPreviews plainHttpx (limited 3) damSession
    (answeringHops (.int 7) (.bool true)) ⟨Text.ofString "3", "http://export.example/a.png", none⟩

theorem rejectedUpload_result :
    rejectedUpload.result =
      .error (.download (refusal "INVALID_REQUEST" "Export URLs must use https." 400)) :=
  download_error_iff.2 ⟨⟨_, createResource_seven _⟩, by decide +kernel⟩

end Sample

/-- The export over HTTP leaves the resource that is created, and nothing else. -/
theorem failed_export_requests_rejected :
    ∃ first : ApiRequest, ∃ fetches : List Fetch,
      Sample.rejectedUpload.trace = .request first :: fetches.map .fetch ∧ first.params = createParams :=
  failed_export_requests _ Sample.rejectedUpload_result

/-- The export over HTTP leaves a resource behind. -/
theorem rejected_export_orphans : ¬NoOrphan Sample.rejectedUpload := by
  intro h
  have hcreated := Sample.createResource_seven (.bool true)
  obtain ⟨first, htrace, hparams⟩ := trace_apiStep_createResource hcreated
  have hfirst : .request first ∈ Sample.rejectedUpload.trace :=
    Traced.mem_trace_bind.2 (.inl (htrace ▸ List.mem_singleton_self _))
  have hcreates := h _ Sample.rejectedUpload_result _ hfirst
  rw [Effect.creates, hparams] at hcreates
  cases hcreates

end Broker
