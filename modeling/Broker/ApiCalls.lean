import Broker.Lib.JsonText
import Broker.Lib.Sha256
import Broker.Lib.Traced
import Broker.Continuations
import Broker.Pinning

/-!
# Calls of the API

A call of the API of a live tenant: its parameters are signed into a URL
(`buildSignedApiUrl`), which is pinned and tried at the addresses in turn
(`firstReachable`), and the answer is read (`callLiveApi`), or that to an upload
(`postMultipartLiveApi`).

What such a call raises is a `ResourceSpaceError`, unless the JSON of its answer is
nested too deeply.
-/

namespace Broker

open Py

/-! ## Signed URLs -/

/-- The value of a parameter. -/
inductive ApiValue
  | none
  | int (n : ℤ)
  | str (s : String)
  deriving DecidableEq, Repr

/-- `str(value)`. -/
def ApiValue.text : ApiValue → String
  | .none => "None"
  | .int n => toString n
  | .str s => s

/-- Whether a parameter is sent: it is neither `None` nor empty. -/
def ApiValue.isSent (value : ApiValue) : Bool := value ≠ .none && value ≠ .str ""

/-- The parameters of a call, the function before the others. -/
structure ApiParams where
  function : String
  others : List (String × ApiValue)
  deriving DecidableEq, Repr

/-- The pairs of the query of a call. -/
def ApiParams.pairs (params : ApiParams) (username : String) : List (String × String) :=
  [("user", username), ("function", params.function)] ++
    (params.others.filter (·.2.isSent)).map fun (key, value) => (key, value.text)

/-- `digest.hex()`. -/
def hexdigest (digest : List UInt8) : List Char :=
  digest.flatMap fun b => [(b.toNat / 16).digitChar, (b.toNat % 16).digitChar]

/-- A hex digest has hexadecimal digits only. -/
theorem forall_mem_hexdigest {P : Char → Prop} (h : ∀ n < 16, P (Nat.digitChar n))
    (digest : List UInt8) : ∀ c ∈ hexdigest digest, P c := by
  intro c hc
  obtain ⟨b, -, hc⟩ := List.mem_flatMap.1 hc
  have hlt : b.toNat < 256 := b.toNat_lt_size
  rw [List.mem_pair] at hc
  obtain rfl | rfl := hc
  · exact h _ (by omega)
  · exact h _ (by omega)

theorem length_hexdigest (digest : List UInt8) : (hexdigest digest).length = 2 * digest.length := by
  induction digest with
  | nil => rfl
  | cons b digest ih =>
    rw [hexdigest, List.flatMap_cons, List.length_append, ← hexdigest, ih, List.length_cons]
    simp only [List.length_cons, List.length_nil]
    omega

/-- `_build_signed_api_url`. -/
def buildSignedApiUrl (apiUrl username sessionKey : String) (params : ApiParams) : String :=
  let queryString := String.ofList (Url.urlencode (params.pairs username))
  let signature := hexdigest (Sha256.digest (sessionKey ++ queryString).toUTF8.toList)
  apiUrl ++ "?" ++ queryString ++ "&sign=" ++ String.ofList signature ++ "&authmode=sessionkey"

/-! ## Requests -/

/-- A live session: one with the URL of an API and a session key. -/
structure LiveSession where
  session : Session
  apiUrl : String
  sessionKey : String
  has_apiUrl : session.tenant.apiUrl = some apiUrl
  has_sessionKey : session.upstream.sessionKey = some sessionKey

/-- `_resourcespace_request_headers`. -/
def resourcespaceRequestHeaders (integration : Option String) : List (String × String) :=
  if integration = some "canva" then [("User-Agent", "python-httpx RSCanva")] else []

/-- A request to the API, with the file of an upload, and the pinned URLs that it is tried at. -/
structure ApiRequest where
  params : ApiParams
  headers : List (String × String)
  file : Option NamedFile
  attempts : List String
  deriving DecidableEq, Repr

/-- A response: its status, what `response.json()` is, and its text. -/
structure ApiResponse where
  statusCode : ℕ
  json : Except Json.LoadsError Json
  text : String

/-- What a request to the API gets at an address. -/
inductive ApiReply
  /-- A `ConnectError` or a `ConnectTimeout`. -/
  | connectError
  /-- Another `HTTPError`. -/
  | httpError
  | response (response : ApiResponse)

/-- What a call meets: the resolver when its URL is pinned, and the replies at the pinned URLs. -/
structure ApiHop where
  pinning : List Char → Option (List (List Char))
  reply : String → ApiReply

/-- `_first_reachable`: the pinned URLs that are tried, and the first response. -/
def firstReachable (reply : String → ApiReply) : List String → List String × Option ApiResponse
  | [] => ([], none)
  | url :: urls =>
    match reply url with
    | .connectError =>
      let (attempts, response) := firstReachable reply urls
      (url :: attempts, response)
    | .httpError => ([url], none)
    | .response response => ([url], some response)

/-- The JSON of a response, or its text when it is none. -/
def ApiResponse.body (response : ApiResponse) : Except PyError Json :=
  match response.json with
  | .ok value => .ok value
  | .error .value | .error .digits => .ok (.str response.text)
  | .error .recursion => .error .recursionError

/-- `_parse_jsonish_response`. -/
def parseJsonishResponse (response : ApiResponse) : Except PyError Json :=
  if response.statusCode = 401 ∨ response.statusCode = 403 then
    .error (refusal "UPSTREAM_SESSION_EXPIRED"
      "ResourceSpace session is no longer valid; re-authentication required." 401)
  else if 400 ≤ response.statusCode then
    .error (refusal "UPSTREAM_REQUEST_FAILED"
      s!"ResourceSpace API request failed with status {response.statusCode}." 502)
  else response.body

/-- What is made of the response to an upload. With a status of 4xx or 5xx and the mark of
    an error, only the previews failed. -/
def parseUploadResponse (repr : Json → String) (response : ApiResponse) : Except PyError Json := do
  let body ← response.body
  if 400 ≤ response.statusCode then
    if body.get? "error" = some (.bool true) then
      return .dict [("uploaded", .bool true), ("previewError", (body.get? "error_note").getD .null)]
    else
      throw (refusal "UPSTREAM_REQUEST_FAILED"
        ("ResourceSpace upload returned HTTP " ++ toString response.statusCode ++ ": " ++
          String.ofList ((body.text repr).toList.take 200)) 502)
  else return body

section Calls

variable (py : Interpreter) (httpx : Httpx) (session : LiveSession)

/-- A request that is pinned and tried at the addresses. -/
def sendRequest (hop : ApiHop) (params : ApiParams) (file : Option NamedFile) :
    Traced ApiRequest PyError ApiResponse := do
  let url := buildSignedApiUrl session.apiUrl session.session.user.username session.sessionKey params
  let pinned ← Traced.lift (pinRequest py.unicode httpx.rawHost hop.pinning httpx url [])
  let (attempts, response) := firstReachable hop.reply pinned.urls
  let headers := resourcespaceRequestHeaders (brokerIntegrationFromSession session.session)
  Traced.emit { params, headers, file, attempts }
  match response with
  | some response => return response
  | none => throw (refusal "UPSTREAM_UNAVAILABLE" "ResourceSpace could not be reached." 502)

/-- `_call_live_api`. -/
def callLiveApi (hop : ApiHop) (params : ApiParams) : Traced ApiRequest PyError Json := do
  let response ← sendRequest py httpx session hop params none
  Traced.lift (parseJsonishResponse response)

/-- `_post_multipart_live_api`. -/
def postMultipartLiveApi (hop : ApiHop) (params : ApiParams) (file : NamedFile) :
    Traced ApiRequest PyError Json := do
  let response ← sendRequest py httpx session hop params (some file)
  Traced.lift (parseUploadResponse py.repr response)

end Calls

/-! ## Sent requests -/

section Sent

variable {py : Interpreter} {httpx : Httpx} {session : LiveSession} {hop : ApiHop}
  {params : ApiParams}

/-- The requests that are sent carry the parameters, and one is sent when there is a response. -/
theorem trace_sendRequest (py : Interpreter) (httpx : Httpx) (session : LiveSession) (hop : ApiHop)
    (params : ApiParams) (file : Option NamedFile) :
    (∀ request ∈ (sendRequest py httpx session hop params file).trace, request.params = params) ∧
      ∀ response, (sendRequest py httpx session hop params file).result = .ok response →
        ∃ request, (sendRequest py httpx session hop params file).trace = [request] := by
  rw [sendRequest]
  cases pinRequest py.unicode httpx.rawHost hop.pinning httpx
    (buildSignedApiUrl session.apiUrl session.session.user.username session.sessionKey params) [] with
  | error e => exact ⟨fun _ h => (nomatch h), fun _ h => nomatch h⟩
  | ok pinned =>
    dsimp only [bind, Traced.bind, Traced.lift]
    generalize firstReachable hop.reply pinned.urls = reached
    obtain ⟨attempts, _ | response⟩ := reached
    · exact ⟨fun request h => by rw [List.mem_singleton.1 h], fun _ h => nomatch h⟩
    · exact ⟨fun request h => by rw [List.mem_singleton.1 h], fun _ _ => ⟨_, rfl⟩⟩

variable {α : Type} {read : ApiResponse → Except PyError α} {file : Option NamedFile}

/-- What is read of a response adds no request. -/
theorem trace_bind_lift {x : Traced ApiRequest PyError ApiResponse} :
    (x >>= fun response => Traced.lift (read response)).trace = x.trace := by
  cases h : x.result with
  | ok response => rw [Traced.bind_of_ok h, Traced.trace_lift, List.append_nil]
  | error e => rw [Traced.bind_of_error h]

/-- A call that is answered has been sent. -/
theorem trace_of_callLiveApi {value : Json}
    (h : (callLiveApi py httpx session hop params).result = .ok value) :
    ∃ request, (callLiveApi py httpx session hop params).trace = [request] ∧
      request.params = params := by
  rw [callLiveApi, trace_bind_lift]
  rw [callLiveApi, Traced.result_bind_eq_ok] at h
  obtain ⟨response, hresponse, -⟩ := h
  obtain ⟨hparams, hsent⟩ := trace_sendRequest py httpx session hop params none
  obtain ⟨request, htrace⟩ := hsent response hresponse
  exact ⟨request, htrace, hparams request (htrace ▸ List.mem_singleton_self request)⟩

end Sent

/-! ## Where requests go -/

theorem mem_of_mem_firstReachable {reply : String → ApiReply} {urls : List String} {attempt : String}
    (h : attempt ∈ (firstReachable reply urls).1) : attempt ∈ urls := by
  induction urls with
  | nil => exact h
  | cons url urls ih =>
    rw [firstReachable] at h
    cases hreply : reply url with
    | connectError =>
      rw [hreply] at h
      exact (List.mem_cons.1 h).elim (fun h => h ▸ List.mem_cons_self) fun h => List.mem_cons_of_mem _ (ih h)
    | httpError =>
      rw [hreply] at h
      exact List.mem_singleton.1 h ▸ List.mem_cons_self
    | response response =>
      rw [hreply] at h
      exact List.mem_singleton.1 h ▸ List.mem_cons_self

/-- The attempts are at the URL, over HTTPS, at addresses of its host that are not blocked. -/
def IsPinnedTo (httpx : Httpx) (url : String) (attempts : List String) : Prop :=
  ∃ parsed, httpx.url url = some parsed ∧ parsed.scheme = "https".toList ∧
    ∀ attempt ∈ attempts, ∃ address ip, Ip.address address = some ip ∧ ipIsBlocked ip = false ∧
      attempt = parsed.withHost address

theorem isPinnedTo_of_pinRequest {unicode : Unicode} {rawHost : List Char → Option (List Char)}
    {getaddrinfo : List Char → Option (List (List Char))} {httpx : Httpx} {url : String}
    {pinned : PinnedRequest} (h : pinRequest unicode rawHost getaddrinfo httpx url [] = .ok pinned)
    (reply : String → ApiReply) : IsPinnedTo httpx url (firstReachable reply pinned.urls).1 := by
  obtain ⟨parsed, addresses, hurl, hscheme, haddresses, hurls⟩ := pinned_of_pinRequest h
  obtain ⟨canonical, infos, -, -, hclear, hinfos⟩ := answer_of_resolvePinnedAddresses haddresses
  refine ⟨parsed, hurl, hscheme, fun attempt hattempt => ?_⟩
  obtain ⟨address, haddress, rfl⟩ := List.mem_map.1 (hurls ▸ mem_of_mem_firstReachable hattempt)
  obtain ⟨hinfo, hip⟩ := hinfos address haddress
  obtain ⟨ip, hip⟩ := Option.isSome_iff_exists.1 hip
  exact ⟨address, ip, hip, hclear address hinfo ip hip, rfl⟩

end Broker
