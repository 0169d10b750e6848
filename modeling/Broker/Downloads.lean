import Broker.Lib.Traced
import Broker.Pinning

/-!
# Export downloads

The export of an upload is fetched from a URL that the caller chooses (`downloadBytes`):
redirects are followed, each after the URL is validated and pinned again, and the body
is read up to a limit.

Whatever the servers answer, the download ends after six fetches at most, each to an
allowed host over HTTPS and to addresses that are not blocked, and a body that it
returns is complete and within the limit (`download_safe`).
-/

namespace Broker

open Py

/-- `config.upload`. -/
structure UploadConfig where
  allowedHosts : List String
  maxBytes : ℤ
  maxImagePixels : ℤ
  deriving DecidableEq, Repr

/-! ## Servers -/

/-- A chunk of a body; `iter_bytes` yields none that is empty. -/
structure Chunk where
  bytes : List UInt8
  ne_nil : bytes ≠ []

/-- What the next step of reading a body yields. -/
inductive BodyStep
  | chunk (chunk : Chunk)
  | finished
  | connectError (message : String)
  | httpError (message : String)

/-- What a request to an address gets. -/
inductive Reply
  /-- A `ConnectError` or a `ConnectTimeout`. -/
  | connectError (message : String)
  /-- Another `HTTPError`. -/
  | httpError (message : String)
  | response (statusCode : ℕ) (header : String → Option String) (body : ℕ → BodyStep)

/-- What a hop of a download meets: the resolver when its URL is validated and when it is
    pinned, and the replies at the pinned URLs. -/
structure Hop where
  validating : List Char → Option (List (List Char))
  pinning : List Char → Option (List (List Char))
  reply : String → Reply

/-- The URL of a hop, and the pinned URLs that it is requested at. -/
structure Fetch where
  url : String
  attempts : List String
  deriving DecidableEq, Repr

/-- What is raised while a hop is read. -/
inductive HopError
  | connect (message : String)
  | http (message : String)
  | raised (error : PyError)
  deriving DecidableEq, Repr

/-- What is read of a hop. -/
inductive HopRead
  | redirect (location : Option String)
  | body (bytes : List UInt8) (contentType : String)
  deriving DecidableEq, Repr

/-- The refusal of an export that is too large. -/
def tooLarge (maxBytes : ℤ) : PyError :=
  refusal "INVALID_REQUEST" s!"Export exceeds CANVA_UPLOAD_MAX_BYTES ({maxBytes})." 413

/-! ## Reading a hop -/

/-- The chunks of a body, read from the given one on, as far as the limit allows. -/
def readChunks (maxBytes : ℤ) (body : ℕ → BodyStep) (index received : ℕ) (chunks : List (List UInt8)) :
    Except HopError (List UInt8) :=
  match body index with
  | .finished => .ok chunks.flatten
  | .connectError message => .error (.connect message)
  | .httpError message => .error (.http message)
  | .chunk chunk =>
    if maxBytes < received + chunk.bytes.length then .error (.raised (tooLarge maxBytes))
    else readChunks maxBytes body (index + 1) (received + chunk.bytes.length) (chunks ++ [chunk.bytes])
termination_by (maxBytes + 1 - received).toNat
decreasing_by
  have hpos := List.length_pos_of_ne_nil chunk.ne_nil
  omega

/-- The statuses of redirects. -/
def redirectStatuses : List ℕ := [301, 302, 303, 307, 308]

/-- The request to one address. -/
def readReply (maxBytes : ℤ) : Reply → Except HopError HopRead
  | .connectError message => .error (.connect message)
  | .httpError message => .error (.http message)
  | .response statusCode header body =>
    if redirectStatuses.contains statusCode then .ok (.redirect (header "location"))
    else if 400 ≤ statusCode then
      .error (.raised (refusal "UPSTREAM_REQUEST_FAILED" s!"Export URL returned HTTP {statusCode}" 502))
    else if ((header "content-length").bind int).any (maxBytes < ·) then
      .error (.raised (tooLarge maxBytes))
    else do
      let bytes ← readChunks maxBytes body 0 0 []
      let contentType := (header "content-type").getD "application/octet-stream"
      return .body bytes (String.ofList (strip (partition ';' contentType.toList).1))

/-- `_read_export_hop`: the pinned URLs that are tried, and what is read. -/
def readExportHop (maxBytes : ℤ) (reply : String → Reply) :
    Option String → List String → List String × Except HopError HopRead
  | lastExc, [] => ([], .error (.http (lastExc.getD "no validated addresses")))
  | _, url :: urls =>
    match readReply maxBytes (reply url) with
    | .error (.connect message) =>
      let (attempts, read) := readExportHop maxBytes reply (some message) urls
      (url :: attempts, read)
    | read => ([url], read)

/-! ## Downloads -/

/-- `_EXPORT_EXT_MAP`. -/
def exportExtMap : List (String × String) :=
  [("image/jpeg", "jpg"), ("image/png", "png"), ("image/webp", "webp"), ("image/gif", "gif"),
    ("image/svg+xml", "svg"), ("application/pdf", "pdf"), ("video/mp4", "mp4")]

/-- The download of a body, with the name for its type. -/
def exportOf (bytes : List UInt8) (contentType : String) : NamedFile where
  bytes
  filename := "canva-export." ++ (exportExtMap.lookup contentType).getD "bin"
  contentType

section Downloads

variable (unicode : Unicode) (httpx : Httpx) (config : UploadConfig)

/-- `_validate_export_url`. -/
def validateExportUrl (getaddrinfo : List Char → Option (List (List Char))) (url : String) :
    Except PyError Unit :=
  match Url.urlparse unicode url with
  | none => .error .valueError
  | some parsed => do
    if parsed.scheme ≠ "https".toList then
      throw (refusal "INVALID_REQUEST" "Export URLs must use https." 400)
    let host ← canonicalAsciiHost unicode httpx.rawHost (parsed.hostname unicode)
    if host.isEmpty then
      throw (refusal "INVALID_REQUEST" "Export URL is missing a hostname." 400)
    if !config.allowedHosts.isEmpty &&
        !(config.allowedHosts.any (hostMatchesStrict unicode httpx.rawHost host)) then
      throw (refusal "FORBIDDEN" "Export URL host is not in CANVA_UPLOAD_ALLOWED_HOSTS." 403)
    if isPrivateIp unicode httpx.rawHost getaddrinfo host then
      throw (refusal "FORBIDDEN" "Export URL resolves to a private network address." 403)

/-- One hop of a download: its URL is validated, pinned and fetched. -/
def downloadHop (hop : Hop) (url : String) : Traced Fetch PyError HopRead := do
  Traced.lift (validateExportUrl unicode httpx config hop.validating url)
  let pinned ← Traced.lift (pinRequest unicode httpx.rawHost hop.pinning httpx url [])
  let (attempts, read) := readExportHop config.maxBytes hop.reply none pinned.urls
  Traced.emit ⟨url, attempts⟩
  match read with
  | .ok read => return read
  | .error (.raised error) => throw error
  | .error (.connect message) | .error (.http message) =>
    throw (refusal "UPSTREAM_UNAVAILABLE" s!"Failed to download export: {message}" 502)

/-- The URL that a redirect leads to. -/
def followRedirect (url : String) (location : Option String) : Except PyError String :=
  match location with
  | none | some "" =>
    .error (refusal "UPSTREAM_REQUEST_FAILED" "Redirect missing Location header." 502)
  | some location => httpx.join url location

/-- The loop over the hops, of which the given one is next. -/
def downloadLoop (hops : ℕ → Hop) : (redirectsRemaining index : ℕ) → String → Traced Fetch PyError NamedFile
  | 0, index, url => do
    match ← downloadHop unicode httpx config (hops index) url with
    | .body bytes contentType => return exportOf bytes contentType
    | .redirect _ =>
      throw (refusal "UPSTREAM_REQUEST_FAILED" "Too many redirects fetching export URL." 502)
  | redirectsRemaining + 1, index, url => do
    match ← downloadHop unicode httpx config (hops index) url with
    | .body bytes contentType => return exportOf bytes contentType
    | .redirect location =>
      let next ← Traced.lift (followRedirect httpx url location)
      downloadLoop hops redirectsRemaining (index + 1) next

/-- `_download_bytes`. -/
def downloadBytes (hops : ℕ → Hop) (url : String) : Traced Fetch PyError NamedFile :=
  downloadLoop unicode httpx config hops 5 0 url

end Downloads

/-! ## Bodies -/

/-- The body from the index on: these chunks, and then its end. -/
def IsBody (body : ℕ → BodyStep) (index : ℕ) : List (List UInt8) → Prop
  | [] => body index = .finished
  | bytes :: rest => ∃ chunk, body index = .chunk chunk ∧ chunk.bytes = bytes ∧ IsBody body (index + 1) rest

/-- A body that is read is all of it, and within the limit when it is not empty. -/
theorem readChunks_eq_ok {maxBytes : ℤ} {body : ℕ → BodyStep} {index received : ℕ}
    {chunks : List (List UInt8)} {bytes : List UInt8}
    (h : readChunks maxBytes body index received chunks = .ok bytes) :
    ∃ rest, IsBody body index rest ∧ bytes = (chunks ++ rest).flatten ∧
      (rest ≠ [] → (received + rest.flatten.length : ℤ) ≤ maxBytes) := by
  -- The loop keeps the chunks so far; it stops at the end of the body, at an error, or at a
  -- chunk that does not fit.
  induction index, received, chunks using readChunks.induct maxBytes body with
  | case1 index received chunks hstep =>
    rw [readChunks, hstep] at h
    refine ⟨[], hstep, ?_, fun hne => absurd rfl hne⟩
    rw [List.append_nil]
    exact (Except.ok.inj h).symm
  | case2 index received chunks message hstep =>
    rw [readChunks, hstep] at h
    cases h
  | case3 index received chunks message hstep =>
    rw [readChunks, hstep] at h
    cases h
  | case4 index received chunks chunk hstep hlarge =>
    rw [readChunks, hstep] at h
    dsimp only at h
    rw [if_pos hlarge] at h
    cases h
  | case5 index received chunks chunk hstep hfits ih =>
    rw [readChunks, hstep] at h
    dsimp only at h
    rw [if_neg hfits] at h
    obtain ⟨rest, hrest, rfl, hbound⟩ := ih h
    refine ⟨chunk.bytes :: rest, ⟨chunk, hstep, rfl, hrest⟩, ?_, fun _ => ?_⟩
    · rw [List.append_assoc, List.singleton_append]
    · rw [List.flatten_cons, List.length_append]
      rcases eq_or_ne rest [] with rfl | hne
      · rw [List.flatten_nil, List.length_nil]
        omega
      · have hle := hbound hne
        push_cast at hle ⊢
        omega

/-- The bytes are all of the body that the reply has, and within the limit if there are any. -/
def IsComplete (maxBytes : ℤ) (reply : Reply) (bytes : List UInt8) : Prop :=
  ∃ statusCode header body chunks, reply = .response statusCode header body ∧ IsBody body 0 chunks ∧
    bytes = chunks.flatten ∧ (bytes ≠ [] → (bytes.length : ℤ) ≤ maxBytes)

theorem isComplete_of_readReply {maxBytes : ℤ} {reply : Reply} {bytes : List UInt8}
    {contentType : String} (h : readReply maxBytes reply = .ok (.body bytes contentType)) :
    IsComplete maxBytes reply bytes := by
  cases reply with
  | connectError message => cases h
  | httpError message => cases h
  | response statusCode header body =>
    rw [readReply] at h
    split_ifs at h
    · cases h
    · cases hread : readChunks maxBytes body 0 0 [] with
      | error e =>
        rw [hread] at h
        cases h
      | ok read =>
        rw [hread] at h
        cases h
        obtain ⟨chunks, hbody, rfl, hbound⟩ := readChunks_eq_ok hread
        rw [List.nil_append]
        refine ⟨statusCode, header, body, chunks, rfl, hbody, rfl, fun hne => ?_⟩
        have hle := hbound fun hnil => hne (by rw [hnil, List.flatten_nil])
        rwa [Nat.cast_zero, zero_add] at hle

/-! ## Hops -/

/-- The addresses are tried in their order, and what is read is read at one of them. -/
theorem readExportHop_spec (maxBytes : ℤ) (reply : String → Reply) (lastExc : Option String)
    (urls : List String) :
    (∀ url ∈ (readExportHop maxBytes reply lastExc urls).1, url ∈ urls) ∧
      ∀ read, (readExportHop maxBytes reply lastExc urls).2 = .ok read →
        ∃ url ∈ (readExportHop maxBytes reply lastExc urls).1,
          readReply maxBytes (reply url) = .ok read := by
  induction urls generalizing lastExc with
  | nil => exact ⟨fun _ h => h, fun _ h => nomatch h⟩
  | cons url urls ih =>
    rw [readExportHop]
    split
    · rename_i message hread
      obtain ⟨hmem, hok⟩ := ih (some message)
      refine ⟨fun u hu => ?_, fun read h => ?_⟩
      · exact (List.mem_cons.1 hu).elim (fun h => h ▸ List.mem_cons_self)
          fun hu => List.mem_cons_of_mem _ (hmem u hu)
      · obtain ⟨u, hu, hread⟩ := hok read h
        exact ⟨u, List.mem_cons_of_mem _ hu, hread⟩
    · refine ⟨fun u hu => ?_, fun read h => ⟨url, List.mem_cons_self, h⟩⟩
      rw [List.mem_singleton.1 hu]
      exact List.mem_cons_self

section Safety

variable (unicode : Unicode) (httpx : Httpx) (config : UploadConfig)

/-- The two parsers of URLs agree on the host. -/
def HostsAgree : Prop :=
  ∀ url parsed parsed', Url.urlparse unicode url = some parsed → httpx.url url = some parsed' →
    canonicalAsciiHost unicode httpx.rawHost (parsed.hostname unicode) = .ok parsed'.rawHost

/-- The fetch is of an allowed host over HTTPS, and is tried only at addresses of an answer
    of the resolver in which no address is blocked. -/
def SafeFetch (hop : Hop) (fetch : Fetch) : Prop :=
  ∃ parsed, httpx.url fetch.url = some parsed ∧ parsed.scheme = "https".toList ∧
    (config.allowedHosts ≠ [] → ∃ pattern ∈ config.allowedHosts,
      hostMatchesStrict unicode httpx.rawHost parsed.rawHost pattern = true) ∧
    ∃ canonical infos, canonicalAsciiHost unicode httpx.rawHost parsed.rawHost = .ok canonical ∧
      hop.pinning canonical = some infos ∧
      (∀ info ∈ infos, ∀ ip, Ip.address info = some ip → ipIsBlocked ip = false) ∧
      ∀ attempt ∈ fetch.attempts, ∃ address ∈ infos,
        (Ip.address address).isSome = true ∧ attempt = parsed.withHost address

variable {unicode httpx config}

/-- A URL that is validated is of an allowed host. -/
theorem allowed_of_validateExportUrl {getaddrinfo : List Char → Option (List (List Char))}
    {url : String} (h : validateExportUrl unicode httpx config getaddrinfo url = .ok ()) :
    ∃ parsed host, Url.urlparse unicode url = some parsed ∧
      canonicalAsciiHost unicode httpx.rawHost (parsed.hostname unicode) = .ok host ∧
      (config.allowedHosts ≠ [] → ∃ pattern ∈ config.allowedHosts,
        hostMatchesStrict unicode httpx.rawHost host pattern = true) := by
  rw [validateExportUrl] at h
  cases hparsed : Url.urlparse unicode url with
  | none =>
    rw [hparsed] at h
    cases h
  | some parsed =>
    rw [hparsed] at h
    dsimp only at h
    split_ifs at h
    · cases h
    · obtain ⟨host, hhost, h⟩ := exists_ok_of_bind h
      refine ⟨parsed, host, rfl, hhost, fun hallowed => List.any_eq_true.1 ?_⟩
      by_contra hrefused
      have hcheck : (!config.allowedHosts.isEmpty &&
          !(config.allowedHosts.any (hostMatchesStrict unicode httpx.rawHost host))) = true := by
        rw [Bool.not_eq_true] at hrefused
        rw [hrefused, List.isEmpty_eq_false_iff.2 hallowed]
        rfl
      rw [if_pos hcheck] at h
      split_ifs at h <;> cases h

/-- What a hop of a download is: it fails before its fetch, or it is fetched safely. -/
theorem downloadHop_cases (agree : HostsAgree unicode httpx) (hop : Hop) (url : String) :
    (downloadHop unicode httpx config hop url).trace = [] ∧
        (∃ error, (downloadHop unicode httpx config hop url).result = .error error) ∨
      ∃ fetch, (downloadHop unicode httpx config hop url).trace = [fetch] ∧
        SafeFetch unicode httpx config hop fetch ∧
        ∀ read, (downloadHop unicode httpx config hop url).result = .ok read →
          ∃ attempt ∈ fetch.attempts, readReply config.maxBytes (hop.reply attempt) = .ok read := by
  rw [downloadHop]
  -- Nothing is fetched before the URL has been validated and pinned.
  cases hvalid : validateExportUrl unicode httpx config hop.validating url with
  | error e => exact .inl ⟨rfl, e, rfl⟩
  | ok _ =>
    cases hpinned : pinRequest unicode httpx.rawHost hop.pinning httpx url [] with
    | error e => exact .inl ⟨rfl, e, rfl⟩
    | ok pinned =>
      obtain ⟨parsed, addresses, hparsed, hscheme, haddresses, hurls⟩ := pinned_of_pinRequest hpinned
      obtain ⟨std, host, hstd, hhost, hallowed⟩ := allowed_of_validateExportUrl hvalid
      obtain rfl := Except.ok.inj (hhost.symm.trans (agree url std parsed hstd hparsed))
      obtain ⟨canonical, infos, hcanonical, hinfos, hclear, hmem⟩ :=
        answer_of_resolvePinnedAddresses haddresses
      -- Every attempt is at an address of the one answer that was checked.
      obtain ⟨htried, hread⟩ := readExportHop_spec config.maxBytes hop.reply none pinned.urls
      dsimp only [bind, Traced.bind, Traced.lift]
      generalize readExportHop config.maxBytes hop.reply none pinned.urls = fetched at htried hread ⊢
      obtain ⟨attempts, read⟩ := fetched
      refine .inr ⟨⟨url, attempts⟩, ?_, ?_, fun value hvalue => ?_⟩
      · rcases read with (_ | _ | _) | _ <;> rfl
      · refine ⟨parsed, hparsed, hscheme, hallowed, canonical, infos, hcanonical, hinfos, hclear,
          fun attempt hattempt => ?_⟩
        have hurl := htried attempt hattempt
        rw [hurls] at hurl
        obtain ⟨address, haddress, rfl⟩ := List.mem_map.1 hurl
        obtain ⟨hanswer, hip⟩ := hmem address haddress
        exact ⟨address, hanswer, hip, rfl⟩
      · refine hread value ?_
        rcases read with (_ | _ | _) | _
        · cases hvalue
        · cases hvalue
        · cases hvalue
        · exact congrArg Except.ok (Except.ok.inj hvalue)

/-! ## Downloads -/

/-- What a run of the loop from the hop of the index on is, whatever the hops meet. -/
structure SafeRun (unicode : Unicode) (httpx : Httpx) (config : UploadConfig) (hops : ℕ → Hop)
    (redirects index : ℕ) (run : Traced Fetch PyError NamedFile) : Prop where
  bounded : run.trace.length ≤ redirects + 1
  safe : ∀ k fetch, run.trace[k]? = some fetch → SafeFetch unicode httpx config (hops (index + k)) fetch
  complete : ∀ download, run.result = .ok download →
    ∃ k last, run.trace.length = k + 1 ∧ run.trace[k]? = some last ∧ ∃ attempt ∈ last.attempts,
      IsComplete config.maxBytes ((hops (index + k)).reply attempt) download.bytes

namespace SafeRun

variable {hops : ℕ → Hop} {redirects index : ℕ} {fetch : Fetch}

theorem unfetched (error : PyError) : SafeRun unicode httpx config hops redirects index ⟨[], .error error⟩ where
  bounded := Nat.zero_le _
  safe _ _ h := nomatch h
  complete _ h := nomatch h

theorem failed (h : SafeFetch unicode httpx config (hops index) fetch) (error : PyError) :
    SafeRun unicode httpx config hops redirects index ⟨[fetch], .error error⟩ where
  bounded := Nat.le_add_left _ _
  safe k fetch' hfetch := by
    cases k with
    | zero =>
      obtain rfl := Option.some.inj hfetch
      exact h
    | succ k => cases hfetch
  complete _ h := nomatch h

theorem read (h : SafeFetch unicode httpx config (hops index) fetch) {download : NamedFile}
    {attempt : String} (hattempt : attempt ∈ fetch.attempts)
    (hcomplete : IsComplete config.maxBytes ((hops index).reply attempt) download.bytes) :
    SafeRun unicode httpx config hops redirects index ⟨[fetch], .ok download⟩ where
  bounded := Nat.le_add_left _ _
  safe := (@failed unicode httpx config hops redirects index fetch h .valueError).safe
  complete download' hresult := by
    obtain rfl := Except.ok.inj hresult
    exact ⟨0, fetch, rfl, rfl, attempt, hattempt, hcomplete⟩

theorem redirected (h : SafeFetch unicode httpx config (hops index) fetch)
    {run : Traced Fetch PyError NamedFile}
    (hrun : SafeRun unicode httpx config hops redirects (index + 1) run) :
    SafeRun unicode httpx config hops (redirects + 1) index ⟨fetch :: run.trace, run.result⟩ where
  bounded := Nat.succ_le_succ hrun.bounded
  safe k fetch' hfetch := by
    cases k with
    | zero =>
      obtain rfl := Option.some.inj hfetch
      exact h
    | succ k =>
      have hsafe := hrun.safe k fetch' hfetch
      rwa [Nat.add_assoc, Nat.add_comm 1] at hsafe
  complete download hresult := by
    obtain ⟨k, last, hlength, hlast, attempt, hattempt, hcomplete⟩ := hrun.complete download hresult
    rw [Nat.add_assoc, Nat.add_comm 1] at hcomplete
    exact ⟨k + 1, last, congrArg Nat.succ hlength, hlast, attempt, hattempt, hcomplete⟩

end SafeRun

/-- A hop, and what a run goes on with after it. -/
theorem safeRun_bind (agree : HostsAgree unicode httpx) {hops : ℕ → Hop} {redirects index : ℕ}
    {url : String} {f : HopRead → Traced Fetch PyError NamedFile}
    (hbody : ∀ bytes contentType, f (.body bytes contentType) = ⟨[], .ok (exportOf bytes contentType)⟩)
    (hredirect : ∀ location fetch, SafeFetch unicode httpx config (hops index) fetch →
      SafeRun unicode httpx config hops redirects index
        ⟨fetch :: (f (.redirect location)).trace, (f (.redirect location)).result⟩) :
    SafeRun unicode httpx config hops redirects index
      (downloadHop unicode httpx config (hops index) url >>= f) := by
  rcases @downloadHop_cases unicode httpx config agree (hops index) url with
    ⟨htrace, error, hfailed⟩ | ⟨fetch, htrace, hsafe, hread⟩
  · rw [Traced.bind_of_error hfailed, htrace]
    exact .unfetched error
  · cases hresult : (downloadHop unicode httpx config (hops index) url).result with
    | error error =>
      rw [Traced.bind_of_error hresult, htrace]
      exact .failed hsafe error
    | ok read =>
      rw [Traced.bind_of_ok hresult, htrace]
      cases read with
      | body bytes contentType =>
        obtain ⟨attempt, hattempt, hreply⟩ := hread _ hresult
        rw [hbody]
        exact .read hsafe hattempt (isComplete_of_readReply hreply)
      | redirect location => exact hredirect location fetch hsafe

/-- The loop is safe. The induction is on the redirects that remain. -/
theorem safeRun_downloadLoop (agree : HostsAgree unicode httpx) (hops : ℕ → Hop)
    (redirects index : ℕ) (url : String) :
    SafeRun unicode httpx config hops redirects index
      (downloadLoop unicode httpx config hops redirects index url) := by
  induction redirects generalizing index url with
  | zero =>
    rw [downloadLoop]
    exact safeRun_bind agree (fun _ _ => rfl) fun _ _ hsafe => .failed hsafe _
  | succ redirects ih =>
    rw [downloadLoop]
    refine safeRun_bind agree (fun _ _ => rfl) fun location fetch hsafe => ?_
    dsimp only
    cases hnext : (Traced.lift (followRedirect httpx url location) :
      Traced Fetch PyError String).result with
    | error error =>
      rw [Traced.bind_of_error hnext]
      exact .failed hsafe error
    | ok next =>
      rw [Traced.bind_of_ok hnext]
      exact .redirected hsafe (ih (index + 1) next)

/-- A download ends after six fetches at most, each of them safe, and the bytes that it
    returns are the complete body of the last one, within the limit unless they are none. -/
theorem download_safe (agree : HostsAgree unicode httpx) (hops : ℕ → Hop) (url : String) :
    (downloadBytes unicode httpx config hops url).trace.length ≤ 6 ∧
      (∀ k fetch, (downloadBytes unicode httpx config hops url).trace[k]? = some fetch →
        SafeFetch unicode httpx config (hops k) fetch) ∧
      ∀ download, (downloadBytes unicode httpx config hops url).result = .ok download →
        ∃ k last, (downloadBytes unicode httpx config hops url).trace.length = k + 1 ∧
          (downloadBytes unicode httpx config hops url).trace[k]? = some last ∧
          ∃ attempt ∈ last.attempts,
            IsComplete config.maxBytes ((hops k).reply attempt) download.bytes := by
  have hrun := @safeRun_downloadLoop unicode httpx config agree hops 5 0 url
  refine ⟨hrun.bounded, fun k fetch hfetch => ?_, fun download hresult => ?_⟩
  · have hsafe := hrun.safe k fetch hfetch
    rwa [Nat.zero_add] at hsafe
  · obtain ⟨k, last, hlength, hlast, attempt, hattempt, hcomplete⟩ := hrun.complete download hresult
    rw [Nat.zero_add] at hcomplete
    exact ⟨k, last, hlength, hlast, attempt, hattempt, hcomplete⟩

end Safety

/-! ## Sample exports -/

namespace Sample

/-- The URL of an export, as `httpx` finds it. -/
def exportUrl : HttpxUrl where
  scheme := "https".toList
  host := "export.example".toList
  rawHost := "export.example".toList
  port := none
  withHost host := "https://" ++ String.ofList host ++ "/a.png"

def httpx : Httpx where
  url url := if url = "https://export.example/a.png" then some exportUrl else none
  join _ _ := .error .valueError
  rawHost _ := none

/-- The host of the export, with a body of the chunks. -/
def exportHop (body : ℕ → BodyStep) : Hop where
  validating := resolver
  pinning := resolver
  reply _ := .response 200 (fun name => if name = "content-type" then some "image/png" else none) body

/-- The settings of a deployment with an allowlist and a limit. -/
def limited (maxBytes : ℤ) : UploadConfig := ⟨["export.example"], maxBytes, 50000000⟩

theorem hostsAgree : HostsAgree .ascii httpx := by
  intro url parsed parsed' hparsed hparsed'
  dsimp only [httpx] at hparsed'
  split_ifs at hparsed' with hurl
  obtain rfl := Option.some.inj hparsed'
  rw [hurl] at hparsed
  have hstd : Url.urlparse .ascii "https://export.example/a.png" =
      some ⟨"https".toList, "export.example".toList, "/a.png".toList, [], [], []⟩ := by decide +kernel
  obtain rfl := Option.some.inj (hparsed.symm.trans hstd)
  decide +kernel

/-- What a download of the export returns, when its URL passes and is pinned. -/
theorem download_of_read {httpx : Httpx} {maxBytes : ℤ} {body : ℕ → BodyStep} {bytes : List UInt8}
    (hvalid : validateExportUrl .ascii httpx (limited 0) resolver "https://export.example/a.png" = .ok ())
    (hpinned : pinRequest .ascii httpx.rawHost resolver httpx "https://export.example/a.png" [] =
      .ok ⟨["https://93.184.216.34/a.png"], "export.example".toList, "export.example".toList⟩)
    (h : readChunks maxBytes body 0 0 [] = .ok bytes) :
    downloadBytes .ascii httpx (limited maxBytes) (fun _ => exportHop body)
        "https://export.example/a.png" =
      ⟨[⟨"https://export.example/a.png", ["https://93.184.216.34/a.png"]⟩],
        .ok ⟨bytes, "canva-export.png", "image/png"⟩⟩ := by
  have hlimited : validateExportUrl .ascii httpx (limited maxBytes) resolver
      "https://export.example/a.png" = .ok () := by
    rw [← hvalid, validateExportUrl, validateExportUrl]
    rfl
  have hread : readReply maxBytes ((exportHop body).reply "https://93.184.216.34/a.png") =
      .ok (.body bytes "image/png") := by
    change (readChunks maxBytes body 0 0 [] >>= fun bytes => _) = _
    rw [h]
    exact congrArg (fun t => Except.ok (HopRead.body bytes t)) (by decide +kernel)
  have hfetched : readExportHop maxBytes (exportHop body).reply none
      ["https://93.184.216.34/a.png"] =
        (["https://93.184.216.34/a.png"], .ok (.body bytes "image/png")) := by
    rw [readExportHop, hread]
  have hhop : downloadHop .ascii httpx (limited maxBytes) (exportHop body) "https://export.example/a.png" =
      ⟨[⟨"https://export.example/a.png", ["https://93.184.216.34/a.png"]⟩],
        .ok (.body bytes "image/png")⟩ := by
    rw [downloadHop]
    change ((Traced.lift (validateExportUrl .ascii httpx (limited maxBytes) resolver _) :
      Traced Fetch PyError Unit) >>=
      fun _ => Traced.lift (pinRequest .ascii httpx.rawHost resolver httpx _ []) >>= fun _ => _) = _
    rw [hlimited, hpinned]
    dsimp only [bind, Traced.bind, Traced.lift, limited]
    rw [hfetched]
    rfl
  rw [downloadBytes, downloadLoop, hhop]
  rfl

/-- A body of three bytes. -/
def threeBytes (index : ℕ) : BodyStep :=
  if index = 0 then .chunk ⟨[1, 2, 3], by decide⟩ else .finished

theorem readChunks_threeBytes : readChunks 3 threeBytes 0 0 [] = .ok [1, 2, 3] := by
  rw [readChunks]
  change (if (3 : ℤ) < 0 + 3 then _ else readChunks 3 threeBytes 1 3 [[1, 2, 3]]) = _
  rw [if_neg (by decide), readChunks]
  rfl

theorem validateExportUrl_httpx :
    validateExportUrl .ascii httpx (limited 0) resolver "https://export.example/a.png" = .ok () := by
  decide +kernel

theorem pinRequest_httpx :
    pinRequest .ascii httpx.rawHost resolver httpx "https://export.example/a.png" [] =
      .ok ⟨["https://93.184.216.34/a.png"], "export.example".toList, "export.example".toList⟩ := by
  decide +kernel

end Sample

/-- A body as long as the limit is returned, complete. -/
theorem download_safe_limit :
    (downloadBytes .ascii Sample.httpx (Sample.limited 3)
        (fun _ => Sample.exportHop Sample.threeBytes) "https://export.example/a.png").result =
        .ok ⟨[1, 2, 3], "canva-export.png", "image/png"⟩ ∧
      ∃ last : Fetch, SafeFetch .ascii Sample.httpx (Sample.limited 3)
          (Sample.exportHop Sample.threeBytes) last ∧
        ∃ attempt ∈ last.attempts,
          IsComplete 3 ((Sample.exportHop Sample.threeBytes).reply attempt) [1, 2, 3] := by
  have hresult := congrArg Traced.result
    (Sample.download_of_read Sample.validateExportUrl_httpx Sample.pinRequest_httpx
      Sample.readChunks_threeBytes)
  obtain ⟨-, hsafe, hcomplete⟩ := @download_safe .ascii Sample.httpx (Sample.limited 3)
    Sample.hostsAgree (fun _ => Sample.exportHop Sample.threeBytes) "https://export.example/a.png"
  obtain ⟨k, last, -, hlast, hbody⟩ := hcomplete _ hresult
  exact ⟨hresult, last, hsafe k last hlast, hbody⟩

/-- An empty body is returned also when the limit is negative. -/
theorem empty_exceeds_limit :
    HostsAgree .ascii Sample.httpx ∧
      ∃ download, (downloadBytes .ascii Sample.httpx (Sample.limited (-1))
          (fun _ => Sample.exportHop fun _ => .finished) "https://export.example/a.png").result =
          .ok download ∧
        ¬(download.bytes.length : ℤ) ≤ (Sample.limited (-1)).maxBytes := by
  have hread : readChunks (-1) (fun _ => .finished) 0 0 [] = .ok [] := by
    rw [readChunks]
    rfl
  have hdownload := Sample.download_of_read Sample.validateExportUrl_httpx Sample.pinRequest_httpx hread
  exact ⟨Sample.hostsAgree, _, congrArg Traced.result hdownload, by decide⟩

end Broker
