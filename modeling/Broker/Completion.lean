import Broker.Authorise
import Broker.Lib.Quoting
import Broker.Lib.UrlSplit

/-!
# Completion URLs

A sign-in is completed at the redirect URI of the client, with the code and the state
of the client at the end of its query. The redirect URI is split by `urlparse` and put
together by `geturl`, which keep all of it but the mark of parameters that are empty
and the missing slash of a path without an authority (`completion_extends_iff`).
-/

namespace Py

theorem rpartition_cases (c : Char) (s : List Char) :
    rpartition c s = ([], false, s) ∧ c ∉ s ∨
    ∃ pre post, rpartition c s = (pre, true, post) ∧ s = pre ++ c :: post ∧ c ∉ post := by
  rcases partition_cases c s.reverse with ⟨hpart, hfree⟩ | ⟨pre, post, hpart, hrev, hfree⟩
  · refine .inl ⟨?_, by rwa [List.mem_reverse] at hfree⟩
    rw [rpartition, hpart]
  · refine .inr ⟨post.reverse, pre.reverse, ?_, ?_, by rwa [List.mem_reverse]⟩
    · rw [rpartition, hpart]
    · rw [← List.reverse_reverse s, hrev]
      simp

end Py

namespace Url.SplitResult

open Py

variable {unicode : Unicode} (r : SplitResult)

/-- The last segment of the path has a mark of parameters, and nothing after it. -/
def HasEmptyParams : Prop :=
  usesParams.contains (String.ofList r.scheme) = true ∧
    (partition ';' (rpartition '/' r.path).2.2).2 = (true, [])

/-- The path follows the scheme with no slash. -/
def IsRootless : Prop :=
  usesNetloc.contains (String.ofList r.scheme) = true ∧ r.netloc = [] ∧ r.path ≠ [] ∧
    startsWith r.path ['/'] = false

instance : Decidable r.HasEmptyParams := inferInstanceAs (Decidable (_ ∧ _))

instance : Decidable r.IsRootless := inferInstanceAs (Decidable (_ ∧ _ ∧ _ ∧ _))

/-- The path, with the parameters that `geturl` puts back. -/
def rejoinedPath : List Char :=
  if r.pathParams.2.isEmpty then r.pathParams.1 else r.pathParams.1 ++ ';' :: r.pathParams.2

variable {r}

/-- The parameters of a path are what follows the first mark of its last segment. -/
theorem splitParams_cases (path : List Char) :
    (partition ';' (rpartition '/' path).2.2).2 = (false, []) ∧ splitParams path = (path, []) ∨
      ∃ front params, (partition ';' (rpartition '/' path).2.2).2 = (true, params) ∧
        splitParams path = (front, params) ∧ path = front ++ ';' :: params := by
  rw [splitParams]
  rcases rpartition_cases '/' path with ⟨hlast, -⟩ | ⟨head, last, hlast, hpath, -⟩
  · rw [hlast]
    dsimp only
    rcases partition_cases ';' path with ⟨hpart, -⟩ | ⟨segment, params, hpart, hmark, -⟩
    · rw [hpart]
      exact .inl ⟨rfl, rfl⟩
    · rw [hpart]
      exact .inr ⟨segment, params, rfl, rfl, hmark⟩
  · rw [hlast]
    dsimp only
    rcases partition_cases ';' last with ⟨hpart, -⟩ | ⟨segment, params, hpart, hmark, -⟩
    · rw [hpart]
      exact .inl ⟨rfl, rfl⟩
    · rw [hpart]
      refine .inr ⟨head ++ '/' :: segment, params, rfl, rfl, ?_⟩
      rw [hpath, hmark, List.append_assoc, List.cons_append]

/-- All of the path is put back but the mark of empty parameters. -/
theorem rejoinedPath_cases (r : SplitResult) :
    ¬r.HasEmptyParams ∧ r.rejoinedPath = r.path ∨
      r.HasEmptyParams ∧ r.path = r.rejoinedPath ++ [';'] := by
  rw [rejoinedPath, HasEmptyParams, pathParams]
  cases usesParams.contains (String.ofList r.scheme) with
  | false => exact .inl ⟨fun h => Bool.false_ne_true h.1, rfl⟩
  | true =>
    rw [if_pos rfl]
    rcases splitParams_cases r.path with ⟨hpart, hsplit⟩ | ⟨front, params, hpart, hsplit, hpath⟩
    · rw [hsplit, hpart]
      exact .inl ⟨fun h => Bool.false_ne_true (congrArg Prod.fst h.2), rfl⟩
    · rw [hsplit, hpart]
      cases params with
      | nil => exact .inr ⟨⟨rfl, rfl⟩, hpath⟩
      | cons c params =>
        exact .inl ⟨fun h => List.cons_ne_nil _ _ (congrArg Prod.snd h.2), hpath.symm⟩

/-- The components of the URL, with another query. -/
def requeried (r : SplitResult) (query : List Char) : SplitResult :=
  { r with path := r.rejoinedPath, query }

theorem geturl_requeried (r : SplitResult) (query : List Char) :
    { r.parsed with query }.geturl = (r.requeried query).geturl :=
  geturl_parsed _

theorem isSplit_requeried (h : r.IsSplit unicode) {query : List Char} (hash : '#' ∉ query)
    (kept : ∀ c ∈ query, isKept c = true) : (r.requeried query).IsSplit unicode := by
  -- Joining the parameters back onto the path adds nothing to it.
  have hsubset : ∀ c ∈ r.rejoinedPath, c ∈ r.path := by
    intro c hc
    rcases r.rejoinedPath_cases with ⟨-, hpath⟩ | ⟨-, hpath⟩
    · rwa [hpath] at hc
    · rw [hpath]
      exact List.mem_append_left _ hc
  refine
    { head := h.head
      scheme := h.scheme
      lower := h.lower
      netloc := h.netloc
      path := fun c hc => h.path c (hsubset c hc)
      query := hash
      kept := fun c hc => ?_
      rooted := fun hne => ?_
      valid := h.valid }
  · simp only [requeried, List.mem_append] at hc
    rcases hc with ((hc | hc) | hc) | hc
    · exact h.kept c (by simp [hc])
    · exact h.kept c (by simp [hsubset c hc])
    · exact kept c hc
    · exact h.kept c (by simp [hc])
  · change r.rejoinedPath = [] ∨ startsWith r.rejoinedPath ['/'] = true
    rcases r.rejoinedPath_cases with ⟨-, hpath⟩ | ⟨-, hpath⟩
    · rw [hpath]
      exact h.rooted hne
    · have hrooted := h.rooted hne
      rw [hpath] at hrooted
      cases hrejoined : r.rejoinedPath with
      | nil => exact .inl rfl
      | cons c path =>
        rw [hrejoined] at hrooted
        rcases hrooted with hnil | hstart
        · cases hnil
        · exact .inr (by simpa [startsWith] using hstart)

/-- The path stays as it is when nothing is dropped from it and nothing put at its head. -/
theorem rootedPath_requeried_iff (r : SplitResult) (query : List Char) :
    (r.requeried query).rootedPath = r.path ↔ ¬r.HasEmptyParams ∧ ¬r.IsRootless := by
  change (if r.netloc = [] ∧ usesNetloc.contains (String.ofList r.scheme) = true ∧
    r.rejoinedPath ≠ [] ∧ startsWith r.rejoinedPath ['/'] = false then '/' :: r.rejoinedPath
    else r.rejoinedPath) = r.path ↔ _
  rcases r.rejoinedPath_cases with ⟨hkept, hpath⟩ | ⟨hdropped, hpath⟩
  · rw [hpath]
    split_ifs with hroot
    · obtain ⟨hnetloc, huses, hne, hstart⟩ := hroot
      refine ⟨fun h => absurd h (List.cons_ne_self _ _), fun h => absurd ?_ h.2⟩
      exact ⟨huses, hnetloc, hne, hstart⟩
    · exact ⟨fun _ => ⟨hkept, fun ⟨huses, hnetloc, hne, hstart⟩ => hroot ⟨hnetloc, huses, hne, hstart⟩⟩,
        fun _ => rfl⟩
  · refine ⟨fun h => ?_, fun h => absurd hdropped h.1⟩
    split_ifs at h with hroot
    · obtain ⟨-, -, hne, hstart⟩ := hroot
      obtain ⟨c, path, hrejoined⟩ := List.exists_cons_of_ne_nil hne
      rw [hpath, hrejoined, List.cons_append] at h
      obtain ⟨rfl, -⟩ := List.cons.inj h
      rw [hrejoined] at hstart
      cases path <;> cases hstart
    · rw [hpath, List.self_eq_append_right] at h
      exact absurd h (List.cons_ne_nil _ _)

end Url.SplitResult

namespace Url

theorem isKept_of_isQuoteChar {c : Char} (h : isQuoteChar c = true) : isKept c = true := by
  rw [isKept, Bool.not_eq_true', ← Bool.not_eq_true, List.contains_iff_mem]
  intro hmem
  rw [List.mem_cons, List.mem_cons, List.mem_singleton] at hmem
  rcases hmem with rfl | rfl | rfl <;> cases h

/-- The characters of a query string. -/
theorem mem_urlencode {pairs : List (String × String)} {c : Char} (h : c ∈ urlencode pairs) :
    c = '&' ∨ c = '=' ∨ isQuoteChar c = true := by
  induction pairs with
  | nil => cases h
  | cons pair pairs ih =>
    have hpair : c ∈ quotePlus pair.1.toList ++ '=' :: quotePlus pair.2.toList →
        c = '&' ∨ c = '=' ∨ isQuoteChar c = true := by
      intro hc
      rw [List.mem_append, List.mem_cons] at hc
      rcases hc with hc | rfl | hc
      · exact .inr (.inr (isQuoteChar_of_mem_quotePlus hc))
      · exact .inr (.inl rfl)
      · exact .inr (.inr (isQuoteChar_of_mem_quotePlus hc))
    cases pairs with
    | nil =>
      rw [urlencode, List.map_singleton, List.intercalate_singleton] at h
      exact hpair h
    | cons next pairs =>
      rw [urlencode, List.map_cons, List.map_cons, List.intercalate_cons_cons, List.mem_append,
        List.mem_append, List.mem_singleton] at h
      rcases h with (h | rfl) | h
      · exact hpair h
      · exact .inl rfl
      · exact ih h

end Url

namespace Broker

open Py Url

variable (unicode : Unicode)

/-- The target is the URL of the parts, its query with more pairs at the end. -/
def ExtendsQuery (parts : SplitResult) (params : List (String × String)) (target : String) : Prop :=
  ∃ parts', urlsplit unicode target = some parts' ∧ parts'.scheme = parts.scheme ∧
    parts'.netloc = parts.netloc ∧ parts'.path = parts.path ∧ parts'.fragment = parts.fragment ∧
    parseQsl parts'.query = parseQsl parts.query ++ params

/-- `geturl` neither drops a mark from the path nor puts a slash at its head. -/
def KeepsPath (parts : SplitResult) : Prop := ¬parts.HasEmptyParams ∧ ¬parts.IsRootless

instance (parts : SplitResult) : Decidable (KeepsPath parts) := inferInstanceAs (Decidable (_ ∧ _))

variable {unicode} {url : String} {parts : SplitResult}

theorem appendQuery_eq (splits : urlsplit unicode url = some parts) (params : List (String × String)) :
    appendQuery unicode url params =
      .ok (parts.requeried (urlencode (parseQsl parts.query ++ params))).geturl := by
  rw [appendQuery, urlparse_eq, splits, ← SplitResult.geturl_requeried]
  rfl

/-- The components of the URL that is built. -/
theorem urlsplit_requeried (splits : urlsplit unicode url = some parts) (absolute : parts.scheme ≠ [])
    (pairs : List (String × String)) :
    urlsplit unicode (parts.requeried (urlencode pairs)).geturl =
      some { parts.requeried (urlencode pairs) with
        path := (parts.requeried (urlencode pairs)).rootedPath } := by
  refine urlsplit_geturl (SplitResult.isSplit_requeried (isSplit_of_urlsplit splits absolute) ?_ ?_)
  · intro hc
    rcases mem_urlencode hc with h | h | h <;> cases h
  · intro c hc
    rcases mem_urlencode hc with rfl | rfl | h
    · rfl
    · rfl
    · exact isKept_of_isQuoteChar h

theorem extendsQuery_iff (splits : urlsplit unicode url = some parts) (absolute : parts.scheme ≠ [])
    (params : List (String × String)) :
    ExtendsQuery unicode parts params
        (parts.requeried (urlencode (parseQsl parts.query ++ params))).geturl ↔ KeepsPath parts := by
  have hsplit := urlsplit_requeried splits absolute (parseQsl parts.query ++ params)
  have hpath := parts.rootedPath_requeried_iff (urlencode (parseQsl parts.query ++ params))
  constructor
  · rintro ⟨parts', hparts', -, -, hkept, -, -⟩
    rw [hsplit] at hparts'
    obtain rfl := Option.some.inj hparts'
    exact hpath.1 hkept
  · intro hkeeps
    exact ⟨_, hsplit, rfl, rfl, hpath.2 hkeeps, rfl, parseQsl_urlencode _⟩

/-- The completion URL is the redirect URI with the code and the state at the end of its
    query exactly when `geturl` keeps the path, and the password branch redirects to no
    other. -/
theorem completion_extends_iff (splits : urlsplit unicode url = some parts)
    (absolute : parts.scheme ≠ []) (code state : String) :
    ∃ target, appendQuery unicode url [("code", code), ("state", state)] = .ok target ∧
      (ExtendsQuery unicode parts [("code", code), ("state", state)] target ↔ KeepsPath parts) ∧
      ∀ call : AuthorizeCall, call.request.redirectUri = url → call.state = state →
        ∀ location, completionResponse unicode call code = .completion location →
          location = target := by
  have happend := appendQuery_eq splits [("code", code), ("state", state)]
  refine ⟨_, happend, extendsQuery_iff splits absolute _, fun call huri hstate location h => ?_⟩
  rw [completionResponse, huri, hstate, happend] at h
  split at h
  · rename_i hok
    obtain rfl := Except.ok.inj hok
    exact (HttpResponse.completion.inj h).symm
  · cases h

/-- Pairs, a plus and a fragment are kept. -/
theorem completion_extends_query :
    ∃ target, appendQuery Unicode.ascii "https://canva.example/return?x=a+b&y=#top"
        [("code", "c&d"), ("state", "s%=")] = .ok target ∧
      ExtendsQuery Unicode.ascii ⟨"https".toList, "canva.example".toList, "/return".toList,
        "x=a+b&y=".toList, "top".toList⟩ [("code", "c&d"), ("state", "s%=")] target := by
  have hsplits : urlsplit Unicode.ascii "https://canva.example/return?x=a+b&y=#top" =
      some ⟨"https".toList, "canva.example".toList, "/return".toList, "x=a+b&y=".toList,
        "top".toList⟩ := by decide +kernel
  obtain ⟨target, happend, hextends, -⟩ :=
    completion_extends_iff hsplits (by decide) "c&d" "s%="
  exact ⟨target, happend, hextends.2 (by decide +kernel)⟩

/-- The mark of empty parameters is dropped from the path of a redirect URI. -/
theorem completion_drops_mark :
    ∃ parts, urlsplit Unicode.ascii "https://canva.example/return;" = some parts ∧
      parts.scheme = "https".toList ∧ parts.path = "/return;".toList ∧
      ∃ target, appendQuery Unicode.ascii "https://canva.example/return;"
          [("code", "c"), ("state", "s")] = .ok target ∧
        target = "https://canva.example/return?code=c&state=s" ∧
        ¬ExtendsQuery Unicode.ascii parts [("code", "c"), ("state", "s")] target := by
  have hsplits : urlsplit Unicode.ascii "https://canva.example/return;" =
      some ⟨"https".toList, "canva.example".toList, "/return;".toList, [], []⟩ := by decide +kernel
  refine ⟨_, hsplits, rfl, rfl, _, appendQuery_eq hsplits _, by decide +kernel, fun h => ?_⟩
  have hkeeps := (extendsQuery_iff hsplits (by decide) [("code", "c"), ("state", "s")]).1 h
  exact absurd hkeeps (by decide +kernel)

end Broker
