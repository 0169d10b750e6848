import Mathlib.Data.List.DropRight
import Broker.Lib.Url
import Broker.Lib.IpText

/-!
# Authorities

The URLs of the web that are a scheme and an authority, and maybe a path: how
they are parsed (`urlparse_web`), what parsing makes sure of (`netloc_of_urlparse`),
and the host of an authority without user information, in brackets or not.
-/

namespace Url

open Py

variable {unicode : Unicode}

/-- The schemes of the web. -/
def IsWeb (scheme : List Char) : Prop := scheme = "http".toList ∨ scheme = "https".toList

/-- A character of an authority: no delimiter, and no control that is removed. -/
def isNetlocChar (c : Char) : Bool := !(['/', '?', '#', '\t', '\r', '\n'].contains c)

/-- An authority that parses. -/
structure IsNetloc (unicode : Unicode) (netloc : List Char) : Prop where
  ne_nil : netloc ≠ []
  chars : ∀ c ∈ netloc, isNetlocChar c = true
  brackets : bracketsValid netloc = true
  check : checkNetloc unicode netloc = true

/-- The URL of a scheme, an authority and a path. -/
def web (scheme netloc path : List Char) : String :=
  String.ofList (scheme ++ "://".toList ++ netloc ++ path)

theorem sanitize_web {scheme rest : List Char} (hscheme : IsWeb scheme) :
    sanitize (scheme ++ "://".toList ++ rest) =
      scheme ++ "://".toList ++ rest.filter fun c => !(['\t', '\r', '\n'].contains c) := by
  rcases hscheme with rfl | rfl <;> rfl

theorem splitScheme_web {scheme rest : List Char} (hscheme : IsWeb scheme) :
    splitScheme (scheme ++ "://".toList ++ rest) = (scheme, '/' :: '/' :: rest) := by
  rcases hscheme with rfl | rfl <;> rfl

/-- A path that is all of what follows the authority. -/
structure IsPlainPath (path : List Char) : Prop where
  head : path = [] ∨ path.head? = some '/'
  chars : ∀ c ∈ path, c ∉ ['?', '#', ';', '\t', '\r', '\n']

theorem splitNetloc_slashes (rest : List Char) :
    splitNetloc ('/' :: '/' :: rest) =
      (rest.takeWhile fun c => !(['/', '?', '#'].contains c),
        rest.dropWhile fun c => !(['/', '?', '#'].contains c)) := rfl

theorem splitNetloc_append {netloc path : List Char} (h : ∀ c ∈ netloc, isNetlocChar c = true)
    (hpath : IsPlainPath path) : splitNetloc ('/' :: '/' :: (netloc ++ path)) = (netloc, path) := by
  have hkeep : ∀ c ∈ netloc, (!(['/', '?', '#'].contains c)) = true := by
    intro c hc
    have hplain := h c hc
    simp only [isNetlocChar, List.contains_cons, List.contains_nil, Bool.or_false, Bool.not_or,
      Bool.and_eq_true] at hplain ⊢
    exact ⟨hplain.1, hplain.2.1, hplain.2.2.1⟩
  rw [splitNetloc_slashes, List.takeWhile_append_of_pos hkeep, List.dropWhile_append_of_pos hkeep]
  cases path with
  | nil => rw [List.takeWhile_nil, List.dropWhile_nil, List.append_nil]
  | cons c path =>
    rcases hpath.head with hnil | hhead
    · cases hnil
    · obtain rfl := Option.some.inj hhead
      rw [List.takeWhile_cons_of_neg (by decide), List.dropWhile_cons_of_neg (by decide),
        List.append_nil]

theorem mem_rpartition {c d : Char} {s : List Char} (h : d ∈ (rpartition c s).2.2) : d ∈ s := by
  rw [rpartition] at h
  rcases partition_cases c s.reverse with ⟨hparts, -⟩ | ⟨pre, post, hparts, hsplit, -⟩
  · rwa [hparts] at h
  · rw [hparts] at h
    rw [← List.mem_reverse, hsplit]
    exact List.mem_append_left _ (List.mem_reverse.1 h)

theorem splitParams_of_plain {path : List Char} (h : IsPlainPath path) :
    splitParams path = (path, []) := by
  have hlast : ';' ∉ (rpartition '/' path).2.2 :=
    fun hmem => h.chars ';' (mem_rpartition hmem) (by decide)
  rw [splitParams]
  dsimp only
  rw [partition_of_notMem hlast]

/-- A scheme of the web, an authority and a path are parsed as such. -/
theorem urlparse_web {scheme netloc path : List Char} (hscheme : IsWeb scheme)
    (h : IsNetloc unicode netloc) (hpath : IsPlainPath path) :
    urlparse unicode (web scheme netloc path) = some ⟨scheme, netloc, path, [], [], []⟩ := by
  -- Nothing is removed, and no delimiter stands in the path.
  have hfilter : (netloc ++ path).filter (fun c => !(['\t', '\r', '\n'].contains c)) =
      netloc ++ path := by
    rw [List.filter_eq_self]
    intro c hc
    rcases List.mem_append.1 hc with hc | hc
    · have hplain := h.chars c hc
      simp only [isNetlocChar, List.contains_cons, List.contains_nil, Bool.or_false, Bool.not_or,
        Bool.and_eq_true] at hplain ⊢
      exact hplain.2.2.2
    · have hplain := hpath.chars c hc
      simp only [List.mem_cons, List.not_mem_nil, or_false, not_or] at hplain
      simp [hplain]
  have hfragment : '#' ∉ path := fun hc => hpath.chars '#' hc (by decide)
  have hquery : '?' ∉ path := fun hc => hpath.chars '?' hc (by decide)
  unfold urlparse web
  rw [String.toList_ofList, List.append_assoc _ netloc, sanitize_web hscheme, hfilter,
    splitScheme_web hscheme]
  dsimp only
  rw [splitNetloc_append h.chars hpath]
  dsimp only
  rw [partition_of_notMem hfragment]
  dsimp only
  rw [partition_of_notMem hquery]
  dsimp only
  rw [h.brackets, h.check, splitParams_of_plain hpath, Bool.and_self, if_pos rfl]
  split_ifs <;> rfl

/-- What parsing a URL that begins with a scheme of the web makes sure of. -/
theorem parts_of_urlparse {scheme rest : List Char} {r : ParseResult} (hscheme : IsWeb scheme)
    (h : urlparse unicode (String.ofList (scheme ++ "://".toList ++ rest)) = some r) :
    r.scheme = scheme ∧
      r.netloc = (rest.filter fun c => !(['\t', '\r', '\n'].contains c)).takeWhile
        (fun c => !(['/', '?', '#'].contains c)) ∧
      bracketsValid r.netloc = true ∧ checkNetloc unicode r.netloc = true := by
  rw [urlparse, String.toList_ofList, sanitize_web hscheme, splitScheme_web hscheme] at h
  dsimp only at h
  rw [splitNetloc_slashes] at h
  dsimp only at h
  by_cases hvalid : (bracketsValid ((rest.filter fun c => !(['\t', '\r', '\n'].contains c)).takeWhile
        (fun c => !(['/', '?', '#'].contains c))) &&
      checkNetloc unicode ((rest.filter fun c => !(['\t', '\r', '\n'].contains c)).takeWhile
        (fun c => !(['/', '?', '#'].contains c)))) = true
  · rw [if_pos hvalid] at h
    obtain rfl := Option.some.inj h
    rw [Bool.and_eq_true] at hvalid
    exact ⟨rfl, rfl, hvalid⟩
  · rw [if_neg hvalid] at h
    cases h

theorem netloc_of_urlparse {scheme rest : List Char} {r : ParseResult} (hscheme : IsWeb scheme)
    (h : urlparse unicode (String.ofList (scheme ++ "://".toList ++ rest)) = some r)
    (hne : r.netloc ≠ []) : r.scheme = scheme ∧ IsNetloc unicode r.netloc := by
  obtain ⟨hs, hnetloc, hbrackets, hcheck⟩ := parts_of_urlparse hscheme h
  refine ⟨hs, hne, ?_, hbrackets, hcheck⟩
  intro c hc
  rw [hnetloc] at hc
  have hdelim := List.mem_takeWhile_imp hc
  have hctrl := (List.mem_filter.1 ((List.takeWhile_sublist _).subset hc)).2
  simp only [isNetlocChar, List.contains_cons, List.contains_nil, Bool.or_false, Bool.not_or,
    Bool.and_eq_true] at hdelim hctrl ⊢
  exact ⟨hdelim.1, hdelim.2.1, hdelim.2.2, hctrl⟩

/-- The characters of an authority are all of it. -/
theorem netloc_eq_of_urlparse {scheme netloc : List Char} {r : ParseResult} (hscheme : IsWeb scheme)
    (hchars : ∀ c ∈ netloc, isNetlocChar c = true)
    (h : urlparse unicode (String.ofList (scheme ++ "://".toList ++ netloc)) = some r) :
    r.netloc = netloc := by
  have hchars' : ∀ c ∈ netloc, (!(['/', '?', '#'].contains c)) = true ∧
      (!(['\t', '\r', '\n'].contains c)) = true := by
    intro c hc
    have hchar := hchars c hc
    simp only [isNetlocChar, List.contains_cons, List.contains_nil, Bool.or_false, Bool.not_or,
      Bool.and_eq_true] at hchar ⊢
    exact ⟨⟨hchar.1, hchar.2.1, hchar.2.2.1⟩, hchar.2.2.2⟩
  rw [(parts_of_urlparse hscheme h).2.1, List.filter_eq_self.2 fun c hc => (hchars' c hc).2,
    List.takeWhile_eq_self_iff.2 fun c hc => (hchars' c hc).1]

/-! ## Hosts -/

/-- The parts of an authority alone. -/
def authority (scheme netloc path : List Char) : ParseResult := ⟨scheme, netloc, path, [], [], []⟩

theorem username_eq_none_iff (r : ParseResult) : r.username = none ↔ '@' ∉ r.netloc := by
  unfold ParseResult.username ParseResult.userinfo rpartition
  rcases partition_cases '@' r.netloc.reverse with ⟨hparts, hfree⟩ | ⟨pre, post, hparts, hsplit, -⟩
  · rw [hparts]
    simpa using hfree
  · rw [hparts]
    have hmem : '@' ∈ r.netloc := by
      rw [← List.mem_reverse, hsplit]
      simp
    simpa using hmem

theorem hostinfo_plain {r : ParseResult} (hat : '@' ∉ r.netloc) (hopen : '[' ∉ r.netloc) :
    r.hostinfo = ((partition ':' r.netloc).1, (partition ':' r.netloc).2.2) := by
  rw [ParseResult.hostinfo]
  dsimp only
  rw [rpartition_of_notMem hat]
  dsimp only
  rw [partition_of_notMem hopen]

theorem hostinfo_bracketed {r : ParseResult} {host port : List Char} (hat : '@' ∉ r.netloc)
    (hnetloc : r.netloc = '[' :: host ++ ']' :: port) (hhost : ']' ∉ host) :
    r.hostinfo = (host, (partition ':' port).2.2) := by
  have hopen : partition '[' r.netloc = ([], true, host ++ ']' :: port) := by
    rw [hnetloc]
    exact partition_append List.not_mem_nil (host ++ ']' :: port)
  rw [ParseResult.hostinfo]
  dsimp only
  rw [rpartition_of_notMem hat]
  dsimp only
  rw [hopen]
  dsimp only
  rw [partition_append hhost]

/-- An authority without user information has no bracket in it, or has its host
    in brackets. -/
theorem brackets_cases {netloc : List Char} (hbrackets : bracketsValid netloc = true)
    (hat : '@' ∉ netloc) :
    '[' ∉ netloc ∧ ']' ∉ netloc ∨
    ∃ host port, netloc = '[' :: host ++ ']' :: port ∧ ']' ∉ host ∧
      checkBracketedHost host = true ∧ (port = [] ∨ port.head? = some ':') := by
  have hinfo : rpartition '@' netloc = ([], false, netloc) := rpartition_of_notMem hat
  rw [bracketsValid] at hbrackets
  split at hbrackets
  · rename_i hopen hclose
    exact .inl ⟨by simpa using hopen, by simpa using hclose⟩
  · rename_i hopen hclose
    have hclose' : ']' ∈ netloc := by simpa using hclose
    have hopen' : '[' ∈ netloc := by simpa using hopen
    rw [checkBracketedNetloc] at hbrackets
    dsimp only at hbrackets
    rw [hinfo] at hbrackets
    dsimp only at hbrackets
    rcases partition_cases '[' netloc with ⟨-, hfree⟩ | ⟨before, bracketed, hparts, hsplit, -⟩
    · exact absurd hopen' hfree
    · rw [hparts] at hbrackets
      dsimp only at hbrackets
      rw [Bool.and_eq_true, Bool.and_eq_true, List.isEmpty_iff] at hbrackets
      -- Nothing stands before the bracket, and only a port after it.
      obtain ⟨⟨rfl, hport⟩, hhost⟩ := hbrackets
      rcases partition_cases ']' bracketed with ⟨-, hfree⟩ | ⟨host, port, hparts', hsplit', hhostfree⟩
      · rw [hsplit] at hclose'
        simp [hfree] at hclose'
      · rw [hparts'] at hport hhost
        refine .inr ⟨host, port, by rw [hsplit, hsplit']; rfl, hhostfree, hhost, ?_⟩
        cases port with
        | nil => exact .inl rfl
        | cons c port =>
          have hc : (':' == c) = true := by simpa [startsWith] using hport
          exact .inr (by rw [List.head?_cons, ← beq_iff_eq.1 hc])
  · cases hbrackets

theorem rdropWhile_append_cons {p : Char → Bool} {c : Char} (hc : p c = false) (pre post : List Char) :
    (pre ++ c :: post).rdropWhile p = pre ++ c :: post.rdropWhile p := by
  induction post using List.reverseRecOn with
  | nil => rw [List.rdropWhile_concat, hc, if_neg Bool.false_ne_true, List.rdropWhile_nil]
  | append_singleton post d ih =>
    rw [← List.cons_append, ← List.append_assoc, List.rdropWhile_concat, List.rdropWhile_concat, ih]
    split_ifs
    · rfl
    · rw [List.append_assoc, List.cons_append]

/-- Without what it ends in, an authority has the same host, unless its host is
    all of it. -/
theorem hostinfo_rdropWhile {p : Char → Bool} (hcolon : p ':' = false) (hclose : p ']' = false)
    {scheme netloc path : List Char} (hbrackets : bracketsValid netloc = true) (hat : '@' ∉ netloc) :
    (authority scheme (netloc.rdropWhile p) path).hostinfo.1 =
        (authority scheme netloc path).hostinfo.1 ∨
      '[' ∉ netloc ∧ ':' ∉ netloc := by
  have hat' : '@' ∉ netloc.rdropWhile p := fun hmem => hat ((List.rdropWhile_prefix p _).subset hmem)
  rcases brackets_cases hbrackets hat with ⟨hopen, -⟩ | ⟨host, port, hnetloc, hhost, -, -⟩
  · by_cases hmem : ':' ∈ netloc
    · left
      obtain ⟨pre, post, hsplit, hfree⟩ := List.eq_append_cons_of_mem hmem
      have hopen' : '[' ∉ netloc.rdropWhile p :=
        fun hmem => hopen ((List.rdropWhile_prefix p _).subset hmem)
      rw [hostinfo_plain hat' hopen', hostinfo_plain hat hopen]
      dsimp only [authority]
      rw [hsplit, rdropWhile_append_cons hcolon, partition_append hfree, partition_append hfree]
    · exact .inr ⟨hopen, hmem⟩
  · left
    have hnetloc' : netloc.rdropWhile p = '[' :: host ++ ']' :: port.rdropWhile p := by
      rw [hnetloc, rdropWhile_append_cons hclose]
    rw [hostinfo_bracketed hat' hnetloc' hhost, hostinfo_bracketed hat hnetloc hhost]

/-! ## Authorities without what they end in -/

theorem partition_rdropWhile {p : Char → Bool} {c : Char} (hc : p c = false) (s : List Char) :
    partition c s = (s, false, []) ∧ partition c (s.rdropWhile p) = (s.rdropWhile p, false, []) ∨
      ∃ pre post, partition c s = (pre, true, post) ∧
        partition c (s.rdropWhile p) = (pre, true, post.rdropWhile p) := by
  rcases partition_cases c s with ⟨hparts, hfree⟩ | ⟨pre, post, hparts, rfl, hfree⟩
  · refine .inl ⟨hparts, partition_of_notMem fun hmem => hfree ?_⟩
    exact (List.rdropWhile_prefix p s).subset hmem
  · refine .inr ⟨pre, post, hparts, ?_⟩
    rw [rdropWhile_append_cons hc, partition_append hfree]

theorem rpartition_append {c : Char} {post : List Char} (h : c ∉ post) (pre : List Char) :
    rpartition c (pre ++ c :: post) = (pre, true, post) := by
  have hreverse : (pre ++ c :: post).reverse = post.reverse ++ c :: pre.reverse := by simp
  rw [rpartition, hreverse, partition_append (by rwa [List.mem_reverse])]
  dsimp only
  rw [List.reverse_reverse, List.reverse_reverse]

theorem rpartition_rdropWhile {p : Char → Bool} {c : Char} (hc : p c = false) (s : List Char) :
    (rpartition c (s.rdropWhile p)).2.2 = (rpartition c s).2.2.rdropWhile p := by
  by_cases hmem : c ∈ s
  · obtain ⟨post, pre, hsplit, hfree⟩ := List.eq_append_cons_of_mem (List.mem_reverse.2 hmem)
    have hs : s = pre.reverse ++ c :: post.reverse := by
      rw [← List.reverse_reverse s, hsplit]
      simp
    have hpost : c ∉ post.reverse := by rwa [List.mem_reverse]
    have hpost' : c ∉ post.reverse.rdropWhile p :=
      fun h => hpost ((List.rdropWhile_prefix p _).subset h)
    rw [hs, rdropWhile_append_cons hc, rpartition_append hpost', rpartition_append hpost]
  · have hmem' : c ∉ s.rdropWhile p := fun h => hmem ((List.rdropWhile_prefix p s).subset h)
    rw [rpartition_of_notMem hmem, rpartition_of_notMem hmem']

/-- Without what it ends in, an authority has the same host, and a port without it, or it has
    no port, and a host without it. -/
theorem hostinfo_rdropWhile_cases {p : Char → Bool} (hat : p '@' = false) (hopen : p '[' = false)
    (hclose : p ']' = false) (hcolon : p ':' = false) (scheme netloc path : List Char) :
    (authority scheme (netloc.rdropWhile p) path).hostinfo =
        ((authority scheme netloc path).hostinfo.1,
          (authority scheme netloc path).hostinfo.2.rdropWhile p) ∨
      (authority scheme netloc path).hostinfo.2 = [] ∧
        (authority scheme (netloc.rdropWhile p) path).hostinfo =
          ((authority scheme netloc path).hostinfo.1.rdropWhile p, []) := by
  have hinfo := rpartition_rdropWhile hat netloc
  simp only [ParseResult.hostinfo, authority]
  rw [hinfo]
  generalize (rpartition '@' netloc).2.2 = info
  -- What is dropped belongs to the port if there is one, and else to the host.
  rcases partition_rdropWhile hopen info with ⟨hparts, hparts'⟩ | ⟨_, bracketed, hparts, hparts'⟩
  · rw [hparts, hparts']
    dsimp only
    rcases partition_rdropWhile hcolon info with ⟨hport, hport'⟩ | ⟨host, port, hport, hport'⟩
    · rw [hport, hport']
      exact .inr ⟨rfl, rfl⟩
    · rw [hport, hport']
      exact .inl rfl
  · rw [hparts, hparts']
    dsimp only
    rcases partition_rdropWhile hclose bracketed with ⟨hhost, hhost'⟩ | ⟨host, after, hhost, hhost'⟩
    · rw [hhost, hhost']
      exact .inr ⟨rfl, rfl⟩
    · rw [hhost, hhost']
      dsimp only
      rcases partition_rdropWhile hcolon after with ⟨hport, hport'⟩ | ⟨_, port, hport, hport'⟩
      · rw [hport, hport']
        exact .inl rfl
      · rw [hport, hport']
        exact .inl rfl

/-- A URL whose authority is valid parses. -/
theorem exists_urlparse {scheme rest netloc : List Char} (hscheme : IsWeb scheme)
    (hnetloc : (rest.filter fun c => !(['\t', '\r', '\n'].contains c)).takeWhile
      (fun c => !(['/', '?', '#'].contains c)) = netloc)
    (hbrackets : bracketsValid netloc = true) (hcheck : checkNetloc unicode netloc = true) :
    ∃ r, urlparse unicode (String.ofList (scheme ++ "://".toList ++ rest)) = some r ∧
      r.netloc = netloc := by
  rw [urlparse, String.toList_ofList, sanitize_web hscheme, splitScheme_web hscheme]
  dsimp only
  rw [splitNetloc_slashes]
  dsimp only
  rw [hnetloc, hbrackets, hcheck]
  exact ⟨_, rfl, rfl⟩

end Url
