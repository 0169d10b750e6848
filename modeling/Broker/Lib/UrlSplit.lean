import Mathlib.Data.List.TakeWhile
import Broker.Lib.IpText
import Broker.Lib.Url

/-!
# The components of a URL

`urlsplit`, which splits a URL as `urlparse` does but leaves the parameters on the
path. A URL that is put together from components of a URL with a scheme is split into
them again (`urlsplit_geturl`).
-/

namespace Url

open Py

/-- The components that `urlsplit` finds. -/
structure SplitResult where
  scheme : List Char
  netloc : List Char
  path : List Char
  query : List Char
  fragment : List Char
  deriving DecidableEq, Repr

/-- `urlsplit`. -/
def urlsplit (unicode : Unicode) (url : String) : Option SplitResult :=
  let (scheme, url) := splitScheme (sanitize url.toList)
  let (netloc, url) := splitNetloc url
  let (url, _, fragment) := partition '#' url
  let (path, _, query) := partition '?' url
  if bracketsValid netloc && checkNetloc unicode netloc then
    some { scheme, netloc, path, query, fragment }
  else none

namespace SplitResult

variable (r : SplitResult)

/-- The path, without parameters, and the parameters. -/
def pathParams : List Char × List Char :=
  if usesParams.contains (String.ofList r.scheme) then splitParams r.path else (r.path, [])

/-- The components that `urlparse` finds. -/
def parsed : ParseResult :=
  ⟨r.scheme, r.netloc, r.pathParams.1, r.pathParams.2, r.query, r.fragment⟩

/-- The part of a URL between its scheme and its query. -/
def hierarchy : List Char :=
  if !r.netloc.isEmpty || (!r.scheme.isEmpty && usesNetloc.contains (String.ofList r.scheme)) ||
      startsWith r.path ['/', '/'] then
    '/' :: '/' :: (r.netloc ++
      if r.path.isEmpty || startsWith r.path ['/'] then r.path else '/' :: r.path)
  else r.path

/-- The URL with its last components. -/
def withQuery (url : List Char) : List Char :=
  let url := if r.query.isEmpty then url else url ++ '?' :: r.query
  if r.fragment.isEmpty then url else url ++ '#' :: r.fragment

/-- `geturl`. -/
def geturl : String :=
  String.ofList (r.withQuery (if r.scheme.isEmpty then r.hierarchy else r.scheme ++ ':' :: r.hierarchy))

end SplitResult

theorem urlparse_eq (unicode : Unicode) (url : String) :
    urlparse unicode url = (urlsplit unicode url).map SplitResult.parsed := by
  rw [urlparse, urlsplit]
  obtain ⟨scheme, rest⟩ := splitScheme (sanitize url.toList)
  dsimp only
  obtain ⟨netloc, rest⟩ := splitNetloc rest
  dsimp only
  obtain ⟨rest, -, fragment⟩ := partition '#' rest
  dsimp only
  obtain ⟨path, -, query⟩ := partition '?' rest
  dsimp only
  cases bracketsValid netloc && checkNetloc unicode netloc with
  | false => rfl
  | true =>
    rw [if_pos rfl, if_pos rfl]
    rfl

/-- The URL of parsed components, whose parameters are put back on the path. -/
theorem geturl_parsed (r : ParseResult) :
    r.geturl = (SplitResult.mk r.scheme r.netloc
      (if r.params.isEmpty then r.path else r.path ++ ';' :: r.params) r.query r.fragment).geturl :=
  rfl

/-! ## Components that are split -/

/-- A character that `sanitize` keeps. -/
def isKept (c : Char) : Bool := !(['\t', '\r', '\n'].contains c)

/-- Components as they are found in a URL that has a scheme. -/
structure SplitResult.IsSplit (unicode : Unicode) (r : SplitResult) : Prop where
  head : r.scheme.head?.any isLetter = true
  scheme : ∀ c ∈ r.scheme, isSchemeChar c = true
  lower : r.scheme.map Char.toLower = r.scheme
  netloc : ∀ c ∈ r.netloc, c ∉ ['/', '?', '#']
  path : ∀ c ∈ r.path, c ∉ ['?', '#']
  query : '#' ∉ r.query
  kept : ∀ c ∈ r.netloc ++ r.path ++ r.query ++ r.fragment, isKept c = true
  rooted : r.netloc ≠ [] → r.path = [] ∨ startsWith r.path ['/'] = true
  valid : (bracketsValid r.netloc && checkNetloc unicode r.netloc) = true

theorem sanitize_of_kept {s : List Char} (head : s.head?.any isLetter = true)
    (kept : ∀ c ∈ s, isKept c = true) : sanitize s = s := by
  have hdrop : (s.dropWhile fun c => decide (c.toNat ≤ 0x20)) = s := by
    cases s with
    | nil => rfl
    | cons c s =>
      refine List.dropWhile_cons_of_neg ?_
      rw [decide_eq_true_eq]
      intro hc
      have hletter : isLetter c = true := head
      rw [isLetter] at hletter
      simp only [Bool.or_eq_true, Bool.and_eq_true, decide_eq_true_eq, Char.le_def,
        UInt32.le_iff_toNat_le] at hletter
      change c.val.toNat ≤ 0x20 at hc
      rcases hletter with ⟨h, -⟩ | ⟨h, -⟩
      · have : ('a' : Char).val.toNat = 97 := rfl
        omega
      · have : ('A' : Char).val.toNat = 65 := rfl
        omega
  rw [sanitize, hdrop]
  exact List.filter_eq_self.2 kept

theorem splitScheme_append {scheme : List Char} (head : scheme.head?.any isLetter = true)
    (chars : ∀ c ∈ scheme, isSchemeChar c = true) (rest : List Char) :
    splitScheme (scheme ++ ':' :: rest) = (scheme.map Char.toLower, rest) := by
  have hcolon : ':' ∉ scheme := fun h => by cases chars ':' h
  rw [splitScheme, partition_append hcolon]
  dsimp only
  rw [head, List.all_eq_true.2 chars]
  rfl

/-- What follows an authority, and is no part of it. -/
theorem splitNetloc_of_rooted {netloc rest : List Char} (h : ∀ c ∈ netloc, c ∉ ['/', '?', '#'])
    (hrest : rest = [] ∨ ∃ c ∈ ['/', '?', '#'], rest.head? = some c) :
    splitNetloc ('/' :: '/' :: (netloc ++ rest)) = (netloc, rest) := by
  have hkeep : ∀ c ∈ netloc, (!(['/', '?', '#'].contains c)) = true := by
    intro c hc
    rw [Bool.not_eq_true', ← Bool.not_eq_true, List.contains_iff_mem]
    exact h c hc
  rw [splitNetloc, List.takeWhile_append_of_pos hkeep, List.dropWhile_append_of_pos hkeep]
  rcases hrest with rfl | ⟨c, hc, hhead⟩
  · rw [List.takeWhile_nil, List.dropWhile_nil, List.append_nil]
  · obtain ⟨rest, rfl⟩ : ∃ tail, rest = c :: tail := by
      cases rest with
      | nil => cases hhead
      | cons d tail =>
        obtain rfl := Option.some.inj hhead
        exact ⟨tail, rfl⟩
    have hstop : ¬(!(['/', '?', '#'].contains c)) = true := by
      rw [List.contains_iff_mem.2 hc]
      decide
    have htake : (c :: rest).takeWhile (fun a => !(['/', '?', '#'].contains a)) = [] :=
      List.takeWhile_cons_of_neg hstop
    have hdrop : (c :: rest).dropWhile (fun a => !(['/', '?', '#'].contains a)) = c :: rest :=
      List.dropWhile_cons_of_neg hstop
    rw [htake, hdrop, List.append_nil]

theorem isKept_of_mem_sanitize {s : List Char} {c : Char} (h : c ∈ sanitize s) : isKept c = true :=
  (List.mem_filter.1 h).2

/-- What the scheme of a URL is, when it has one. -/
theorem splitScheme_cases (url : List Char) :
    (splitScheme url).1 = [] ∨ ∃ scheme rest, url = scheme ++ ':' :: rest ∧
      splitScheme url = (scheme.map Char.toLower, rest) ∧ scheme.head?.any isLetter = true ∧
      ∀ c ∈ scheme, isSchemeChar c = true := by
  rcases partition_cases ':' url with ⟨hpart, -⟩ | ⟨scheme, rest, hpart, rfl, -⟩
  · rw [splitScheme, hpart]
    exact .inl rfl
  · cases hvalid : (scheme.head?.any isLetter) && scheme.all isSchemeChar with
    | false =>
      rw [splitScheme, hpart]
      dsimp only
      rw [hvalid]
      exact .inl rfl
    | true =>
      rw [Bool.and_eq_true, List.all_eq_true] at hvalid
      exact .inr ⟨scheme, rest, rfl, splitScheme_append hvalid.1 hvalid.2 rest, hvalid⟩

theorem toLower_of_isSchemeChar {c : Char} (h : isSchemeChar c = true) :
    isSchemeChar c.toLower = true ∧ (isLetter c = true → isLetter c.toLower = true) ∧
      c.toLower.toLower = c.toLower := by
  rcases Ip.toLower_cases c with hsame | ⟨n, hn, rfl⟩
  · rw [hsame]
    exact ⟨h, id, hsame⟩
  · have hupper : ∀ n < 26, isSchemeChar (Char.ofNat (0x41 + n)).toLower = true ∧
        isLetter (Char.ofNat (0x41 + n)).toLower = true ∧
        (Char.ofNat (0x41 + n)).toLower.toLower = (Char.ofNat (0x41 + n)).toLower := by
      decide +kernel
    obtain ⟨hscheme, hletter, htwice⟩ := hupper n hn
    exact ⟨hscheme, fun _ => hletter, htwice⟩

/-- The authority of a URL, and what follows it. -/
theorem splitNetloc_cases (url : List Char) :
    splitNetloc url = ([], url) ∨
      ∃ netloc rest, url = '/' :: '/' :: (netloc ++ rest) ∧ splitNetloc url = (netloc, rest) ∧
        (∀ c ∈ netloc, c ∉ ['/', '?', '#']) ∧
        (rest = [] ∨ ∃ c ∈ ['/', '?', '#'], rest.head? = some c) := by
  by_cases hurl : ∃ rest, url = '/' :: '/' :: rest
  · obtain ⟨rest, rfl⟩ := hurl
    refine .inr ⟨_, _, ?_, rfl, fun c hc hmem => ?_, ?_⟩
    · rw [List.takeWhile_append_dropWhile]
    · have hkept := List.mem_takeWhile_imp hc
      rw [List.contains_iff_mem.2 hmem] at hkept
      cases hkept
    · have hhead := List.head?_dropWhile_not (fun c => !(['/', '?', '#'].contains c)) rest
      cases hdrop : rest.dropWhile fun c => !(['/', '?', '#'].contains c) with
      | nil => exact .inl rfl
      | cons c tail =>
        rw [hdrop] at hhead
        have hstop : (!(['/', '?', '#'].contains c)) = false := hhead
        exact .inr ⟨c, List.contains_iff_mem.1 (by rwa [Bool.not_eq_false'] at hstop), rfl⟩
  · refine .inl ?_
    rw [splitNetloc]
    intro rest hrest
    exact hurl ⟨rest, hrest⟩

/-- What is before a delimiter, and what is after it. -/
theorem partition_parts (c : Char) (s : List Char) :
    c ∉ (partition c s).1 ∧ (partition c s).1.head? = s.head?.filter (fun d => decide (d ≠ c)) ∧
      ∀ d, d ∈ (partition c s).1 ∨ d ∈ (partition c s).2.2 → d ∈ s := by
  refine ⟨fun h => ?_, List.head?_takeWhile, fun d hd => ?_⟩
  · have hne : decide (c ≠ c) = true := List.mem_takeWhile_imp (p := fun d => decide (d ≠ c)) h
    exact of_decide_eq_true hne rfl
  · rcases hd with hd | hd
    · exact (List.takeWhile_sublist _).subset hd
    · exact (List.dropWhile_sublist _).subset (List.mem_of_mem_tail hd)

/-- A URL with a scheme is split into components of their kinds. -/
theorem isSplit_of_urlsplit {unicode : Unicode} {url : String} {r : SplitResult}
    (h : urlsplit unicode url = some r) (absolute : r.scheme ≠ []) : r.IsSplit unicode := by
  rw [urlsplit] at h
  have hkept : ∀ c ∈ sanitize url.toList, isKept c = true := fun c hc => isKept_of_mem_sanitize hc
  generalize sanitize url.toList = url' at h hkept
  dsimp only at h
  split_ifs at h with hvalid
  obtain rfl := Option.some.inj h
  rcases splitScheme_cases url' with hnone | ⟨scheme, rest, rfl, hsplit, head, chars⟩
  · exact absurd hnone absolute
  rw [hsplit] at hvalid ⊢
  dsimp only at hvalid ⊢
  -- The authority ends where a path, a query or a fragment starts.
  have hnetloc : (∀ c ∈ (splitNetloc rest).1, c ∉ ['/', '?', '#']) ∧
      (∀ c, c ∈ (splitNetloc rest).1 ∨ c ∈ (splitNetloc rest).2 → c ∈ rest) ∧
      ((splitNetloc rest).1 ≠ [] → (splitNetloc rest).2.head? = none ∨
        ∃ c ∈ ['/', '?', '#'], (splitNetloc rest).2.head? = some c) := by
    rcases splitNetloc_cases rest with hnone | ⟨netloc, rest', rfl, hsome, hchars, hrest⟩
    · rw [hnone]
      exact ⟨by simp, by simp, fun h => absurd rfl h⟩
    · rw [hsome]
      exact ⟨hchars, by grind, fun _ => hrest.imp_left fun h => by rw [h]; rfl⟩
  obtain ⟨hnetlocChars, hnetlocMem, hhead⟩ := hnetloc
  -- The fragment is split off before the query.
  obtain ⟨hfragment, hfragmentHead, hfragmentMem⟩ := partition_parts '#' (splitNetloc rest).2
  obtain ⟨hquery, hqueryHead, hqueryMem⟩ :=
    partition_parts '?' (partition '#' (splitNetloc rest).2).1
  refine
    { head := ?_
      scheme := ?_
      lower := ?_
      netloc := hnetlocChars
      path := fun c hc => ?_
      query := fun hc => hfragment (hqueryMem _ (.inr hc))
      kept := fun c hc => hkept c ?_
      rooted := fun hne => ?_
      valid := hvalid }
  · cases scheme with
    | nil => cases head
    | cons c scheme => exact (toLower_of_isSchemeChar (chars c List.mem_cons_self)).2.1 head
  · intro c hc
    obtain ⟨d, hd, rfl⟩ := List.mem_map.1 hc
    exact (toLower_of_isSchemeChar (chars d hd)).1
  · rw [List.map_map]
    exact List.map_congr_left fun c hc => (toLower_of_isSchemeChar (chars c hc)).2.2
  · rw [List.mem_cons, List.mem_singleton, not_or]
    constructor
    · rintro rfl
      exact hquery hc
    · rintro rfl
      exact hfragment (hqueryMem _ (.inl hc))
  · refine List.mem_append_right scheme (List.mem_cons_of_mem ':' (hnetlocMem c ?_))
    rw [List.mem_append, List.mem_append, List.mem_append] at hc
    rcases hc with ((hc | hc) | hc) | hc
    · exact .inl hc
    · exact .inr (hfragmentMem c (.inl (hqueryMem c (.inl hc))))
    · exact .inr (hfragmentMem c (.inl (hqueryMem c (.inr hc))))
    · exact .inr (hfragmentMem c (.inr hc))
  · rw [hfragmentHead] at hqueryHead
    generalize (partition '?' (partition '#' (splitNetloc rest).2).1).1 = path at hqueryHead
    rcases hhead hne with hnil | ⟨c, hc, hsome⟩
    · rw [hnil] at hqueryHead
      exact .inl (List.head?_eq_none_iff.1 hqueryHead)
    · rw [hsome] at hqueryHead
      rw [List.mem_cons, List.mem_cons, List.mem_singleton] at hc
      rcases hc with rfl | rfl | rfl
      · obtain ⟨path, rfl⟩ : ∃ tail, path = '/' :: tail := List.head?_eq_some_iff.1 hqueryHead
        exact .inr (by cases path <;> rfl)
      · exact .inl (List.head?_eq_none_iff.1 hqueryHead)
      · exact .inl (List.head?_eq_none_iff.1 hqueryHead)

namespace SplitResult

variable {unicode : Unicode} {r : SplitResult}

theorem withQuery_append (r : SplitResult) (pre url : List Char) :
    r.withQuery (pre ++ url) = pre ++ r.withQuery url := by
  rw [withQuery, withQuery]
  split_ifs <;> simp only [List.append_assoc]

/-- The last components are found after a path. -/
theorem partition_withQuery (h : r.IsSplit unicode) {path : List Char}
    (plain : ∀ c ∈ path, c ∉ ['?', '#']) :
    ∃ text flag flag', partition '#' (r.withQuery path) = (text, flag, r.fragment) ∧
      partition '?' text = (path, flag', r.query) := by
  have hmark : '?' ∉ path := fun hc => plain '?' hc (by decide)
  have hhash : '#' ∉ path := fun hc => plain '#' hc (by decide)
  have hquery : ∃ text flag, (if r.query.isEmpty then path else path ++ '?' :: r.query) = text ∧
      '#' ∉ text ∧ partition '?' text = (path, flag, r.query) := by
    cases hq : r.query with
    | nil => exact ⟨path, false, rfl, hhash, partition_of_notMem hmark⟩
    | cons c query =>
      refine ⟨_, true, rfl, ?_, partition_append hmark _⟩
      rw [List.isEmpty_cons, if_neg Bool.false_ne_true, ← hq, List.mem_append, List.mem_cons, not_or,
        not_or]
      exact ⟨hhash, by decide, h.query⟩
  obtain ⟨text, flag', htext, hfree, hpart⟩ := hquery
  rw [withQuery, htext]
  cases hf : r.fragment with
  | nil => exact ⟨text, false, flag', partition_of_notMem hfree, hpart⟩
  | cons c fragment => exact ⟨text, true, flag', partition_append hfree _, hpart⟩

/-- What begins with the last components begins with a delimiter. -/
theorem head_withQuery (r : SplitResult) {path : List Char}
    (rooted : path = [] ∨ startsWith path ['/'] = true) :
    r.withQuery path = [] ∨ ∃ c ∈ ['/', '?', '#'], (r.withQuery path).head? = some c := by
  rcases rooted with rfl | hroot
  · rw [withQuery]
    cases r.query with
    | nil =>
      cases r.fragment with
      | nil => exact .inl rfl
      | cons _ _ => exact .inr ⟨'#', by decide, rfl⟩
    | cons _ _ =>
      refine .inr ⟨'?', by decide, ?_⟩
      rw [List.isEmpty_cons, if_neg Bool.false_ne_true]
      split_ifs <;> rfl
  · obtain ⟨path, rfl⟩ : ∃ tail, path = '/' :: tail := by
      cases path with
      | nil => cases hroot
      | cons c tail =>
        have hc : ('/' == c) = true := by simpa [startsWith] using hroot
        exact ⟨tail, by rw [← beq_iff_eq.1 hc]⟩
    refine .inr ⟨'/', by decide, ?_⟩
    have happend := r.withQuery_append ['/'] path
    rw [List.singleton_append] at happend
    rw [happend]
    rfl

/-- The path, with the slash that `geturl` puts at its head. -/
def rootedPath (r : SplitResult) : List Char :=
  if r.netloc = [] ∧ usesNetloc.contains (String.ofList r.scheme) = true ∧ r.path ≠ [] ∧
    startsWith r.path ['/'] = false then '/' :: r.path else r.path

theorem startsWith_of_slashes {path : List Char} (h : startsWith path ['/', '/'] = true) :
    startsWith path ['/'] = true := by
  rcases path with _ | ⟨c, _ | ⟨d, path⟩⟩
  · cases h
  · simp [startsWith] at h
  · simp [startsWith] at h ⊢
    exact h.1

/-- The last components begin with no slash. -/
theorem withQuery_slashes {r : SplitResult} {path rest : List Char}
    (h : r.withQuery path = '/' :: '/' :: rest) : startsWith path ['/', '/'] = true := by
  have hnil : ∀ rest, r.withQuery [] ≠ '/' :: rest := by
    intro rest
    rw [withQuery]
    cases r.query with
    | nil =>
      cases r.fragment with
      | nil => exact fun h => by cases h
      | cons _ _ => exact fun h => by cases h
    | cons _ _ =>
      rw [List.isEmpty_cons, if_neg Bool.false_ne_true]
      split_ifs <;> exact fun h => by cases h
  rcases path with _ | ⟨c, _ | ⟨d, path⟩⟩
  · exact absurd h (hnil _)
  · have happend := r.withQuery_append [c] []
    rw [List.append_nil, h] at happend
    obtain ⟨-, hrest⟩ := List.cons.inj happend
    exact absurd hrest.symm (hnil _)
  · have happend := r.withQuery_append [c, d] path
    rw [List.cons_append, List.cons_append, List.nil_append, h] at happend
    obtain ⟨rfl, hrest⟩ := List.cons.inj happend
    obtain ⟨rfl, -⟩ := List.cons.inj hrest
    cases path <;> rfl

/-- A URL that was split has a scheme. -/
theorem exists_scheme (h : r.IsSplit unicode) : ∃ c scheme, r.scheme = c :: scheme := by
  cases hs : r.scheme with
  | nil =>
    have hhead := h.head
    rw [hs] at hhead
    cases hhead
  | cons c scheme => exact ⟨c, scheme, rfl⟩

/-- The authority and the path are found again. -/
theorem splitNetloc_hierarchy (h : r.IsSplit unicode) :
    splitNetloc (r.withQuery r.hierarchy) = (r.netloc, r.withQuery r.rootedPath) := by
  obtain ⟨c, scheme, hscheme⟩ := exists_scheme h
  have hempty : r.scheme.isEmpty = false := by rw [hscheme, List.isEmpty_cons]
  rw [hierarchy, hempty, Bool.not_false, Bool.true_and]
  -- `geturl` writes two slashes before an authority, and for schemes that have one; a path
  -- that starts with two would be read as an authority without them.
  by_cases hslashes : (!r.netloc.isEmpty || usesNetloc.contains (String.ofList r.scheme) ||
      startsWith r.path ['/', '/']) = true
  · have hpath : (if (r.path.isEmpty || startsWith r.path ['/']) = true then r.path
        else '/' :: r.path) = r.rootedPath := by
      rw [rootedPath]
      by_cases hroot : (r.path.isEmpty || startsWith r.path ['/']) = true
      · rw [if_pos hroot, if_neg]
        rintro ⟨-, -, hne, hno⟩
        rw [hno, Bool.or_false, List.isEmpty_iff] at hroot
        exact hne hroot
      · rw [if_neg hroot]
        rw [Bool.not_eq_true, Bool.or_eq_false_iff, List.isEmpty_eq_false_iff] at hroot
        have hnetloc : r.netloc = [] := by
          by_contra hne
          rcases h.rooted hne with hnil | hstart
          · exact hroot.1 hnil
          · rw [hroot.2] at hstart
            cases hstart
        have hdouble : startsWith r.path ['/', '/'] = false := by
          rw [← Bool.not_eq_true]
          intro hstart
          rw [startsWith_of_slashes hstart] at hroot
          exact Bool.false_ne_true hroot.2.symm
        rw [hnetloc, hdouble, List.isEmpty_nil, Bool.not_true, Bool.false_or, Bool.or_false] at hslashes
        rw [if_pos ⟨hnetloc, hslashes, hroot⟩]
    have hrooted : r.rootedPath = [] ∨ startsWith r.rootedPath ['/'] = true := by
      rw [← hpath]
      by_cases hroot : (r.path.isEmpty || startsWith r.path ['/']) = true
      · rw [if_pos hroot]
        rwa [Bool.or_eq_true, List.isEmpty_iff] at hroot
      · rw [if_neg hroot]
        exact .inr (by cases r.path <;> rfl)
    rw [if_pos hslashes, hpath]
    have happend := r.withQuery_append ('/' :: '/' :: r.netloc) r.rootedPath
    rw [List.cons_append, List.cons_append] at happend
    rw [happend]
    exact splitNetloc_of_rooted h.netloc (r.head_withQuery hrooted)
  · rw [if_neg hslashes]
    rw [Bool.not_eq_true, Bool.or_eq_false_iff, Bool.or_eq_false_iff, Bool.not_eq_false',
      List.isEmpty_iff] at hslashes
    obtain ⟨⟨hnetloc, huses⟩, hdouble⟩ := hslashes
    have hpath : r.rootedPath = r.path := if_neg fun hroot => by
      rw [huses] at hroot
      exact Bool.false_ne_true hroot.2.1
    rw [hpath, hnetloc, splitNetloc]
    intro rest hrest
    rw [withQuery_slashes hrest] at hdouble
    cases hdouble

theorem isKept_of_mem_withQuery (h : r.IsSplit unicode) {url : List Char}
    (kept : ∀ c ∈ url, isKept c = true) : ∀ c ∈ r.withQuery url, isKept c = true := by
  have hquery : ∀ c ∈ r.query, isKept c = true := fun c hc => h.kept c (by simp [hc])
  have hfragment : ∀ c ∈ r.fragment, isKept c = true := fun c hc => h.kept c (by simp [hc])
  have hmark : isKept '?' = true := rfl
  have hhash : isKept '#' = true := rfl
  rw [withQuery]
  split_ifs
  · exact kept
  · grind
  · grind
  · grind

theorem isKept_of_isSchemeChar {c : Char} (h : isSchemeChar c = true) : isKept c = true := by
  rw [isKept, Bool.not_eq_true', ← Bool.not_eq_true, List.contains_iff_mem]
  intro hmem
  rw [List.mem_cons, List.mem_cons, List.mem_singleton] at hmem
  rcases hmem with rfl | rfl | rfl <;> cases h

theorem isKept_of_mem_hierarchy (h : r.IsSplit unicode) : ∀ c ∈ r.hierarchy, isKept c = true := by
  have hnetloc : ∀ c ∈ r.netloc, isKept c = true := fun c hc => h.kept c (by simp [hc])
  have hpath : ∀ c ∈ r.path, isKept c = true := fun c hc => h.kept c (by simp [hc])
  have hslash : isKept '/' = true := rfl
  rw [hierarchy]
  split_ifs
  · grind
  · grind
  · exact hpath

end SplitResult

/-- Components of a URL with a scheme are found again in the URL that is put together
    from them, the path with a slash at its head where one is put there. -/
theorem urlsplit_geturl {unicode : Unicode} {r : SplitResult} (h : r.IsSplit unicode) :
    urlsplit unicode r.geturl = some { r with path := r.rootedPath } := by
  obtain ⟨c, scheme, hscheme⟩ := SplitResult.exists_scheme h
  have htext : r.withQuery (r.scheme ++ ':' :: r.hierarchy) =
      r.scheme ++ ':' :: r.withQuery r.hierarchy := by
    have happend := r.withQuery_append (r.scheme ++ [':']) r.hierarchy
    rwa [List.append_assoc, List.append_assoc, List.singleton_append, List.singleton_append] at happend
  -- Every character written is one that `urlsplit` keeps.
  have hsanitize : sanitize (r.scheme ++ ':' :: r.withQuery r.hierarchy) =
      r.scheme ++ ':' :: r.withQuery r.hierarchy := by
    refine sanitize_of_kept ?_ ?_
    · have hhead := h.head
      rw [hscheme] at hhead ⊢
      exact hhead
    · rw [← htext]
      refine SplitResult.isKept_of_mem_withQuery h fun c hc => ?_
      rw [List.mem_append, List.mem_cons] at hc
      rcases hc with hc | rfl | hc
      · exact SplitResult.isKept_of_isSchemeChar (h.scheme c hc)
      · rfl
      · exact SplitResult.isKept_of_mem_hierarchy h c hc
  -- The path holds neither delimiter, so query and fragment are cut where they were.
  have hplain : ∀ c ∈ r.rootedPath, c ∉ ['?', '#'] := by
    intro c hc
    rw [SplitResult.rootedPath] at hc
    split_ifs at hc
    · rcases List.mem_cons.1 hc with rfl | hc
      · decide
      · exact h.path c hc
    · exact h.path c hc
  obtain ⟨text, flag, flag', hfragment, hquery⟩ := SplitResult.partition_withQuery h hplain
  rw [urlsplit, SplitResult.geturl, String.toList_ofList, hscheme, List.isEmpty_cons,
    if_neg Bool.false_ne_true, ← hscheme, htext, hsanitize, splitScheme_append h.head h.scheme, h.lower]
  dsimp only
  rw [SplitResult.splitNetloc_hierarchy h]
  dsimp only
  rw [hfragment]
  dsimp only
  rw [hquery]
  dsimp only
  rw [if_pos h.valid]

end Url
