import Mathlib.Data.List.GetD
import Mathlib.Data.List.Induction
import Mathlib.Tactic.Ring
import Broker.Lib.Ip

/-!
# IP addresses read back

An address that was parsed is a number of 32 or 128 bits, with a scope that is
neither empty nor holds a delimiter (`valid_of_address`). Its compressed text
parses back to it (`address_compressed`), and has only hexadecimal digits,
delimiters and the characters of the scope in it (`mem_compressed`).
-/

namespace Ip

open Py

/-! ## Lists of digits -/

/-- The number of digits in a base. -/
def value (b : ℕ) (ds : List ℕ) : ℕ := ds.foldl (fun n d => n * b + d) 0

theorem value_append_singleton (b : ℕ) (ds : List ℕ) (d : ℕ) :
    value b (ds ++ [d]) = value b ds * b + d := by
  rw [value, List.foldl_append, List.foldl_cons, List.foldl_nil, value]

theorem value_lt {b : ℕ} {ds : List ℕ} (h : ∀ d ∈ ds, d < b) : value b ds < b ^ ds.length := by
  induction ds using List.reverseRecOn with
  | nil => exact Nat.one_pos
  | append_singleton ds d ih =>
    have hds : value b ds < b ^ ds.length := ih fun e he => h e (List.mem_append_left _ he)
    have hd : d < b := h d List.mem_concat_self
    rw [value_append_singleton, List.length_append, List.length_singleton, pow_succ]
    calc value b ds * b + d < value b ds * b + b := by omega
      _ = (value b ds + 1) * b := by ring
      _ ≤ b ^ ds.length * b := Nat.mul_le_mul_right b hds

/-- The last `n` digits of a number make up the number. -/
theorem value_digits (b n x : ℕ) :
    value b ((List.range n).map fun i => x / b ^ (n - 1 - i) % b) = x % b ^ n := by
  induction n generalizing x with
  | zero => rw [List.range_zero, List.map_nil, pow_zero, Nat.mod_one, value, List.foldl_nil]
  | succ n ih =>
    have hhigh : (List.range n).map (fun i => x / b ^ (n + 1 - 1 - i) % b) =
        (List.range n).map fun i => x / b / b ^ (n - 1 - i) % b := by
      refine List.map_congr_left fun i hi => ?_
      rw [Nat.div_div_eq_div_mul, ← pow_succ']
      congr 3
      have hlt := List.mem_range.1 hi
      omega
    rw [List.range_succ, List.map_append, hhigh, List.map_singleton, value_append_singleton, ih,
      pow_succ', Nat.mod_mul]
    simp [mul_comm, add_comm]

theorem mapM_some {α β : Type} {f : α → Option β} {l : List α} {l' : List β}
    (h : l.mapM f = some l') :
    l'.length = l.length ∧ (∀ x ∈ l, ∃ y, f x = some y) ∧ ∀ y ∈ l', ∃ x ∈ l, f x = some y := by
  induction l generalizing l' with
  | nil =>
    obtain rfl := Option.some.inj h
    simp
  | cons a l ih =>
    rw [List.mapM_cons] at h
    obtain ⟨b, hb, h⟩ := Option.bind_eq_some_iff.1 h
    obtain ⟨bs, hbs, h⟩ := Option.bind_eq_some_iff.1 h
    obtain rfl := Option.some.inj h
    obtain ⟨hlength, hread, hmem⟩ := ih hbs
    refine ⟨by rw [List.length_cons, List.length_cons, hlength], ?_, ?_⟩
    · intro x hx
      rcases List.mem_cons.1 hx with rfl | hx
      · exact ⟨b, hb⟩
      · exact hread x hx
    · intro y hy
      rcases List.mem_cons.1 hy with rfl | hy
      · exact ⟨a, List.mem_cons_self, hb⟩
      · obtain ⟨x, hx, hxy⟩ := hmem y hy
        exact ⟨x, List.mem_cons_of_mem a hx, hxy⟩

theorem mapM_map_eq_some {α β : Type} {f : α → Option β} {g : β → α} {l : List β}
    (h : ∀ x ∈ l, f (g x) = some x) : (l.map g).mapM f = some l := by
  induction l with
  | nil => rfl
  | cons a l ih =>
    rw [List.map_cons, List.mapM_cons, h a List.mem_cons_self,
      ih fun x hx => h x (List.mem_cons_of_mem a hx)]
    rfl

/-! ## Octets and hextets -/

theorem parseOctet_toDigits {n : ℕ} (h : n < 256) : parseOctet (Nat.toDigits 10 n) = some n := by
  revert n
  decide +kernel

theorem octet_of_parseOctet {s : List Char} {n : ℕ} (h : parseOctet s = some n) :
    n < 256 ∧ ∀ c ∈ s, isDigit c = true := by
  rw [parseOctet] at h
  split_ifs at h with hform
  simp only [Bool.or_eq_true, not_or, Bool.not_eq_true, Bool.not_eq_false'] at hform
  obtain ⟨octet, -, h⟩ := Option.bind_eq_some_iff.1 h
  split_ifs at h with hn
  obtain rfl := Option.some.inj h
  exact ⟨by omega, List.all_eq_true.1 hform.1.1.2⟩

/-- A hexadecimal digit of a compressed address. -/
def isHexChar (c : Char) : Bool := isDigit c || ('a' ≤ c && c ≤ 'f')

theorem isHexChar_digitChar {n : ℕ} (h : n < 16) : isHexChar n.digitChar = true := by
  revert n
  decide

theorem isHexChar_of_mem_hex {n : ℕ} : ∀ c ∈ hex n, isHexChar c = true := by
  induction n using Nat.base_induction 16 (by decide) with
  | single m hm =>
    intro c hc
    rw [hex, Nat.toDigits_of_lt_base hm, List.mem_singleton] at hc
    rw [hc]
    exact isHexChar_digitChar hm
  | digit m k hk hm ih =>
    intro c hc
    rw [hex, ← Nat.toDigits_append_toDigits (by decide) hm hk, List.mem_append] at hc
    rcases hc with hc | hc
    · exact ih c hc
    · rw [Nat.toDigits_of_lt_base hk, List.mem_singleton] at hc
      rw [hc]
      exact isHexChar_digitChar hk

/-- The digits of a hexadecimal numeral are read back. -/
theorem mapM_hexDigit?_hex (n : ℕ) :
    ((hex n).mapM hexDigit?).map (value 16) = some n := by
  induction n using Nat.base_induction 16 (by decide) with
  | single m hm =>
    rw [hex, Nat.toDigits_of_lt_base hm, List.mapM_cons, hexDigit?_digitChar hm]
    simp [value]
  | digit m k hk hm ih =>
    obtain ⟨ds, hds, hvalue⟩ := Option.map_eq_some_iff.1 ih
    rw [hex] at hds
    rw [hex, ← Nat.toDigits_append_toDigits (by decide) hm hk, List.mapM_append, hds,
      Nat.toDigits_of_lt_base hk, List.mapM_cons, hexDigit?_digitChar hk]
    simp [value_append_singleton, hvalue, mul_comm]

theorem parseHextet_hex {n : ℕ} (h : n < 0x10000) : parseHextet (hex n) = some n := by
  have hlength : (hex n).length ≤ 4 := (Nat.length_toDigits_le_iff (by decide) (by decide)).2 h
  have hne : hex n ≠ [] := Nat.toDigits_ne_nil
  have hform : ((hex n).isEmpty || decide ((hex n).length > 4)) = false := by
    simpa [hne] using hlength
  rw [parseHextet, hform, if_neg (by decide)]
  exact mapM_hexDigit?_hex n

theorem hextet_of_parseHextet {s : List Char} {n : ℕ} (h : parseHextet s = some n) :
    n < 0x10000 ∧ s ≠ [] ∧ ∀ c ∈ s, ∃ d, hexDigit? c = some d := by
  rw [parseHextet] at h
  split_ifs at h with hform
  obtain ⟨ds, hds, rfl⟩ := Option.map_eq_some_iff.1 h
  obtain ⟨hlength, hread, hmem⟩ := mapM_some hds
  have hdigit : ∀ d ∈ ds, d < 16 := by
    intro d hd
    obtain ⟨c, -, hc⟩ := hmem d hd
    exact hexDigit?_lt hc
  simp only [Bool.or_eq_true, List.isEmpty_iff, decide_eq_true_eq, not_or, not_lt] at hform
  refine ⟨?_, hform.1, hread⟩
  calc value 16 ds < 16 ^ ds.length := value_lt hdigit
    _ ≤ 16 ^ 4 := Nat.pow_le_pow_right (by decide) (hlength.trans_le hform.2)

/-! ## Version 4 -/

/-- The octets of an IPv4 address. -/
def octets (ip : ℕ) : List ℕ := [ip / 0x1000000, ip / 0x10000 % 256, ip / 256 % 256, ip % 256]

theorem octets_lt {ip : ℕ} (h : ip < 2 ^ 32) : ∀ octet ∈ octets ip, octet < 256 := by
  intro octet hoctet
  simp only [octets, List.mem_cons, List.not_mem_nil, or_false] at hoctet
  omega

theorem value_octets (ip : ℕ) : value 256 (octets ip) = ip := by
  simp only [value, octets, List.foldl_cons, List.foldl_nil]
  omega

theorem parseV4_compressed {ip : ℕ} (h : ip < 2 ^ 32) :
    parseV4 (Address.v4 ip).compressed = some ip := by
  have hsplit : (Address.v4 ip).compressed.splitOn '.' = (octets ip).map (Nat.toDigits 10) := by
    refine List.splitOn_intercalate '.' ?_ (by simp)
    intro part hpart hdot
    obtain ⟨octet, -, rfl⟩ := List.mem_map.1 hpart
    cases isDigit_of_mem_toDigits hdot
  have hread : ((octets ip).map (Nat.toDigits 10)).mapM parseOctet = some (octets ip) :=
    mapM_map_eq_some fun octet hoctet => parseOctet_toDigits (octets_lt h octet hoctet)
  have hlength : ((octets ip).map (Nat.toDigits 10)).length = 4 := by
    rw [List.length_map, octets]
    rfl
  rw [parseV4, hsplit, if_neg (not_not_intro hlength), hread]
  exact congrArg some (value_octets ip)

/-- A character of an intercalated list is a separator or in one of the parts. -/
theorem mem_intercalate {α : Type} {sep x : α} {l : List (List α)}
    (h : x ∈ [sep].intercalate l) : x = sep ∨ ∃ part ∈ l, x ∈ part :=
  (mem_or_mem_of_mem_intercalate h).imp_left List.mem_singleton.1

/-- An IPv4 address is a number of 32 bits, of digits and dots. -/
theorem lt_of_parseV4 {s : List Char} {ip : ℕ} (h : parseV4 s = some ip) :
    ip < 2 ^ 32 ∧ ∀ c ∈ s, isDigit c = true ∨ c = '.' := by
  unfold parseV4 at h
  dsimp only at h
  split_ifs at h with hlength
  obtain ⟨os, hos, h⟩ := Option.bind_eq_some_iff.1 h
  obtain rfl := Option.some.inj h
  obtain ⟨hsame, hread, hmem⟩ := mapM_some hos
  rw [not_not] at hlength
  constructor
  · have hlt : ∀ octet ∈ os, octet < 256 := by
      intro octet hoctet
      obtain ⟨part, -, hpart⟩ := hmem octet hoctet
      exact (octet_of_parseOctet hpart).1
    have hvalue := value_lt hlt
    rwa [hsame, hlength] at hvalue
  · intro c hc
    rw [← @List.intercalate_splitOn _ s _ _ '.'] at hc
    rcases mem_intercalate hc with hc | ⟨part, hpart, hc⟩
    · exact .inr hc
    · obtain ⟨octet, hoctet⟩ := hread part hpart
      exact .inl ((octet_of_parseOctet hoctet).2 c hc)

/-! ## Version 6 -/

/-- The hextets of an IPv6 address. -/
def hextetsOf (ip : ℕ) : List ℕ := (List.range 8).map fun i => ip / 0x10000 ^ (7 - i) % 0x10000

theorem length_hextetsOf (ip : ℕ) : (hextetsOf ip).length = 8 := by
  rw [hextetsOf, List.length_map, List.length_range]

theorem hextetsOf_lt {ip : ℕ} : ∀ h ∈ hextetsOf ip, h < 0x10000 := by
  intro h hh
  obtain ⟨i, -, rfl⟩ := List.mem_map.1 hh
  exact Nat.mod_lt _ (by decide)

theorem value_hextetsOf {ip : ℕ} (h : ip < 2 ^ 128) : value 0x10000 (hextetsOf ip) = ip := by
  have hvalue := value_digits 0x10000 8 ip
  rw [Nat.mod_eq_of_lt (by simpa using h)] at hvalue
  exact hvalue

/-- The parts of a text that elides the zeros between two lists of hextets. -/
def elide (a b : List ℕ) : List (List Char) :=
  (if a = [] then [[]] else a.map hex) ++ [] :: (if b = [] then [[]] else b.map hex)

/-- A list without a repetition, of which only one element satisfies a predicate, filtered by it. -/
theorem filter_range_eq_singleton {n k : ℕ} {p : ℕ → Bool} (hk : k < n)
    (h : ∀ i < n, p i = true ↔ i = k) : (List.range n).filter p = [k] := by
  have hp : (List.range n).filter p = (List.range n).filter (· == k) := by
    refine List.filter_congr fun i hi => ?_
    rw [Bool.eq_iff_iff, h i (List.mem_range.1 hi), beq_iff_eq]
  rw [hp, List.filter_beq, List.nodup_range.count, if_pos (List.mem_range.2 hk)]
  rfl

theorem isEmpty_getD_map_hex {l : List ℕ} {i : ℕ} (h : i < l.length) :
    ((l.map hex).getD i []).isEmpty = false := by
  rw [List.getD_eq_getElem?_getD, List.getElem?_map, List.getElem?_eq_getElem h,
    List.isEmpty_eq_false_iff]
  exact Nat.toDigits_ne_nil

theorem isEmpty_headD_map_hex {l : List ℕ} (h : l ≠ []) :
    ((l.map hex).headD []).isEmpty = false := by
  cases l with
  | nil => exact absurd rfl h
  | cons a l => exact List.isEmpty_eq_false_iff.2 Nat.toDigits_ne_nil

theorem isEmpty_getLastD_map_hex {l : List ℕ} (h : l ≠ []) :
    ((l.map hex).getLastD []).isEmpty = false := by
  rw [List.getLastD_eq_getLast?, List.getLast?_map, List.getLast?_eq_some_getLast h]
  exact List.isEmpty_eq_false_iff.2 Nat.toDigits_ne_nil

/-- The hextets of a text that elides none are counted. -/
theorem hextetCounts_map_hex {hs : List ℕ} (h : hs.length = 8) :
    hextetCounts (hs.map hex) = some (8, 0, 0) := by
  have hne : hs ≠ [] := by
    rintro rfl
    cases h
  have hinner : ((List.range (hs.map hex).length).filter fun i =>
      1 ≤ i && i + 1 < (hs.map hex).length && ((hs.map hex).getD i []).isEmpty) = [] := by
    rw [List.filter_eq_nil_iff]
    intro i hi
    rw [List.mem_range, List.length_map] at hi
    rw [isEmpty_getD_map_hex hi, Bool.and_false]
    exact Bool.false_ne_true
  rw [hextetCounts]
  rw [hinner, isEmpty_headD_map_hex hne, isEmpty_getLastD_map_hex hne, List.length_map, h]
  rfl

theorem one_le_length (l : List ℕ) : 1 ≤ if l = [] then 1 else l.length := by
  split_ifs with hl
  · exact le_refl 1
  · exact List.length_pos_iff.2 hl

/-- Only the elided hextets are an empty part that is neither the first one nor the last. -/
theorem inner_elide (a b : List ℕ) :
    ((List.range (elide a b).length).filter fun i =>
      1 ≤ i && i + 1 < (elide a b).length && ((elide a b).getD i []).isEmpty) =
    [if a = [] then 1 else a.length] := by
  obtain ⟨pre, hpre⟩ : ∃ pre, pre = if a = [] then [[]] else a.map hex := ⟨_, rfl⟩
  obtain ⟨post, hpost⟩ : ∃ post, post = if b = [] then [[]] else b.map hex := ⟨_, rfl⟩
  have hparts : elide a b = pre ++ [] :: post := by rw [elide, hpre, hpost]
  have hprelen : (if a = [] then 1 else a.length) = pre.length := by
    rw [hpre]
    split_ifs <;> simp
  have hpostlen : (if b = [] then 1 else b.length) = post.length := by
    rw [hpost]
    split_ifs <;> simp
  have hpre1 := one_le_length a
  have hpost1 := one_le_length b
  rw [hprelen] at hpre1 ⊢
  rw [hpostlen] at hpost1
  rw [hparts]
  refine filter_range_eq_singleton (by simp) fun i hi => ?_
  rw [List.length_append, List.length_cons] at hi ⊢
  constructor
  · intro hp
    simp only [Bool.and_eq_true, decide_eq_true_eq] at hp
    obtain ⟨⟨hfirst, hlast⟩, hempty⟩ := hp
    rcases lt_trichotomy i pre.length with hlt | heq | hgt
    · -- A part before the elided ones is empty only when it is the first one.
      rw [List.getD_append _ _ _ _ hlt, hpre] at hempty
      rw [← hprelen] at hlt
      split_ifs at hempty hlt with ha
      · omega
      · rw [isEmpty_getD_map_hex hlt] at hempty
        cases hempty
    · exact heq
    · -- A part after them is empty only when it is the last one.
      obtain ⟨j, rfl⟩ := Nat.exists_eq_add_of_lt hgt
      have hj : pre.length + j + 1 - pre.length = j + 1 := by omega
      rw [List.getD_append_right _ _ _ _ hgt.le, hj, List.getD_cons_succ, hpost] at hempty
      have hlt : j + 1 < post.length + 1 := by omega
      rw [← hpostlen] at hlt hlast
      split_ifs at hempty hlt hlast with hb
      · omega
      · rw [isEmpty_getD_map_hex (by omega)] at hempty
        cases hempty
  · rintro rfl
    rw [List.getD_append_right _ _ _ _ le_rfl, Nat.sub_self, List.getD_cons_zero]
    simp only [Bool.and_eq_true, decide_eq_true_eq]
    exact ⟨⟨hpre1, by omega⟩, rfl⟩

theorem isEmpty_headD_elide (a b : List ℕ) :
    ((elide a b).headD []).isEmpty = decide (a = []) := by
  cases a with
  | nil => rfl
  | cons h a => exact List.isEmpty_eq_false_iff.2 Nat.toDigits_ne_nil

theorem isEmpty_getLastD_elide (a b : List ℕ) :
    ((elide a b).getLastD []).isEmpty = decide (b = []) := by
  rw [elide, List.getLastD_eq_getLast?, List.getLast?_append, List.getLast?_cons, Option.some_or,
    Option.getD_some]
  by_cases hb : b = []
  · rw [if_pos hb, decide_eq_true hb]
    rfl
  · have hlast := isEmpty_getLastD_map_hex hb
    rw [List.getLastD_eq_getLast?] at hlast
    rw [if_neg hb, decide_eq_false hb]
    exact hlast

theorem length_elide (a b : List ℕ) :
    (elide a b).length =
      (if a = [] then 1 else a.length) + 1 + if b = [] then 1 else b.length := by
  rw [elide, List.length_append, List.length_cons]
  split_ifs <;> simp only [List.length_map, List.length_singleton] <;> omega

/-- The hextets of a text that elides some are counted. -/
theorem hextetCounts_elide {a b : List ℕ} (h : a.length + b.length ≤ 7) :
    hextetCounts (elide a b) = some (a.length, 8 - (a.length + b.length), b.length) := by
  rw [hextetCounts, inner_elide, isEmpty_headD_elide, isEmpty_getLastD_elide, length_elide]
  have hall : a.length + 1 + b.length - a.length - 1 = b.length := by omega
  have hfew : ¬7 < a.length + b.length := by omega
  by_cases ha : a = []
  · by_cases hb : b = []
    · simp [ha, hb]
    · rw [ha, List.length_nil, Nat.zero_add] at h
      simp [ha, hb, h]
  · by_cases hb : b = []
    · have hlo : a.length + 1 + 1 - a.length - 2 = 0 := by omega
      rw [hb, List.length_nil, Nat.add_zero] at h
      simp [ha, hb, h, hlo]
    · simp [ha, hb, hall, hfew]

theorem not_mem_hex {c : Char} (h : isHexChar c = false) (n : ℕ) : c ∉ hex n := by
  intro hc
  rw [isHexChar_of_mem_hex c hc] at h
  cases h

/-- The parts of a text that has no dot are its hextets. -/
theorem hextets_intercalate {parts : List (List Char)} (hlength : 3 ≤ parts.length)
    (hcolon : ∀ part ∈ parts, ':' ∉ part) (hdot : ∀ part ∈ parts, '.' ∉ part) :
    hextets ([':'].intercalate parts) = some parts := by
  have hne : parts ≠ [] := by
    rintro rfl
    cases hlength
  have hlast : (parts.getLastD []).contains '.' = false := by
    rw [List.getLastD_eq_getLast?, List.getLast?_eq_some_getLast hne, Option.getD_some]
    simpa using hdot _ (List.getLast_mem hne)
  rw [hextets]
  dsimp only
  rw [List.splitOn_intercalate ':' hcolon hne, if_neg (by omega), hlast, if_neg Bool.false_ne_true]

/-- The address of a text is that of its counted hextets. -/
theorem parseV6_eq {s : List Char} {parts : List (List Char)} {hi skipped lo : ℕ}
    {high low : List ℕ} (hparts : hextets s = some parts) (hlength : parts.length ≤ 9)
    (hcounts : hextetCounts parts = some (hi, skipped, lo))
    (hhigh : (parts.take hi).mapM parseHextet = some high)
    (hlow : (parts.drop (parts.length - lo)).mapM parseHextet = some low) :
    parseV6 s = some (value 0x10000 (high ++ List.replicate skipped 0 ++ low)) := by
  rw [parseV6, hparts]
  simp only [Option.bind_eq_bind, Option.bind_some, if_neg (not_lt.2 hlength), hcounts, hhigh, hlow]
  rfl

/-- A text that elides no zeros is read back. -/
theorem parseV6_map_hex {hs : List ℕ} (hlength : hs.length = 8) (hlt : ∀ h ∈ hs, h < 0x10000) :
    parseV6 ([':'].intercalate (hs.map hex)) = some (value 0x10000 hs) := by
  have hparts : ∀ c, isHexChar c = false → ∀ part ∈ hs.map hex, c ∉ part := by
    intro c hc part hpart
    obtain ⟨n, -, rfl⟩ := List.mem_map.1 hpart
    exact not_mem_hex hc n
  have hlength' : (hs.map hex).length = 8 := by rw [List.length_map, hlength]
  have hread : ((hs.map hex).take 8).mapM parseHextet = some hs := by
    rw [List.take_of_length_le hlength'.le]
    exact mapM_map_eq_some fun h hh => parseHextet_hex (hlt h hh)
  have hnone : ((hs.map hex).drop ((hs.map hex).length - 0)).mapM parseHextet = some [] := by
    rw [Nat.sub_zero, List.drop_length]
    rfl
  have hvalue := parseV6_eq (hextets_intercalate (by omega) (hparts ':' rfl) (hparts '.' rfl))
    (by omega) (hextetCounts_map_hex hlength) hread hnone
  rwa [List.replicate_zero, List.append_nil, List.append_nil] at hvalue

theorem mem_elide {a b : List ℕ} {part : List Char} (h : part ∈ elide a b) :
    part = [] ∨ ∃ n, part = hex n := by
  have hside : ∀ l : List ℕ, part ∈ (if l = [] then [[]] else l.map hex) →
      part = [] ∨ ∃ n, part = hex n := by
    intro l hl
    split_ifs at hl
    · exact .inl (List.mem_singleton.1 hl)
    · obtain ⟨n, -, rfl⟩ := List.mem_map.1 hl
      exact .inr ⟨n, rfl⟩
  rw [elide, List.mem_append, List.mem_cons] at h
  rcases h with h | h | h
  · exact hside a h
  · exact .inl h
  · exact hside b h

/-- A text that elides the zeros between two lists of hextets is read back. -/
theorem parseV6_elide {a b : List ℕ} (hlength : a.length + b.length ≤ 7)
    (ha : ∀ h ∈ a, h < 0x10000) (hb : ∀ h ∈ b, h < 0x10000) :
    parseV6 ([':'].intercalate (elide a b)) =
      some (value 0x10000 (a ++ List.replicate (8 - (a.length + b.length)) 0 ++ b)) := by
  -- The parts are empty or hexadecimal, so the text is split where it was joined.
  have hparts : ∀ c, isHexChar c = false → ∀ part ∈ elide a b, c ∉ part := by
    intro c hc part hpart
    rcases mem_elide hpart with rfl | ⟨n, rfl⟩
    · exact List.not_mem_nil
    · exact not_mem_hex hc n
  have hlen := length_elide a b
  have hlower : 3 ≤ (elide a b).length := by
    have := one_le_length a
    have := one_le_length b
    omega
  have hupper : (elide a b).length ≤ 9 := by
    rw [hlen]
    split_ifs with ha hb hb <;> omega
  -- The parts on either side of the gap are read back.
  have hhigh : ((elide a b).take a.length).mapM parseHextet = some a := by
    by_cases h : a = []
    · rw [h]
      rfl
    · have htake : (elide a b).take a.length = a.map hex := by
        rw [elide, if_neg h, List.take_left' (List.length_map hex)]
      rw [htake]
      exact mapM_map_eq_some fun n hn => parseHextet_hex (ha n hn)
  have hlow : ((elide a b).drop ((elide a b).length - b.length)).mapM parseHextet = some b := by
    by_cases h : b = []
    · rw [h, List.length_nil, Nat.sub_zero, List.drop_length]
      rfl
    · have hsplit : elide a b = (if a = [] then [[]] else a.map hex) ++ [[]] ++ b.map hex := by
        rw [elide, if_neg h, List.append_assoc, List.singleton_append]
      have hdrop : (elide a b).drop ((elide a b).length - b.length) = b.map hex := by
        rw [hsplit, List.length_append, List.length_map, Nat.add_sub_cancel, List.drop_left]
      rw [hdrop]
      exact mapM_map_eq_some fun n hn => parseHextet_hex (hb n hn)
  exact parseV6_eq (hextets_intercalate hlower (hparts ':' rfl) (hparts '.' rfl)) hupper
    (hextetCounts_elide hlength) hhigh hlow

/-! ### The longest run of zeros -/

/-- What the scan knows after some hextets: the best run and the current one are
    runs of zeros, and the current one ends where the scan is. -/
structure ZeroRun.Scanned (r : ZeroRun) (hs : List ℕ) : Prop where
  best_le : r.bestStart + r.bestLength ≤ hs.length
  best : ∀ i, r.bestStart ≤ i → i < r.bestStart + r.bestLength → hs[i]? = some 0
  length_le : r.length ≤ hs.length
  start : r.length = 0 ∨ r.start + r.length = hs.length
  current : ∀ i, hs.length - r.length ≤ i → i < hs.length → hs[i]? = some 0

theorem ZeroRun.Scanned.step {r : ZeroRun} {hs : List ℕ} (scanned : r.Scanned hs) (h : ℕ) :
    (r.step hs.length h).Scanned (hs ++ [h]) := by
  obtain ⟨hbest_le, hbest, hlength_le, hstart, hcurrent⟩ := scanned
  have hbefore : ∀ i < hs.length, (hs ++ [h])[i]? = hs[i]? :=
    fun i hi => List.getElem?_append_left hi
  have hbest' : ∀ i, r.bestStart ≤ i → i < r.bestStart + r.bestLength →
      (hs ++ [h])[i]? = some 0 := by
    intro i hi hi'
    rw [hbefore i (by omega)]
    exact hbest i hi hi'
  have hsize : (hs ++ [h]).length = hs.length + 1 := by
    rw [List.length_append, List.length_singleton]
  rw [ZeroRun.step]
  by_cases hzero : h = 0
  -- The run goes on to this hextet, and may have become the longest.
  · have hnow : ∀ i, hs.length - r.length ≤ i → i < hs.length + 1 → (hs ++ [h])[i]? = some 0 := by
      intro i hi hi'
      rcases Nat.lt_succ_iff_lt_or_eq.1 hi' with hlt | rfl
      · rw [hbefore i hlt]
        exact hcurrent i hi hlt
      · rw [List.getElem?_concat_length, hzero]
    have hstart' : (if r.length = 0 then hs.length else r.start) = hs.length - r.length := by
      split_ifs <;> omega
    dsimp only
    rw [if_pos hzero, hstart']
    split_ifs with hlonger
    · refine ⟨?_, ?_, ?_, .inr ?_, ?_⟩
      · dsimp only
        omega
      · intro i hi hi'
        exact hnow i hi (by dsimp only at hi'; omega)
      · dsimp only
        omega
      · dsimp only
        omega
      · intro i hi hi'
        exact hnow i (by dsimp only at hi; omega) (by omega)
    · refine ⟨?_, hbest', ?_, .inr ?_, ?_⟩
      · dsimp only
        omega
      · dsimp only
        omega
      · dsimp only
        omega
      · intro i hi hi'
        exact hnow i (by dsimp only at hi; omega) (by omega)
  -- The run ends; the longest stays.
  · rw [if_neg hzero]
    refine ⟨?_, hbest', Nat.zero_le _, .inl rfl, ?_⟩
    · dsimp only
      omega
    · intro i hi hi'
      exact absurd hi (by dsimp only; omega)

theorem scanned (hs : List ℕ) :
    (hs.zipIdx.foldl (fun (r : ZeroRun) i => r.step i.2 i.1) ⟨0, 0, 0, 0⟩).Scanned hs := by
  induction hs using List.reverseRecOn with
  | nil => exact ⟨le_rfl, by simp, le_rfl, .inl rfl, by simp⟩
  | append_singleton hs h ih =>
    rw [List.zipIdx_append, List.foldl_append]
    simpa using ih.step h

/-- A run of zeros within a list, and what is before and after it. -/
theorem split_zeros {hs : List ℕ} {s l : ℕ} (hle : s + l ≤ hs.length)
    (hzero : ∀ i, s ≤ i → i < s + l → hs[i]? = some 0) :
    hs = hs.take s ++ List.replicate l 0 ++ hs.drop (s + l) := by
  have hrun : (hs.drop s).take l = List.replicate l 0 := by
    rw [List.eq_replicate_iff]
    constructor
    · rw [List.length_take, List.length_drop]
      omega
    · intro x hx
      obtain ⟨i, hi⟩ := List.mem_iff_getElem?.1 hx
      have hlt : i < l := by
        obtain ⟨hi, -⟩ := List.getElem?_eq_some_iff.1 hi
        rw [List.length_take] at hi
        omega
      rw [List.getElem?_take_of_lt hlt, List.getElem?_drop, hzero (s + i) (by omega) (by omega)] at hi
      exact (Option.some.inj hi).symm
  rw [← hrun, List.append_assoc, ← List.drop_drop, List.take_append_drop, List.take_append_drop]

/-- The text of eight hextets elides a run of zeros, or nothing. -/
theorem compressHextets_cases {hs : List ℕ} (h : hs.length = 8) :
    compressHextets hs = hs.map hex ∨
    ∃ a b, compressHextets hs = elide a b ∧ a.length + b.length ≤ 6 ∧
      hs = a ++ List.replicate (8 - (a.length + b.length)) 0 ++ b := by
  have hscan := scanned hs
  rw [compressHextets]
  generalize hs.zipIdx.foldl (fun (r : ZeroRun) i => r.step i.2 i.1) ⟨0, 0, 0, 0⟩ = run at hscan
  obtain ⟨hle, hzero, -, -, -⟩ := hscan
  by_cases hrun : run.bestLength > 1
  · have ha : (hs.take run.bestStart).length = run.bestStart := by
      rw [List.length_take]
      omega
    have hb : (hs.drop (run.bestStart + run.bestLength)).length =
        8 - (run.bestStart + run.bestLength) := by
      rw [List.length_drop, h]
    have hlength : 8 - ((hs.take run.bestStart).length +
        (hs.drop (run.bestStart + run.bestLength)).length) = run.bestLength := by
      omega
    refine .inr ⟨hs.take run.bestStart, hs.drop (run.bestStart + run.bestLength), ?_, by omega, ?_⟩
    · have ha' : hs.take run.bestStart = [] ↔ run.bestStart = 0 := by
        rw [← List.length_eq_zero_iff, ha]
      have hb' : hs.drop (run.bestStart + run.bestLength) = [] ↔
          run.bestStart + run.bestLength = hs.length := by
        rw [← List.length_eq_zero_iff, hb]
        omega
      -- A gap at either end is written with an empty part beyond it.
      have hbefore : (if run.bestStart = 0 then [[]] else []) ++ (hs.map hex).take run.bestStart =
          if hs.take run.bestStart = [] then [[]] else (hs.take run.bestStart).map hex := by
        by_cases hfirst : run.bestStart = 0
        · rw [if_pos hfirst, if_pos (ha'.2 hfirst), hfirst, List.take_zero, List.append_nil]
        · rw [if_neg hfirst, if_neg (mt ha'.1 hfirst), List.nil_append, List.map_take]
      have hafter : (hs.map hex).drop (run.bestStart + run.bestLength) ++
            (if run.bestStart + run.bestLength = hs.length then [[]] else []) =
          if hs.drop (run.bestStart + run.bestLength) = [] then [[]]
          else (hs.drop (run.bestStart + run.bestLength)).map hex := by
        by_cases hlast : run.bestStart + run.bestLength = hs.length
        · rw [if_pos hlast, if_pos (hb'.2 hlast), ← List.map_drop, hb'.2 hlast, List.map_nil,
            List.nil_append]
        · rw [if_neg hlast, if_neg (mt hb'.1 hlast), List.append_nil, List.map_drop]
      dsimp only
      rw [if_pos hrun, elide, ← hbefore, ← hafter, List.append_assoc, List.append_assoc,
        List.singleton_append]
    · rw [hlength]
      exact split_zeros hle hzero
  · exact .inl (if_neg hrun)

/-- The text of an IPv6 address without its scope. -/
def hextetText (ip : ℕ) : List Char := [':'].intercalate (compressHextets (hextetsOf ip))

theorem parseV6_hextetText {ip : ℕ} (h : ip < 2 ^ 128) : parseV6 (hextetText ip) = some ip := by
  have hlength := length_hextetsOf ip
  have hlt : ∀ n ∈ hextetsOf ip, n < 0x10000 := hextetsOf_lt
  rw [hextetText]
  rcases compressHextets_cases hlength with htext | ⟨a, b, htext, hab, hs⟩
  · rw [htext, parseV6_map_hex hlength hlt, value_hextetsOf h]
  · rw [hs] at hlt
    rw [htext, parseV6_elide (by omega)
      (fun n hn => hlt n (List.mem_append_left _ (List.mem_append_left _ hn)))
      (fun n hn => hlt n (List.mem_append_right _ hn)), ← hs, value_hextetsOf h]

theorem mem_hextetText {ip : ℕ} {c : Char} (h : c ∈ hextetText ip) : isHexChar c = true ∨ c = ':' := by
  have hlength := length_hextetsOf ip
  have hpart : ∀ part ∈ compressHextets (hextetsOf ip), part = [] ∨ ∃ n, part = hex n := by
    intro part hpart
    rcases compressHextets_cases hlength with htext | ⟨a, b, htext, -, -⟩
    · rw [htext] at hpart
      obtain ⟨n, -, rfl⟩ := List.mem_map.1 hpart
      exact .inr ⟨n, rfl⟩
    · exact mem_elide (htext ▸ hpart)
  rcases mem_intercalate h with h | ⟨part, hmem, h⟩
  · exact .inr h
  · rcases hpart part hmem with rfl | ⟨n, rfl⟩
    · cases h
    · exact .inl (isHexChar_of_mem_hex c h)

/-- Two colons at least delimit the hextets. -/
theorem colon_mem_hextetText (ip : ℕ) : ':' ∈ hextetText ip := by
  have hlength := length_hextetsOf ip
  have htwo : 2 ≤ (compressHextets (hextetsOf ip)).length := by
    rcases compressHextets_cases hlength with htext | ⟨a, b, htext, -, -⟩
    · rw [htext, List.length_map, hlength]
      decide
    · have := one_le_length a
      have := length_elide a b
      rw [htext]
      omega
  rw [hextetText]
  match compressHextets (hextetsOf ip), htwo with
  | part :: part' :: parts, _ =>
    rw [List.intercalate_cons_cons]
    simp

/-- The counted hextets are among the parts, and make up eight with the elided
    ones. The first part is counted when it is not empty. -/
theorem hextetCounts_le {parts : List (List Char)} {hi skipped lo : ℕ}
    (h : hextetCounts parts = some (hi, skipped, lo)) :
    hi + skipped + lo = 8 ∧ hi + lo ≤ parts.length ∧ (parts.headD [] ≠ [] → 0 < hi) := by
  rw [hextetCounts] at h
  dsimp only at h
  split at h
  · split_ifs at h with hrefused
    cases h
    simp only [Bool.or_eq_true, decide_eq_true_eq, not_or, not_not] at hrefused
    omega
  · rename_i skipIndex hinner
    have hskip : skipIndex ∈ [skipIndex] := List.mem_singleton_self skipIndex
    rw [← hinner, List.mem_filter, List.mem_range] at hskip
    simp only [Bool.and_eq_true, decide_eq_true_eq] at hskip
    obtain ⟨hlt, ⟨hfirst, hlast⟩, -⟩ := hskip
    cases hleading : (parts.headD []).isEmpty <;> cases htrailing : (parts.getLastD []).isEmpty <;>
      simp only [hleading, htrailing, if_true, if_false, Bool.false_eq_true, Bool.true_and,
        Bool.false_and, Bool.false_or, Bool.or_eq_true, decide_eq_true_eq] at h <;>
      split_ifs at h with hrefused <;> cases h
    · refine ⟨by omega, by omega, fun _ => by omega⟩
    · refine ⟨by omega, by omega, fun _ => by omega⟩
    · exact ⟨by omega, by omega, fun hne => absurd (List.isEmpty_iff.1 hleading) hne⟩
    · exact ⟨by omega, by omega, fun hne => absurd (List.isEmpty_iff.1 hleading) hne⟩
  · cases h

/-- The parts that are not counted are empty. -/
theorem empty_of_hextetCounts {parts : List (List Char)} {hi skipped lo i : ℕ}
    (h : hextetCounts parts = some (hi, skipped, lo)) (hlo : hi ≤ i) (hhi : i < parts.length - lo) :
    parts.getD i [] = [] := by
  rw [hextetCounts] at h
  dsimp only at h
  split at h
  · split_ifs at h with hrefused
    cases h
    simp only [Bool.or_eq_true, decide_eq_true_eq, not_or, not_not] at hrefused
    omega
  · rename_i skipIndex hinner
    have hskip : skipIndex ∈ [skipIndex] := List.mem_singleton_self skipIndex
    rw [← hinner, List.mem_filter, List.mem_range] at hskip
    simp only [Bool.and_eq_true, decide_eq_true_eq, List.isEmpty_iff] at hskip
    obtain ⟨hlt, ⟨hfirst, hlast⟩, hempty⟩ := hskip
    have hleading : (parts.headD []).isEmpty = true → parts.getD 0 [] = [] := by
      cases parts with
      | nil => exact fun _ => rfl
      | cons part parts => exact List.isEmpty_iff.1
    have htrailing : (parts.getLastD []).isEmpty = true → parts.getD (parts.length - 1) [] = [] := by
      intro hempty
      rw [List.getLastD_eq_getLast?, List.getLast?_eq_getElem?, List.isEmpty_iff] at hempty
      rw [List.getD_eq_getElem?_getD, hempty]
    -- The gap is the empty part inside, and the empty one beyond it at either end.
    have hi_cases : i = skipIndex ∨ (i = 0 ∧ (parts.headD []).isEmpty = true) ∨
        i = parts.length - 1 ∧ (parts.getLastD []).isEmpty = true := by
      cases hlead : (parts.headD []).isEmpty <;> cases htrail : (parts.getLastD []).isEmpty <;>
        simp only [hlead, htrail, if_true, if_false, Bool.false_eq_true, Bool.true_and,
          Bool.false_and, Bool.false_or, Bool.or_eq_true, decide_eq_true_eq] at h <;>
        split_ifs at h with hrefused <;> cases h <;> simp <;> omega
    rcases hi_cases with rfl | ⟨rfl, hlead⟩ | ⟨rfl, htrail⟩
    · exact hempty
    · exact hleading hlead
    · exact htrailing htrail
  · cases h

/-- The first part of a text is empty when the text begins with the separator,
    and else begins as the text does. -/
theorem headD_splitOn {c : Char} {s : List Char} (h : c ≠ ':') :
    ∃ rest, ((c :: s).splitOn ':').headD [] = c :: rest := by
  have hjoin := @List.intercalate_splitOn _ (c :: s) _ _ ':'
  cases hparts : (c :: s).splitOn ':' with
  | nil =>
    rw [hparts] at hjoin
    cases hjoin
  | cons part parts =>
    rw [hparts] at hjoin
    cases part with
    | nil =>
      cases parts with
      | nil => cases hjoin
      | cons part parts =>
        rw [List.intercalate_cons_cons, List.nil_append, List.singleton_append] at hjoin
        exact absurd (List.cons.inj hjoin).1.symm h
    | cons d rest =>
      have hd : d = c := by
        cases parts with
        | nil =>
          rw [List.intercalate_singleton] at hjoin
          exact (List.cons.inj hjoin).1
        | cons part parts =>
          rw [List.intercalate_cons_cons, List.cons_append, List.cons_append] at hjoin
          exact (List.cons.inj hjoin).1
      exact ⟨rest, by rw [hd, List.headD_cons]⟩

/-- The hextets of a text begin with its first part. -/
theorem headD_hextets {s : List Char} {parts : List (List Char)} (h : hextets s = some parts) :
    parts.headD [] = (s.splitOn ':').headD [] := by
  rw [hextets] at h
  dsimp only at h
  split_ifs at h with hfew hdot
  · obtain ⟨ip, -, rfl⟩ := Option.map_eq_some_iff.1 h
    match s.splitOn ':', hfew with
    | part :: part' :: parts, _ => rfl
    | [], hfew => exact absurd (by decide) hfew
    | [part], hfew => exact absurd (by simp) hfew
  · rw [Option.some.inj h]

/-- An IPv6 address is a number of 128 bits. Its first character is a
    hexadecimal digit or a colon. -/
theorem lt_of_parseV6 {s : List Char} {ip : ℕ} (h : parseV6 s = some ip) :
    ip < 2 ^ 128 ∧ ∀ c, s.head? = some c → c = ':' ∨ ∃ d, hexDigit? c = some d := by
  obtain ⟨parts, hparts, h⟩ := Option.bind_eq_some_iff.1 h
  split_ifs at h with hmany
  obtain ⟨⟨hi, skipped, lo⟩, hcounts, h⟩ := Option.bind_eq_some_iff.1 h
  obtain ⟨high, hhigh, h⟩ := Option.bind_eq_some_iff.1 h
  obtain ⟨low, hlow, h⟩ := Option.bind_eq_some_iff.1 h
  obtain rfl := Option.some.inj h
  obtain ⟨hsum, hle, hfirst⟩ := hextetCounts_le hcounts
  obtain ⟨hhighlen, hhighread, hhighmem⟩ := mapM_some hhigh
  obtain ⟨hlowlen, -, hlowmem⟩ := mapM_some hlow
  constructor
  · have hlt : ∀ n ∈ high ++ List.replicate skipped 0 ++ low, n < 0x10000 := by
      intro n hn
      rw [List.mem_append, List.mem_append] at hn
      rcases hn with (hn | hn) | hn
      · obtain ⟨part, -, hpart⟩ := hhighmem n hn
        exact (hextet_of_parseHextet hpart).1
      · rw [List.eq_of_mem_replicate hn]
        decide
      · obtain ⟨part, -, hpart⟩ := hlowmem n hn
        exact (hextet_of_parseHextet hpart).1
    have hlength : (high ++ List.replicate skipped 0 ++ low).length ≤ 8 := by
      rw [List.length_take] at hhighlen
      rw [List.length_drop] at hlowlen
      rw [List.length_append, List.length_append, List.length_replicate]
      omega
    calc value 0x10000 (high ++ List.replicate skipped 0 ++ low)
        < 0x10000 ^ (high ++ List.replicate skipped 0 ++ low).length := value_lt hlt
      _ ≤ 0x10000 ^ 8 := Nat.pow_le_pow_right (by decide) hlength
      _ = 2 ^ 128 := by norm_num
  · intro c hc
    rw [or_iff_not_imp_left]
    intro hcolon
    cases s with
    | nil => cases hc
    | cons d s =>
      obtain rfl := Option.some.inj hc
      -- A text that does not start with a colon starts with its first hextet.
      obtain ⟨rest, hrest⟩ := headD_splitOn hcolon
      rw [← headD_hextets hparts] at hrest
      cases parts with
      | nil => cases hrest
      | cons part parts =>
        obtain rfl : part = d :: rest := hrest
        have hpos := hfirst (List.cons_ne_nil d rest)
        obtain ⟨k, rfl⟩ := Nat.exists_eq_add_one_of_ne_zero hpos.ne'
        obtain ⟨n, hn⟩ := hhighread (d :: rest) List.mem_cons_self
        exact (hextet_of_parseHextet hn).2.2 d List.mem_cons_self

/-! ## Addresses -/

/-- An address that has a text: its number is in range, and its scope is not
    empty and has no delimiter in it. -/
def Address.Valid : Address → Prop
  | v4 ip => ip < 2 ^ 32
  | v6 ip scopeId => ip < 2 ^ 128 ∧ ∀ z ∈ scopeId, z ≠ [] ∧ '%' ∉ z ∧ '/' ∉ z

/-- What an address reads as: an IPv4 address, or an IPv6 address and a scope. -/
theorem address_cases {s : List Char} {a : Address} (h : address s = some a) :
    '/' ∉ s ∧
      ((∃ ip, a = .v4 ip ∧ parseV4 s = some ip) ∨
        parseV4 s = none ∧
          ((∃ ip, a = .v6 ip none ∧ parseV6 s = some ip ∧ '%' ∉ s) ∨
            ∃ ip text z, a = .v6 ip (some z) ∧ s = text ++ '%' :: z ∧ parseV6 text = some ip ∧
              z ≠ [] ∧ '%' ∉ z ∧ '%' ∉ text)) := by
  rw [address] at h
  split_ifs at h with hslash
  refine ⟨by simpa using hslash, ?_⟩
  split at h
  · rename_i ip hip
    exact .inl ⟨ip, (Option.some.inj h).symm, hip⟩
  · rename_i hnone
    refine .inr ⟨hnone, ?_⟩
    rcases partition_cases '%' s with ⟨hparts, hfree⟩ | ⟨pre, z, hparts, rfl, hfree⟩
    · rw [hparts] at h
      obtain ⟨ip, hip, rfl⟩ := Option.map_eq_some_iff.1 h
      exact .inl ⟨ip, rfl, hip, hfree⟩
    · rw [hparts] at h
      dsimp only at h
      split_ifs at h with hscope
      obtain ⟨ip, hip, rfl⟩ := Option.map_eq_some_iff.1 h
      simp only [Bool.or_eq_true, List.isEmpty_iff, List.contains_iff_mem, not_or] at hscope
      exact .inr ⟨ip, pre, z, rfl, rfl, hip, hscope.1, hscope.2, hfree⟩

theorem valid_of_address {s : List Char} {a : Address} (h : address s = some a) : a.Valid := by
  obtain ⟨hslash, ⟨ip, rfl, hip⟩ | ⟨-, ⟨ip, rfl, hip, -⟩ | ⟨ip, text, z, rfl, rfl, hip, hne, hz, -⟩⟩⟩ :=
    address_cases h
  · exact (lt_of_parseV4 hip).1
  · exact ⟨(lt_of_parseV6 hip).1, fun z hz => by cases hz⟩
  · refine ⟨(lt_of_parseV6 hip).1, fun z' hz' => ?_⟩
    obtain rfl := Option.some.inj hz'
    refine ⟨hne, hz, fun hmem => hslash ?_⟩
    exact List.mem_append_right _ (List.mem_cons_of_mem _ hmem)

/-- The characters of an IPv6 address. -/
theorem mem_of_parseV6 {s : List Char} {ip : ℕ} (h : parseV6 s = some ip) :
    ∀ c ∈ s, c = ':' ∨ c = '.' ∨ ∃ d, hexDigit? c = some d := by
  obtain ⟨parts, hparts, h⟩ := Option.bind_eq_some_iff.1 h
  split_ifs at h with hmany
  obtain ⟨⟨hi, skipped, lo⟩, hcounts, h⟩ := Option.bind_eq_some_iff.1 h
  obtain ⟨high, hhigh, h⟩ := Option.bind_eq_some_iff.1 h
  obtain ⟨low, hlow, -⟩ := Option.bind_eq_some_iff.1 h
  have hpart : ∀ part ∈ parts, ∀ c ∈ part, ∃ d, hexDigit? c = some d := by
    intro part hpart c hc
    obtain ⟨i, hi', rfl⟩ := List.mem_iff_getElem.1 hpart
    -- A part is one of the high hextets, of the gap, or of the low ones.
    rcases Nat.lt_or_ge i hi with hlt | hge
    · obtain ⟨n, hn⟩ := (mapM_some hhigh).2.1 parts[i]
        (List.mem_take_iff_getElem.2 ⟨i, by omega, rfl⟩)
      exact (hextet_of_parseHextet hn).2.2 c hc
    · rcases Nat.lt_or_ge i (parts.length - lo) with hlt | hge'
      · have hempty := empty_of_hextetCounts hcounts hge hlt
        rw [List.getD_eq_getElem?_getD, List.getElem?_eq_getElem hi', Option.getD_some] at hempty
        rw [hempty] at hc
        cases hc
      · have hmem : parts[i] ∈ parts.drop (parts.length - lo) := by
          refine List.mem_drop_iff_getElem.2 ⟨i - (parts.length - lo), by omega, ?_⟩
          congr 1
          omega
        obtain ⟨n, hn⟩ := (mapM_some hlow).2.1 parts[i] hmem
        exact (hextet_of_parseHextet hn).2.2 c hc
  intro c hc
  rw [← @List.intercalate_splitOn _ s _ _ ':'] at hc
  rcases mem_intercalate hc with hc | ⟨part, hmem, hc⟩
  · exact .inl hc
  · right
    rw [hextets] at hparts
    dsimp only at hparts
    split_ifs at hparts with hfew hdot
    · obtain ⟨ip', hip', rfl⟩ := Option.map_eq_some_iff.1 hparts
      have hne : s.splitOn ':' ≠ [] := List.splitOn_ne_nil ':' s
      have hlast : (s.splitOn ':').getLastD [] = (s.splitOn ':').getLast hne := by
        rw [List.getLastD_eq_getLast?, List.getLast?_eq_some_getLast hne, Option.getD_some]
      rw [← List.dropLast_concat_getLast hne, List.mem_append, List.mem_singleton] at hmem
      rcases hmem with hmem | rfl
      · exact .inr (hpart part (List.mem_append_left _ hmem) c hc)
      · rw [hlast] at hip'
        rcases (lt_of_parseV4 hip').2 c hc with hdigit | hdot
        · exact .inr ⟨_, if_pos hdigit⟩
        · exact .inl hdot
    · obtain rfl := Option.some.inj hparts
      exact .inr (hpart part hmem c hc)

theorem not_mem_hextetText {c : Char} (h : isHexChar c = false) (hc : c ≠ ':') (ip : ℕ) :
    c ∉ hextetText ip := by
  intro hmem
  rcases mem_hextetText hmem with hhex | hcolon
  · rw [hhex] at h
    cases h
  · exact hc hcolon

/-- A text with a colon is no IPv4 address. -/
theorem parseV4_of_colon {s : List Char} (h : ':' ∈ s) : parseV4 s = none := by
  rw [Option.eq_none_iff_forall_ne_some]
  intro ip hip
  rcases (lt_of_parseV4 hip).2 ':' h with hdigit | hdot
  · cases hdigit
  · cases hdot

/-- The characters of a compressed address. -/
theorem mem_compressed {a : Address} {c : Char} (h : c ∈ a.compressed) :
    (∃ ip, a = .v4 ip ∧ (isDigit c = true ∨ c = '.')) ∨
    ∃ ip scopeId, a = .v6 ip scopeId ∧
      (isHexChar c = true ∨ c = ':' ∨ ∃ z, scopeId = some z ∧ (c = '%' ∨ c ∈ z)) := by
  cases a with
  | v4 ip =>
    refine .inl ⟨ip, rfl, ?_⟩
    rcases mem_intercalate h with h | ⟨part, hpart, h⟩
    · exact .inr h
    · obtain ⟨octet, -, rfl⟩ := List.mem_map.1 hpart
      exact .inl (isDigit_of_mem_toDigits h)
  | v6 ip scopeId =>
    refine .inr ⟨ip, scopeId, rfl, ?_⟩
    rcases List.mem_append.1 h with h | h
    · rcases mem_hextetText h with h | h
      · exact .inl h
      · exact .inr (.inl h)
    · cases scopeId with
      | none => cases h
      | some z => exact .inr (.inr ⟨z, rfl, List.mem_cons.1 h⟩)

/-- An address that has a text is read back from its compressed text. -/
theorem address_compressed {a : Address} (h : a.Valid) : address a.compressed = some a := by
  cases a with
  | v4 ip =>
    have hslash : (Address.v4 ip).compressed.contains '/' = false := by
      rw [← Bool.not_eq_true, List.contains_iff_mem]
      intro hmem
      rcases mem_compressed hmem with ⟨_, -, hdigit | hdot⟩ | ⟨_, _, hv6, -⟩
      · cases hdigit
      · cases hdot
      · cases hv6
    rw [address, hslash, if_neg Bool.false_ne_true, parseV4_compressed h]
  | v6 ip scopeId =>
    obtain ⟨hip, hscope⟩ := h
    have hslash : (Address.v6 ip scopeId).compressed.contains '/' = false := by
      rw [← Bool.not_eq_true, List.contains_iff_mem]
      intro hmem
      rcases mem_compressed hmem with ⟨_, hv4, -⟩ | ⟨_, _, hv6, hhex | hcolon | ⟨z, hz, hpercent | hmem⟩⟩
      · cases hv4
      · cases hhex
      · cases hcolon
      · cases hpercent
      · cases hv6
        exact (hscope z hz).2.2 hmem
    have hnone : parseV4 (Address.v6 ip scopeId).compressed = none :=
      parseV4_of_colon (List.mem_append_left _ (colon_mem_hextetText ip))
    have hfree : '%' ∉ hextetText ip := not_mem_hextetText rfl (by decide) ip
    rw [address, hslash, if_neg Bool.false_ne_true, hnone]
    cases scopeId with
    | none =>
      have htext : (Address.v6 ip none).compressed = hextetText ip := List.append_nil _
      rw [htext, partition_of_notMem hfree]
      dsimp only
      rw [parseV6_hextetText hip, Option.map_some]
    | some z =>
      have htext : (Address.v6 ip (some z)).compressed = hextetText ip ++ '%' :: z := rfl
      obtain ⟨hne, hpercent, -⟩ := hscope z rfl
      have hform : (z.isEmpty || z.contains '%') = false := by
        rw [Bool.or_eq_false_iff, List.isEmpty_eq_false_iff, ← Bool.not_eq_true,
          List.contains_iff_mem]
        exact ⟨hne, hpercent⟩
      rw [htext, partition_append hfree]
      dsimp only
      rw [hform, if_neg Bool.false_ne_true, parseV6_hextetText hip, Option.map_some]

/-- The first character of an address is a hexadecimal digit or a delimiter. -/
theorem head_of_address {s : List Char} {a : Address} (h : address s = some a) {c : Char}
    (hc : s.head? = some c) : c = ':' ∨ c = '.' ∨ ∃ d, hexDigit? c = some d := by
  obtain ⟨-, ⟨ip, -, hip⟩ | ⟨-, ⟨ip, -, hip, -⟩ | ⟨ip, text, z, -, rfl, hip, -, -, -⟩⟩⟩ := address_cases h
  · rcases (lt_of_parseV4 hip).2 c (List.mem_of_head? hc) with hdigit | hdot
    · exact .inr (.inr ⟨_, if_pos hdigit⟩)
    · exact .inr (.inl hdot)
  · rcases (lt_of_parseV6 hip).2 c hc with hcolon | hdigit
    · exact .inl hcolon
    · exact .inr (.inr hdigit)
  · cases text with
    | nil => cases hip
    | cons d text =>
      rcases (lt_of_parseV6 hip).2 c hc with hcolon | hdigit
      · exact .inl hcolon
      · exact .inr (.inr hdigit)

/-! ## Case -/

/-- A text in lower case. -/
def lowered (s : List Char) : List Char := s.map Char.toLower

theorem toLower_cases (c : Char) : c.toLower = c ∨ ∃ n < 26, c = Char.ofNat (0x41 + n) := by
  by_cases h : c.val ≥ 'A'.val ∧ c.val ≤ 'Z'.val
  · rw [ge_iff_le, UInt32.le_iff_toNat_le, UInt32.le_iff_toNat_le] at h
    have hlo : 0x41 ≤ c.toNat := h.1
    have hhi : c.toNat ≤ 0x5a := h.2
    refine .inr ⟨c.toNat - 0x41, by omega, ?_⟩
    rw [Nat.add_sub_cancel' hlo, Char.ofNat_toNat]
  · exact .inl (dif_neg h)

theorem hexDigit?_toLower (c : Char) : hexDigit? c.toLower = hexDigit? c := by
  have hupper : ∀ n < 26, hexDigit? (Char.ofNat (0x41 + n)).toLower =
      hexDigit? (Char.ofNat (0x41 + n)) := by decide
  rcases toLower_cases c with h | ⟨n, hn, rfl⟩
  · rw [h]
  · exact hupper n hn

/-- What is no letter has no case. -/
theorem toLower_eq_iff {c d : Char} (hd : isLetter d = false) : c.toLower = d ↔ c = d := by
  have hupper : ∀ n < 26, isLetter (Char.ofNat (0x41 + n)).toLower = true ∧
      isLetter (Char.ofNat (0x41 + n)) = true := by decide
  rcases toLower_cases c with h | ⟨n, hn, rfl⟩
  · rw [h]
  · refine iff_of_false ?_ ?_
    · rintro rfl
      rw [(hupper n hn).1] at hd
      cases hd
    · rintro rfl
      rw [(hupper n hn).2] at hd
      cases hd

theorem mem_lowered_iff {s : List Char} {d : Char} (hd : isLetter d = false) :
    d ∈ lowered s ↔ d ∈ s := by
  rw [lowered, List.mem_map]
  constructor
  · rintro ⟨c, hc, h⟩
    rwa [← (toLower_eq_iff hd).1 h]
  · intro h
    exact ⟨d, h, (toLower_eq_iff hd).2 rfl⟩

theorem lowered_of_isHexChar {s : List Char} (h : ∀ c ∈ s, isHexChar c = true ∨ c = '.') :
    lowered s = s := by
  have hupper : ∀ n < 26, isHexChar (Char.ofNat (0x41 + n)) = false ∧ Char.ofNat (0x41 + n) ≠ '.' := by
    decide
  have hfixed : ∀ c ∈ s, c.toLower = c := by
    intro c hc
    rcases toLower_cases c with hlow | ⟨n, hn, rfl⟩
    · exact hlow
    · rcases h _ hc with hhex | hdot
      · rw [(hupper n hn).1] at hhex
        cases hhex
      · exact absurd hdot (hupper n hn).2
  calc s.map Char.toLower = s.map id := List.map_congr_left hfixed
    _ = s := List.map_id s

theorem parseHextet_lowered (s : List Char) : parseHextet (lowered s) = parseHextet s := by
  have hdigits : (lowered s).mapM hexDigit? = s.mapM hexDigit? := by
    rw [lowered, List.mapM_map]
    exact congrArg (fun f => s.mapM f) (funext hexDigit?_toLower)
  rw [parseHextet, parseHextet, hdigits, lowered, List.isEmpty_map, List.length_map]

theorem splitOn_lowered (s : List Char) :
    (lowered s).splitOn ':' = (s.splitOn ':').map lowered := by
  induction s with
  | nil => rfl
  | cons c s ih =>
    have hcolon : (c.toLower == ':') = (c == ':') := by
      rw [Bool.eq_iff_iff, beq_iff_eq, beq_iff_eq, toLower_eq_iff (by decide)]
    have hcons : lowered (c :: s) = c.toLower :: lowered s := rfl
    rw [hcons, List.splitOn_cons_eq_if_modifyHead, List.splitOn_cons_eq_if_modifyHead, ih, hcolon]
    split_ifs
    · rfl
    · cases s.splitOn ':' with
      | nil => rfl
      | cons part parts => rfl

theorem hextets_lowered {s : List Char} {parts : List (List Char)} (h : hextets s = some parts) :
    hextets (lowered s) = some (parts.map lowered) := by
  unfold hextets at h ⊢
  dsimp only at h ⊢
  have hlast : ((s.splitOn ':').map lowered).getLastD [] = lowered ((s.splitOn ':').getLastD []) := by
    rw [List.getLastD_eq_getLast?, List.getLastD_eq_getLast?, List.getLast?_map]
    cases (s.splitOn ':').getLast? <;> rfl
  have hdot : (lowered ((s.splitOn ':').getLastD [])).contains '.' =
      ((s.splitOn ':').getLastD []).contains '.' := by
    rw [Bool.eq_iff_iff, List.contains_iff_mem, List.contains_iff_mem, mem_lowered_iff (by decide)]
  rw [splitOn_lowered, List.length_map, hlast, hdot]
  split_ifs at h ⊢ with hfew hv4
  · obtain ⟨ip, hip, rfl⟩ := Option.map_eq_some_iff.1 h
    have hsame : lowered ((s.splitOn ':').getLastD []) = (s.splitOn ':').getLastD [] := by
      refine lowered_of_isHexChar fun c hc => ?_
      rcases (lt_of_parseV4 hip).2 c hc with hdigit | hdot
      · exact .inl (by rw [isHexChar, hdigit, Bool.true_or])
      · exact .inr hdot
    have hhex : ∀ n, lowered (hex n) = hex n :=
      fun n => lowered_of_isHexChar fun c hc => .inl (isHexChar_of_mem_hex c hc)
    rw [hsame, hip, Option.map_some, List.map_append, List.map_dropLast, List.map_cons, List.map_cons,
      hhex, hhex, List.map_nil]
  · rw [Option.some.inj h]

theorem hextetCounts_lowered (parts : List (List Char)) :
    hextetCounts (parts.map lowered) = hextetCounts parts := by
  have hempty : ∀ s, (lowered s).isEmpty = s.isEmpty := fun s => List.isEmpty_map
  have hget : ∀ i, ((parts.map lowered).getD i []).isEmpty = (parts.getD i []).isEmpty := by
    intro i
    rw [List.getD_eq_getElem?_getD, List.getD_eq_getElem?_getD, List.getElem?_map]
    cases parts[i]? with
    | none => rfl
    | some part => exact hempty part
  have hhead : ((parts.map lowered).headD []).isEmpty = (parts.headD []).isEmpty := by
    cases parts with
    | nil => rfl
    | cons part parts => exact hempty part
  have hlast : ((parts.map lowered).getLastD []).isEmpty = (parts.getLastD []).isEmpty := by
    rw [List.getLastD_eq_getLast?, List.getLastD_eq_getLast?, List.getLast?_map]
    cases parts.getLast? with
    | none => rfl
    | some part => exact hempty part
  unfold hextetCounts
  simp only [hhead, hlast, hget, List.length_map]

theorem parseV6_lowered {s : List Char} {ip : ℕ} (h : parseV6 s = some ip) :
    parseV6 (lowered s) = some ip := by
  obtain ⟨parts, hparts, h⟩ := Option.bind_eq_some_iff.1 h
  split_ifs at h with hmany
  obtain ⟨⟨hi, skipped, lo⟩, hcounts, h⟩ := Option.bind_eq_some_iff.1 h
  obtain ⟨high, hhigh, h⟩ := Option.bind_eq_some_iff.1 h
  obtain ⟨low, hlow, h⟩ := Option.bind_eq_some_iff.1 h
  obtain rfl := Option.some.inj h
  have hread : ∀ l : List (List Char), (l.map lowered).mapM parseHextet = l.mapM parseHextet := by
    intro l
    rw [List.mapM_map]
    exact congrArg (fun f => l.mapM f) (funext parseHextet_lowered)
  refine parseV6_eq (hextets_lowered hparts) ?_ ((hextetCounts_lowered parts).trans hcounts) ?_ ?_
  · rw [List.length_map]
    exact not_lt.1 hmany
  · rw [← List.map_take, hread, hhigh]
  · rw [List.length_map, ← List.map_drop, hread, hlow]

/-- An IPv6 address has a colon in it. -/
theorem colon_of_parseV6 {s : List Char} {ip : ℕ} (h : parseV6 s = some ip) : ':' ∈ s := by
  obtain ⟨parts, hparts, -⟩ := Option.bind_eq_some_iff.1 h
  by_contra hfree
  rw [hextets] at hparts
  dsimp only at hparts
  rw [List.splitOn_eq_singleton hfree, if_pos (by simp)] at hparts
  cases hparts

/-- An IPv6 address in lower case is one. -/
theorem address_lowered {s : List Char} {ip : ℕ} {scopeId : Option (List Char)}
    (h : address s = some (.v6 ip scopeId)) :
    address (lowered s) = some (.v6 ip (scopeId.map lowered)) := by
  obtain ⟨hslash, ⟨ip', hv4, -⟩ | ⟨-, hv6⟩⟩ := address_cases h
  · cases hv4
  · have hslash' : (lowered s).contains '/' = false := by
      rw [← Bool.not_eq_true, List.contains_iff_mem, mem_lowered_iff (by decide)]
      exact hslash
    have hcolon : ':' ∈ s := by
      rcases hv6 with ⟨_, -, hip, -⟩ | ⟨_, text, z, -, rfl, hip, -, -, -⟩
      · exact colon_of_parseV6 hip
      · exact List.mem_append_left _ (colon_of_parseV6 hip)
    have hnone : parseV4 (lowered s) = none :=
      parseV4_of_colon ((mem_lowered_iff (by decide)).2 hcolon)
    rw [address, hslash', if_neg Bool.false_ne_true, hnone]
    rcases hv6 with ⟨_, ha, hip, hfree⟩ | ⟨_, text, z, ha, rfl, hip, hne, hz, hfree⟩
    · cases ha
      rw [partition_of_notMem (by rwa [mem_lowered_iff (by decide)])]
      dsimp only
      rw [parseV6_lowered hip]
      rfl
    · cases ha
      have htext : lowered (text ++ '%' :: z) = lowered text ++ '%' :: lowered z := by
        rw [lowered, List.map_append]
        rfl
      have hform : ((lowered z).isEmpty || (lowered z).contains '%') = false := by
        rw [Bool.or_eq_false_iff, List.isEmpty_eq_false_iff, ← Bool.not_eq_true,
          List.contains_iff_mem, mem_lowered_iff (by decide)]
        exact ⟨by rwa [lowered, ne_eq, List.map_eq_nil_iff], hz⟩
      rw [htext, partition_append (by rwa [mem_lowered_iff (by decide)])]
      dsimp only
      rw [hform, if_neg Bool.false_ne_true, parseV6_lowered hip]
      rfl

end Ip
