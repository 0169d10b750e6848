import Mathlib.Data.List.Basic
import Broker.Lib.Text

/-!
# Slugs

A slug replaces every run of unwanted characters by one separator, and drops
the separators at both ends. What is left of a text are its words, the maximal
runs of the wanted characters:

* `slug_eq`: a slug is its words, joined by the separator;
* `join_injective`: joining words without a separator in them loses nothing.
-/

namespace Slug

open Py

variable (keep : Char → Bool) (sep : Char)

/-- Replaces every run of unwanted characters by one separator; `inRun` says that
    the character before was one. -/
def collapse (inRun : Bool) : List Char → List Char
  | [] => []
  | c :: cs =>
    if keep c then c :: collapse false cs
    else if inRun then collapse true cs else sep :: collapse true cs

/-- The slug of a text. -/
def slug (s : List Char) : List Char := stripWhere (· = sep) (collapse keep sep false s)

/-- The maximal runs of wanted characters. -/
def words (s : List Char) : List (List Char) :=
  (s.splitOnP fun c => !keep c).filter fun w => !w.isEmpty

/-- Words joined by the separator. -/
def join (ws : List (List Char)) : List Char := [sep].intercalate ws

variable {keep sep}

/-! ## Joining -/

theorem join_cons (w : List Char) {ws : List (List Char)} (h : ws ≠ []) :
    join sep (w :: ws) = w ++ sep :: join sep ws := by
  obtain ⟨v, vs, rfl⟩ := List.exists_cons_of_ne_nil h
  simp [join, List.intercalate]

theorem join_append_singleton {ws : List (List Char)} (h : ws ≠ []) (w : List Char) :
    join sep (ws ++ [w]) = join sep ws ++ sep :: w := by
  induction ws with
  | nil => exact absurd rfl h
  | cons v vs ih =>
    rcases eq_or_ne vs [] with rfl | hvs
    · simp [join, List.intercalate]
    · rw [List.cons_append, join_cons v (by simp), ih hvs, join_cons v hvs, List.append_assoc,
        List.cons_append]

/-- Joining words that are free of the separator loses nothing. -/
theorem join_injective {ws ws' : List (List Char)} (hne : ws ≠ []) (hne' : ws' ≠ [])
    (hfree : ∀ w ∈ ws, sep ∉ w) (hfree' : ∀ w ∈ ws', sep ∉ w) (h : join sep ws = join sep ws') :
    ws = ws' := by
  rw [← List.splitOn_intercalate sep hfree hne, ← List.splitOn_intercalate sep hfree' hne']
  exact congrArg (List.splitOn sep) h

/-! ## Runs -/

/-- A text is a run of wanted characters, or one followed by an unwanted character. -/
theorem run_cases (s : List Char) :
    (∀ c ∈ s, keep c = true) ∨
    ∃ w d s', s = w ++ d :: s' ∧ (∀ c ∈ w, keep c = true) ∧ keep d = false := by
  induction s with
  | nil => exact .inl (by simp)
  | cons c s ih =>
    cases hc : keep c with
    | false => exact .inr ⟨[], c, s, rfl, by simp, hc⟩
    | true =>
      rcases ih with h | ⟨w, d, s', rfl, hw, hd⟩
      · exact .inl (by simpa [hc] using h)
      · exact .inr ⟨c :: w, d, s', rfl, by simpa [hc] using hw, hd⟩

/-- Induction along the runs of wanted characters. -/
theorem run_induction {P : List Char → Prop} (last : ∀ w, (∀ c ∈ w, keep c = true) → P w)
    (next : ∀ w d s, (∀ c ∈ w, keep c = true) → keep d = false → P s → P (w ++ d :: s))
    (s : List Char) : P s := by
  induction hn : s.length using Nat.strongRecOn generalizing s with
  | ind n ih =>
    rcases @run_cases keep s with h | ⟨w, d, s', rfl, hw, hd⟩
    · exact last s h
    · refine next w d s' hw hd (ih s'.length ?_ s' rfl)
      rw [← hn, List.length_append, List.length_cons]
      omega

/-! ## Words -/

theorem words_of_keep {w : List Char} (hne : w ≠ []) (h : ∀ c ∈ w, keep c = true) :
    words keep w = [w] := by
  rw [words, List.splitOnP_eq_singleton (by simpa using h)]
  simp [hne]

theorem words_append_cons {w : List Char} (h : ∀ c ∈ w, keep c = true) {d : Char}
    (hd : keep d = false) (s : List Char) :
    words keep (w ++ d :: s) = (if w = [] then [] else [w]) ++ words keep s := by
  rw [words, List.splitOnP_append_cons w s (by simpa using hd), List.filter_append,
    List.splitOnP_eq_singleton (by simpa using h), ← words]
  split_ifs with hw <;> simp [hw]

theorem mem_words {s w : List Char} (h : w ∈ words keep s) : w ≠ [] ∧ ∀ c ∈ w, keep c = true := by
  induction s using @run_induction keep with
  | last v hv =>
    rcases eq_or_ne v [] with rfl | hne
    · simp [words] at h
    · rw [words_of_keep hne hv, List.mem_singleton] at h
      exact h ▸ ⟨hne, hv⟩
  | next v d s hv hd ih =>
    rw [words_append_cons hv hd, List.mem_append] at h
    rcases h with h | h
    · split_ifs at h with hne
      · cases h
      · exact List.mem_singleton.1 h ▸ ⟨hne, hv⟩
    · exact ih h

/-! ## Collapsing -/

theorem collapse_of_keep {w : List Char} (h : ∀ c ∈ w, keep c = true) (inRun : Bool) :
    collapse keep sep inRun w = w := by
  induction w generalizing inRun with
  | nil => rfl
  | cons c w ih =>
    rw [collapse, if_pos (h c List.mem_cons_self), ih fun d hd => h d (List.mem_cons_of_mem c hd)]

theorem collapse_append_cons {w : List Char} (hne : w ≠ []) (h : ∀ c ∈ w, keep c = true) {d : Char}
    (hd : keep d = false) (s : List Char) (inRun : Bool) :
    collapse keep sep inRun (w ++ d :: s) = w ++ sep :: collapse keep sep true s := by
  induction w generalizing inRun with
  | nil => exact absurd rfl hne
  | cons c w ih =>
    rw [List.cons_append, collapse, if_pos (h c List.mem_cons_self), List.cons_append]
    congr 1
    rcases eq_or_ne w [] with rfl | hw
    · simp [collapse, hd]
    · exact ih hw (fun e he => h e (List.mem_cons_of_mem c he)) false

/-- Collapsed, a text is its words, joined, and at most one more separator. -/
theorem collapse_eq (s : List Char) :
    ∃ tail, (tail = [] ∨ tail = [sep] ∧ words keep s ≠ []) ∧
      collapse keep sep true s = join sep (words keep s) ++ tail := by
  induction s using @run_induction keep with
  | last w hw =>
    refine ⟨[], .inl rfl, ?_⟩
    rcases eq_or_ne w [] with rfl | hne
    · simp [collapse, words, join, List.intercalate]
    · rw [collapse_of_keep hw, words_of_keep hne hw]
      simp [join, List.intercalate]
  | next w d s hw hd ih =>
    obtain ⟨tail, htail, hcollapse⟩ := ih
    rw [words_append_cons hw hd]
    rcases eq_or_ne w [] with rfl | hne
    · exact ⟨tail, by simpa using htail, by simpa [collapse, hd] using hcollapse⟩
    · rw [collapse_append_cons hne hw hd, hcollapse, if_neg hne, List.singleton_append]
      rcases eq_or_ne (words keep s) [] with hwords | hwords
      · -- No word is left, and what remains has collapsed to nothing.
        have hnil : tail = [] := by
          rcases htail with htail | ⟨-, hwords'⟩
          · exact htail
          · exact absurd hwords hwords'
        refine ⟨[sep], .inr ⟨rfl, List.cons_ne_nil _ _⟩, ?_⟩
        rw [hwords, hnil]
        simp [join, List.intercalate]
      · refine ⟨tail, ?_, ?_⟩
        · rcases htail with htail | ⟨htail, -⟩
          · exact .inl htail
          · exact .inr ⟨htail, List.cons_ne_nil _ _⟩
        · rw [join_cons w hwords, List.append_assoc, List.cons_append]

/-- A leading run collapses to one separator. -/
theorem collapse_false_eq (s : List Char) :
    collapse keep sep false s = collapse keep sep true s ∨
      collapse keep sep false s = sep :: collapse keep sep true s := by
  cases s with
  | nil => exact .inl rfl
  | cons c s =>
    cases hc : keep c with
    | false => exact .inr (by simp [collapse, hc])
    | true => exact .inl (by simp [collapse, hc])

/-! ## Slugs -/

theorem join_head? {ws : List (List Char)} (h : ∀ w ∈ ws, w ≠ [] ∧ ∀ c ∈ w, keep c = true) :
    ∀ c, (join sep ws).head? = some c → keep c = true := by
  intro c hc
  cases ws with
  | nil => cases hc
  | cons w ws =>
    obtain ⟨hne, hw⟩ := h w List.mem_cons_self
    obtain ⟨d, w, rfl⟩ := List.exists_cons_of_ne_nil hne
    rcases eq_or_ne ws [] with rfl | hws
    · simp only [join, List.intercalate, List.intersperse, List.flatten_cons, List.flatten_nil,
        List.append_nil, List.head?_cons, Option.some.injEq] at hc
      exact hc ▸ hw d List.mem_cons_self
    · rw [join_cons _ hws, List.cons_append, List.head?_cons, Option.some.injEq] at hc
      exact hc ▸ hw d List.mem_cons_self

theorem join_getLast? {ws : List (List Char)} (h : ∀ w ∈ ws, w ≠ [] ∧ ∀ c ∈ w, keep c = true) :
    ∀ c, (join sep ws).getLast? = some c → keep c = true := by
  intro c hc
  induction ws with
  | nil => cases hc
  | cons w ws ih =>
    obtain ⟨hne, hw⟩ := h w List.mem_cons_self
    rcases eq_or_ne ws [] with rfl | hws
    · simp only [join, List.intercalate, List.intersperse, List.flatten_cons, List.flatten_nil,
        List.append_nil] at hc
      exact hw c (List.mem_of_getLast? hc)
    · have hrest : join sep ws ≠ [] := by
        obtain ⟨v, vs, rfl⟩ := List.exists_cons_of_ne_nil hws
        have hv := (h v (by simp)).1
        intro hnil
        rcases eq_or_ne vs [] with rfl | hvs
        · simp [join, List.intercalate, hv] at hnil
        · simp [join_cons v hvs] at hnil
      rw [join_cons w hws, List.getLast?_append_cons, List.getLast?_cons_of_ne_nil hrest] at hc
      exact ih (fun v hv => h v (List.mem_cons_of_mem w hv)) hc

/-- A slug is its words, joined by the separator. -/
theorem slug_eq (hsep : keep sep = false) (s : List Char) :
    slug keep sep s = join sep (words keep s) := by
  have hne : ∀ c, keep c = true → decide (c = sep) = false := by
    rintro c hc
    rw [decide_eq_false_iff_not]
    rintro rfl
    rw [hsep] at hc
    cases hc
  obtain ⟨tail, htail, hcollapse⟩ := @collapse_eq keep sep s
  have htail' : ∀ c ∈ tail, decide (c = sep) = true := by
    rcases htail with rfl | ⟨rfl, -⟩
    · simp
    · simp
  have hhead : ∀ c, (join sep (words keep s)).head? = some c → decide (c = sep) = false :=
    fun c hc => hne c (join_head? (fun _ => mem_words) c hc)
  have hlast : ∀ c, (join sep (words keep s)).getLast? = some c → decide (c = sep) = false :=
    fun c hc => hne c (join_getLast? (fun _ => mem_words) c hc)
  rw [slug]
  rcases @collapse_false_eq keep sep s with h | h
  · rw [h, hcollapse]
    exact stripWhere_append (l := []) (by simp) htail' hhead hlast
  · rw [h, hcollapse]
    exact stripWhere_append (l := [sep]) (by simp) htail' hhead hlast

/-- The words of a text, or the empty word of a text without any: joined, they
    are its slug. -/
def wordsOrEmpty (keep : Char → Bool) (s : List Char) : List (List Char) :=
  if words keep s = [] then [[]] else words keep s

theorem wordsOrEmpty_ne_nil (s : List Char) : wordsOrEmpty keep s ≠ [] := by
  rw [wordsOrEmpty]
  split_ifs with h
  · exact List.cons_ne_nil _ _
  · exact h

theorem join_wordsOrEmpty (s : List Char) : join sep (wordsOrEmpty keep s) = join sep (words keep s) := by
  rw [wordsOrEmpty]
  split_ifs with h
  · rw [h]
    rfl
  · rfl

theorem not_mem_wordsOrEmpty (hsep : keep sep = false) {s w : List Char}
    (h : w ∈ wordsOrEmpty keep s) : sep ∉ w := by
  intro hmem
  rw [wordsOrEmpty] at h
  split_ifs at h with hwords
  · rw [List.mem_singleton.1 h] at hmem
    cases hmem
  · rw [(mem_words h).2 sep hmem] at hsep
    cases hsep

end Slug
