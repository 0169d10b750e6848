import Broker.Lib.JsonReread

/-!
# Indented JSON text

`json.dumps` with `indent`: every item and entry on a line of its own. What it
writes for a value `json.loads` reads back, with the floats whose text is read back
(`loads_dumpsIndent_of_reread`).
-/

namespace Py

namespace Json

/-- A line break, and `n` blanks. -/
def newline (n : ℕ) : List Char := '\n' :: List.replicate n ' '

mutual

/-- `json.dumps(value, indent=indent)`, from a column on, for what `repr` gives
    for a finite float. -/
def dumpsIndent (repr : Json → String) (indent : ℕ) : (column : ℕ) → Json → List Char
  | _, list [] => ['[', ']']
  | column, list (v :: vs) =>
    '[' :: (newline (column + indent) ++ (dumpsIndent repr indent (column + indent) v ++
      indentItems repr indent column vs))
  | _, dict [] => ['{', '}']
  | column, dict ((k, v) :: es) =>
    '{' :: (newline (column + indent) ++ (dumpString k.toList ++ ':' :: ' ' ::
      (dumpsIndent repr indent (column + indent) v ++ indentEntries repr indent column es)))
  | _, null => dumps repr null
  | _, bool b => dumps repr (bool b)
  | _, int n => dumps repr (int n)
  | _, float x => dumps repr (float x)
  | _, str s => dumps repr (str s)

/-- The text of the items that follow the first of a list. -/
def indentItems (repr : Json → String) (indent : ℕ) : (column : ℕ) → List Json → List Char
  | column, [] => newline column ++ [']']
  | column, v :: vs =>
    ',' :: (newline (column + indent) ++ (dumpsIndent repr indent (column + indent) v ++
      indentItems repr indent column vs))

/-- The text of the entries that follow the first of an object. -/
def indentEntries (repr : Json → String) (indent : ℕ) :
    (column : ℕ) → List (String × Json) → List Char
  | column, [] => newline column ++ ['}']
  | column, (k, v) :: es =>
    ',' :: (newline (column + indent) ++ (dumpString k.toList ++ ':' :: ' ' ::
      (dumpsIndent repr indent (column + indent) v ++ indentEntries repr indent column es)))

end

example : dumpsIndent (fun _ => "") 2 0 (dict [("a", list [int 1, null]), ("b", dict [])]) =
    "\x7b\n  \"a\": [\n    1,\n    null\n  ],\n  \"b\": \x7b\x7d\n\x7d".toList := by
  decide +kernel

/-! ## Blanks -/

theorem skipSpace_newline (n : ℕ) (s : List Char) : skipSpace (newline n ++ s) = skipSpace s := by
  induction n with
  | zero => rfl
  | succ n ih =>
    rw [skipSpace, newline, List.cons_append, List.dropWhile_cons_of_pos (by decide)] at ih ⊢
    rw [List.replicate_succ, List.cons_append, List.dropWhile_cons_of_pos (by decide)]
    exact ih

theorem endsNumber_newline (n : ℕ) (s : List Char) : EndsNumber (newline n ++ s) := by
  intro c hc
  obtain rfl : '\n' = c := by simpa [newline] using hc
  decide

theorem endsNumber_indentItems (repr : Json → String) (indent column : ℕ) (vs : List Json)
    (s : List Char) : EndsNumber (indentItems repr indent column vs ++ s) := by
  cases vs with
  | nil =>
    rw [indentItems, List.append_assoc]
    exact endsNumber_newline _ _
  | cons v vs =>
    rw [indentItems]
    exact endsNumber_cons (by decide) _

theorem endsNumber_indentEntries (repr : Json → String) (indent column : ℕ)
    (es : List (String × Json)) (s : List Char) :
    EndsNumber (indentEntries repr indent column es ++ s) := by
  cases es with
  | nil =>
    rw [indentEntries, List.append_assoc]
    exact endsNumber_newline _ _
  | cons e es =>
    rw [indentEntries]
    exact endsNumber_cons (by decide) _

/-- The text of a value starts with no blank and no closing bracket. -/
theorem dumpsIndent_head (repr : Json → String) (indent column : ℕ) {depth : ℕ} {v : Json}
    (h : Reread repr depth v) :
    ∃ c s, dumpsIndent repr indent column v = c :: s ∧ c ∉ [' ', '\t', '\n', '\r', ']', '}'] := by
  cases v with
  | list vs => cases vs <;> exact ⟨_, _, by rw [dumpsIndent], by decide⟩
  | dict es => cases es <;> exact ⟨_, _, by rw [dumpsIndent], by decide⟩
  | float x =>
    rw [Reread, Written] at h
    obtain ⟨c, s, htext, hc, -⟩ := h.head
    rw [dumpsIndent]
    exact ⟨c, s, htext, hc⟩
  | int n =>
    rw [Reread, Written] at h
    rw [dumpsIndent]
    exact @dumps_head repr 0 _ h
  | _ =>
    rw [dumpsIndent]
    exact @dumps_head repr 0 _ trivial

theorem skipSpace_dumpsIndent (repr : Json → String) (indent column : ℕ) {depth : ℕ} {v : Json}
    (h : Reread repr depth v) (s : List Char) :
    skipSpace (dumpsIndent repr indent column v ++ s) = dumpsIndent repr indent column v ++ s := by
  obtain ⟨c, t, htext, hc⟩ := dumpsIndent_head repr indent column h
  rw [htext, List.cons_append, skipSpace_cons hc]

/-! ## Values read back -/

/-- That the text, at a depth, is read to `v`. -/
def Reads (text : List Char) (depth : ℕ) (v : Json) : Prop :=
  ∀ fuel rest, 2 * text.length ≤ fuel + 1 → EndsNumber rest →
    scanOnce fuel depth (text ++ rest) = .ok (v, rest)

theorem scanOnce_list {fuel depth : ℕ} {s t r : List Char} {vs : List Json} {c : Char}
    (hs : skipSpace s = c :: t) (hc : c ≠ ']') (h : scanItems fuel depth (c :: t) = .ok (vs, r)) :
    scanOnce (fuel + 1) (depth + 1) ('[' :: s) = .ok (list vs, r) := by
  rw [scanOnce, hs]
  split
  · rename_i heq
    exact absurd (List.cons.inj heq).1 hc
  · rw [h]
    rfl

theorem scanOnce_dict {fuel depth : ℕ} {s t r : List Char} {es : List (String × Json)}
    (hs : skipSpace s = '"' :: t) (h : scanEntries fuel depth ('"' :: t) = .ok (es, r)) :
    scanOnce (fuel + 1) (depth + 1) ('{' :: s) = .ok (dict (ofPairs es), r) := by
  rw [scanOnce, hs]
  split
  · rename_i heq
    cases heq
  · rw [h]
    rfl

theorem scanItems_end {fuel depth : ℕ} {s t r : List Char} {v : Json}
    (h : scanOnce fuel depth s = .ok (v, t)) (ht : skipSpace t = ']' :: r) :
    scanItems (fuel + 1) depth s = .ok ([v], r) := by
  rw [scanItems, h]
  dsimp only [bind, Except.bind]
  rw [ht]
  rfl

theorem scanItems_next {fuel depth : ℕ} {s t t' r : List Char} {v : Json} {vs : List Json}
    (h : scanOnce fuel depth s = .ok (v, t)) (ht : skipSpace t = ',' :: t')
    (h' : scanItems fuel depth (skipSpace t') = .ok (vs, r)) :
    scanItems (fuel + 1) depth s = .ok (v :: vs, r) := by
  rw [scanItems, h]
  dsimp only [bind, Except.bind]
  rw [ht]
  change (scanItems fuel depth (skipSpace t') >>= fun p => pure (v :: p.1, p.2)) = _
  rw [h']
  rfl

theorem scanEntries_end {fuel depth : ℕ} {s t r : List Char} {k : String} {v : Json}
    (h : scanOnce fuel depth (skipSpace s) = .ok (v, t)) (ht : skipSpace t = '}' :: r) :
    scanEntries (fuel + 1) depth (dumpString k.toList ++ ':' :: s) = .ok ([(k, v)], r) := by
  rw [scanEntries_key, h]
  dsimp only [bind, Except.bind]
  rw [ht]
  rfl

theorem scanEntries_next {fuel depth : ℕ} {s t t' r : List Char} {k : String} {v : Json}
    {es : List (String × Json)} (h : scanOnce fuel depth (skipSpace s) = .ok (v, t))
    (ht : skipSpace t = ',' :: t') (h' : scanEntries fuel depth (skipSpace t') = .ok (es, r)) :
    scanEntries (fuel + 1) depth (dumpString k.toList ++ ':' :: s) = .ok ((k, v) :: es, r) := by
  rw [scanEntries_key, h]
  dsimp only [bind, Except.bind]
  rw [ht]
  change (scanEntries fuel depth (skipSpace t') >>= fun p => pure ((k, v) :: p.1, p.2)) = _
  rw [h']
  rfl

mutual

/-- A value is read back. -/
theorem reads_dumpsIndent (repr : Json → String) (indent : ℕ) :
    ∀ (v : Json) (column : ℕ) {depth : ℕ}, Reread repr depth v →
      Reads (dumpsIndent repr indent column v) depth v
  | null, _, _, _ => by
    rw [dumpsIndent]
    exact readBack repr _ trivial
  | bool b, _, _, _ => by
    rw [dumpsIndent]
    exact readBack repr _ trivial
  | int n, _, _, h => by
    rw [Reread, Written] at h
    rw [dumpsIndent]
    exact readBack_int repr h
  | float x, _, depth, h => by
    rw [Reread, Written] at h
    rw [dumpsIndent]
    exact readBack_float h depth
  | str text, _, _, _ => by
    rw [dumpsIndent]
    exact readBack repr _ trivial
  | list [], _, 0, h => h.elim
  | list [], _, depth + 1, _ => by
    intro fuel rest hfuel _
    obtain ⟨fuel, rfl⟩ : ∃ n, fuel = n + 1 := ⟨fuel - 1, by simp [dumpsIndent] at hfuel; omega⟩
    rw [dumpsIndent]
    rfl
  | list (_ :: _), _, 0, h => h.elim
  | list (v :: vs), column, depth + 1, h => by
    obtain ⟨hv, hvs⟩ := h
    intro fuel rest hfuel _
    rw [dumpsIndent, List.length_cons, List.length_append, List.length_append] at hfuel
    obtain ⟨fuel, rfl⟩ : ∃ n, fuel = n + 1 := ⟨fuel - 1, by omega⟩
    have hitems := scanItems_dumpsIndent repr indent vs column
      (reads_dumpsIndent repr indent v (column + indent) hv) hvs fuel rest (by omega)
    obtain ⟨c, s, htext, hc⟩ := dumpsIndent_head repr indent (column + indent) hv
    -- A value never starts with the bracket that would end the list.
    have hbracket : c ≠ ']' := by
      rintro rfl
      exact hc (by decide)
    rw [htext, List.cons_append] at hitems
    rw [dumpsIndent, List.cons_append, List.append_assoc, List.append_assoc]
    refine scanOnce_list ?_ hbracket hitems
    rw [skipSpace_newline, htext, List.cons_append, skipSpace_cons hc]
  | dict [], _, 0, h => h.elim
  | dict [], _, depth + 1, _ => by
    intro fuel rest hfuel _
    obtain ⟨fuel, rfl⟩ : ∃ n, fuel = n + 1 := ⟨fuel - 1, by simp [dumpsIndent] at hfuel; omega⟩
    rw [dumpsIndent]
    rfl
  | dict (_ :: _), _, 0, h => h.elim
  | dict ((k, v) :: es), column, depth + 1, h => by
    obtain ⟨hkeys, hv, hes⟩ := h
    intro fuel rest hfuel _
    have htext : dumpsIndent repr indent column (dict ((k, v) :: es)) ++ rest =
        '{' :: (newline (column + indent) ++ (dumpString k.toList ++ ':' :: ' ' ::
          (dumpsIndent repr indent (column + indent) v ++
            (indentEntries repr indent column es ++ rest)))) := by
      simp [dumpsIndent]
    simp only [dumpsIndent, List.length_cons, List.length_append] at hfuel
    obtain ⟨fuel, rfl⟩ : ∃ n, fuel = n + 1 := ⟨fuel - 1, by omega⟩
    have hentries := scanEntries_dumpsIndent repr indent es column (k := k)
      (reads_dumpsIndent repr indent v (column + indent) hv) hes
      (skipSpace_dumpsIndent repr indent (column + indent) hv) fuel rest (by omega)
    rw [htext, ← ofPairs_of_nodup hkeys]
    rw [dumpString, List.cons_append, List.cons_append] at hentries ⊢
    refine scanOnce_dict ?_ hentries
    rw [skipSpace_newline, skipSpace_cons (by decide)]

/-- The items of a list are read back. -/
theorem scanItems_dumpsIndent (repr : Json → String) (indent : ℕ) :
    ∀ (vs : List Json) (column : ℕ) {depth : ℕ} {text : List Char} {v : Json},
      Reads text depth v → WrittenItems (FloatReread repr) depth vs →
      ∀ fuel rest, 2 * (text.length + (indentItems repr indent column vs).length) ≤ fuel →
        scanItems fuel depth (text ++ (indentItems repr indent column vs ++ rest)) =
          .ok (v :: vs, rest)
  | [], column, _, text, v, hv, _ => by
    intro fuel rest hfuel
    have hends := endsNumber_indentItems repr indent column [] rest
    rw [indentItems, List.length_append, List.length_singleton] at hfuel
    rw [indentItems, List.append_assoc] at hends ⊢
    obtain ⟨fuel, rfl⟩ : ∃ n, fuel = n + 1 := ⟨fuel - 1, by omega⟩
    refine scanItems_end (hv fuel _ (by omega) hends) ?_
    rw [skipSpace_newline]
    rfl
  | w :: vs, column, _, text, v, hv, hvs => by
    obtain ⟨hw, hvs⟩ := hvs
    intro fuel rest hfuel
    rw [indentItems, List.length_cons, List.length_append, List.length_append] at hfuel
    obtain ⟨fuel, rfl⟩ : ∃ n, fuel = n + 1 := ⟨fuel - 1, by omega⟩
    have hitems := scanItems_dumpsIndent repr indent vs column
      (reads_dumpsIndent repr indent w (column + indent) hw) hvs fuel rest (by omega)
    rw [indentItems, List.cons_append, List.append_assoc, List.append_assoc]
    refine scanItems_next (hv fuel _ (by omega) (endsNumber_cons (by decide) _))
      (skipSpace_cons (by decide) _) ?_
    rwa [skipSpace_newline, skipSpace_dumpsIndent repr indent (column + indent) hw]

/-- The entries of an object are read back. -/
theorem scanEntries_dumpsIndent (repr : Json → String) (indent : ℕ) :
    ∀ (es : List (String × Json)) (column : ℕ) {depth : ℕ} {text : List Char} {k : String} {v : Json},
      Reads text depth v → WrittenEntries (FloatReread repr) depth es →
      (∀ s, skipSpace (text ++ s) = text ++ s) →
      ∀ fuel rest, 2 * (text.length + (indentEntries repr indent column es).length + 1) ≤ fuel →
        scanEntries fuel depth (dumpString k.toList ++ ':' :: ' ' :: (text ++
          (indentEntries repr indent column es ++ rest))) = .ok ((k, v) :: es, rest)
  | [], column, _, text, k, v, hv, _, hspace => by
    intro fuel rest hfuel
    have hends := endsNumber_indentEntries repr indent column [] rest
    rw [indentEntries, List.append_assoc] at hends ⊢
    obtain ⟨fuel, rfl⟩ : ∃ n, fuel = n + 1 := ⟨fuel - 1, by omega⟩
    have hread := hv fuel _ (by omega) hends
    rw [← hspace] at hread
    refine scanEntries_end hread ?_
    rw [skipSpace_newline]
    rfl
  | (l, w) :: es, column, _, text, k, v, hv, hes, hspace => by
    obtain ⟨hw, hes⟩ := hes
    intro fuel rest hfuel
    simp only [indentEntries, List.length_cons, List.length_append] at hfuel
    obtain ⟨fuel, rfl⟩ : ∃ n, fuel = n + 1 := ⟨fuel - 1, by omega⟩
    have hentries := scanEntries_dumpsIndent repr indent es column (k := l)
      (reads_dumpsIndent repr indent w (column + indent) hw) hes
      (skipSpace_dumpsIndent repr indent (column + indent) hw) fuel rest (by omega)
    have htext : indentEntries repr indent column ((l, w) :: es) ++ rest =
        ',' :: (newline (column + indent) ++ (dumpString l.toList ++ ':' :: ' ' ::
          (dumpsIndent repr indent (column + indent) w ++
            (indentEntries repr indent column es ++ rest)))) := by
      simp [indentEntries]
    rw [htext]
    have hread := hv fuel (',' :: (newline (column + indent) ++ (dumpString l.toList ++ ':' :: ' ' ::
      (dumpsIndent repr indent (column + indent) w ++
        (indentEntries repr indent column es ++ rest))))) (by omega) (endsNumber_cons (by decide) _)
    rw [← hspace] at hread
    refine scanEntries_next hread (skipSpace_cons (by decide) _) ?_
    rwa [skipSpace_newline, skipSpace_dumpString]

end

/-- The indented text of a value is read back. -/
theorem loads_dumpsIndent_of_reread (repr : Json → String) (indent : ℕ) {depth : ℕ} {v : Json}
    (h : Reread repr depth v) : loads depth (dumpsIndent repr indent 0 v) = .ok v := by
  have hread := reads_dumpsIndent repr indent v 0 h (2 * (dumpsIndent repr indent 0 v).length + 1) []
    (by omega) (by simp [EndsNumber])
  have hspace := skipSpace_dumpsIndent repr indent 0 h []
  rw [List.append_nil] at hread hspace
  rw [loads, hspace, hread]
  rfl

/-- The indented text of a value without floats is read back. -/
theorem loads_dumpsIndent (repr : Json → String) (indent : ℕ) {depth : ℕ} {v : Json}
    (h : v.Plain depth) : loads depth (dumpsIndent repr indent 0 v) = .ok v :=
  loads_dumpsIndent_of_reread repr indent (Plain.written v h)

end Json

end Py
