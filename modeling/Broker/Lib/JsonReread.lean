import Broker.Lib.JsonText
import Broker.Lib.Raising

/-!
# Values that are written again

A value that `json.loads` has read can be written and read once more: its integers are short
enough, the keys of its objects distinct, and it is not nested too deeply (`written_of_loads`).
Of its floats that depends on the text that `repr` gives for them (`FloatReread`).
-/

namespace Py

namespace Json

/-! ## Values of a kind -/

mutual

/-- The values whose floats satisfy `p`, their integers short enough to read, the keys of their
    objects distinct, nested up to `depth`. -/
def Written (p : PyFloat → Prop) : (depth : ℕ) → Json → Prop
  | _, null | _, bool _ | _, str _ => True
  | _, int n => (Nat.toDigits 10 n.natAbs).length ≤ intMaxStrDigits
  | _, float x => p x
  | 0, list _ | 0, dict _ => False
  | depth + 1, list items => WrittenItems p depth items
  | depth + 1, dict entries => (entries.map Prod.fst).Nodup ∧ WrittenEntries p depth entries

/-- The items of a list are such values. -/
def WrittenItems (p : PyFloat → Prop) : (depth : ℕ) → List Json → Prop
  | _, [] => True
  | depth, v :: vs => Written p depth v ∧ WrittenItems p depth vs

/-- The values of an object are such values. -/
def WrittenEntries (p : PyFloat → Prop) : (depth : ℕ) → List (String × Json) → Prop
  | _, [] => True
  | depth, (_, v) :: es => Written p depth v ∧ WrittenEntries p depth es

end

mutual

/-- The floats of a value satisfy `p`. -/
def AllFloats (p : PyFloat → Prop) : Json → Prop
  | null | bool _ | str _ | int _ => True
  | float x => p x
  | list items => AllFloatsItems p items
  | dict entries => AllFloatsEntries p entries

def AllFloatsItems (p : PyFloat → Prop) : List Json → Prop
  | [] => True
  | v :: vs => AllFloats p v ∧ AllFloatsItems p vs

def AllFloatsEntries (p : PyFloat → Prop) : List (String × Json) → Prop
  | [] => True
  | (_, v) :: es => AllFloats p v ∧ AllFloatsEntries p es

end

section

variable {p q : PyFloat → Prop} {depth : ℕ}

theorem writtenEntries_iff {es : List (String × Json)} :
    WrittenEntries p depth es ↔ ∀ e ∈ es, Written p depth e.2 := by
  induction es with
  | nil => exact iff_of_true trivial fun e he => absurd he List.not_mem_nil
  | cons e es ih =>
    rw [List.forall_mem_cons, ← ih]
    exact Iff.rfl

mutual

/-- The floats of a value of a kind satisfy what its kind says of them. -/
theorem Written.allFloats : ∀ (v : Json) {depth : ℕ}, Written p depth v → AllFloats p v
  | null, _, _ => trivial
  | bool _, _, _ => trivial
  | str _, _, _ => trivial
  | int _, _, _ => trivial
  | float _, _, h => h
  | list _, 0, h => h.elim
  | list items, _ + 1, h => WrittenItems.allFloats items h
  | dict _, 0, h => h.elim
  | dict entries, _ + 1, h => WrittenEntries.allFloats entries h.2

theorem WrittenItems.allFloats : ∀ (vs : List Json) {depth : ℕ}, WrittenItems p depth vs →
    AllFloatsItems p vs
  | [], _, _ => trivial
  | v :: vs, _, h => ⟨Written.allFloats v h.1, WrittenItems.allFloats vs h.2⟩

theorem WrittenEntries.allFloats : ∀ (es : List (String × Json)) {depth : ℕ},
    WrittenEntries p depth es → AllFloatsEntries p es
  | [], _, _ => trivial
  | (_, v) :: es, _, h => ⟨Written.allFloats v h.1, WrittenEntries.allFloats es h.2⟩

end

mutual

/-- What floats a value may hold is up to its floats. -/
theorem Written.of_allFloats : ∀ (v : Json) {depth : ℕ}, Written p depth v → AllFloats q v →
    Written q depth v
  | null, _, _, _ => trivial
  | bool _, _, _, _ => trivial
  | str _, _, _, _ => trivial
  | int _, _, h, _ => h
  | float _, _, _, h => h
  | list _, 0, h, _ => h.elim
  | list items, _ + 1, h, hq => WrittenItems.of_allFloats items h hq
  | dict _, 0, h, _ => h.elim
  | dict entries, _ + 1, h, hq => ⟨h.1, WrittenEntries.of_allFloats entries h.2 hq⟩

theorem WrittenItems.of_allFloats : ∀ (vs : List Json) {depth : ℕ}, WrittenItems p depth vs →
    AllFloatsItems q vs → WrittenItems q depth vs
  | [], _, _, _ => trivial
  | v :: vs, _, h, hq => ⟨Written.of_allFloats v h.1 hq.1, WrittenItems.of_allFloats vs h.2 hq.2⟩

theorem WrittenEntries.of_allFloats : ∀ (es : List (String × Json)) {depth : ℕ},
    WrittenEntries p depth es → AllFloatsEntries q es → WrittenEntries q depth es
  | [], _, _, _ => trivial
  | (_, v) :: es, _, h, hq =>
    ⟨Written.of_allFloats v h.1 hq.1, WrittenEntries.of_allFloats es h.2 hq.2⟩

end

mutual

/-- A value without floats is such a value, whatever floats may be. -/
theorem Plain.written : ∀ (v : Json) {depth : ℕ}, v.Plain depth → Written p depth v
  | null, _, _ => trivial
  | bool _, _, _ => trivial
  | str _, _, _ => trivial
  | int _, _, h => h
  | float _, _, h => h.elim
  | list _, 0, h => h.elim
  | list items, _ + 1, h => PlainItems.written items h
  | dict _, 0, h => h.elim
  | dict entries, _ + 1, h => ⟨h.1, PlainEntries.written entries h.2⟩

theorem PlainItems.written : ∀ (vs : List Json) {depth : ℕ}, PlainItems depth vs →
    WrittenItems p depth vs
  | [], _, _ => trivial
  | v :: vs, _, h => ⟨Plain.written v h.1, PlainItems.written vs h.2⟩

theorem PlainEntries.written : ∀ (es : List (String × Json)) {depth : ℕ}, PlainEntries depth es →
    WrittenEntries p depth es
  | [], _, _ => trivial
  | (_, v) :: es, _, h => ⟨Plain.written v h.1, PlainEntries.written es h.2⟩

end

end

/-! ## Values that are read -/

theorem ofPairs_subset {pairs : List (String × Json)} : ∀ e ∈ ofPairs pairs, e ∈ pairs := by
  have hfold : ∀ (pairs : List (String × Json)) (d : Dict String Json),
      ∀ e ∈ (pairs.foldl (fun (d : Dict String Json) pair => d.set pair.1 pair.2) d).entries,
        e ∈ pairs ∨ e ∈ d.entries := by
    intro pairs
    induction pairs with
    | nil => exact fun d e he => .inr he
    | cons pair pairs ih =>
      intro d e he
      obtain he | he := ih _ e he
      · exact .inl (.tail _ he)
      · obtain ⟨k, v⟩ := pair
        obtain ⟨k', v'⟩ := e
        rw [Dict.mem_entries_iff, Dict.get?_set] at he
        split_ifs at he with hk
        · obtain rfl := Option.some.inj he
          subst hk
          exact .inl (.head _)
        · exact .inr ((Dict.mem_entries_iff d).2 he)
  intro e he
  exact (hfold pairs ∅ e he).resolve_right List.not_mem_nil

theorem nodup_ofPairs (pairs : List (String × Json)) : ((ofPairs pairs).map Prod.fst).Nodup := by
  rw [ofPairs]
  exact Dict.nodup _

/-- Digits stand for a number below a power of ten. -/
theorem ofDigitChars_lt {digits : List Char} (h : ∀ c ∈ digits, isDigit c = true) (init : ℕ) :
    Nat.ofDigitChars 10 digits init < 10 ^ digits.length * (init + 1) := by
  induction digits generalizing init with
  | nil => rw [Nat.ofDigitChars_nil, List.length_nil, pow_zero, one_mul]; exact Nat.lt_succ_self init
  | cons c digits ih =>
    rw [List.forall_mem_cons] at h
    have hdigit : c.toNat - '0'.toNat < 10 := by
      have hc := h.1
      rw [isDigit, Bool.and_eq_true, decide_eq_true_eq, decide_eq_true_eq] at hc
      have hle : c.toNat ≤ '9'.toNat := hc.2
      have h9 : '9'.toNat = 57 := rfl
      have h0 : '0'.toNat = 48 := rfl
      omega
    rw [Nat.ofDigitChars_cons, List.length_cons, pow_succ, mul_assoc]
    refine (ih h.2 _).trans_le (Nat.mul_le_mul_left _ ?_)
    omega

theorem isDigit_of_mem_scanWhole {s : List Char} : ∀ c ∈ (scanWhole s).1, isDigit c = true := by
  intro c hc
  unfold scanWhole at hc
  split at hc
  · obtain rfl := List.mem_singleton.1 hc
    rfl
  · rw [List.span_eq_takeWhile_dropWhile] at hc
    exact List.mem_takeWhile_imp hc

/-- Numbers that are read can be written. -/
theorem written_of_scanUnsigned {negative : Bool} {s r : List Char} {v : Json}
    (h : scanUnsigned negative s = .ok (v, r)) (depth : ℕ) : Written (fun _ => True) depth v := by
  have hdigits := isDigit_of_mem_scanWhole (s := s)
  rw [scanUnsigned] at h
  generalize scanWhole s = whole at h hdigits
  obtain ⟨digits, s⟩ := whole
  dsimp only at h hdigits
  have hint : ∀ n : ℤ, digits.length ≤ intMaxStrDigits → n.natAbs = Nat.ofDigitChars 10 digits 0 →
      Written (fun _ => True) depth (int n) := by
    intro n hshort hn
    have hlt := ofDigitChars_lt hdigits 0
    rw [zero_add, mul_one] at hlt
    have hbound : Nat.ofDigitChars 10 digits 0 < 10 ^ intMaxStrDigits :=
      hlt.trans_le (Nat.pow_le_pow_right (by decide) hshort)
    rw [Written, hn]
    exact (Nat.length_toDigits_le_iff (by decide) (by decide)).2 hbound
  split_ifs at h with hempty hfloat hshort hnegative
  · obtain ⟨rfl, -⟩ := Prod.mk.inj (Except.ok.inj h)
    rw [Written]
    exact trivial
  · obtain ⟨rfl, -⟩ := Prod.mk.inj (Except.ok.inj h)
    exact hint _ hshort (by rw [Int.natAbs_neg, Int.natAbs_natCast])
  · obtain ⟨rfl, -⟩ := Prod.mk.inj (Except.ok.inj h)
    exact hint _ hshort (Int.natAbs_natCast _)

theorem written_of_scanAtom {s r : List Char} {v : Json} (h : scanAtom s = .ok (v, r)) (depth : ℕ) :
    Written (fun _ => True) depth v := by
  rw [scanAtom] at h
  dsimp only at h
  split at h
  · rename_i name w hfind
    obtain ⟨rfl, -⟩ := Prod.mk.inj (Except.ok.inj h)
    have hmem := List.mem_of_find?_eq_some hfind
    simp only [List.mem_cons, Prod.mk.injEq, List.not_mem_nil, or_false] at hmem
    rcases hmem with ⟨-, rfl⟩ | ⟨-, rfl⟩ | ⟨-, rfl⟩ | ⟨-, rfl⟩ | ⟨-, rfl⟩ | ⟨-, rfl⟩ <;>
      cases depth <;> exact trivial
  · unfold scanNumber at h
    split at h
    · exact written_of_scanUnsigned h depth
    · exact written_of_scanUnsigned h depth

/-- What the reader reads can be written. -/
theorem written_of_scan (fuel : ℕ) :
    (∀ depth s v r, scanOnce fuel depth s = .ok (v, r) → Written (fun _ => True) depth v) ∧
    (∀ depth s vs r, scanItems fuel depth s = .ok (vs, r) → WrittenItems (fun _ => True) depth vs) ∧
    ∀ depth s es r, scanEntries fuel depth s = .ok (es, r) →
      ∀ e ∈ es, Written (fun _ => True) depth e.2 := by
  -- The three scanners call each other with less fuel.
  induction fuel with
  | zero =>
    refine ⟨fun _ _ _ _ h => ?_, fun _ _ _ _ h => ?_, fun _ _ _ _ h => ?_⟩
    · rw [scanOnce] at h
      cases h
    · rw [scanItems] at h
      cases h
    · rw [scanEntries] at h
      cases h
  | succ fuel ih =>
    obtain ⟨once, items, entries⟩ := ih
    refine ⟨fun depth s v r h => ?_, fun depth s vs r h => ?_, fun depth s es r h => ?_⟩
    · unfold scanOnce at h
      split at h
      · rename_i heq
        cases heq
      · split at h
        · obtain ⟨rfl, -⟩ := Prod.mk.inj (Except.ok.inj h)
          rw [Written]
          exact trivial
        · cases h
      · cases h
      · rename_i heq
        obtain rfl := Nat.succ.inj heq
        split at h
        · obtain ⟨rfl, -⟩ := Prod.mk.inj (Except.ok.inj h)
          exact trivial
        · obtain ⟨⟨vs, s'⟩, hvs, h⟩ := exists_ok_of_bind h
          obtain ⟨rfl, -⟩ := Prod.mk.inj (Except.ok.inj h)
          exact items _ _ _ _ hvs
      · cases h
      · rename_i heq
        obtain rfl := Nat.succ.inj heq
        split at h
        · obtain ⟨rfl, -⟩ := Prod.mk.inj (Except.ok.inj h)
          exact ⟨List.nodup_nil, trivial⟩
        · obtain ⟨⟨es, s'⟩, hes, h⟩ := exists_ok_of_bind h
          obtain ⟨rfl, -⟩ := Prod.mk.inj (Except.ok.inj h)
          -- Of a key that comes twice the last value counts.
          refine ⟨nodup_ofPairs es, writtenEntries_iff.2 fun e he => ?_⟩
          exact entries _ _ _ _ hes e (ofPairs_subset e he)
      · exact written_of_scanAtom h _
    · rw [scanItems] at h
      obtain ⟨⟨v, s'⟩, hv, h⟩ := exists_ok_of_bind h
      dsimp only at h
      split at h
      · obtain ⟨⟨vs', s''⟩, hvs, h⟩ := exists_ok_of_bind h
        obtain ⟨rfl, -⟩ := Prod.mk.inj (Except.ok.inj h)
        exact ⟨once _ _ _ _ hv, items _ _ _ _ hvs⟩
      · obtain ⟨rfl, -⟩ := Prod.mk.inj (Except.ok.inj h)
        exact ⟨once _ _ _ _ hv, trivial⟩
      · cases h
    · unfold scanEntries at h
      split at h
      · rename_i heq
        cases heq
      · rename_i heq
        obtain rfl := Nat.succ.inj heq
        split at h
        · cases h
        · split at h
          · obtain ⟨⟨v, s'⟩, hv, h⟩ := exists_ok_of_bind h
            dsimp only at h
            split at h
            · obtain ⟨⟨es', s''⟩, hes, h⟩ := exists_ok_of_bind h
              obtain ⟨rfl, -⟩ := Prod.mk.inj (Except.ok.inj h)
              rw [List.forall_mem_cons]
              exact ⟨once _ _ _ _ hv, entries _ _ _ _ hes⟩
            · obtain ⟨rfl, -⟩ := Prod.mk.inj (Except.ok.inj h)
              intro e he
              obtain rfl := List.mem_singleton.1 he
              exact once _ _ _ _ hv
            · cases h
          · cases h
      · cases h

/-- What `loads` reads can be written. -/
theorem written_of_loads {depth : ℕ} {s : List Char} {v : Json} (h : loads depth s = .ok v) :
    Written (fun _ => True) depth v := by
  rw [loads] at h
  split at h
  · rename_i w rest hscan
    split_ifs at h
    obtain rfl := Except.ok.inj h
    exact (written_of_scan _).1 _ _ _ _ hscan
  · cases h

/-! ## Floats -/

/-- The text that is written for a float is read back, where the text after it continues no
    number. -/
structure FloatReread (repr : Json → String) (x : PyFloat) : Prop where
  head : ∃ c s, dumps repr (float x) = c :: s ∧ c ∉ [' ', '\t', '\n', '\r', ']', '}'] ∧
    c ∉ ['"', '[', '{']
  reads : ∀ rest, EndsNumber rest → scanAtom (dumps repr (float x) ++ rest) = .ok (float x, rest)

/-- A value that is read back from its text, with the floats for which `repr` is. -/
abbrev Reread (repr : Json → String) : (depth : ℕ) → Json → Prop := Written (FloatReread repr)

theorem readBack_float {repr : Json → String} {x : PyFloat} (h : FloatReread repr x) (depth : ℕ) :
    ReadBack repr depth (float x) := by
  obtain ⟨c, s, htext, -, hc⟩ := h.head
  refine readBack_of_scanAtom htext hc fun rest hrest => ?_
  rw [← htext]
  exact h.reads rest hrest

end Json

end Py
