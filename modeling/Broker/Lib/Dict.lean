import Mathlib.Algebra.Order.Ring.Int
import Mathlib.Data.List.Nodup
import Mathlib.Data.List.Perm.Subperm

/-!
# Dictionaries

A dictionary in the manner of Python's `dict`: its entries in insertion order,
each key once. Assigning to a key that is present keeps its place, and to a
new key appends.

* `get?` determines the dictionary up to the order of its entries
  (`mem_entries_iff`), so what an operation does is stated by what it does to
  `get?`: `get?_set`, `get?_erase`, `get?_filter`, `get?_map`, `get?_modify`;
* `count` counts the values satisfying a predicate. It is compared along keys
  (`count_le_of_get?`), grows by at most one by an assignment
  (`count_set_le`), and over adjacent widths adds up (`count_windows_le`).
-/

namespace Py

/-- A dictionary: entries in insertion order, with distinct keys. -/
structure Dict (κ α : Type*) where
  /-- The items, in insertion order. -/
  entries : List (κ × α)
  nodup : (entries.map Prod.fst).Nodup

namespace Dict

variable {κ α : Type*}

/-- The empty dictionary `{}`. -/
def empty : Dict κ α := ⟨[], List.nodup_nil⟩

instance : EmptyCollection (Dict κ α) := ⟨empty⟩

instance [Repr κ] [Repr α] : Repr (Dict κ α) := ⟨fun d n => reprPrec d.entries n⟩

instance [DecidableEq κ] [DecidableEq α] : DecidableEq (Dict κ α) := fun d d' =>
  decidable_of_iff (d.entries = d'.entries) (by cases d; cases d'; simp)

/-- The items `d.items()` whose key and value satisfy `p`. -/
def filter (d : Dict κ α) (p : κ → α → Bool) : Dict κ α where
  entries := d.entries.filter fun i => p i.1 i.2
  nodup := d.nodup.sublist (List.filter_sublist.map _)

/-- The dictionary with every value replaced by its image. -/
def map (d : Dict κ α) (f : α → α) : Dict κ α where
  entries := d.entries.map fun i => (i.1, f i.2)
  nodup := by simpa [Function.comp_def] using d.nodup

/-- The number of values satisfying `p`: `sum(1 for v in d.values() if p(v))`. -/
def count (d : Dict κ α) (p : α → Bool) : ℕ := d.entries.countP fun i => p i.2

variable [DecidableEq κ]

/-- `d.get(k)`. -/
def get? (d : Dict κ α) (k : κ) : Option α := d.entries.lookup k

/-- `k in d`. -/
def contains (d : Dict κ α) (k : κ) : Bool := (d.get? k).isSome

/-- `del d[k]`, for a key that may be absent. -/
def erase (d : Dict κ α) (k : κ) : Dict κ α := d.filter fun k' _ => k' ≠ k

/-- In-place update of the value at `k`, when there is one. -/
def modify (d : Dict κ α) (k : κ) (f : α → α) : Dict κ α where
  entries := d.entries.map fun i => (i.1, if i.1 = k then f i.2 else i.2)
  nodup := by simpa [Function.comp_def] using d.nodup

theorem mem_entries_iff (d : Dict κ α) {k : κ} {v : α} :
    (k, v) ∈ d.entries ↔ d.get? k = some v := by
  obtain ⟨es, hnd⟩ := d
  simp only [get?]
  induction es with
  | nil => simp
  | cons i es ih =>
    obtain ⟨k', v'⟩ := i
    rw [List.map_cons, List.nodup_cons] at hnd
    rw [List.lookup_cons, List.mem_cons, ih hnd.2]
    by_cases hk : k = k'
    · subst hk
      have hnone : es.lookup k ≠ some v := fun h =>
        hnd.1 (List.mem_map.2 ⟨(k, v), (ih hnd.2).2 h, rfl⟩)
      simp [hnone, eq_comm]
    · simp [hk, beq_eq_false_iff_ne.2 hk]

theorem get?_eq_none_iff (d : Dict κ α) {k : κ} :
    d.get? k = none ↔ k ∉ d.entries.map Prod.fst := by
  constructor
  · intro h hk
    obtain ⟨⟨_, v⟩, hm, rfl⟩ := List.mem_map.1 hk
    rw [(mem_entries_iff d).1 hm] at h
    exact Option.some_ne_none _ h
  · intro h
    by_contra hne
    obtain ⟨v, hv⟩ := Option.ne_none_iff_exists'.1 hne
    exact h (List.mem_map_of_mem ((mem_entries_iff d).2 hv))

/-- What holds of every item is decided by running through them. -/
theorem forall_get?_iff (d : Dict κ α) {p : κ → α → Prop} :
    (∀ k v, d.get? k = some v → p k v) ↔ ∀ i ∈ d.entries, p i.1 i.2 := by
  constructor
  · rintro h ⟨k, v⟩ hm
    exact h k v ((mem_entries_iff d).1 hm)
  · intro h k v hv
    exact h (k, v) ((mem_entries_iff d).2 hv)

/-- Two dictionaries that agree on membership of items agree on `get?`. -/
theorem get?_eq_of_mem_iff {d : Dict κ α} {k : κ} {o : Option α}
    (h : ∀ v, (k, v) ∈ d.entries ↔ o = some v) : d.get? k = o := by
  ext v
  rw [← mem_entries_iff, h]

/-- `d[k] = v`: in place when `k` is present, appended otherwise. -/
def set (d : Dict κ α) (k : κ) (v : α) : Dict κ α :=
  if h : d.get? k = none then
    { entries := d.entries ++ [(k, v)]
      nodup := by
        rw [List.map_append, List.nodup_append]
        exact ⟨d.nodup, List.nodup_singleton _, by
          rintro a ha b hb rfl
          rw [List.map_singleton, List.mem_singleton] at hb
          subst hb
          exact (get?_eq_none_iff d).1 h ha⟩ }
  else d.modify k fun _ => v

/-! ## What the operations do to `get?` -/

@[simp] theorem get?_empty (k : κ) : (∅ : Dict κ α).get? k = none := rfl

@[simp] theorem get?_filter (d : Dict κ α) (p : κ → α → Bool) (k : κ) :
    (d.filter p).get? k = (d.get? k).filter (p k) := by
  refine get?_eq_of_mem_iff fun v => ?_
  rw [filter, List.mem_filter, mem_entries_iff, Option.filter_eq_some_iff]

@[simp] theorem get?_map (d : Dict κ α) (f : α → α) (k : κ) :
    (d.map f).get? k = (d.get? k).map f := by
  refine get?_eq_of_mem_iff fun v => ?_
  simp only [map, List.mem_map, Prod.mk.injEq, Prod.exists, Option.map_eq_some_iff]
  constructor
  · rintro ⟨_, v', hm, rfl, rfl⟩
    exact ⟨v', (mem_entries_iff d).1 hm, rfl⟩
  · rintro ⟨v', hv', rfl⟩
    exact ⟨k, v', (mem_entries_iff d).2 hv', rfl, rfl⟩

theorem get?_modify (d : Dict κ α) (k k' : κ) (f : α → α) :
    (d.modify k f).get? k' = if k' = k then (d.get? k').map f else d.get? k' := by
  refine get?_eq_of_mem_iff fun v => ?_
  simp only [modify, List.mem_map, Prod.mk.injEq, Prod.exists]
  constructor
  · rintro ⟨_, v', hm, rfl, rfl⟩
    rw [(mem_entries_iff d).1 hm]
    split_ifs <;> rfl
  · intro h
    split_ifs at h with hk
    · obtain ⟨v', hv', rfl⟩ := Option.map_eq_some_iff.1 h
      exact ⟨k', v', (mem_entries_iff d).2 hv', rfl, if_pos hk⟩
    · exact ⟨k', v, (mem_entries_iff d).2 h, rfl, if_neg hk⟩

theorem get?_set (d : Dict κ α) (k k' : κ) (v : α) :
    (d.set k v).get? k' = if k' = k then some v else d.get? k' := by
  rw [set]
  split_ifs with h hk
  · subst hk
    refine get?_eq_of_mem_iff fun w => ?_
    have hw : (k', w) ∉ d.entries := fun hm => by
      rw [(mem_entries_iff d).1 hm] at h
      exact Option.some_ne_none _ h
    simp [hw, eq_comm]
  · refine get?_eq_of_mem_iff fun w => ?_
    simp [mem_entries_iff, *]
  · subst k'
    obtain ⟨w, hw⟩ := Option.ne_none_iff_exists'.1 h
    rw [get?_modify, if_pos rfl, hw, Option.map_some]
  · rw [get?_modify, if_neg ‹_›]

/-- Assigning to a new key appends. -/
theorem entries_set_of_none (d : Dict κ α) {k : κ} (h : d.get? k = none) (v : α) :
    (d.set k v).entries = d.entries ++ [(k, v)] := by
  rw [set, dif_pos h]

@[simp] theorem get?_set_self (d : Dict κ α) (k : κ) (v : α) : (d.set k v).get? k = some v := by
  rw [get?_set, if_pos rfl]

theorem get?_set_of_ne (d : Dict κ α) {k k' : κ} (h : k' ≠ k) (v : α) :
    (d.set k v).get? k' = d.get? k' := by
  rw [get?_set, if_neg h]

/-- Assigning to new keys, each once, appends. -/
theorem entries_foldl_set {β : Type*} (key : β → κ) (value : β → α) {items : List β}
    (d : Dict κ α) (h : (items.map key).Nodup) (hnew : ∀ i ∈ items, d.get? (key i) = none) :
    (items.foldl (fun d i => d.set (key i) (value i)) d).entries =
      d.entries ++ items.map fun i => (key i, value i) := by
  induction items generalizing d with
  | nil => rw [List.foldl_nil, List.map_nil, List.append_nil]
  | cons i items ih =>
    rw [List.map_cons, List.nodup_cons] at h
    rw [List.forall_mem_cons] at hnew
    rw [List.foldl_cons, ih _ h.2, entries_set_of_none _ hnew.1, List.append_assoc]
    · rfl
    · intro i' hi'
      have hne : key i' ≠ key i := fun heq => h.1 (heq ▸ List.mem_map_of_mem hi')
      rw [get?_set_of_ne _ hne]
      exact hnew.2 i' hi'

/-- Of the items that are assigned in turn, the last one for a key counts. -/
theorem get?_foldl_set {β : Type*} (key : β → κ) (value : β → α) (items : List β) (d : Dict κ α)
    (k : κ) : (items.foldl (fun d i => d.set (key i) (value i)) d).get? k =
      ((items.reverse.find? fun i => key i = k).map value).or (d.get? k) := by
  induction items generalizing d with
  | nil => rfl
  | cons i items ih =>
    rw [List.foldl_cons, ih, List.reverse_cons, List.find?_append, get?_set]
    cases items.reverse.find? fun i => key i = k with
    | some j => rfl
    | none =>
      rw [Option.none_or, List.find?_singleton]
      by_cases h : key i = k
      · rw [if_pos h.symm, decide_eq_true h]
        rfl
      · rw [if_neg (Ne.symm h), decide_eq_false h]
        rfl

/-- `d.update(d')`. -/
theorem get?_foldl_entries (d d' : Dict κ α) (k : κ) :
    (d'.entries.foldl (fun d i => d.set i.1 i.2) d).get? k = (d'.get? k).or (d.get? k) := by
  rw [get?_foldl_set]
  congr 1
  ext v
  rw [Option.map_eq_some_iff, ← mem_entries_iff]
  constructor
  · rintro ⟨⟨k', v'⟩, hfind, rfl⟩
    have hk : k' = k := by simpa using List.find?_some hfind
    exact hk ▸ List.mem_reverse.1 (List.mem_of_find?_eq_some hfind)
  · intro hmem
    cases hfind : d'.entries.reverse.find? fun i => i.1 = k with
    | none =>
      rw [List.find?_eq_none] at hfind
      exact absurd (decide_eq_true rfl) (hfind (k, v) (List.mem_reverse.2 hmem))
    | some i =>
      obtain ⟨k', v'⟩ := i
      have hk : k' = k := by simpa using List.find?_some hfind
      subst hk
      have hmem' := List.mem_reverse.1 (List.mem_of_find?_eq_some hfind)
      rw [mem_entries_iff] at hmem hmem'
      exact ⟨_, rfl, Option.some.inj (hmem'.symm.trans hmem)⟩

theorem get?_erase (d : Dict κ α) (k k' : κ) :
    (d.erase k).get? k' = if k' = k then none else d.get? k' := by
  rw [erase, get?_filter]
  split_ifs with h
  · cases d.get? k' <;> simp [h]
  · cases d.get? k' <;> simp [h]

omit [DecidableEq κ] in
theorem ext_entries {d d' : Dict κ α} (h : d.entries = d'.entries) : d = d' := by
  cases d
  cases d'
  cases h
  rfl

omit [DecidableEq κ] in
/-- What the second filter keeps the first one keeps, and is not needed. -/
theorem filter_filter_of_imp (d : Dict κ α) {p q : κ → α → Bool}
    (h : ∀ k v, q k v = true → p k v = true) : (d.filter p).filter q = d.filter q := by
  refine ext_entries ?_
  change (d.entries.filter _).filter _ = d.entries.filter _
  rw [List.filter_filter]
  refine List.filter_congr fun i _ => ?_
  cases hq : q i.1 i.2 with
  | false => rfl
  | true => rw [h i.1 i.2 hq, Bool.and_self]

/-! ## Counting -/

omit [DecidableEq κ] in
/-- The keys of the counted items. -/
theorem count_eq_length (d : Dict κ α) (p : α → Bool) :
    d.count p = ((d.entries.filter fun i => p i.2).map Prod.fst).length := by
  rw [List.length_map, ← List.countP_eq_length_filter, count]

/-- Counting is monotone along keys: `d'` counts at least the keys `d` does. -/
theorem count_le_of_get? {β : Type*} {d : Dict κ α} {d' : Dict κ β} {p : α → Bool} {q : β → Bool}
    (h : ∀ k v, d.get? k = some v → p v = true → ∃ v', d'.get? k = some v' ∧ q v' = true) :
    d.count p ≤ d'.count q := by
  rw [count_eq_length, count_eq_length]
  refine (List.subperm_of_subset (d.nodup.sublist (List.filter_sublist.map _)) ?_).length_le
  intro _ hk
  obtain ⟨⟨k, v⟩, hm, rfl⟩ := List.mem_map.1 hk
  obtain ⟨hm, hp⟩ := List.mem_filter.1 hm
  obtain ⟨v', hv', hq⟩ := h _ v ((mem_entries_iff d).1 hm) hp
  exact List.mem_map.2 ⟨(k, v'), List.mem_filter.2 ⟨(mem_entries_iff d').2 hv', hq⟩, rfl⟩

/-- Erasing a key counts at most one item less. -/
theorem count_le_count_erase_add_one (d : Dict κ α) (p : α → Bool) (k : κ) :
    d.count p ≤ (d.erase k).count p + 1 := by
  have hkeys : ((d.entries.filter fun i => p i.2).map Prod.fst).Nodup :=
    d.nodup.sublist (List.filter_sublist.map _)
  rw [count_eq_length, count_eq_length, ← List.length_cons (a := k)]
  refine (List.subperm_of_subset hkeys fun _ hk' => ?_).length_le
  obtain ⟨⟨k', v⟩, hm, rfl⟩ := List.mem_map.1 hk'
  obtain ⟨hm, hp⟩ := List.mem_filter.1 hm
  rcases eq_or_ne k' k with h | h
  · exact h ▸ List.mem_cons_self
  · refine List.mem_cons_of_mem _ (List.mem_map.2 ⟨(k', v), List.mem_filter.2 ⟨?_, hp⟩, rfl⟩)
    exact List.mem_filter.2 ⟨hm, by simpa using h⟩

/-- An assignment adds at most one item to a count. -/
theorem count_set_le (d : Dict κ α) (p : α → Bool) (k : κ) (v : α) :
    (d.set k v).count p ≤ d.count p + 1 := by
  refine Nat.le_trans (count_le_count_erase_add_one _ p k) (Nat.add_le_add_right ?_ 1)
  refine count_le_of_get? fun k' v' hv' hp => ⟨v', ?_, hp⟩
  rw [get?_erase] at hv'
  split_ifs at hv' with hk
  rwa [get?_set_of_ne _ hk] at hv'

/-- Assigning what is not counted adds nothing to a count. -/
theorem count_set_le_of_neg (d : Dict κ α) {p : α → Bool} (k : κ) {v : α} (h : p v = false) :
    (d.set k v).count p ≤ d.count p := by
  refine count_le_of_get? fun k' v' hv' hp => ?_
  rw [get?_set] at hv'
  split_ifs at hv' with hk
  · obtain rfl := Option.some.inj hv'
    rw [h] at hp
    cases hp
  · exact ⟨v', hv', hp⟩

/-- What is counted one way or another is counted at most by both. -/
theorem count_le_add (d : Dict κ α) {p q r : α → Bool}
    (h : ∀ k v, d.get? k = some v → p v = true → q v = true ∨ r v = true) :
    d.count p ≤ d.count q + d.count r := by
  have hitems := (forall_get?_iff d).1 h
  unfold count
  generalize d.entries = items at hitems
  induction items with
  | nil => exact Nat.zero_le _
  | cons i items ih =>
    have hi := hitems i List.mem_cons_self
    have hrest := ih fun j hj => hitems j (List.mem_cons_of_mem i hj)
    simp only [List.countP_cons]
    split_ifs <;> first | omega | simp_all

/-- At most `bound` values at every width: at most `bound` times `n` over `n`
    adjacent widths, backwards from `x`. -/
theorem count_windows_le (d : Dict κ α) (f : α → ℤ) {width : ℤ} {bound : ℕ}
    (h : ∀ x, (d.count fun v => x - width < f v ∧ f v ≤ x) ≤ bound) (x : ℤ) (n : ℕ) :
    (d.count fun v => x - n * width < f v ∧ f v ≤ x) ≤ bound * n := by
  induction n with
  | zero =>
    rw [Nat.mul_zero, Nat.le_zero, count, List.countP_eq_zero]
    intro i _
    rw [decide_eq_true_eq]
    push_cast
    omega
  | succ n ih =>
    have hsplit : (d.count fun v => x - (n + 1 : ℕ) * width < f v ∧ f v ≤ x) ≤
        (d.count fun v => x - n * width < f v ∧ f v ≤ x) +
        d.count fun v => x - n * width - width < f v ∧ f v ≤ x - n * width := by
      refine count_le_add d fun _ v _ hv => ?_
      rw [decide_eq_true_eq] at hv ⊢
      rw [decide_eq_true_eq]
      push_cast at hv
      rw [add_mul, one_mul] at hv
      omega
    have hlast := h (x - n * width)
    rw [Nat.mul_succ]
    omega

/-! ## Images -/

omit [DecidableEq κ] in
theorem map_filter (d : Dict κ α) {f : α → α} {p : κ → α → Bool} (h : ∀ k v, p k (f v) = p k v) :
    (d.filter p).map f = (d.map f).filter p := by
  refine ext_entries ?_
  have hp : (fun i : κ × α => p i.1 i.2) = (fun i => p i.1 i.2) ∘ fun i => (i.1, f i.2) := by
    funext i
    exact (h i.1 i.2).symm
  change (d.entries.filter fun i => p i.1 i.2).map (fun i => (i.1, f i.2)) =
    (d.entries.map fun i => (i.1, f i.2)).filter fun i => p i.1 i.2
  rw [List.filter_map, ← hp]

omit [DecidableEq κ] in
theorem count_map (d : Dict κ α) {f : α → α} {p : α → Bool} (h : ∀ v, p (f v) = p v) :
    (d.map f).count p = d.count p := by
  rw [count, count, map, List.countP_map]
  congr 1
  funext i
  exact h i.2

theorem map_modify (d : Dict κ α) (k : κ) {f g : α → α} (h : ∀ v, f (g v) = g (f v)) :
    (d.modify k g).map f = (d.map f).modify k g := by
  refine ext_entries ?_
  change (d.entries.map _).map _ = (d.entries.map _).map _
  rw [List.map_map, List.map_map]
  congr 1
  funext i
  by_cases hk : i.1 = k
  · simp [hk, h]
  · simp [hk]

theorem map_set (d : Dict κ α) (k : κ) (v : α) (f : α → α) :
    (d.set k v).map f = (d.map f).set k (f v) := by
  by_cases hk : d.get? k = none
  · have hmap : (d.map f).get? k = none := by rw [get?_map, hk, Option.map_none]
    refine ext_entries ?_
    rw [entries_set_of_none _ hmap]
    change (d.set k v).entries.map _ = d.entries.map _ ++ _
    rw [entries_set_of_none _ hk, List.map_append]
    rfl
  · have hmap : (d.map f).get? k ≠ none := by rwa [get?_map, ne_eq, Option.map_eq_none_iff]
    rw [set, dif_neg hk, set, dif_neg hmap]
    refine ext_entries ?_
    change (d.entries.map _).map _ = (d.entries.map _).map _
    rw [List.map_map, List.map_map]
    congr 1
    funext i
    by_cases hi : i.1 = k
    · simp [hi]
    · simp [hi]

end Dict

end Py
