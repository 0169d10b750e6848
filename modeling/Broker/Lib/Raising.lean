import Mathlib.Data.List.Forall2

/-!
# Computations that may raise

What a sequence of such computations returns or raises, and what a list of them returns.
-/

namespace Py

section

variable {ε α β : Type} {x : Except ε α}

/-- What is raised instead of an error does not matter to what succeeds. -/
theorem mapError_eq_ok {δ : Type} {f : ε → δ} {a : α} : x.mapError f = .ok a ↔ x = .ok a := by
  cases x with
  | error e => exact iff_of_false (fun h => nomatch h) fun h => nomatch h
  | ok b => exact ⟨fun h => congrArg _ (Except.ok.inj h), fun h => congrArg _ (Except.ok.inj h)⟩

theorem mapError_eq_error {δ : Type} {f : ε → δ} {e : δ} :
    x.mapError f = .error e ↔ ∃ e', x = .error e' ∧ f e' = e := by
  cases x with
  | ok b => exact iff_of_false (fun h => nomatch h) fun ⟨_, h, _⟩ => nomatch h
  | error e' =>
    constructor
    · exact fun h => ⟨e', rfl, Except.error.inj h⟩
    · rintro ⟨_, h, rfl⟩
      exact congrArg _ (congrArg f (Except.error.inj h))

/-- Two steps, either of which may raise: both succeed when they do together. -/
theorem exists_ok_of_bind {f : α → Except ε β} {b : β} (h : x >>= f = .ok b) :
    ∃ a, x = .ok a ∧ f a = .ok b := by
  cases x with
  | error e => cases h
  | ok a => exact ⟨a, rfl, h⟩

theorem bind_eq_ok {f : α → Except ε β} {b : β} :
    x >>= f = .ok b ↔ ∃ a, x = .ok a ∧ f a = .ok b := by
  refine ⟨exists_ok_of_bind, ?_⟩
  rintro ⟨a, rfl, h⟩
  exact h

/-- What raises in sequence raises first, or in what follows. -/
theorem bind_eq_error {f : α → Except ε β} {e : ε} :
    x >>= f = .error e ↔ x = .error e ∨ ∃ a, x = .ok a ∧ f a = .error e := by
  cases x with
  | error e' =>
    constructor
    · intro h
      cases h
      exact .inl rfl
    · rintro (h | ⟨_, h, -⟩)
      · cases h
        rfl
      · cases h
  | ok a =>
    constructor
    · exact fun h => .inr ⟨a, rfl, h⟩
    · rintro (h | ⟨_, h, hf⟩)
      · cases h
      · cases h
        exact hf

/-- What a sequence raises is of a kind if what its steps raise is. -/
theorem forall_error_of_bind {p : ε → Prop} {f : α → Except ε β} (hx : ∀ e, x = .error e → p e)
    (hf : ∀ a e, f a = .error e → p e) (e : ε) (h : x >>= f = .error e) : p e := by
  obtain h | ⟨a, -, h⟩ := bind_eq_error.1 h
  · exact hx e h
  · exact hf a e h

theorem bind_ok_eq_error {f : α → β} {e : ε} :
    (x >>= fun a => .ok (f a)) = .error e ↔ x = .error e := by
  rw [bind_eq_error]
  constructor
  · rintro (h | ⟨_, -, h⟩)
    · exact h
    · cases h
  · exact .inl

end

/-! ## Lists -/

section

variable {ε α β : Type} {f : α → Except ε β} {l : List α}

theorem mapM_ok_iff {l' : List β} :
    l.mapM f = .ok l' ↔ List.Forall₂ (fun a b => f a = .ok b) l l' := by
  induction l generalizing l' with
  | nil =>
    rw [List.mapM_nil, List.forall₂_nil_left_iff]
    exact ⟨fun h => (Except.ok.inj h).symm, fun h => congrArg _ h.symm⟩
  | cons a l ih =>
    rw [List.mapM_cons, List.forall₂_cons_left_iff]
    constructor
    · intro h
      obtain ⟨b, hb, h⟩ := exists_ok_of_bind h
      obtain ⟨bs, hbs, h⟩ := exists_ok_of_bind h
      exact ⟨b, bs, hb, ih.1 hbs, (Except.ok.inj h).symm⟩
    · rintro ⟨b, bs, hb, hbs, rfl⟩
      rw [hb, ih.2 hbs]
      rfl

theorem exists_of_forall₂ {R : α → β → Prop} {l : List α} {l' : List β} (h : List.Forall₂ R l l') {b : β}
    (hb : b ∈ l') : ∃ a ∈ l, R a b := by
  induction h with
  | nil => cases hb
  | cons hfirst _ ih =>
    rcases List.mem_cons.1 hb with rfl | hb
    · exact ⟨_, List.mem_cons_self, hfirst⟩
    · obtain ⟨a, ha, hR⟩ := ih hb
      exact ⟨a, List.mem_cons_of_mem _ ha, hR⟩

theorem subset_of_filterM {α : Type} {p : α → Except ε Bool} {l kept : List α}
    (h : l.filterM p = .ok kept) : kept ⊆ l := by
  -- By the items: those kept so far come on top of the ones that are left.
  have hkept : ∀ (l acc : List α) {kept : List α}, l.filterAuxM p acc = .ok kept →
      kept ⊆ l ++ acc := by
    intro l
    induction l with
    | nil =>
      rintro acc _ h
      cases h
      exact List.Subset.refl acc
    | cons a l ih =>
      intro acc kept h
      obtain ⟨b, -, h⟩ := exists_ok_of_bind h
      refine List.Subset.trans (ih _ h) ?_
      cases b with
      | false => exact List.subset_cons_self a (l ++ acc)
      | true => exact List.perm_middle.subset
  obtain ⟨reversed, hreversed, h⟩ := exists_ok_of_bind h
  cases h
  have hsubset := hkept l [] hreversed
  rw [List.append_nil] at hsubset
  exact fun a ha => hsubset (List.mem_reverse.1 ha)

end

end Py
