import Mathlib.Data.List.Basic
import Mathlib.Tactic.Cases

/-!
# Programs that may be cut

A program issues commands to a system, one at a time. A command is carried out,
or it fails and leaves the system as it was; the program goes on with its reply,
and returns or raises in the end. A run of it may be cut between any two
commands.

* `Takes`: a run, with its trace: the commands issued, and whether each was
  carried out;
* `Cut` and `Ends`: a run up to any point, and one up to the end, with their
  rules for sequences (`cut_bind`, `ends_bind`);
* `Takes.invariant`: what every command keeps, every run keeps;
* `Reaches`: where the runs that carry out allowed commands only get, with its rules;
* `eval`: the run in which every command that can be carried out is.
-/

namespace Crash

/-- A program that issues commands of `κ`, replied to in `ρ`, and returns a value
    or raises. A command that has failed gets no reply. -/
inductive Prog (κ : Type) (ρ : κ → Type) (ε α : Type)
  | pure (a : α)
  | raise (e : ε)
  | command (c : κ) (next : Option (ρ c) → Prog κ ρ ε α)

variable {κ : Type} {ρ : κ → Type} {ε α β σ : Type}

namespace Prog

/-- One program, and then another one with its value. -/
def bind : Prog κ ρ ε α → (α → Prog κ ρ ε β) → Prog κ ρ ε β
  | pure a, f => f a
  | raise e, _ => raise e
  | command c next, f => command c fun reply => (next reply).bind f

instance : Monad (Prog κ ρ ε) where
  pure := pure
  bind := bind

/-- The program that does nothing but end with this outcome. -/
def ofExcept : Except ε α → Prog κ ρ ε α
  | .ok a => pure a
  | .error e => raise e

/-- A command, whose failure is raised. -/
def perform (failure : ε) (c : κ) : Prog κ ρ ε (ρ c) :=
  command c fun reply => reply.elim (raise failure) pure

/-- All commands of the program are such. -/
def Issues (p : κ → Prop) : Prog κ ρ ε α → Prop
  | pure _ => True
  | raise _ => True
  | command c next => p c ∧ ∀ reply, (next reply).Issues p

theorem Issues.bind {p : κ → Prop} {prog : Prog κ ρ ε α} {f : α → Prog κ ρ ε β}
    (h : prog.Issues p) (hf : ∀ a, (f a).Issues p) : (prog >>= f).Issues p := by
  change (prog.bind f).Issues p
  induction prog with
  | pure a => exact hf a
  | raise e => exact trivial
  | command c next ih => exact ⟨h.1, fun reply => ih reply (h.2 reply)⟩

theorem Issues.perform {p : κ → Prop} {c : κ} (h : p c) (failure : ε) :
    (perform failure c : Prog κ ρ ε (ρ c)).Issues p := by
  refine ⟨h, fun reply => ?_⟩
  cases reply <;> exact trivial

/-- Whatever the program raises is such. -/
def Raises (p : ε → Prop) : Prog κ ρ ε α → Prop
  | pure _ => True
  | raise e => p e
  | command _ next => ∀ reply, (next reply).Raises p

theorem Raises.bind {p : ε → Prop} {prog : Prog κ ρ ε α} {f : α → Prog κ ρ ε β}
    (h : prog.Raises p) (hf : ∀ a, (f a).Raises p) : (prog >>= f).Raises p := by
  change (prog.bind f).Raises p
  induction prog with
  | pure a => exact hf a
  | raise e => exact h
  | command c next ih => exact fun reply => ih reply (h reply)

theorem Raises.perform {p : ε → Prop} {failure : ε} (h : p failure) (c : κ) :
    (perform failure c : Prog κ ρ ε (ρ c)).Raises p := by
  intro reply
  cases reply with
  | none => exact h
  | some reply => exact trivial

theorem Issues.imp {p q : κ → Prop} {prog : Prog κ ρ ε α} (h : prog.Issues p)
    (hpq : ∀ c, p c → q c) : prog.Issues q := by
  induction prog with
  | pure _ => exact trivial
  | raise _ => exact trivial
  | command c next ih => exact ⟨hpq c h.1, fun reply => ih reply (h.2 reply)⟩

end Prog

variable (exec : (c : κ) → σ → Option (ρ c × σ))

/-- A run of a program, from one state to another: its trace, and what is left of
    the program. -/
inductive Takes : Prog κ ρ ε α → σ → List (κ × Bool) → Prog κ ρ ε α → σ → Prop
  | nil (p : Prog κ ρ ε α) (s : σ) : Takes p s [] p s
  | done {c : κ} {next : Option (ρ c) → Prog κ ρ ε α} {s s' s'' : σ} {reply : ρ c}
    {t : List (κ × Bool)} {p : Prog κ ρ ε α} (h : exec c s = some (reply, s'))
    (rest : Takes (next (some reply)) s' t p s'') : Takes (.command c next) s ((c, true) :: t) p s''
  | failed {c : κ} {next : Option (ρ c) → Prog κ ρ ε α} {s s' : σ} {t : List (κ × Bool)}
    {p : Prog κ ρ ε α} (rest : Takes (next none) s t p s') :
    Takes (.command c next) s ((c, false) :: t) p s'

/-- A run of the program up to any point. -/
def Cut (p : Prog κ ρ ε α) (s : σ) (t : List (κ × Bool)) (s' : σ) : Prop :=
  ∃ p', Takes exec p s t p' s'

/-- A run of the program up to its end. -/
def Ends (p : Prog κ ρ ε α) (s : σ) (t : List (κ × Bool)) (r : Except ε α) (s' : σ) : Prop :=
  Takes exec p s t (.ofExcept r) s'

/-- The run in which every command is carried out, if it can be. -/
def eval : Prog κ ρ ε α → σ → Except ε α × σ
  | .pure a, s => (.ok a, s)
  | .raise e, s => (.error e, s)
  | .command c next, s =>
    match exec c s with
    | some (reply, s') => eval (next (some reply)) s'
    | none => eval (next none) s

variable {exec}

theorem eval_bind_ok {p : Prog κ ρ ε α} {s s' : σ} {a : α} (h : eval exec p s = (.ok a, s'))
    (f : α → Prog κ ρ ε β) : eval exec (p >>= f) s = eval exec (f a) s' := by
  change eval exec (p.bind f) s = _
  induction p generalizing s with
  | pure _ =>
    cases h
    rfl
  | raise _ => cases h
  | command c next ih =>
    rw [eval] at h
    rw [Prog.bind, eval]
    cases hc : exec c s with
    | none =>
      rw [hc] at h
      exact ih none h
    | some r =>
      rw [hc] at h
      exact ih (some r.1) h

theorem eval_perform {c : κ} {s s' : σ} {reply : ρ c} (h : exec c s = some (reply, s')) (failure : ε) :
    eval exec (Prog.perform failure c) s = (.ok reply, s') := by
  rw [Prog.perform, eval, h]
  rfl

theorem Ends.cut {p : Prog κ ρ ε α} {s s' : σ} {t : List (κ × Bool)} {r : Except ε α}
    (h : Ends exec p s t r s') : Cut exec p s t s' := ⟨_, h⟩

/-- The run in which every command is carried out that can be is one. -/
theorem ends_eval (p : Prog κ ρ ε α) (s : σ) :
    ∃ t, Ends exec p s t (eval exec p s).1 (eval exec p s).2 := by
  induction p generalizing s with
  | pure a => exact ⟨[], .nil _ _⟩
  | raise e => exact ⟨[], .nil _ _⟩
  | command c next ih =>
    rw [eval]
    cases hc : exec c s with
    | none =>
      obtain ⟨t, h⟩ := ih none s
      exact ⟨_, .failed h⟩
    | some r =>
      obtain ⟨t, h⟩ := ih (some r.1) r.2
      exact ⟨_, .done hc h⟩

/-- A run that raises raises what its program does. -/
theorem Ends.raises {p : ε → Prop} {prog : Prog κ ρ ε α} {s s' : σ} {t : List (κ × Bool)} {e : ε}
    (h : Ends exec prog s t (.error e) s') (raises : prog.Raises p) : p e := by
  rw [Ends] at h
  generalize hend : (Prog.ofExcept (.error e) : Prog κ ρ ε α) = q at h
  induction h with
  | nil q s =>
    subst hend
    exact raises
  | done _ _ ih => exact ih (raises _) hend
  | failed _ ih => exact ih (raises none) hend

/-! ## Sequences -/

/-- A run of a sequence is within the first program, or past it. -/
theorem takes_bind {p : Prog κ ρ ε α} {f : α → Prog κ ρ ε β} {s s' : σ} {t : List (κ × Bool)}
    {q : Prog κ ρ ε β} (h : Takes exec (p >>= f) s t q s') :
    (∃ p', q = (p' >>= f) ∧ Takes exec p s t p' s') ∨
      ∃ a t₁ t₂ s₁, t = t₁ ++ t₂ ∧ Takes exec p s t₁ (.pure a) s₁ ∧ Takes exec (f a) s₁ t₂ q s' := by
  induction p generalizing s t with
  | pure a => exact .inr ⟨a, [], t, s, rfl, .nil _ _, h⟩
  | raise e =>
    cases h
    exact .inl ⟨.raise e, rfl, .nil _ _⟩
  | command c next ih =>
    cases h with
    | nil => exact .inl ⟨.command c next, rfl, .nil _ _⟩
    | @done _ _ _ s₁ _ reply t _ h rest =>
      rcases ih (some reply) rest with ⟨p', hq, hp⟩ | ⟨a, t₁, t₂, s₂, rfl, hp, hf⟩
      · exact .inl ⟨p', hq, .done h hp⟩
      · exact .inr ⟨a, _, t₂, s₂, rfl, .done h hp, hf⟩
    | @failed _ _ _ _ t _ rest =>
      rcases ih none rest with ⟨p', hq, hp⟩ | ⟨a, t₁, t₂, s₂, rfl, hp, hf⟩
      · exact .inl ⟨p', hq, .failed hp⟩
      · exact .inr ⟨a, _, t₂, s₂, rfl, .failed hp, hf⟩

theorem cut_bind {p : Prog κ ρ ε α} {f : α → Prog κ ρ ε β} {s s' : σ} {t : List (κ × Bool)}
    (h : Cut exec (p >>= f) s t s') :
    Cut exec p s t s' ∨
      ∃ a t₁ t₂ s₁, t = t₁ ++ t₂ ∧ Ends exec p s t₁ (.ok a) s₁ ∧ Cut exec (f a) s₁ t₂ s' := by
  obtain ⟨q, h⟩ := h
  rcases takes_bind h with ⟨p', -, hp⟩ | ⟨a, t₁, t₂, s₁, rfl, hp, hf⟩
  · exact .inl ⟨p', hp⟩
  · exact .inr ⟨a, t₁, t₂, s₁, rfl, hp, q, hf⟩

theorem ends_bind {p : Prog κ ρ ε α} {f : α → Prog κ ρ ε β} {s s' : σ} {t : List (κ × Bool)} {b : β}
    (h : Ends exec (p >>= f) s t (.ok b) s') :
    ∃ a t₁ t₂ s₁, t = t₁ ++ t₂ ∧ Ends exec p s t₁ (.ok a) s₁ ∧ Ends exec (f a) s₁ t₂ (.ok b) s' := by
  rcases takes_bind h with ⟨p', hq, hp⟩ | ⟨a, t₁, t₂, s₁, rfl, hp, hf⟩
  · -- The sequence has ended, so its first program has.
    cases p' with
    | pure a => exact ⟨a, t, [], s', by simp, hp, (show f a = .pure b from hq.symm) ▸ .nil _ _⟩
    | raise e => cases hq
    | command c next => cases hq
  · exact ⟨a, t₁, t₂, s₁, rfl, hp, hf⟩

theorem ends_pure {a b : α} {s s' : σ} {t : List (κ × Bool)}
    (h : Ends exec (.pure a : Prog κ ρ ε α) s t (.ok b) s') : b = a ∧ t = [] ∧ s' = s := by
  cases h
  exact ⟨rfl, rfl, rfl⟩

theorem cut_pure {a : α} {s s' : σ} {t : List (κ × Bool)}
    (h : Cut exec (.pure a : Prog κ ρ ε α) s t s') : t = [] ∧ s' = s := by
  obtain ⟨_, h⟩ := h
  cases h
  exact ⟨rfl, rfl⟩

/-- A run of the first program, as one of the sequence. -/
theorem Takes.within {p q : Prog κ ρ ε α} {s s' : σ} {t : List (κ × Bool)} (h : Takes exec p s t q s')
    (f : α → Prog κ ρ ε β) : Takes exec (p >>= f) s t (q >>= f) s' := by
  induction h with
  | nil => exact .nil _ _
  | done h _ ih => exact .done h ih
  | failed _ ih => exact .failed ih

theorem Takes.trans {p q r : Prog κ ρ ε α} {s s₁ s' : σ} {t t' : List (κ × Bool)}
    (h : Takes exec p s t q s₁) (h' : Takes exec q s₁ t' r s') : Takes exec p s (t ++ t') r s' := by
  induction h with
  | nil => exact h'
  | done h _ ih => exact .done h (ih h')
  | failed _ ih => exact .failed (ih h')

/-- A run of the first program to its end, and one of the next. -/
theorem Takes.bind {p : Prog κ ρ ε α} {f : α → Prog κ ρ ε β} {q : Prog κ ρ ε β} {s s₁ s' : σ}
    {t t' : List (κ × Bool)} {a : α} (h : Takes exec p s t (.pure a) s₁)
    (hf : Takes exec (f a) s₁ t' q s') : Takes exec (p >>= f) s (t ++ t') q s' :=
  (h.within f).trans hf

/-! ## Single commands -/

/-- A command that is raised when it fails is not issued yet, or was carried out, or has failed. -/
theorem cut_perform {failure : ε} {c : κ} {s s' : σ} {t : List (κ × Bool)}
    (h : Cut exec (Prog.perform failure c : Prog κ ρ ε (ρ c)) s t s') :
    t = [] ∧ s' = s ∨ (∃ reply, t = [(c, true)] ∧ exec c s = some (reply, s')) ∨
      t = [(c, false)] ∧ s' = s := by
  obtain ⟨_, h⟩ := h
  cases h with
  | nil => exact .inl ⟨rfl, rfl⟩
  | done h rest =>
    cases rest
    exact .inr (.inl ⟨_, rfl, h⟩)
  | failed rest =>
    cases rest
    exact .inr (.inr ⟨rfl, rfl⟩)

theorem ends_perform {failure : ε} {c : κ} {s s' : σ} {t : List (κ × Bool)} {reply : ρ c}
    (h : Ends exec (Prog.perform failure c : Prog κ ρ ε (ρ c)) s t (.ok reply) s') :
    t = [(c, true)] ∧ exec c s = some (reply, s') := by
  cases h with
  | done h rest =>
    cases rest
    exact ⟨rfl, h⟩
  | failed rest => cases rest

/-! ## Invariants -/

/-- A run issues commands of its program only, and keeps what each of them keeps. -/
theorem Takes.invariant {p : κ → Prop} {I : σ → Prop}
    (keeps : ∀ c s reply s', p c → I s → exec c s = some (reply, s') → I s')
    {prog prog' : Prog κ ρ ε α} {s s' : σ} {t : List (κ × Bool)} (h : Takes exec prog s t prog' s')
    (issues : prog.Issues p) (hs : I s) : I s' ∧ ∀ step ∈ t, p step.1 := by
  induction h with
  | nil => exact ⟨hs, by simp⟩
  | done h _ ih =>
    obtain ⟨hI, ht⟩ := ih (issues.2 _) (keeps _ _ _ _ issues.1 hs h)
    exact ⟨hI, List.forall_mem_cons.2 ⟨issues.1, ht⟩⟩
  | failed _ ih =>
    obtain ⟨hI, ht⟩ := ih (issues.2 _) hs
    exact ⟨hI, List.forall_mem_cons.2 ⟨issues.1, ht⟩⟩

/-! ## Runs of allowed commands -/

section Reaches

variable {allowed : κ → Prop} {I J M : σ → Prop}

variable (exec) in
/-- A run from `I` that carries out allowed commands only is in `J`, wherever it is cut. -/
def Reaches (allowed : κ → Prop) (I J : σ → Prop) (prog : Prog κ ρ ε α) : Prop :=
  ∀ s t p s', Takes exec prog s t p s' → (∀ c, (c, true) ∈ t → allowed c) → I s → J s'

theorem reaches_ofExcept (r : Except ε α) (hIJ : ∀ s, I s → J s) :
    Reaches exec allowed I J (.ofExcept r : Prog κ ρ ε α) := by
  intro s t p s' takes _ hs
  cases r <;> cases takes <;> exact hIJ s hs

/-- Where a command has been carried out, or has failed, the rest is at. -/
theorem Reaches.command {c : κ} {next : Option (ρ c) → Prog κ ρ ε α} (hIJ : ∀ s, I s → J s)
    (done : ∀ reply, Reaches exec allowed
      (fun s' => ∃ s, allowed c ∧ I s ∧ exec c s = some (reply, s')) J (next (some reply)))
    (failed : Reaches exec allowed I J (next none)) : Reaches exec allowed I J (.command c next) := by
  intro s t p s' takes hallowed hs
  cases takes with
  | nil => exact hIJ s hs
  | done h rest =>
    exact done _ _ _ _ _ rest (fun c hc => hallowed c (List.mem_cons_of_mem _ hc))
      ⟨s, hallowed _ List.mem_cons_self, hs, h⟩
  | failed rest =>
    exact failed _ _ _ _ rest (fun c hc => hallowed c (List.mem_cons_of_mem _ hc)) hs

theorem Reaches.perform {failure : ε} {c : κ} (hIJ : ∀ s, I s → J s)
    (done : ∀ s reply s', allowed c → I s → exec c s = some (reply, s') → J s') :
    Reaches exec allowed I J (Prog.perform failure c : Prog κ ρ ε (ρ c)) := by
  refine .command hIJ (fun reply => ?_) (reaches_ofExcept (.error failure) hIJ)
  refine reaches_ofExcept (.ok reply) fun s' h => ?_
  obtain ⟨s, hc, hs, h⟩ := h
  exact done s reply s' hc hs h

/-- What one program gets to, the next one starts from. -/
theorem Reaches.bind {p : Prog κ ρ ε α} {f : α → Prog κ ρ ε β} (hp : Reaches exec allowed I M p)
    (hf : ∀ a, Reaches exec allowed M J (f a)) (hMJ : ∀ s, M s → J s) :
    Reaches exec allowed I J (p >>= f) := by
  intro s t q s' takes hallowed hs
  rcases takes_bind takes with ⟨p', -, htakes⟩ | ⟨a, t₁, t₂, s₁, rfl, htakes, hrest⟩
  · exact hMJ _ (hp _ _ _ _ htakes hallowed hs)
  · have hM := hp _ _ _ _ htakes (fun c hc => hallowed c (List.mem_append_left _ hc)) hs
    exact hf a _ _ _ _ hrest (fun c hc => hallowed c (List.mem_append_right _ hc)) hM

end Reaches

end Crash
