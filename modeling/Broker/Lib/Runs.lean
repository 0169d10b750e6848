import Mathlib.Data.List.Induction
import Mathlib.Data.List.Infix

/-!
# Runs of a deterministic machine

A machine takes an event in a state, answers it and moves on. A run is the
list of the events it took, so a property of a history is a property of that
list, and a position in it a decomposition `pre ++ e :: post`: the machine took
`e` in the state `after pre`.

* `Occurs`: an event of some kind was taken somewhere in a run;
* `entry_induction`: an invariant of the history and of an entry that the state
  it led to holds;
* `stable`: once a property holds it does, as long as the events keep it;
* `exists_last_entry`: a property that holds has begun to, at some last
  position since which it has held;
* `position_cases`: of two positions of a run, one comes first; an event that
  rules out its like ever after occurs once (`position_unique`);
* `answers_eq_of_inserts`: events inserted into a run that keep a relation of
  its states to those without them change no answer.
-/

namespace Runs

/-- Somewhere in the run, after `pre`, an event `e` with `p pre e` was taken. -/
def Occurs {ε : Type*} (es : List ε) (p : List ε → ε → Prop) : Prop :=
  ∃ pre e post, es = pre ++ e :: post ∧ p pre e

namespace Occurs

variable {ε : Type*} {es : List ε} {p q : List ε → ε → Prop}

theorem last {e : ε} (h : p es e) : Occurs (es ++ [e]) p := ⟨es, e, [], rfl, h⟩

theorem append (h : Occurs es p) (fs : List ε) : Occurs (es ++ fs) p := by
  obtain ⟨pre, e, post, rfl, he⟩ := h
  exact ⟨pre, e, post ++ fs, by simp, he⟩

theorem imp (h : Occurs es p) (hpq : ∀ pre e, p pre e → q pre e) : Occurs es q := by
  obtain ⟨pre, e, post, hes, he⟩ := h
  exact ⟨pre, e, post, hes, hpq pre e he⟩

theorem exists_mem {q : ε → Prop} (h : Occurs es p) (hpq : ∀ pre e, p pre e → q e) :
    ∃ e ∈ es, q e := by
  obtain ⟨pre, e, post, rfl, he⟩ := h
  exact ⟨e, by simp, hpq pre e he⟩

end Occurs

/-- The second run is the first with silent events inserted. -/
inductive Inserts {ε : Type*} (silent : ε → Prop) : List ε → List ε → Prop
  | nil : Inserts silent [] []
  | keep (e : ε) {es es' : List ε} (h : Inserts silent es es') :
    Inserts silent (e :: es) (e :: es')
  | insert (e : ε) {es es' : List ε} (he : silent e) (h : Inserts silent es es') :
    Inserts silent es (e :: es')

theorem Inserts.filter {ε : Type*} (p : ε → Bool) :
    ∀ es : List ε, Inserts (fun e => p e = true) (es.filter fun e => !p e) es
  | [] => .nil
  | e :: es => by
    cases hp : p e with
    | true =>
      rw [List.filter_cons_of_neg (by simp [hp])]
      exact .insert e hp (Inserts.filter p es)
    | false =>
      rw [List.filter_cons_of_pos (by simp [hp])]
      exact .keep e (Inserts.filter p es)

/-- A deterministic machine answering events. -/
structure Machine (σ ε ρ : Type*) where
  /-- The initial state. -/
  init : σ
  /-- The answer to an event, and the next state. -/
  step : σ → ε → ρ × σ

namespace Machine

variable {σ ε ρ : Type*} (m : Machine σ ε ρ)

/-- The answer to an event. -/
def out (s : σ) (e : ε) : ρ := (m.step s e).1

/-- The state after an event. -/
def next (s : σ) (e : ε) : σ := (m.step s e).2

/-- The state after the events of a run. -/
def after (es : List ε) : σ := es.foldl m.next m.init

@[simp] theorem after_nil : m.after [] = m.init := rfl

@[simp] theorem after_snoc (es : List ε) (e : ε) :
    m.after (es ++ [e]) = m.next (m.after es) e := by
  simp [after]

theorem after_append_cons (es : List ε) (e : ε) (fs : List ε) :
    m.after (es ++ e :: fs) = fs.foldl m.next (m.next (m.after es) e) := by
  simp [after]

/-- The visible events of a run from a state, with their answers. -/
def answers (visible : ε → Bool) : σ → List ε → List (ε × ρ)
  | _, [] => []
  | s, e :: es =>
    if visible e then (e, m.out s e) :: answers visible (m.next s e) es
    else answers visible (m.next s e) es

theorem answers_append (visible : ε → Bool) (s : σ) (es fs : List ε) :
    m.answers visible s (es ++ fs) =
      m.answers visible s es ++ m.answers visible (es.foldl m.next s) fs := by
  induction es generalizing s with
  | nil => rfl
  | cons e es ih =>
    rw [List.cons_append, answers, answers, ih, List.foldl_cons]
    split_ifs
    · rfl
    · rfl

variable {m}

/-- What is answered are events of the run. -/
theorem mem_of_mem_answers {visible : ε → Bool} {s : σ} {es : List ε} {a : ε × ρ}
    (h : a ∈ m.answers visible s es) : a.1 ∈ es := by
  induction es generalizing s with
  | nil => exact absurd h List.not_mem_nil
  | cons e es ih =>
    rw [answers] at h
    split_ifs at h with he
    · rcases List.mem_cons.1 h with rfl | h
      · exact List.mem_cons_self
      · exact List.mem_cons_of_mem e (ih h)
    · exact List.mem_cons_of_mem e (ih h)

/-- Induction on the run that led to an entry of the state: an event leaves the entry
    held before it, or changes it, or puts one in its place, as `R` has it. -/
@[elab_as_elim]
theorem entry_induction {α : Type*} {motive : List ε → α → Prop} (entry : σ → Option α)
    (es : List ε) (a : α) (h : entry (m.after es) = some a) (init : entry m.init = none)
    {R : σ → ε → Option α → Option α → Prop}
    (hstep : ∀ s e, R s e (entry s) (entry (m.next s e)))
    (step : ∀ es e o a, (∀ b, o = some b → motive es b) → entry (m.next (m.after es) e) = some a →
      R (m.after es) e o (some a) → motive (es ++ [e]) a) : motive es a := by
  induction es using List.reverseRecOn generalizing a with
  | nil =>
    rw [after_nil, init] at h
    cases h
  | append_singleton es e ih =>
    rw [after_snoc] at h
    have hR := hstep (m.after es) e
    rw [h] at hR
    exact step es e _ a ih h hR

/-- Once `Q` holds, it does as long as the events keep it. -/
theorem stable {Q : List ε → Prop} {pre : List ε} (h : Q pre) :
    ∀ post, (∀ mid e rest, post = mid ++ e :: rest → Q (pre ++ mid) → Q (pre ++ mid ++ [e])) →
      Q (pre ++ post) := by
  intro post
  induction post using List.reverseRecOn with
  | nil => exact fun _ => by rwa [List.append_nil]
  | append_singleton post e ih =>
    intro keep
    rw [← List.append_assoc]
    refine keep post e [] rfl (ih fun mid f rest hpost => keep mid f (rest ++ [e]) ?_)
    rw [hpost, List.append_assoc, List.cons_append]

/-- A property of runs that holds, and did not from the start, was entered at
    some last position, since which it has held. -/
theorem exists_last_entry {Q : List ε → Prop} {es : List ε} (h₀ : ¬Q []) (h : Q es) :
    ∃ pre e post, es = pre ++ e :: post ∧ ¬Q pre ∧
      ∀ mid rest, post = mid ++ rest → Q (pre ++ e :: mid) := by
  induction es using List.reverseRecOn with
  | nil => exact absurd h h₀
  | append_singleton es e ih =>
    by_cases hes : Q es
    · obtain ⟨pre, f, post, rfl, hpre, hpost⟩ := ih hes
      refine ⟨pre, f, post ++ [e], by simp, hpre, fun mid rest hmid => ?_⟩
      rcases List.eq_nil_or_concat rest with rfl | ⟨rest', g, rfl⟩
      · rw [List.append_nil] at hmid
        rw [← hmid]
        simpa using h
      · rw [List.concat_eq_append, ← List.append_assoc] at hmid
        exact hpost mid rest' (List.append_inj' hmid rfl).1
    · refine ⟨es, e, [], by simp, hes, fun mid rest hmid => ?_⟩
      obtain ⟨rfl, rfl⟩ := List.append_eq_nil_iff.1 hmid.symm
      exact h

/-- The position of an event, as an index. -/
theorem exists_index {es pre post : List ε} {e : ε} (h : es = pre ++ e :: post) :
    ∃ i : ℕ, pre = es.take i ∧ es[i]? = some e := by
  subst h
  exact ⟨pre.length, by simp, by simp⟩

/-- Of two positions of a run, one comes first, or they are the same. -/
theorem position_cases {pre pre' post post' : List ε} {e e' : ε}
    (h : pre ++ e :: post = pre' ++ e' :: post') :
    (pre = pre' ∧ e = e' ∧ post = post') ∨
    (∃ mid, pre' = pre ++ e :: mid ∧ post = mid ++ e' :: post') ∨
    (∃ mid, pre = pre' ++ e' :: mid ∧ post' = mid ++ e :: post) := by
  rcases List.append_eq_append_iff.1 h with ⟨l, rfl, hl⟩ | ⟨l, rfl, hl⟩
  · cases l with
    | nil =>
      obtain ⟨rfl, rfl⟩ := List.cons.inj hl
      exact .inl ⟨(List.append_nil _).symm, rfl, rfl⟩
    | cons f l =>
      obtain ⟨rfl, rfl⟩ := List.cons.inj hl
      exact .inr (.inl ⟨l, rfl, rfl⟩)
  · cases l with
    | nil =>
      obtain ⟨rfl, rfl⟩ := List.cons.inj hl
      exact .inl ⟨List.append_nil _, rfl, rfl⟩
    | cons f l =>
      obtain ⟨rfl, rfl⟩ := List.cons.inj hl
      exact .inr (.inr ⟨l, rfl, rfl⟩)

/-- A kind of event that, once taken, is never taken again, is taken at most
    once. -/
theorem position_unique (fires : List ε → ε → Prop) {es : List ε}
    (once : ∀ pre e mid e' post, es = pre ++ e :: (mid ++ e' :: post) → fires pre e →
      ¬fires (pre ++ e :: mid) e')
    {pre pre' post post' : List ε} {e e' : ε} (h : es = pre ++ e :: post)
    (h' : es = pre' ++ e' :: post') (hf : fires pre e) (hf' : fires pre' e') :
    pre = pre' ∧ e = e' ∧ post = post' := by
  rcases position_cases (h.symm.trans h') with heq | ⟨mid, rfl, rfl⟩ | ⟨mid, rfl, rfl⟩
  · exact heq
  · exact absurd hf' (once pre e mid e' post' h hf)
  · exact absurd hf (once pre' e' mid e post h' hf')

/-- A relation of states, given the events still to come, that common events keep
    with their visible answers, and that silent events of the second run keep:
    inserting silent events changes no visible answer. -/
theorem answers_eq_of_inserts {silent : ε → Prop} {visible : ε → Bool}
    (related : List ε → σ → σ → Prop) (invisible : ∀ e, silent e → visible e = false)
    (keep : ∀ e rest s s', related (e :: rest) s s' →
      related rest (m.next s e) (m.next s' e) ∧ (visible e = true → m.out s e = m.out s' e))
    (insert : ∀ e rest s s', silent e → related (e :: rest) s s' → related rest s (m.next s' e))
    {es es' : List ε} (h : Inserts silent es es') {s s' : σ} (hs : related es' s s') :
    m.answers visible s es = m.answers visible s' es' := by
  induction h generalizing s s' with
  | nil => rfl
  | keep e _ ih =>
    obtain ⟨hnext, hout⟩ := keep e _ s s' hs
    rw [answers, answers, ih hnext]
    split_ifs with he
    · rw [hout he]
    · rfl
  | insert e he _ ih =>
    rw [answers, invisible e he, if_neg Bool.false_ne_true]
    exact ih (insert e _ s s' he hs)

end Machine

end Runs
