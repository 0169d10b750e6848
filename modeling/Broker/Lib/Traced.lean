import Mathlib.Data.List.Basic

/-!
# Traced computations

Computations that leave a trace of events, and may fail: in a sequence of two, the
second has the trace of the first before its own, and is not reached when the first
fails.
-/

/-- The events of a computation, and its result. -/
structure Traced (E ε α : Type) where
  trace : List E
  result : Except ε α

namespace Traced

variable {E F ε δ α β : Type}

/-- A computation without events. -/
def lift (x : Except ε α) : Traced E ε α := ⟨[], x⟩

/-- A single event. -/
def emit (event : E) : Traced E ε Unit := ⟨[event], .ok ()⟩

protected def bind (x : Traced E ε α) (f : α → Traced E ε β) : Traced E ε β :=
  match x.result with
  | .ok a => ⟨x.trace ++ (f a).trace, (f a).result⟩
  | .error e => ⟨x.trace, .error e⟩

instance : Monad (Traced E ε) where
  pure a := ⟨[], .ok a⟩
  bind := Traced.bind

instance : MonadExceptOf ε (Traced E ε) where
  throw e := ⟨[], .error e⟩
  tryCatch x handle :=
    match x.result with
    | .ok _ => x
    | .error e => ⟨x.trace ++ (handle e).trace, (handle e).result⟩

instance : MonadLift (Except ε) (Traced E ε) := ⟨lift⟩

/-- The computation with its events translated. -/
def mapEvents (translate : E → F) (x : Traced E ε α) : Traced F ε α :=
  ⟨x.trace.map translate, x.result⟩

/-- The computation with its error translated. -/
def mapError (translate : ε → δ) (x : Traced E ε α) : Traced E δ α :=
  ⟨x.trace, x.result.mapError translate⟩

/-- The computation with its result, whatever it is, as its value. -/
def attempt (x : Traced E ε α) : Traced E δ (Except ε α) := ⟨x.trace, .ok x.result⟩

/-- The events of the computation are of the kind. -/
def Emits (kind : E → Prop) (x : Traced E ε α) : Prop := ∀ event ∈ x.trace, kind event

/-- The computation ends with a value of the one kind, or with an error of the other. -/
def Ends (x : Traced E ε α) (post : α → Prop) (raises : ε → Prop) : Prop :=
  match x.result with
  | .ok a => post a
  | .error e => raises e

/-! ## Sequences -/

variable {x : Traced E ε α} {f : α → Traced E ε β}

theorem bind_of_ok {a : α} (h : x.result = .ok a) :
    x >>= f = ⟨x.trace ++ (f a).trace, (f a).result⟩ := by
  change x.bind f = _
  rw [Traced.bind, h]

theorem bind_of_error {e : ε} (h : x.result = .error e) : x >>= f = ⟨x.trace, .error e⟩ := by
  change x.bind f = _
  rw [Traced.bind, h]

theorem result_lift_bind {r : Except ε α} {a : α} (h : r = .ok a) :
    ((lift r : Traced E ε α) >>= f).result = (f a).result := by
  rw [bind_of_ok (x := lift r) h]

/-- The result of a sequence depends on the result of its first computation only. -/
theorem result_bind_congr {x' : Traced E ε α} (h : x.result = x'.result) :
    (x >>= f).result = (x' >>= f).result := by
  cases hx : x.result with
  | ok a => rw [bind_of_ok hx, bind_of_ok (h.symm.trans hx)]
  | error e => rw [bind_of_error hx, bind_of_error (h.symm.trans hx)]

/-- What follows without events adds none. -/
theorem trace_bind_of_silent (h : ∀ a, (f a).trace = []) : (x >>= f).trace = x.trace := by
  cases hx : x.result with
  | ok a => rw [bind_of_ok hx, h, List.append_nil]
  | error e => rw [bind_of_error hx]

/-- A sequence succeeds when both computations do. -/
theorem result_bind_eq_ok {b : β} :
    (x >>= f).result = .ok b ↔ ∃ a, x.result = .ok a ∧ (f a).result = .ok b := by
  cases h : x.result with
  | ok a =>
    rw [bind_of_ok h]
    exact ⟨fun hb => ⟨a, rfl, hb⟩, fun ⟨_, ha, hb⟩ => by cases ha; exact hb⟩
  | error e =>
    rw [bind_of_error h]
    constructor
    · exact fun hb => nomatch hb
    · rintro ⟨_, ha, -⟩
      cases ha

/-- A sequence fails in its first computation, or in its second. -/
theorem result_bind_eq_error {e : ε} :
    (x >>= f).result = .error e ↔
      x.result = .error e ∨ ∃ a, x.result = .ok a ∧ (f a).result = .error e := by
  cases h : x.result with
  | ok a =>
    rw [bind_of_ok h]
    constructor
    · exact fun he => .inr ⟨a, rfl, he⟩
    · rintro (he | ⟨_, ha, he⟩)
      · cases he
      · cases ha
        exact he
  | error e' =>
    rw [bind_of_error h]
    constructor
    · intro he
      cases he
      exact .inl rfl
    · rintro (he | ⟨_, ha, -⟩)
      · cases he
        rfl
      · cases ha

theorem result_mapError_eq_ok {translate : ε → δ} {a : α} :
    (x.mapError translate).result = .ok a ↔ x.result = .ok a := by
  rw [mapError]
  cases x.result with
  | ok b => exact ⟨congrArg Except.ok ∘ Except.ok.inj, congrArg Except.ok ∘ Except.ok.inj⟩
  | error e =>
    constructor
    · exact fun h => nomatch h
    · exact fun h => nomatch h

theorem result_mapError_eq_error {translate : ε → δ} {d : δ} :
    (x.mapError translate).result = .error d ↔ ∃ e, x.result = .error e ∧ translate e = d := by
  rw [mapError]
  cases x.result with
  | ok b =>
    constructor
    · exact fun h => nomatch h
    · exact fun ⟨_, h, _⟩ => nomatch h
  | error e =>
    constructor
    · exact fun h => ⟨e, rfl, Except.error.inj h⟩
    · rintro ⟨_, he, rfl⟩
      cases he
      rfl

/-- An event of a sequence is one of its first computation, or of its second. -/
theorem mem_trace_bind {event : E} :
    event ∈ (x >>= f).trace ↔
      event ∈ x.trace ∨ ∃ a, x.result = .ok a ∧ event ∈ (f a).trace := by
  cases h : x.result with
  | ok a =>
    rw [bind_of_ok h, List.mem_append]
    refine or_congr_right ⟨fun he => ⟨a, rfl, he⟩, ?_⟩
    rintro ⟨_, ha, he⟩
    cases ha
    exact he
  | error e =>
    rw [bind_of_error h]
    refine (or_iff_left ?_).symm
    rintro ⟨_, ha, -⟩
    cases ha

/-! ## Ends -/

variable {post : α → Prop} {raises : ε → Prop}

/-- The rule of sequences. -/
theorem ends_bind {post : β → Prop} :
    (x >>= f).Ends post raises ↔ x.Ends (fun a => (f a).Ends post raises) raises := by
  rw [Ends, Ends]
  cases h : x.result with
  | ok a =>
    rw [bind_of_ok h]
    rfl
  | error e => rw [bind_of_error h]

@[simp] theorem ends_pure {a : α} : (pure a : Traced E ε α).Ends post raises ↔ post a := Iff.rfl

@[simp] theorem trace_lift (r : Except ε α) : (lift r : Traced E ε α).trace = [] := rfl

/-! ## Kinds of events -/

namespace Emits

variable {kind : E → Prop}

theorem lift (r : Except ε α) : (Traced.lift r : Traced E ε α).Emits kind :=
  fun _ h => absurd h List.not_mem_nil

theorem pure (a : α) : (Pure.pure a : Traced E ε α).Emits kind := fun _ h => absurd h List.not_mem_nil

theorem throw (e : ε) : (MonadExcept.throw e : Traced E ε α).Emits kind :=
  fun _ h => absurd h List.not_mem_nil

theorem emit {event : E} (h : kind event) : (Traced.emit event : Traced E ε Unit).Emits kind :=
  fun _ hmem => List.mem_singleton.1 hmem ▸ h

/-- The rule of sequences. -/
theorem bind (h : x.Emits kind) (h' : ∀ a, x.result = .ok a → (f a).Emits kind) : (x >>= f).Emits kind := by
  intro event hmem
  rcases mem_trace_bind.1 hmem with hmem | ⟨a, ha, hmem⟩
  · exact h event hmem
  · exact h' a ha event hmem

theorem mono {kind' : E → Prop} (h : x.Emits kind) (imp : ∀ event, kind event → kind' event) :
    x.Emits kind' := fun event hmem => imp event (h event hmem)

theorem mapError (h : x.Emits kind) (translate : ε → δ) : (x.mapError translate).Emits kind := h

theorem attempt (h : x.Emits kind) : (x.attempt : Traced E δ (Except ε α)).Emits kind := h

theorem mapEvents {kind' : F → Prop} {translate : E → F} (h : x.Emits fun event => kind' (translate event)) :
    (x.mapEvents translate).Emits kind' := by
  intro event hmem
  obtain ⟨event', hmem', rfl⟩ := List.mem_map.1 hmem
  exact h event' hmem'

/-- What handles an error adds its own events. -/
theorem tryCatch {handle : ε → Traced E ε α} (h : x.Emits kind) (h' : ∀ e, (handle e).Emits kind) :
    (MonadExceptOf.tryCatch x handle).Emits kind := by
  intro event hmem
  change event ∈ (match x.result with
    | .ok _ => x
    | .error e => ⟨x.trace ++ (handle e).trace, (handle e).result⟩ : Traced E ε α).trace at hmem
  cases hx : x.result with
  | ok a =>
    rw [hx] at hmem
    exact h event hmem
  | error e =>
    rw [hx] at hmem
    rcases List.mem_append.1 hmem with hmem | hmem
    · exact h event hmem
    · exact h' e event hmem

end Emits

end Traced
