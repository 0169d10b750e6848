import Broker.Paging

/-!
# Cursors of clients

What the route `/content/resources/find` makes of any continuation that a client sends. One
that cannot be read is refused, but the offsets of one that can be read are converted
without a guard, and may be negative (`decode_robust_iff`).
-/

namespace Broker

open Py

namespace Continuation

/-! ## Readable continuations -/

/-- A value that is read as an offset: `int` takes it for a number that is not negative, or it
    counts as nothing. -/
def IsOffset (value : Json) : Prop := value.truthy = false ∨ ∃ n, value.toInt = .ok n ∧ 0 ≤ n

/-- The bytes of a continuation can be parsed without nesting too deeply, and those of an object
    have offsets. -/
def IsCursor (depth : ℕ) (raw : List UInt8) : Prop :=
  Json.loadsBytes (depth + 1) raw ≠ .error .recursion ∧
    ∀ entries, Json.loadsBytes (depth + 1) raw = .ok (.dict entries) →
      IsOffset ((entries.lookup "containerOffset").getD .null) ∧
        IsOffset ((entries.lookup "assetOffset").getD .null)

/-- The padding that completes the last group of a text. -/
def padding (text : String) : List Char := List.replicate ((4 - text.toList.length % 4) % 4) '='

/-- A value counts as no continuation, or is a text whose bytes, when it has any, are those of
    a cursor. -/
def IsReadable (depth : ℕ) (value : Json) : Prop :=
  value.truthy = false ∨
    ∃ text, value = .str text ∧
      ∀ raw, Base64.decode (text.toList ++ padding text) = some raw → IsCursor depth raw

/-- What is read is refused, or has offsets that are not negative. -/
def ReadsRobustly (depth : ℕ) (value : Json) : Prop :=
  ∃ result, decode depth value = .ok result ∧
    ∀ cursor, result = some cursor → 0 ≤ cursor.containerOffset ∧ 0 ≤ cursor.assetOffset

theorem intOr_ok_iff {value : Json} :
    (∃ n, intOr value 0 = .ok n ∧ 0 ≤ n) ↔ IsOffset value := by
  rw [IsOffset, intOr, Json.orElse]
  cases htruthy : value.truthy with
  | false =>
    rw [if_neg Bool.false_ne_true]
    exact ⟨fun _ => .inl rfl, fun _ => ⟨0, rfl, le_refl 0⟩⟩
  | true =>
    rw [if_pos rfl]
    have hok : ∀ n, value.toInt.mapError intError = .ok n ↔ value.toInt = .ok n := fun n => by
      cases value.toInt with
      | error e =>
        constructor
        · intro h
          cases h
        · intro h
          cases h
      | ok m => rw [Except.mapError, Except.ok.injEq, Except.ok.injEq]
    simp only [hok, Bool.true_eq_false, false_or]

/-- The offsets of an object are those of a cursor exactly when both are read as offsets. -/
theorem offsets_ok_iff (container asset : Json) (key : Json) :
    (∃ result : Option Continuation,
      (do
        let containerOffset ← intOr container 0
        let assetOffset ← intOr asset 0
        return some ⟨containerOffset, assetOffset, key⟩ : Except PyError _) = .ok result ∧
      ∀ cursor, result = some cursor → 0 ≤ cursor.containerOffset ∧ 0 ≤ cursor.assetOffset) ↔
      IsOffset container ∧ IsOffset asset := by
  rw [← intOr_ok_iff, ← intOr_ok_iff]
  constructor
  · rintro ⟨result, hread, hoffsets⟩
    obtain ⟨c, hcontainer, hread⟩ := exists_ok_of_bind hread
    obtain ⟨a, hasset, hread⟩ := exists_ok_of_bind hread
    obtain rfl := Except.ok.inj hread
    obtain ⟨hc, ha⟩ := hoffsets _ rfl
    exact ⟨⟨c, hcontainer, hc⟩, a, hasset, ha⟩
  · rintro ⟨⟨c, hcontainer, hc⟩, a, hasset, ha⟩
    rw [hcontainer, hasset]
    refine ⟨_, rfl, fun cursor hcursor => ?_⟩
    obtain rfl := Option.some.inj hcursor
    exact ⟨hc, ha⟩

/-- The bytes of a text are read robustly exactly when they are those of a cursor. -/
theorem readsRobustly_str_iff {depth : ℕ} {text : String} (h : (Json.str text).truthy = true) :
    ReadsRobustly depth (.str text) ↔
      ∀ raw, Base64.decode (text.toList ++ padding text) = some raw → IsCursor depth raw := by
  have hrefused : ∃ result : Option Continuation, (.ok none : Except PyError _) = .ok result ∧
      ∀ cursor, result = some cursor → 0 ≤ cursor.containerOffset ∧ 0 ≤ cursor.assetOffset :=
    ⟨none, rfl, fun _ h => (by cases h)⟩
  rw [ReadsRobustly, decode, h, Bool.not_true, if_neg Bool.false_ne_true]
  dsimp only
  rw [← padding]
  cases hraw : Base64.decode (text.toList ++ padding text) with
  | none => exact ⟨fun _ _ h => (by cases h), fun _ => hrefused⟩
  | some raw =>
    have hcursor : (∀ raw', some raw = some raw' → IsCursor depth raw') ↔ IsCursor depth raw :=
      ⟨fun h => h raw rfl, fun h raw' heq => Option.some.inj heq ▸ h⟩
    rw [hcursor, IsCursor]
    dsimp only
    cases hparsed : Json.loadsBytes (depth + 1) raw with
    | error e =>
      cases e with
      | value => exact ⟨fun _ => ⟨fun h => (by cases h), fun _ h => (by cases h)⟩, fun _ => hrefused⟩
      | digits => exact ⟨fun _ => ⟨fun h => (by cases h), fun _ h => (by cases h)⟩, fun _ => hrefused⟩
      | recursion =>
        refine iff_of_false ?_ fun h => h.1 rfl
        rintro ⟨result, h, -⟩
        cases h
    | ok parsed =>
      by_cases hdict : ∃ entries, parsed = .dict entries
      · obtain ⟨entries, rfl⟩ := hdict
        refine (offsets_ok_iff _ _ _).trans ⟨fun h => ⟨fun h => (by cases h), ?_⟩, fun h => h.2 _ rfl⟩
        intro entries' heq
        cases heq
        exact h
      · have hother : ∀ entries, (.ok parsed : Except Json.LoadsError Json) ≠ .ok (.dict entries) :=
          fun entries h => hdict ⟨entries, Except.ok.inj h⟩
        refine ⟨fun _ => ⟨fun h => (by cases h), fun _ h => absurd h (hother _)⟩, fun _ => ?_⟩
        split
        · rename_i entries heq
          exact absurd heq (hother entries)
        · exact hrefused
        · exact hrefused
        · exact hrefused
        · rename_i heq
          cases heq

/-- Whatever continuation a client sends, it is refused or read with offsets that are not
    negative, exactly when it counts as none, or is the text of bytes that are not nested too
    deeply and have offsets if they are an object. What is refused is answered with 400. -/
theorem decode_robust_iff (py : Interpreter) (value : Json) :
    (ReadsRobustly py.depth value ↔ IsReadable py.depth value) ∧
      ∀ service grants request, request.continuation = value → decode py.depth value = .ok none →
        find py service grants request = .ok (.failed 400 "INVALID_REQUEST") := by
  constructor
  · rw [IsReadable]
    cases htruthy : value.truthy with
    | false =>
      refine ⟨fun _ => .inl rfl, fun _ => ⟨some start, decode_of_falsy _ htruthy, ?_⟩⟩
      intro cursor hcursor
      obtain rfl := Option.some.inj hcursor
      exact ⟨le_refl 0, le_refl 0⟩
    | true =>
      rw [Bool.true_eq_false, false_or]
      by_cases hstr : ∃ text, value = .str text
      · obtain ⟨text, rfl⟩ := hstr
        rw [readsRobustly_str_iff htruthy]
        constructor
        · exact fun h => ⟨text, rfl, h⟩
        · rintro ⟨text', heq, h⟩
          cases heq
          exact h
      · refine iff_of_false ?_ fun ⟨text, heq, _⟩ => hstr ⟨text, heq⟩
        -- The length of a number is not defined, and a list is no text to append padding to.
        rintro ⟨result, h, -⟩
        rw [decode.eq_def, htruthy, Bool.not_true, if_neg Bool.false_ne_true] at h
        split at h
        · exact hstr ⟨_, rfl⟩
        · cases h
  · rintro service grants request rfl hrefused
    rw [find, hrefused]
    rfl

/-- A text that is no Base64 is refused. -/
theorem decode_robust_iff_refused :
    ReadsRobustly Sample.interpreter.depth (.str "A") ∧
      find Sample.interpreter (Sample.findStep (.int 1) (.str "A")).service
          (Sample.findStep (.int 1) (.str "A")).grants (Sample.findStep (.int 1) (.str "A")).request =
        .ok (.failed 400 "INVALID_REQUEST") := by
  obtain ⟨hiff, hrefused⟩ := decode_robust_iff Sample.interpreter (.str "A")
  have hnone : Base64.decode ("A".toList ++ padding "A") = none := by decide +kernel
  refine ⟨hiff.2 (.inr ⟨"A", rfl, fun raw hraw => ?_⟩), hrefused _ _ _ rfl (by decide +kernel)⟩
  rw [hnone] at hraw
  cases hraw

/-- An asset offset that is no number raises, and so does a continuation that is no text; a
    negative offset is read as it is. -/
theorem decode_unguarded :
    decode 900 (.str "eyJhc3NldE9mZnNldCI6IngifQ") = .error .valueError ∧
      decode 900 (.int 5) = .error .typeError ∧
      decode 900 (.str "eyJhc3NldE9mZnNldCI6LTF9") = .ok (some ⟨0, -1, .null⟩) ∧
      ¬ReadsRobustly 900 (.str "eyJhc3NldE9mZnNldCI6IngifQ") ∧
      ¬ReadsRobustly 900 (.str "eyJhc3NldE9mZnNldCI6LTF9") := by
  have hraised : decode 900 (.str "eyJhc3NldE9mZnNldCI6IngifQ") = .error .valueError := by
    decide +kernel
  have hnegative : decode 900 (.str "eyJhc3NldE9mZnNldCI6LTF9") = .ok (some ⟨0, -1, .null⟩) := by
    decide +kernel
  refine ⟨hraised, rfl, hnegative, ?_, ?_⟩
  · rintro ⟨result, h, -⟩
    cases hraised.symm.trans h
  · rintro ⟨result, h, hoffsets⟩
    obtain rfl := Except.ok.inj (hnegative.symm.trans h)
    exact absurd (hoffsets _ rfl).2 (by decide)

end Continuation

end Broker
