import Broker.Lib.Base64
import Broker.Lib.JsonBytes
import Broker.Session

/-!
# Continuations

The cursor of a listing, which the route `/content/resources/find` hands out as
an opaque text and reads back: how many containers and how many assets the
listing has gone through, and the scope it is for.

What is handed out is read back as it was (`decode_encode`).
-/

namespace Broker

open Py

/-- What the Python interpreter supplies. -/
structure Interpreter where
  unicode : Unicode
  /-- `c.isdigit()`. -/
  isDigit : Char → Bool
  /-- `str` of a float, a list and an object. -/
  repr : Json → String
  /-- How deep `json.loads` reads objects within an object. -/
  depth : ℕ
  /-- How deep `json.dumps` writes a value within the four levels of a page of a listing. -/
  dumpsDepth : ℕ
  /-- `datetime.fromisoformat(text)`, written in UTC; none for a `ValueError`. -/
  isoDate : String → Except PyError (Option String)

/-- The exception of an `int(value)`. -/
def intError : Json.IntError → PyError
  | .value => .valueError
  | .type => .typeError
  | .overflow => .overflowError

/-- `int(value or default)`. -/
def intOr (value : Json) (default : ℤ) : Except PyError ℤ :=
  (value.orElse (.int default)).toInt.mapError intError

/-! ## Scopes -/

/-- What a listing is of. -/
structure FindScope where
  containerId : Option String
  query : String
  sort : String
  types : List String
  deriving DecidableEq, Repr

/-- An optional string as a JSON value. -/
def optionalStr : Option String → Json
  | none => .null
  | some s => .str s

/-- `scope_key`, which sorts the keys of the object. -/
def scopeKey (scope : FindScope) : String :=
  String.ofList (Json.dumps (fun _ => "")
    (.dict [("containerId", optionalStr scope.containerId), ("query", .str scope.query),
      ("sort", .str scope.sort), ("types", .list (scope.types.map .str))]))

/-! ## Cursors -/

/-- The payload of a continuation. -/
structure Continuation where
  containerOffset : ℤ
  assetOffset : ℤ
  scopeKey : Json
  deriving DecidableEq, Repr

namespace Continuation

/-- The payload that is read from no continuation. -/
def start : Continuation := ⟨0, 0, .null⟩

/-- An integer that Python writes. -/
def isShort (n : ℤ) : Bool := (Nat.toDigits 10 n.natAbs).length ≤ intMaxStrDigits

theorem isShort_iff {n : ℤ} (h : 0 ≤ n) : isShort n = true ↔ n < 10 ^ intMaxStrDigits := by
  lift n to ℕ using h
  rw [isShort, Int.natAbs_natCast, decide_eq_true_eq,
    Nat.length_toDigits_le_iff (by decide) (by decide)]
  exact_mod_cast Iff.rfl

/-- `encode_continuation` of a payload for a scope. -/
def encode (key : String) (containerOffset assetOffset : ℤ) : Except PyError String :=
  if isShort containerOffset && isShort assetOffset then
    .ok (Base64.encodeUnpadded (Json.utf8 (Json.dumps (fun _ => "")
      (.dict [("scopeKey", .str key), ("containerOffset", .int containerOffset),
        ("assetOffset", .int assetOffset)]))))
  else .error .valueError

/-- `decode_continuation`. -/
def decode (depth : ℕ) (value : Json) : Except PyError (Option Continuation) :=
  if !value.truthy then .ok (some start)
  else
    match value with
    | .str text =>
      let padding := List.replicate ((4 - text.toList.length % 4) % 4) '='
      match Base64.decode (text.toList ++ padding) with
      | none => .ok none
      | some raw =>
        match Json.loadsBytes (depth + 1) raw with
        | .ok (.dict entries) => do
          let parsed := fun key => (entries.lookup key).getD .null
          let containerOffset ← intOr (parsed "containerOffset") 0
          let assetOffset ← intOr (parsed "assetOffset") 0
          return some { containerOffset, assetOffset, scopeKey := parsed "scopeKey" }
        | .ok _ | .error .value | .error .digits => .ok none
        | .error .recursion => .error .recursionError
    | _ => .error .typeError

/-- No continuation is read as the start. -/
theorem decode_of_falsy (depth : ℕ) {value : Json} (h : value.truthy = false) :
    decode depth value = .ok (some start) := by
  rw [decode.eq_def, h]
  rfl

theorem intOr_int (n : ℤ) : intOr (.int n) 0 = .ok n := by
  rw [intOr, Json.orElse]
  split_ifs with h
  · rfl
  · simp only [Json.truthy, decide_eq_true_eq, not_not] at h
    rw [h]
    rfl

/-- A continuation that is handed out is read back. -/
theorem decode_encode {key text : String} {containerOffset assetOffset : ℤ} (depth : ℕ)
    (h : encode key containerOffset assetOffset = .ok text) :
    decode depth (.str text) = .ok (some ⟨containerOffset, assetOffset, .str key⟩) := by
  rw [encode] at h
  split_ifs at h with hshort
  rw [isShort, isShort, Bool.and_eq_true, decide_eq_true_eq, decide_eq_true_eq] at hshort
  have hplain : (Json.dict [("scopeKey", .str key), ("containerOffset", .int containerOffset),
      ("assetOffset", .int assetOffset)]).Plain (depth + 1) := by
    refine ⟨by simp, trivial, hshort.1, hshort.2, trivial⟩
  obtain rfl := Except.ok.inj h
  generalize hbytes : Json.utf8 (Json.dumps (fun _ => "") (.dict [("scopeKey", .str key),
    ("containerOffset", .int containerOffset), ("assetOffset", .int assetOffset)])) = bytes
  have hloads : Json.loadsBytes (depth + 1) bytes = .ok (.dict [("scopeKey", .str key),
      ("containerOffset", .int containerOffset), ("assetOffset", .int assetOffset)]) := by
    rw [← hbytes]
    exact Json.loadsBytes_dumps _ hplain
  have hne : bytes ≠ [] := by
    rintro rfl
    cases hloads
  have htruthy : (Json.str (Base64.encodeUnpadded bytes)).truthy = true :=
    decide_eq_true (Base64.encodeUnpadded_ne_empty hne)
  rw [decode, htruthy]
  dsimp only [Bool.not_true, Bool.false_eq_true, if_false]
  rw [Base64.encodeUnpadded_pad, Base64.decode_encode]
  dsimp only
  rw [hloads]
  simp [List.lookup_cons, intOr_int, bind, Except.bind, pure, Except.pure]

end Continuation

end Broker
