import Broker.Lib.Dict
import Broker.Lib.Double
import Broker.Lib.Text

/-!
# JSON values

The values that Python's `json.loads` returns: numbers are integers or floats,
the latter finite, infinite or not a number, and the keys of an object are kept
in the order of their first occurrence, each with its last value.

Also their equality, Python's conversions of them (`bool`, `int` and `str`), and
which of them `json.dumps` refuses to write.
-/

namespace Py

/-- A `float`. -/
inductive PyFloat
  | finite (q : ℚ)
  | infinite (negative : Bool)
  | nan
  deriving DecidableEq, Repr

/-- A JSON value. -/
inductive Json
  | null
  | bool (b : Bool)
  | int (n : ℤ)
  | float (x : PyFloat)
  | str (s : String)
  | list (items : List Json)
  | dict (entries : List (String × Json))
  deriving Repr

namespace Json

/-- `isinstance(value, list)`. -/
def isList : Json → Bool
  | list _ => true
  | _ => false

/-- `isinstance(value, dict)`. -/
def isDict : Json → Bool
  | dict _ => true
  | _ => false

/-- `value.get(key)` of an object. -/
def get? (key : String) : Json → Option Json
  | dict entries => entries.lookup key
  | _ => none

/-! ## Equality -/

mutual

/-- Equality of values. -/
def beq : Json → Json → Bool
  | null, null => true
  | bool a, bool b => a == b
  | int a, int b => a == b
  | float a, float b => decide (a = b)
  | str a, str b => a == b
  | list a, list b => beqItems a b
  | dict a, dict b => beqEntries a b
  | _, _ => false

/-- Equality of the items of lists. -/
def beqItems : List Json → List Json → Bool
  | [], [] => true
  | a :: as, b :: bs => beq a b && beqItems as bs
  | _, _ => false

/-- Equality of the entries of objects. -/
def beqEntries : List (String × Json) → List (String × Json) → Bool
  | [], [] => true
  | (k, a) :: as, (l, b) :: bs => k == l && (beq a b && beqEntries as bs)
  | _, _ => false

end

mutual

theorem beq_iff : ∀ a b, beq a b = true ↔ a = b
  | null, b => by cases b <;> simp [beq]
  | bool _, b => by cases b <;> simp [beq]
  | int _, b => by cases b <;> simp [beq]
  | float _, b => by cases b <;> simp [beq]
  | str _, b => by cases b <;> simp [beq]
  | list a, b => by cases b <;> simp [beq, beqItems_iff a]
  | dict a, b => by cases b <;> simp [beq, beqEntries_iff a]

theorem beqItems_iff : ∀ a b, beqItems a b = true ↔ a = b
  | [], b => by cases b <;> simp [beqItems]
  | a :: as, b => by cases b <;> simp [beqItems, beq_iff a, beqItems_iff as]

theorem beqEntries_iff : ∀ a b, beqEntries a b = true ↔ a = b
  | [], b => by cases b <;> simp [beqEntries]
  | (_, a) :: as, b => by
    cases b <;> simp [beqEntries, Prod.ext_iff, beq_iff a, beqEntries_iff as, and_assoc]

end

instance : DecidableEq Json := fun a b => decidable_of_iff (beq a b = true) (beq_iff a b)

/-! ## Conversions -/

/-- The truth value `bool(value)`. -/
def truthy : Json → Bool
  | null => false
  | bool b => b
  | int n => n ≠ 0
  | float (.finite q) => q ≠ 0
  | float _ => true
  | str s => s ≠ ""
  | list items => !items.isEmpty
  | dict entries => !entries.isEmpty

/-- `str(value)`, for what `repr` gives for a float, a list and an object. -/
def text (repr : Json → String) : Json → String
  | null => "None"
  | bool b => if b then "True" else "False"
  | int n => toString n
  | str s => s
  | v => repr v

/-- What `int(value)` raises. -/
inductive IntError
  | value
  | type
  | overflow
  deriving DecidableEq, Repr

/-- `int(value)`. -/
def toInt : Json → Except IntError ℤ
  | bool b => .ok (if b then 1 else 0)
  | int n => .ok n
  | float (.finite q) => .ok (Double.truncate q)
  | float (.infinite _) => .error .overflow
  | float .nan => .error .value
  | str s => (Py.int s).elim (.error .value) .ok
  | null | list _ | dict _ => .error .type

/-- `value or default`. -/
def orElse (v default : Json) : Json := if v.truthy then v else default

/-! ## Writing -/

/-- What `json.dumps(value, allow_nan=False)` raises. -/
inductive DumpError
  | value
  | recursion
  deriving DecidableEq, Repr

mutual

/-- What writing a value raises, nested up to `depth`: none if it is written. A float has to be
    finite, and an integer has to have few enough digits. -/
def dumpError? : (depth : ℕ) → Json → Option DumpError
  | _, null | _, bool _ | _, str _ | _, float (.finite _) => none
  | _, int n => if (Nat.toDigits 10 n.natAbs).length ≤ intMaxStrDigits then none else some .value
  | _, float _ => some .value
  | 0, list _ | 0, dict _ => some .recursion
  | depth + 1, list items => itemsError? depth items
  | depth + 1, dict entries => entriesError? depth entries

/-- The first error of the items of a list. -/
def itemsError? : (depth : ℕ) → List Json → Option DumpError
  | _, [] => none
  | depth, v :: vs => dumpError? depth v <|> itemsError? depth vs

/-- The first error of the values of an object. -/
def entriesError? : (depth : ℕ) → List (String × Json) → Option DumpError
  | _, [] => none
  | depth, (_, v) :: es => dumpError? depth v <|> entriesError? depth es

end

/-- The items of a list are written if each of them is. -/
theorem itemsError?_eq_none {depth : ℕ} {items : List Json} :
    itemsError? depth items = none ↔ ∀ v ∈ items, dumpError? depth v = none := by
  induction items with
  | nil => simp [itemsError?]
  | cons v vs ih => rw [itemsError?, Option.orElse_eq_none, ih, List.forall_mem_cons]

@[simp] theorem dumpError?_str (depth : ℕ) (s : String) : dumpError? depth (.str s) = none := by
  cases depth <;> rfl

end Json

end Py
