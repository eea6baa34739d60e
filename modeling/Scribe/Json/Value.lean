import Scribe.Decimal.Binary64
import Scribe.Text.Basic

/-!
# Data values

The values of the data format in which the services talk. Integers and binary numbers are told
apart, and the fields of an object keep their order.
-/

namespace Scribe

/-- A data value. -/
inductive Json where
  | null
  | bool (b : Bool)
  | int (n : Int)
  | float (x : Binary64)
  | str (s : Text)
  | arr (items : List Json)
  | obj (fields : List (Text × Json))
  deriving Repr, Inhabited

namespace Json

/-- The value of a field. -/
def lookup (key : Text) : List (Text × Json) → Option Json
  | [] => none
  | (k, v) :: rest => if k = key then some v else lookup key rest

/-- Gives a field a value. A new field goes to the end, an old one keeps its place. -/
def insert (key : Text) (value : Json) : List (Text × Json) → List (Text × Json)
  | [] => [(key, value)]
  | (k, v) :: rest => if k = key then (k, value) :: rest else (k, v) :: insert key value rest

@[simp]
theorem lookup_insert_self (key : Text) (value : Json) (fields : List (Text × Json)) :
    lookup key (insert key value fields) = some value := by
  induction fields with
  | nil => simp [insert, lookup]
  | cons f rest ih =>
    by_cases h : f.1 = key <;> simp [insert, lookup, h, ih]

theorem lookup_insert_of_ne {key other : Text} (h : other ≠ key) (value : Json)
    (fields : List (Text × Json)) :
    lookup other (insert key value fields) = lookup other fields := by
  induction fields with
  | nil => simp [insert, lookup, Ne.symm h]
  | cons f rest ih =>
    by_cases hk : f.1 = key
    · simp [insert, lookup, hk, Ne.symm h]
    · by_cases ho : f.1 = other <;> simp [insert, lookup, hk, ho, h, ih]

/-- Null, false, zero and everything empty count as nothing. -/
def isTruthy : Json → Bool
  | null => false
  | bool b => b
  | int n => n != 0
  | float x => !x.isZero
  | str s => !s.isEmpty
  | arr items => !items.isEmpty
  | obj fields => !fields.isEmpty

/-- The text of a value that is one. -/
def text? : Json → Option Text
  | str t => some t
  | _ => none

/-- The name of a value's kind, as messages give it. -/
def kind : Json → String
  | null => "NoneType"
  | bool _ => "bool"
  | int _ => "int"
  | float _ => "float"
  | str _ => "str"
  | arr _ => "list"
  | obj _ => "dict"

/-- The number that a truth value or number stands for in comparisons. -/
def integer? : Json → Option Int
  | bool b => some (if b then 1 else 0)
  | int n => some n
  | _ => none

/-- Whether two values without parts are the same key. Truth values and numbers are compared by
the number they stand for. -/
def sameKey : Json → Json → Bool
  | null, null => true
  | str a, str b => a == b
  | float x, float y => x == y && x != .notANumber || x.isZero && y.isZero
  | float x, v => match v.integer? with
    | some n => x.equalsInt n
    | none => false
  | v, float y => match v.integer? with
    | some n => y.equalsInt n
    | none => false
  | a, b => match a.integer?, b.integer? with
    | some m, some n => m == n
    | _, _ => false

end Json

end Scribe
