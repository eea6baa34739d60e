import Scribe.Json.Value

/-!
# Limits of values

Integers have texts up to a number of digits, and containers stand inside each other up to a depth.
`Json.obstacle?` finds the first thing in a value that keeps it from being put into a text.
-/

namespace Scribe.Json

/-- The largest number of digits of an integer. -/
def maxIntegerDigits : Nat := 4300

/-- The largest number of containers that stand inside each other. -/
def maxDepth : Nat := 980

/-- What keeps a value from being put into a text. -/
inductive Obstacle where
  /-- A number without digits. -/
  | notFinite
  | longInteger
  /-- A container stands inside too many others. -/
  | tooDeep
  deriving DecidableEq, Repr

/-- The forms in which values are put into texts. -/
inductive Form where
  /-- The form of requests, in which every number has digits. -/
  | strict
  /-- The form of prompts and messages, which has words for the other numbers. -/
  | literal
  deriving DecidableEq, Repr

def Obstacle.message (form : Form) : Obstacle → String
  | notFinite => "Out of range float values are not JSON compliant"
  | longInteger =>
    "Exceeds the limit (" ++ toString maxIntegerDigits
      ++ " digits) for integer string conversion; use sys.set_int_max_str_digits() to increase "
      ++ "the limit"
  | tooDeep =>
    "maximum recursion depth exceeded while " ++
      match form with
      | .strict => "encoding a JSON object"
      | .literal => "getting the repr of an object"

mutual

/-- The first obstacle in a value whose containers may go down to `depth`. -/
def obstacleWithin? (form : Form) : (depth : Nat) → Json → Option Obstacle
  | _, int n => if n.natAbs < Nat.pow 10 maxIntegerDigits then none else some .longInteger
  | _, float x => if form = .literal || x.isFinite then none else some .notFinite
  | 0, arr _ => some .tooDeep
  | depth + 1, arr items => itemsObstacle? form depth items
  | 0, obj _ => some .tooDeep
  | depth + 1, obj fields => fieldsObstacle? form depth fields
  | _, _ => none

def itemsObstacle? (form : Form) (depth : Nat) : List Json → Option Obstacle
  | [] => none
  | v :: rest => (obstacleWithin? form depth v).or (itemsObstacle? form depth rest)

def fieldsObstacle? (form : Form) (depth : Nat) : List (Text × Json) → Option Obstacle
  | [] => none
  | (_, v) :: rest => (obstacleWithin? form depth v).or (fieldsObstacle? form depth rest)

end

/-- The first obstacle in a value. -/
def obstacle? (form : Form) (v : Json) : Option Obstacle := v.obstacleWithin? form maxDepth

@[simp]
theorem obstacle?_str (form : Form) (s : Text) : (str s).obstacle? form = none := rfl

@[simp]
theorem obstacle?_null (form : Form) : null.obstacle? form = none := rfl

end Scribe.Json
