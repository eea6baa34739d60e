import Scribe.Json.Value

/-!
# What others see of a run

Requests sent to model services, pauses, and lines printed.
-/

namespace Scribe

/-- A request sent to a model service. -/
structure Request where
  method : String
  url : String
  /-- Seconds after which an answer is no longer waited for. -/
  timeout : Option Nat
  contentType : String
  authorization : Option Text
  body : Json

/-- A length of time in seconds. -/
inductive Seconds where
  | whole (n : Int)
  | binary (x : Binary64)
  deriving DecidableEq, Repr

/-- Whether a time would end before it starts. -/
def Seconds.isNegative : Seconds → Bool
  | whole n => n < 0
  | binary x => x.isNegative

/-- Something that others see of a run. -/
inductive Event where
  | sent (request : Request)
  | slept (seconds : Seconds)
  /-- A printed line, without its line feed. -/
  | printed (line : Text)
  /-- A service went into operation and was stopped. -/
  | served (host : String) (port : Nat)

namespace Event

/-- The requests among some events. -/
def requests (events : List Event) : List Request :=
  events.filterMap fun
    | sent r => some r
    | _ => none

/-- The pauses among some events. -/
def sleeps (events : List Event) : List Seconds :=
  events.filterMap fun
    | slept t => some t
    | _ => none

/-- The lines printed among some events. -/
def lines (events : List Event) : List Text :=
  events.filterMap fun
    | printed s => some s
    | _ => none

@[simp]
theorem requests_append (a b : List Event) : requests (a ++ b) = requests a ++ requests b := by
  simp [requests]

@[simp]
theorem sleeps_append (a b : List Event) : sleeps (a ++ b) = sleeps a ++ sleeps b := by
  simp [sleeps]

@[simp]
theorem lines_append (a b : List Event) : lines (a ++ b) = lines a ++ lines b := by
  simp [lines]

end Event

end Scribe
