import Scribe.Source.ParserTable

/-!
# The handler of the parsers

Callers get at the parsers through a handler. It is made when it is first asked for, and from then
on everyone who asks is given the same one. Whoever asks for the handler opens the table of parsers.
-/

namespace Scribe

/-- A handler, known by the number of handlers made before it. -/
structure Handler where
  number : Nat
  deriving DecidableEq, Repr

/-- The handlers made so far. -/
structure Handlers where
  /-- The handler that callers are given, once there is one. -/
  shared : Option Handler
  made : Nat
  deriving DecidableEq, Repr

namespace Handlers

def fresh : Handlers := ⟨none, 0⟩

/-- The handler that callers are given, made if there is none yet. -/
def obtain : Work Handlers Handler := do
  let s ← Work.get
  match s.shared with
  | some handler => return handler
  | none =>
    let handler : Handler := ⟨s.made⟩
    Work.set ⟨some handler, s.made + 1⟩
    return handler

end Handlers

/-- The table of parsers and the handlers through which callers get at it. -/
structure Registry where
  handlers : Handlers
  parsers : ParserTable
  deriving DecidableEq, Repr

namespace Registry

def fresh : Registry := ⟨.fresh, []⟩

def onHandlers {α : Type} (w : Work Handlers α) : Work Registry α :=
  w.on (·.handlers) fun handlers r => { r with handlers := handlers }

def onParsers {α : Type} (w : Work ParserTable α) : Work Registry α :=
  w.on (·.parsers) fun table r => { r with parsers := table }

/-- Gives the handler of the parsers, whose table is opened. -/
def openHandler (t : Toolkit) : Work Registry Handler := do
  let handler ← onHandlers Handlers.obtain
  onParsers (ParserTable.openTable t)
  return handler

end Registry

end Scribe
