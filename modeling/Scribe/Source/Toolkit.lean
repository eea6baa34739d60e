import Scribe.Source.Node
import Scribe.Text.Basic

/-!
# The parsing toolkit

Parsing is done by grammars that come from outside. Here a toolkit is what can be seen of them:
which grammars fail in which step, and the tree that each grammar has for each source.
-/

namespace Scribe

/-- The messages with which the steps of using one grammar fail. Those that are printed consist of
characters. -/
structure GrammarFaults where
  /-- Making a parser for the grammar. -/
  parser : Option String := none
  /-- Loading the grammar. -/
  language : Option Text := none
  /-- Giving the grammar to a parser. -/
  attach : Option String := none
  /-- Compiling a query for the grammar. -/
  query : Option Text := none
  deriving DecidableEq, Repr

/-- A step that works, or the message with which it fails. -/
def stepOf {α : Type} (fault : Option α) : Except α Unit :=
  match fault with
  | some message => .error message
  | none => .ok ()

/-- What can be seen of the parsing machinery. -/
structure Toolkit where
  /-- Whether parsing is installed at all. -/
  installed : Bool
  /-- Whether ready-made parsers can be asked for. -/
  hasParsers : Bool
  /-- Faults by the name of the grammar; a grammar not listed has none. -/
  faults : List (String × GrammarFaults)
  /-- The tree that a grammar has for a source, or the message with which parsing fails. -/
  parse : (grammar : String) → (source : Bytes) → Except Text Node

namespace Toolkit

/-- A toolkit that knows no tree and has no faults. Without ready-made parsers, parsing does not
count as installed. -/
def fresh (hasParsers : Bool) : Toolkit :=
  ⟨hasParsers, hasParsers, [], fun _ source => .ok (.blank source)⟩

def faultsOf (t : Toolkit) (grammar : String) : GrammarFaults :=
  ((t.faults.find? (·.1 = grammar)).map (·.2)).getD {}

/-- Replaces the faults of a grammar. -/
def withFaults (t : Toolkit) (grammar : String) (f : GrammarFaults) : Toolkit :=
  { t with faults := (grammar, f) :: t.faults }

/-- Makes a tree known for a source, whatever the grammar. -/
def withTree (t : Toolkit) (source : Bytes) (tree : Except Text Node) : Toolkit :=
  { t with parse := fun grammar other => if other = source then tree else t.parse grammar other }

/-- Loads a grammar and gives it to a parser. -/
def loadGrammar (t : Toolkit) (grammar : String) : Except Text Unit := do
  stepOf (t.faultsOf grammar).language
  stepOf ((t.faultsOf grammar).attach.map Text.ofString)

/-- What is printed when the tool starts. -/
def startLines (t : Toolkit) : List String :=
  if t.installed then []
  else ["Warning: tree-sitter not installed. Please install with: "
    ++ "pip install tree-sitter tree-sitter-languages"]

/-- Asks for a ready-made parser of a grammar. -/
def makeParser (t : Toolkit) (grammar : String) : Except String Unit := do
  stepOf (t.faultsOf grammar).parser
  stepOf (t.faultsOf grammar).attach

end Toolkit

end Scribe
