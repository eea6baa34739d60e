import Scribe.Json.Access
import Scribe.Language.Basic
import Scribe.Source.Toolkit
import Scribe.Work

/-!
# The table of parsers

Parsers are made once, for all languages that have a grammar, and then kept. A grammar that fails
leaves its language without a parser. Opening the table fills it only while it is empty.
-/

namespace Scribe

/-- The languages with a parser, each with the name of its grammar, in the order of making. -/
abbrev ParserTable := List (Language × String)

namespace ParserTable

/-- The grammars that parsers are made for. -/
def grammars : List (Language × String) :=
  [(.python, "python"), (.javascript, "javascript"), (.typescript, "typescript"), (.java, "java"),
   (.cpp, "cpp"), (.c, "c"), (.html, "html"), (.css, "css"), (.php, "php"), (.ruby, "ruby"),
   (.go, "go"), (.rust, "rust"), (.swift, "swift"), (.kotlin, "kotlin"), (.cSharp, "csharp"),
   (.objectiveC, "objc"), (.scala, "scala"), (.perl, "perl"), (.lua, "lua"), (.r, "r")]

/-- The grammar of the parser of a language. -/
def get? (table : ParserTable) (l : Language) : Option String :=
  (table.find? (·.1 = l)).map (·.2)

/-- Makes a parser for each of some grammars, with a warning for each that fails. -/
def fill (t : Toolkit) : List (Language × String) → Work ParserTable Unit
  | [] => pure ()
  | (l, grammar) :: rest => do
    if !t.hasParsers then
      Work.print ("Warning: get_parser is not available for " ++ grammar)
    else
      match t.makeParser grammar with
      | .ok () => Work.set ((← Work.get) ++ [(l, grammar)])
      | .error cause =>
        Work.print ("Warning: Failed to initialize parser for " ++ grammar ++ ": " ++ cause)
    fill t rest

/-- Opens the table: while it is empty and parsing is installed, all parsers are made anew. -/
def openTable (t : Toolkit) : Work ParserTable Unit := do
  let table ← Work.get
  if table.isEmpty && t.installed then fill t grammars

/-- The grammar of the parser for a choice of language. -/
def lookup (table : ParserTable) : Language.Choice → Except Json.AccessError (Option String)
  | .known l => .ok (table.get? l)
  | .other v => (fun _ => none) <$> v.asKey

end ParserTable

end Scribe
