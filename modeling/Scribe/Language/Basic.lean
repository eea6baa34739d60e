import Scribe.Json.Display

/-!
# Programming languages

The languages the tool knows by name. Every language has a name in capital letters and a short tag
which it has in requests and answers.
-/

namespace Scribe

/-- A programming language. -/
inductive Language where
  | python | javascript | typescript | java | cpp | c | html | css | php | ruby | go | rust
  | swift | kotlin | cSharp | objectiveC | scala | perl | lua | r
  /-- The language of a file with no known extension. -/
  | unknown
  deriving DecidableEq, Repr, Inhabited

namespace Language

def all : List Language :=
  [python, javascript, typescript, java, cpp, c, html, css, php, ruby, go, rust, swift, kotlin,
   cSharp, objectiveC, scala, perl, lua, r, unknown]

theorem mem_all (l : Language) : l ∈ all := by
  cases l <;> decide

/-- The name of a language. -/
def name : Language → String
  | python => "PYTHON"
  | javascript => "JAVASCRIPT"
  | typescript => "TYPESCRIPT"
  | java => "JAVA"
  | cpp => "CPP"
  | c => "C"
  | html => "HTML"
  | css => "CSS"
  | php => "PHP"
  | ruby => "RUBY"
  | go => "GO"
  | rust => "RUST"
  | swift => "SWIFT"
  | kotlin => "KOTLIN"
  | cSharp => "C_SHARP"
  | objectiveC => "OBJECTIVE_C"
  | scala => "SCALA"
  | perl => "PERL"
  | lua => "LUA"
  | r => "R"
  | unknown => "UNKNOWN"

/-- The tag of a language in requests and answers. -/
def tag : Language → String
  | python => "python"
  | javascript => "javascript"
  | typescript => "typescript"
  | java => "java"
  | cpp => "cpp"
  | c => "c"
  | html => "html"
  | css => "css"
  | php => "php"
  | ruby => "ruby"
  | go => "go"
  | rust => "rust"
  | swift => "swift"
  | kotlin => "kotlin"
  | cSharp => "csharp"
  | objectiveC => "objective_c"
  | scala => "scala"
  | perl => "perl"
  | lua => "lua"
  | r => "r"
  | unknown => "unknown"

/-- How a language is shown in messages. -/
def label (l : Language) : String := "Language." ++ l.name

def ofName? (s : String) : Option Language := all.find? (·.name = s)

def ofTag? (s : String) : Option Language := all.find? (·.tag = s)

@[simp]
theorem ofName?_name (l : Language) : ofName? l.name = some l := by
  cases l <;> decide

@[simp]
theorem ofTag?_tag (l : Language) : ofTag? l.tag = some l := by
  cases l <;> decide

/-- What a caller gave as a language: one of the known ones, or some other value. -/
inductive Choice where
  | known (l : Language)
  | other (v : Json)

/-- How a choice is shown in messages. -/
def Choice.label : Choice → Text
  | known l => l.label
  | other v => v.display

/-- A value that is no language. -/
structure NotALanguage where
  value : Json

def NotALanguage.message (e : NotALanguage) : String :=
  e.value.literal ++ " is not a valid Language"

/-- The language with a given tag. -/
def ofValue (v : Json) : Except NotALanguage Language :=
  match v with
  | .str s => match s.plain?.bind ofTag? with
    | some l => .ok l
    | none => .error ⟨v⟩
  | _ => .error ⟨v⟩

end Language

end Scribe
