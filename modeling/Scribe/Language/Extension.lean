import Scribe.Files.Place
import Scribe.Json.Access
import Scribe.Language.Basic
import Scribe.Path
import Scribe.Text.Lowercase

/-!
# Languages by file extension and by name
-/

namespace Scribe.Language

/-- The extension of each kind of source file. -/
def extensions : List (String × Language) :=
  [(".py", python), (".js", javascript), (".jsx", javascript), (".ts", typescript),
   (".tsx", typescript), (".java", java), (".cpp", cpp), (".hpp", cpp), (".c", c), (".h", c),
   (".html", html), (".htm", html), (".css", css), (".php", php), (".rb", ruby), (".go", go),
   (".rs", rust), (".swift", swift), (".kt", kotlin), (".cs", cSharp), (".m", objectiveC),
   (".mm", objectiveC), (".scala", scala), (".pl", perl), (".lua", lua), (".r", r)]

/-- The extension of a file, in lower case. -/
def extensionOf (path : Text) : Text :=
  Text.lower (Path.suffix path)

/-- The language of an extension in any case. -/
def ofExtension (extension : Text) : Language :=
  let small := Text.lower extension
  ((extensions.find? fun e => (e.1 : Text) = small).map (·.2)).getD unknown

/-- The extension of a file whose path is given as a value. -/
def extensionOfValue (path : Json) : Except PlaceError Text :=
  extensionOf <$> path.asPath

/-- The language with a name that is given as a value. -/
def named (name : Json) : Except Json.AccessError Language := do
  match ← name.asKey with
  | .str t => match t.plain?.bind ofName? with
    | some l => return l
    | none => throw (.missingField t)
  | v => throw (.missingKey v.literal)

/-- The language of an extension that is given as a value. -/
def ofExtensionValue : Json → Except Json.AccessError Language
  | .str extension => .ok (ofExtension extension)
  | v => .error (.noOperation v.kind "lower")

/-- The language of a file. -/
def ofPath (path : Text) : Language :=
  ofExtension (extensionOf path)

end Scribe.Language
