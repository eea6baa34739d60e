import Scribe.Json.Display
import Scribe.Json.Limits

/-!
# Prompts

The texts in which a model is asked for documentation: of a whole file, of one method, and of a
Java file. What they tell may be any value, as long as it can be put into a text.
-/

namespace Scribe.Prompt

/-- What the model is told about one method. -/
structure Subject where
  name : Json
  docComment : Json
  sourceCode : Json

/-- What keeps the first of some values that cannot be told from being put into a text. -/
def obstacle? (told : List Json) : Option Json.Obstacle :=
  told.findSome? (Json.obstacle? .literal)

def lines (ls : List Text) : Text := Text.intercalate "\n" ls

/-- Asks whether comments inside the code are to be told. -/
def commentStyle (inlineComments : Json) : String :=
  if inlineComments.isTruthy then "Include inline comments in the documentation."
  else "Focus on code structure and functionality."

/-- Asks for the documentation of a whole file. -/
def file (language code inlineComments : Json) : Text :=
  lines
    ["",
     "        Analyze the following " ++ language.display
       ++ " code and generate detailed documentation.",
     "        ",
     "        Instructions:",
     "        1. Document the overall purpose of the code",
     "        2. For each class/function:",
     "           - Description of purpose and functionality",
     "           - Parameters and their types",
     "           - Return values and types",
     "           - Key algorithms or logic",
     "           - Usage examples where helpful",
     "        3. Note any important dependencies or requirements",
     "        4. " ++ commentStyle inlineComments,
     "        ",
     "        Code to document:",
     "        " ++ code.display,
     "        "]

/-- Asks for the documentation of one method. -/
def method (language : Json) (s : Subject) : Text :=
  lines
    ["",
     "        Analyze the following " ++ language.display
       ++ " method and generate detailed documentation.",
     "        ",
     "        Method Name: " ++ s.name.display,
     "        ",
     "        Documentation Comments: ",
     "        " ++ s.docComment.display,
     "        ",
     "        Method Source Code:",
     "        " ++ s.sourceCode.display,
     "        ",
     "        Instructions:",
     "        1. Document this method's purpose and functionality",
     "        2. Parameters and their types",
     "        3. Return values and types",
     "        4. Key algorithms or logic",
     "        5. Usage examples where helpful",
     "        6. Any important dependencies or requirements",
     "        "]

/-- What is told about a method in a language, in order. -/
def told (language : Json) (s : Subject) : List Json :=
  [language, s.name, s.docComment, s.sourceCode]

/-- Asks for the documentation of a Java file. -/
def java (content : Json) : Text :=
  lines
    ["",
     "Analyze the following Java code and generate detailed documentation for its classes, "
       ++ "methods, and other constructs.",
     "In human-readable format. Use descriptive language/paragraphs to explain the purpose of "
       ++ "each function, its parameters, return values, and functionality.",
     "Provide clear descriptions of:",
     "- The purpose of the class.",
     "- The functionality of each method.",
     "- The parameters, return values, and any important logic.",
     "",
     content.display,
     ""]

end Scribe.Prompt
