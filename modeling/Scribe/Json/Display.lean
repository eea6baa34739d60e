import Scribe.Decimal.Shortest
import Scribe.Json.Value
import Scribe.Text.Quoted

/-!
# Values in prompts and messages

`Json.display` is the text a value leaves in a prompt or message: a text stands as it is, all else
in a literal notation in which texts are quoted.
-/

namespace Scribe.Json

/-- Words for numbers without digits in literals. -/
def literalWords : Binary64.Words := ⟨"inf", "nan"⟩

mutual

/-- A value in literal notation. -/
def literal : Json → String
  | null => "None"
  | bool true => "True"
  | bool false => "False"
  | int n => toString n
  | float x => x.text literalWords
  | str s => Text.quoted s
  | arr items => "[" ++ ", ".intercalate (literals items) ++ "]"
  | obj fields => "\x7b" ++ ", ".intercalate (fieldLiterals fields) ++ "\x7d"

def literals : List Json → List String
  | [] => []
  | v :: rest => literal v :: literals rest

def fieldLiterals : List (Text × Json) → List String
  | [] => []
  | (k, v) :: rest => (Text.quoted k ++ ": " ++ literal v) :: fieldLiterals rest

end

/-- The text of a value. -/
def display : Json → Text
  | str s => s
  | v => literal v

@[simp]
theorem display_str (s : Text) : display (str s) = s := rfl

end Scribe.Json
