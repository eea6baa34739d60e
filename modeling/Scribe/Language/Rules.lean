import Scribe.Language.Basic

/-!
# Where a language keeps its methods

For the languages whose methods can be extracted, the kinds of syntax nodes that hold a method, its
name and a comment.
-/

namespace Scribe

/-- The kinds of syntax nodes that matter in a language. -/
structure Rules where
  /-- Kind of the node of a method. -/
  method : String
  /-- Kind of the node that holds or leads to the method's name. -/
  name : String
  /-- Kind of the node of a comment. -/
  comment : String
  /-- Query that captures documentation inside a method. -/
  docQuery : Option String
  deriving DecidableEq, Repr

namespace Language

/-- Captures a string that is the first statement of a function's body. -/
def docstringQuery : String :=
  "(function_definition body: (block . (expression_statement (string)) @docstring))"

/-- The rules of the languages whose methods can be extracted. -/
def rules? : Language → Option Rules
  | python => some ⟨"function_definition", "identifier", "comment", some docstringQuery⟩
  | javascript => some ⟨"function_declaration", "identifier", "comment", none⟩
  | typescript => some ⟨"function_declaration", "identifier", "comment", none⟩
  | java => some ⟨"method_declaration", "identifier", "block_comment", none⟩
  | cpp => some ⟨"function_definition", "function_declarator", "comment", none⟩
  | c => some ⟨"function_definition", "function_declarator", "comment", none⟩
  | go => some ⟨"function_declaration", "identifier", "comment", none⟩
  | rust => some ⟨"function_item", "identifier", "line_comment", none⟩
  | kotlin => some ⟨"function_declaration", "simple_identifier", "comment", none⟩
  | cSharp => some ⟨"method_declaration", "identifier", "comment", none⟩
  | _ => none

/-- Whether the name of a method stands inside a declarator. -/
def hasDeclarators : Language → Bool
  | cpp => true
  | c => true
  | _ => false

end Language

end Scribe
