import Scribe.Generator.Documentation
import Scribe.Proofs.Generator.Reading

/-!
# Prompts about methods

A prompt about a method is a template of lines, filled with the language, the name, the
documentation and the source of the method. A request has it at a fixed place of its body.

## Main results

* `Prompt.method_eq_filled`: a prompt about texts is the filled template.
* `Client.prompt?_request`: a request puts its prompt to the model.
-/

namespace Scribe

theorem Text.ofString_intercalate (between : String) (lines : List String) :
    ofString (between.intercalate lines) =
      intercalate between (lines.map ofString) := by
  induction lines with
  | nil => rfl
  | cons line rest ih =>
    ext1
    cases rest with
    | nil => simp [intercalate, join]
    | cons next more =>
      rw [String.intercalate_cons_cons, ofString_append, ofString_append, ih]
      simp [intercalate, join]

namespace Prompt

/-- The prompt about a method in a language. -/
def filled (language name comments source : String) : String :=
  "\n".intercalate
    ["",
     "        Analyze the following " ++ language ++ " method and generate detailed documentation.",
     "        ",
     "        Method Name: " ++ name,
     "        ",
     "        Documentation Comments: ",
     "        " ++ comments,
     "        ",
     "        Method Source Code:",
     "        " ++ source,
     "        ",
     "        Instructions:",
     "        1. Document this method's purpose and functionality",
     "        2. Parameters and their types",
     "        3. Return values and types",
     "        4. Key algorithms or logic",
     "        5. Usage examples where helpful",
     "        6. Any important dependencies or requirements",
     "        "]

theorem method_eq_filled {s : Subject} {name comments source : String}
    (hname : s.name.display = name) (hcomments : s.docComment.display = comments)
    (hsource : s.sourceCode.display = source) (language : String) :
    method (.str language) s = filled language name comments source := by
  rw [filled, Text.ofString_intercalate, method, lines]
  simp only [hname, hcomments, hsource, Json.display_str, List.map_cons, List.map_nil,
    Text.ofString_append]

/-- A method without documentation is told with the word for null. -/
theorem display_docComment_ofMethod (m : Method) :
    (Subject.ofMethod m).docComment.display = Text.ofString (m.docComment.getD "None") := by
  rw [Subject.ofMethod]
  cases m.docComment <;> rfl

end Prompt

/-- The prompt that a request puts to the model. -/
def Request.prompt? (r : Request) : Option Text :=
  (r.body.at? [.field "contents", .first, .field "parts", .first, .field "text"]).bind Json.text?

theorem Client.prompt?_request (c : Client) (url : String) (prompt : Text) :
    (c.request url (.str prompt)).prompt? = some prompt := by
  simp [Request.prompt?, request, Request.post, Json.at?, Json.step?, Json.lookup, Json.text?]

end Scribe
