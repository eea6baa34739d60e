import Scribe.Generator.Client
import Scribe.Source.Extraction

/-!
# Documentation by the model

Documentation of a whole file is one call. Documentation of methods is one call for each method
with a name; the result has an entry for each name, in the order in which names first occur.
-/

namespace Scribe

/-- Texts by name, in order. -/
abbrev Documentation := List (Json × Text)

namespace Documentation

/-- Gives a name a text. A new name goes to the end, an old one keeps its place. -/
def put (name : Json) (text : Text) : Documentation → Documentation
  | [] => [(name, text)]
  | entry :: rest =>
    if entry.1.sameKey name then (entry.1, text) :: rest else entry :: put name text rest

/-- The text under a name. -/
def get? (name : Json) (d : Documentation) : Option Text :=
  (d.find? fun entry => entry.1.sameKey name).map (·.2)

end Documentation

namespace Prompt.Subject

/-- Reads what is to be told about a method. A missing name is null. -/
def ofJson (v : Json) : Except Json.AccessError Subject := do
  let name ← v.fieldD "name" .null
  let docComment ← v.fieldD "doc_comment" (.str "No documentation provided")
  let sourceCode ← v.fieldD "source_code" (.str "")
  return ⟨name, docComment, sourceCode⟩

/-- What is told about an extracted method. Missing documentation is null. -/
def ofMethod (m : Method) : Subject :=
  ⟨.str m.name, (m.docComment.map fun s => Json.str s).getD .null, .str m.sourceCode⟩

end Prompt.Subject

namespace Client

/-- Documents a whole file. -/
def documentFile (c : Client) (language code inlineComments : Json) : Work Script Json :=
  let failed (message : String) : Work Script Json :=
    pure (.str ("Error generating documentation: " ++ message))
  match Prompt.obstacle? [language, code] with
  | some o => failed (o.message .literal)
  | none => do
    match ← c.call (.str (Prompt.file language code inlineComments)) with
    | .error e => failed e.message
    | .ok answer =>
      return if answer.isTruthy then answer else .str "Failed to generate documentation."

/-- What an answer says about a method: the answer itself, unless it is missing or an error. -/
def describe (answer : Json) : Except Json.AccessError Text :=
  let failed (why : Text) : Text := "Failed to generate documentation: " ++ why
  if !answer.isTruthy then .ok (failed "Unknown error")
  else do
    let isError ← answer.startsWith "Error:"
    return if isError then failed answer.display else answer.display

/-- The text for a method, if its name can be the key of an entry. -/
def entryFor (name answer : Json) : Except Json.AccessError Text := do
  let text ← describe answer
  let _ ← name.asKey
  return text

/-- Documents methods one after the other. The first failure ends it, with its message. -/
def documentEach (c : Client) (language : Json) (done : Documentation) :
    List (Except Json.AccessError Prompt.Subject) → Work Script (Except String Documentation)
  | [] => pure (.ok done)
  | .error e :: _ => pure (.error e.message)
  | .ok s :: rest =>
    if !s.name.isTruthy then c.documentEach language done rest
    else match Prompt.obstacle? (Prompt.told language s) with
      | some o => pure (.error (o.message .literal))
      | none => do
        match ← c.call (.str (Prompt.method language s)) with
        | .error e => return .error e.message
        | .ok answer =>
          match entryFor s.name answer with
          | .error e => return .error e.message
          | .ok text => c.documentEach language (done.put s.name text) rest

/-- The result that stands for a failure. -/
def failure (message : String) : Documentation :=
  [(.str "error", "Error generating structured documentation: " ++ message)]

/-- Turns a failure into a result and a printed line. -/
def settle (outcome : Except String Documentation) : Work Script Documentation :=
  match outcome with
  | .ok d => pure d
  | .error message => do
    Work.print ("Documentation generation error: " ++ message)
    return failure message

/-- Documents methods about which something is known. -/
def documentSubjects (c : Client) (language : Json)
    (subjects : List (Except Json.AccessError Prompt.Subject)) : Work Script Documentation := do
  settle (← c.documentEach language [] subjects)

/-- Documents the methods that a value describes. -/
def documentMethods (c : Client) (language methods : Json) : Work Script Documentation :=
  match methods.elements with
  | .error e => settle (.error e.message)
  | .ok items => c.documentSubjects language (items.map Prompt.Subject.ofJson)

end Client

end Scribe
