import Scribe.Json.Access
import Scribe.Language.Rules
import Scribe.Source.Toolkit

/-!
# Extraction of methods

An extractor finds the methods of a source of one language: every node of the method kind that has
a non-empty name, with the documentation that belongs to it, its source text and its lines.
-/

namespace Scribe

/-- A method found in a source. Lines count from zero. -/
structure Method where
  name : String
  docComment : Option String
  sourceCode : String
  startLine : Nat
  endLine : Nat
  deriving DecidableEq, Repr

/-- Why no methods are extracted. -/
inductive ExtractError where
  /-- The choice cannot be looked up among the languages. -/
  | notAKey (e : Json.AccessError)
  /-- The language has no rules. -/
  | unsupported (label : Text)
  /-- The grammar cannot be used. -/
  | grammar (tag : String) (cause : Text)
  /-- The source cannot be parsed, or a piece of it is not text. -/
  | parse (cause : Text)

def ExtractError.message : ExtractError → Text
  | notAKey e => e.message
  | unsupported label => "Unsupported language: " ++ label
  | grammar tag cause => "Failed to set language " ++ tag ++ ": " ++ cause
  | parse cause => "Failed to parse source code: " ++ cause

/-- The rules of a choice. A value that is no language has none, if it can be a key at all. -/
def Language.Choice.rules? : Language.Choice → Except Json.AccessError (Option Rules)
  | .known l => .ok l.rules?
  | .other v => (fun _ => none) <$> v.asKey

/-- A parser of one language together with its rules. -/
structure Extractor where
  language : Language
  rules : Rules
  /-- Whether documentation inside methods is looked for. -/
  seesDocstrings : Bool
  deriving DecidableEq, Repr

namespace Extractor

/-- An extractor for a language that has rules. -/
def ofRules (t : Toolkit) (l : Language) (rules : Rules) : Except ExtractError Extractor :=
  match t.loadGrammar l.tag with
  | .error cause => .error (.grammar l.tag cause)
  | .ok () => .ok ⟨l, rules, rules.docQuery.isSome && (t.faultsOf l.tag).query.isNone⟩

/-- The extractor for a choice of language. -/
def create (t : Toolkit) (choice : Language.Choice) : Except ExtractError Extractor :=
  match choice, choice.rules? with
  | _, .error e => .error (.notAKey e)
  | .known l, .ok (some rules) => ofRules t l rules
  | _, .ok _ => .error (.unsupported choice.label)

/-- The node that holds the name of a method. -/
def nameNode? (x : Extractor) (n : Node) : Option Node :=
  if x.language.hasDeclarators then
    (n.children.filter (·.kind = "function_declarator")).findSome? fun d =>
      d.children.find? (·.kind = "identifier")
  else n.children.find? (·.kind = x.rules.name)

/-- The name of a method. -/
def name (x : Extractor) (source : Bytes) (n : Node) : Except Utf8.Fault (Option String) :=
  match x.nameNode? n with
  | none => .ok none
  | some child => some <$> child.text source

/-- Where the documentation of a method stands: in its first capture, else in a comment before
it. -/
def docRange? (x : Extractor) (site : Node.Site) : Option Range :=
  match x.seesDocstrings, site.node.captures with
  | true, capture :: _ => some capture
  | _, _ => (site.previous.filter (·.kind = x.rules.comment)).map (·.range)

/-- The documentation of a method. -/
def docComment (x : Extractor) (source : Bytes) (site : Node.Site) :
    Except Utf8.Fault (Option String) :=
  match x.docRange? site with
  | none => .ok none
  | some range => some <$> range.text source

/-- The places of all nodes of the method kind. -/
def methodSites (x : Extractor) (root : Node) : List Node.Site :=
  root.sites.filter (·.node.kind = x.rules.method)

/-- The method at a place, if it has a name. -/
def methodAt (x : Extractor) (source : Bytes) (site : Node.Site) :
    Except Utf8.Fault (Option Method) := do
  match ← x.name source site.node with
  | none => return none
  | some "" => return none
  | some name =>
    let doc ← x.docComment source site
    let code ← site.node.text source
    return some ⟨name, doc, code, site.node.startRow, site.node.stopRow⟩

/-- The methods at some places, in order. The first piece that is not text ends the search. -/
def methodsAt (x : Extractor) (source : Bytes) : List Node.Site → Except Utf8.Fault (List Method)
  | [] => .ok []
  | site :: rest => do
    let found ← x.methodAt source site
    let more ← x.methodsAt source rest
    return found.toList ++ more

/-- The methods of a tree. -/
def methods (x : Extractor) (source : Bytes) (root : Node) : Except Utf8.Fault (List Method) :=
  x.methodsAt source (x.methodSites root)

/-- Parses a source and extracts its methods. -/
def parse (x : Extractor) (t : Toolkit) (source : Bytes) : Except ExtractError (List Method) :=
  match t.parse x.language.tag source with
  | .error cause => .error (.parse cause)
  | .ok root => match x.methods source root with
    | .error fault => .error (.parse fault.message)
    | .ok found => .ok found

end Extractor

/-- Extracts the methods of a source of the chosen language. -/
def extractMethods (t : Toolkit) (choice : Language.Choice) (source : Bytes) :
    Except ExtractError (List Method) := do
  let x ← Extractor.create t choice
  x.parse t source

end Scribe
