import Scribe.Files.Place
import Scribe.Files.Walk
import Scribe.Java.Provider
import Scribe.Text.LineEnds

/-!
# Servers of Java documentation

A server documents every Java file below a directory with one request each. Whatever goes wrong
with a file is told in the entry of that file.
-/

namespace Scribe

/-- A running server. -/
structure JavaServer where
  provider : Provider
  /-- The key when the server started, which its address keeps. -/
  startKey : Text
  /-- The key that is in use; whatever counts as nothing is none. -/
  key : Json

/-- What one Java file gives. -/
structure JavaEntry where
  path : Text
  /-- The documentation, which counts as something, or an error. -/
  outcome : Except Text Json

/-- Why the content of a text file is not known. -/
inductive TextError where
  | place (e : PlaceError)
  | decoding (f : Utf8.Fault)
  deriving DecidableEq, Repr

def TextError.message : TextError → String
  | place e => e.message
  | decoding f => f.message

/-- The text of the file that a value names, with every line end as a line feed. -/
def Volume.readTextAt (v : Volume) (place : Json) : Except TextError String :=
  match v.readAt place with
  | .error e => .error (.place e)
  | .ok content => match Utf8.decode content with
    | .error f => .error (.decoding f)
    | .ok cs => .ok (String.ofList (Text.unifyLineEnds cs))

/-- The text of a file, with every line end as a line feed. -/
def Volume.readText (v : Volume) (path : Text) : Except TextError String :=
  v.readTextAt (.str path)

namespace JavaServer

/-- Starts a server with the key of the environment; an empty key is none. -/
def start (p : Provider) (environmentKey : Option Text) : Except String JavaServer :=
  match environmentKey.filter (!·.isEmpty) with
  | some key => .ok ⟨p, key, .str key⟩
  | none => .error p.noKey

/-- The request that asks for the documentation of a file's content. -/
def request (s : JavaServer) (content : Json) : Request :=
  .post (Text.tidyAddress (s.provider.address s.startKey))
    (s.provider.body (Prompt.java content))
    (if s.provider.keyInAddress then none else some ("Bearer " ++ s.key.display)) none

/-- What a request tells about a file's content, in order. -/
def told (s : JavaServer) (content : Json) : List Json :=
  if s.provider.keyInAddress then [content] else [content, s.key]

/-- What the outcome of an exchange says. -/
def judge (p : Provider) (url : String) (outcome : Except Failure Response) : Json :=
  match yieldOf url outcome with
  | .failed message => .str ("Error making API request: " ++ message)
  | .broken message => .str ("Unexpected error: " ++ message)
  | .value v =>
    match p.answerOf v with
    | .ok (some answer) => answer
    | .ok none => .str "Error: Invalid response format from API"
    | .error e => .str ("Unexpected error: " ++ e.message)

/-- Documents the content of a file. -/
def document (s : JavaServer) (content : Json) : Work Script Json :=
  if !s.key.isTruthy then pure (.str "Error: API key not configured")
  else match Prompt.obstacle? (s.told content) with
    | some o => pure (.str ("Unexpected error: " ++ o.message .literal))
    | none => do
      let r := s.request content
      return judge s.provider r.url (← send r)

/-- Whether a name is that of a Java file. -/
def isJavaName (name : Text) : Bool := name.endsWith ".java"

/-- The paths of the Java files among some visits. -/
def javaPaths (visits : List Visit) : List Text :=
  visits.flatMap fun visit => (visit.files.filter isJavaName).map (Path.join visit.directory)

/-- The entry of one file. -/
def entry (s : JavaServer) (v : Volume) (path : Text) : Work Script JavaEntry :=
  match v.readText path with
  | .error e => pure ⟨path, .error e.message⟩
  | .ok content => do
    let answer ← s.document (.str content)
    return ⟨path, if answer.isTruthy then .ok answer else
      .error "Failed to generate documentation."⟩

/-- The entries of some files, in order. -/
def entriesOf (s : JavaServer) (v : Volume) : List Text → Work Script (List JavaEntry)
  | [] => pure []
  | path :: rest => do
    let e ← s.entry v path
    let more ← s.entriesOf v rest
    return e :: more

/-- Documents all Java files below a directory. -/
def repository (s : JavaServer) (v : Volume) (directory : Json) :
    Work Script (Except PlaceError (List JavaEntry)) :=
  match directory.asPath with
  | .error e => pure (.error e)
  | .ok path =>
    match v.walk path with
    | .error e => pure (.error (.file e))
    | .ok visits => do return .ok (← s.entriesOf v (javaPaths visits))

end JavaServer

end Scribe
