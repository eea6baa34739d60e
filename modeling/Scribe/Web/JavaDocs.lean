import Scribe.Java.Server
import Scribe.Json.Access
import Scribe.Web.Routes

/-!
# The web service of a Java documentation server
-/

namespace Scribe

/-- The written form of an entry. -/
def JavaEntry.toJson (e : JavaEntry) : Json :=
  match e.outcome with
  | .ok documentation => .obj [("file_path", .str e.path), ("documentation", documentation)]
  | .error message => .obj [("file_path", .str e.path), ("error", .str message)]

namespace JavaServer

/-- The written form of the entries of a directory. -/
def report (entries : List JavaEntry) : Json :=
  .obj [("files", .arr (entries.map JavaEntry.toJson))]

def invalidDirectory : Web.Answer := .error 400 "Invalid or non-existent directory path."

/-- Answers a request for the documentation of a directory. -/
def generateDocs (s : JavaServer) (v : Volume) (r : Web.Request) : Work Script Web.Answer :=
  let failed (message : String) : Work Script Web.Answer := pure (.error 500 message)
  match r.value with
  | .error e => failed e.message
  | .ok data =>
    match data.fieldD "directory_path" .null with
    | .error e => failed e.message
    | .ok directory =>
      if !directory.isTruthy then pure invalidDirectory
      else match v.locate directory with
        | .error e => failed e.message
        | .ok none => pure invalidDirectory
        | .ok (some _) => do
          match ← s.repository v directory with
          | .ok entries => return .json 200 (report entries)
          | .error e => return .error 500 e.message

/-- The routes of the server. -/
def routes (s : JavaServer) (v : Volume) : Web.Routes Script where
  home := "Flask server is running and ready to accept requests!"
  place := "/generate-docs"
  post := s.generateDocs v

end JavaServer

end Scribe
