import Scribe.Generator.Documentation
import Scribe.Repository
import Scribe.Web.Routes

/-!
# The documentation service

The service documents the methods of every file below a directory. For each file with a known
language it goes through all files of that language in and below the directory of the file, and
documents their methods one at a time.
-/

namespace Scribe

/-- What changes while the service works. -/
structure ServiceState extends Registry where
  script : Script

/-- Documentation of one method. -/
structure MethodReport where
  name : String
  documentation : Text
  deriving DecidableEq, Repr

/-- Documentation of one file. -/
structure FileReport where
  path : Text
  language : Language
  methods : List MethodReport
  deriving DecidableEq, Repr

/-- How many methods were documented, and how many were not. -/
structure Stats where
  processed : Nat
  failed : Nat
  deriving DecidableEq, Repr

/-- Documentation of a directory. -/
structure Report where
  files : List FileReport
  stats : Stats
  deriving DecidableEq, Repr

namespace Stats

def none : Stats := ⟨0, 0⟩

protected def add (a b : Stats) : Stats := ⟨a.processed + b.processed, a.failed + b.failed⟩

instance : Add Stats := ⟨Stats.add⟩

end Stats

namespace MethodReport

def toJson (m : MethodReport) : Json :=
  .obj [("name", .str m.name), ("documentation", .str m.documentation)]

end MethodReport

namespace FileReport

def toJson (f : FileReport) : Json :=
  .obj
    [("file_path", .str f.path), ("language", .str f.language.tag),
     ("methods", .arr (f.methods.map MethodReport.toJson))]

end FileReport

namespace Report

def empty : Report := ⟨[], Stats.none⟩

/-- One report after another. -/
protected def append (a b : Report) : Report := ⟨a.files ++ b.files, a.stats + b.stats⟩

instance : Append Report := ⟨Report.append⟩

def toJson (r : Report) : Json :=
  .obj
    [("files", .arr (r.files.map FileReport.toJson)),
     ("stats", .obj
       [("processed", .int r.stats.processed), ("failed", .int r.stats.failed)])]

end Report

/-- What the documentation of one method adds to a report: the text under the method's own name.
A missing text, or one that tells an error, counts as failed. -/
def methodReport (name : String) (d : Documentation) : List MethodReport × Stats :=
  if d.isEmpty then ([], Stats.none)
  else
    let text : Text := (d.get? (.str name)).getD ""
    let failed := text.isEmpty || text.startsWith "Error:"
    ([⟨name, if text.isEmpty then "Failed to generate documentation" else text⟩],
      if failed then ⟨0, 1⟩ else ⟨1, 0⟩)

/-- The service: the files it sees, the toolkit, and its client. -/
structure Service where
  workspace : Workspace
  client : Client

namespace Service

def onRegistry {α : Type} (w : Work Registry α) : Work ServiceState α :=
  w.on (·.toRegistry) fun registry s => { s with toRegistry := registry }

def onScript {α : Type} (w : Work Script α) : Work ServiceState α :=
  w.on (·.script) fun script s => { s with script := script }

/-- Documents methods one at a time. -/
def methodReports (client : Client) (l : Language) :
    List Method → Work Script (List MethodReport × Stats)
  | [] => pure ([], Stats.none)
  | m :: rest => do
    let d ← client.documentSubjects (.str l.tag) [.ok (Prompt.Subject.ofMethod m)]
    let (first, stats) := methodReport m.name d
    let (more, moreStats) ← methodReports client l rest
    return (first ++ more, stats + moreStats)

/-- Documents the methods of one file. A file without methods has an empty report. -/
def fileReport (client : Client) (l : Language) (e : FileEntry) : Work Script Report := do
  let (methods, stats) ← methodReports client l
    (match e.outcome with
      | .ok found => found
      | .error _ => [])
  return ⟨[⟨e.path, l, methods⟩], stats⟩

/-- Documents the methods of some files. -/
def fileReports (client : Client) (l : Language) : List FileEntry → Work Script Report
  | [] => pure .empty
  | e :: rest => do
    let first ← fileReport client l e
    let more ← fileReports client l rest
    return first ++ more

/-- Documents all files of a language in and below a directory. Without a parser there are none. -/
def languageReport (s : Service) (directory : Text) (l : Language) :
    Work ServiceState Report := do
  match ← onRegistry (s.workspace.languageMethods directory l) with
  | .error _ => return .empty
  | .ok entries => onScript (fileReports s.client l entries)

/-- What a file of the walk sets off: the report of its language in its directory. -/
def reportFor (s : Service) (visit : Visit) (name : Text) : Work ServiceState Report :=
  let l := Language.ofPath name
  if l = .unknown then pure .empty
  else s.languageReport (Path.directory (Path.join visit.directory name)) l

/-- The reports that some files of one visit set off. -/
def visitReport (s : Service) (visit : Visit) : List Text → Work ServiceState Report
  | [] => pure .empty
  | name :: rest => do
    let first ← s.reportFor visit name
    let more ← s.visitReport visit rest
    return first ++ more

/-- The reports that all files of some visits set off. -/
def walkReport (s : Service) : List Visit → Work ServiceState Report
  | [] => pure .empty
  | visit :: rest => do
    let first ← s.visitReport visit visit.files
    let more ← s.walkReport rest
    return first ++ more

def invalidDirectory : Web.Answer := .error 400 "Invalid or non-existent directory path"

@[simp]
theorem status_invalidDirectory : invalidDirectory.status = 400 := rfl

/-- Answers a request for the documentation of a directory. -/
def process (s : Service) (r : Web.Request) : Work ServiceState Web.Answer :=
  let failed (message : String) : Work ServiceState Web.Answer := pure (.error 500 message)
  match r.value with
  | .error e => failed e.message
  | .ok data =>
    if !data.isTruthy then pure (.error 400 "No JSON data provided")
    else match data.fieldD "directory" .null with
      | .error e => failed e.message
      | .ok (.str given) => do
        let volume := s.workspace.volume
        let directory := Path.absolute volume.workingDirectory given
        match ← s.client.machine.console.print ("Processing directory: " ++ directory) with
        | .error message => return .error 500 message
        | .ok () =>
          if !volume.holds directory then return invalidDirectory
          else match volume.walk directory with
            | .error e => return .error 500 e.message
            | .ok visits => return .json 200 (← s.walkReport visits).toJson
      | .ok other => failed (PlaceError.notAPath other.kind).message

/-- The routes of the service. -/
def routes (s : Service) : Web.Routes ServiceState where
  home := "Documentation Generator API is running!"
  place := "/process"
  post := s.process

end Service

end Scribe
