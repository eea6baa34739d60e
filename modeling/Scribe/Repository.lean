import Scribe.Files.Place
import Scribe.Files.Walk
import Scribe.Language.Extension
import Scribe.Source.Extraction
import Scribe.Source.Handler

/-!
# Methods of files and directories

`Workspace.fileMethods` extracts the methods of one file. `Workspace.repositoryMethods` does so for
every file of one language below a directory; a file that cannot be processed has its error in the
place of its methods.
-/

namespace Scribe

/-- The files to work on and the toolkit to parse them with. -/
structure Workspace where
  volume : Volume
  toolkit : Toolkit

/-- What one file gives. -/
structure FileEntry where
  path : Text
  /-- The methods of the file, or why there are none. -/
  outcome : Except Text (List Method)

/-- Why a directory has no result. -/
inductive RepositoryError where
  | notInstalled
  | notFound (directory : Text)
  | noParser (tag : String)
  deriving DecidableEq, Repr

def RepositoryError.message : RepositoryError → Text
  | notInstalled =>
    "tree-sitter is not installed. Please install with: "
      ++ "pip install tree-sitter tree-sitter-languages"
  | notFound directory => "Directory not found: " ++ directory
  | noParser tag => "No parser available for language: " ++ tag

/-- What breaks the search of a directory off. -/
inductive SearchError where
  /-- The value given as the directory is none. -/
  | place (e : PlaceError)
  /-- The value given as the language is none. -/
  | language (e : Json.AccessError)
  deriving DecidableEq, Repr

namespace Workspace

/-- The methods of the content of a file, whose path tells the language. -/
def contentMethods (w : Workspace) (path : Text) (content : Bytes) :
    Except ExtractError (List Method) :=
  extractMethods w.toolkit (.known (Language.ofPath path)) content

/-- The methods of a file that a value names, or why there are none. -/
def methodsAt (w : Workspace) (place : Json) : Except Text (List Method) :=
  let failed (cause : Text) : Except Text (List Method) :=
    .error ("Error processing file: " ++ cause)
  if !w.toolkit.installed then .error "tree-sitter is not installed"
  else match w.volume.readAt place with
    | .error e => failed e.message
    | .ok content => match w.contentMethods place.display content with
      | .error e => failed e.message
      | .ok found => .ok found

/-- The methods of a file, or why there are none. -/
def fileMethods (w : Workspace) (path : Text) : Except Text (List Method) :=
  w.methodsAt (.str path)

/-- The paths of the files of one language among some visits. -/
def selected (l : Language) (visits : List Visit) : List Text :=
  visits.flatMap fun visit =>
    (visit.files.filter (Language.ofPath · = l)).map (Path.join visit.directory)

/-- The entries of the files of one language among some visits. -/
def entries (w : Workspace) (l : Language) (visits : List Visit) : List FileEntry :=
  (selected l visits).map fun path => ⟨path, w.fileMethods path⟩

/-- The visits of a walk. A path that is no path has none. -/
def visits (w : Workspace) (directory : Text) : List Visit :=
  match w.volume.walk directory with
  | .ok vs => vs
  | .error _ => []

/-- The methods of all files of a language below a directory. -/
def languageMethods (w : Workspace) (directory : Text) (l : Language) :
    Work Registry (Except RepositoryError (List FileEntry)) := do
  if !w.toolkit.installed then return .error .notInstalled
  if !w.volume.holds directory then return .error (.notFound directory)
  let _ ← Registry.openHandler w.toolkit
  match (← Work.get).parsers.get? l with
  | none => return .error (.noParser l.tag)
  | some _ => return .ok (w.entries l (w.visits directory))

/-- The same for whatever a caller gave as a directory and a language. A value that is no language
has no parser, and not even the tag that the error would name. -/
def repositoryMethods (w : Workspace) (directory : Json) (choice : Language.Choice) :
    Work Registry (Except SearchError (Except RepositoryError (List FileEntry))) := do
  if !w.toolkit.installed then return .ok (.error .notInstalled)
  match w.volume.locate directory with
  | .error e => return .error (.place e)
  | .ok none => return .ok (.error (.notFound directory.display))
  | .ok (some place) =>
    match choice, place with
    | .known l, .path path => return .ok (← w.languageMethods path l)
    | .known l, .openFile _ => do
      let _ ← Registry.openHandler w.toolkit
      match (← Work.get).parsers.get? l with
      | none => return .ok (.error (.noParser l.tag))
      | some _ => return .error (.place (.notAPath directory.kind))
    | .other v, _ => do
      let _ ← Registry.openHandler w.toolkit
      match v.asKey with
      | .error e => return .error (.language e)
      | .ok _ => return .error (.language (.noOperation v.kind "value"))

end Workspace

end Scribe
