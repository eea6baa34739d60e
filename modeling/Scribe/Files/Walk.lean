import Scribe.Files.Volume

/-!
# Walking a directory

A walk visits a folder and then its subfolders, all in the order in which folders list them. A link
to a folder counts as a folder but is not entered; every other link counts as a file. A path that
leads to no folder has no visits, nor has a locked folder or one whose path is too long.
-/

namespace Scribe

/-- One folder of a walk: its path and the names of its files. -/
structure Visit where
  directory : Text
  files : List Text
  deriving DecidableEq, Repr

/-- Whether a child of a folder counts as a file. -/
def countsAsFile (top : Children) (place : Trail) : Text × Entry → Bool
  | (_, .file _) => true
  | (_, .folder _) => false
  | (_, .locked isFolder) => !isFolder
  | (name, .link _) =>
    match resolve top false maxLinks place [name] with
    | .ok (.folder _) => false
    | .ok (.locked _ _ isFolder _) => !isFolder
    | _ => true

/-- The names of the files of a folder, in order. -/
def filesOf (top : Children) (place : Trail) : List Text :=
  (place.here.filter (countsAsFile top place)).map (·.1)

mutual

/-- The visits of a folder at `path`, the folders above being `above`. Files have none. -/
def walkEntry (top : Children) (above : List (Text × Children)) (path : Text) :
    Entry → List Visit
  | .file _ => []
  | .link _ => []
  | .locked _ => []
  | .folder children =>
    if maxPathSize ≤ diskSize path then []
    else
      ⟨path, filesOf top ⟨children, above⟩⟩ :: walkChildren top children above path children

/-- The visits of some children of the folder `here`. -/
def walkChildren (top here : Children) (above : List (Text × Children)) (path : Text) :
    List (Text × Entry) → List Visit
  | [] => []
  | (name, e) :: rest =>
    walkEntry top ((name, here) :: above) (Path.join path name) e
      ++ walkChildren top here above path rest

end

/-- The visits of a walk that starts at a path. -/
def Volume.walk (v : Volume) (path : Text) : Except FileError (List Visit) :=
  match v.find path with
  | .ok (.folder place) => .ok (walkEntry v.top place.above path (.folder place.here))
  | .ok _ => .ok []
  | .error (.lookup _ _) => .ok []
  | .error e => .error e

/-- The paths of all files of a walk, in order. -/
def Visit.paths (visit : Visit) : List Text :=
  visit.files.map (Path.join visit.directory)

end Scribe
