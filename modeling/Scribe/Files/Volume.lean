import Scribe.Files.Entry
import Scribe.Text.Quoted

/-!
# Looking up files

A volume is a disk seen from a working directory. A path is followed name by name; links on the
way are followed too, up to a fixed number. `Volume.read` gives the content of a file, or the
reason why there is none.
-/

namespace Scribe

/-- Why a path does not lead where it should. -/
inductive LookupError where
  | missing
  | alreadyThere
  | notAFolder
  | isAFolder
  | denied
  | tooLong
  | tooManyLinks
  deriving DecidableEq, Repr

/-- The number and text of an error as operating systems give it. -/
def LookupError.text : LookupError → Nat × String
  | missing => (2, "No such file or directory")
  | denied => (13, "Permission denied")
  | alreadyThere => (17, "File exists")
  | notAFolder => (20, "Not a directory")
  | isAFolder => (21, "Is a directory")
  | tooLong => (36, "File name too long")
  | tooManyLinks => (40, "Too many levels of symbolic links")

def LookupError.message (cause : LookupError) : String :=
  "[Errno " ++ toString cause.text.1 ++ "] " ++ cause.text.2

/-- Why a file is not read or changed. -/
inductive FileError where
  /-- The path is no path, since it holds a NUL character. -/
  | nul
  /-- The path stands for no bytes. -/
  | unwritable (e : Utf8.LoneHalves)
  | lookup (path : Text) (cause : LookupError)
  /-- A link cannot be made. -/
  | link (target path : Text) (cause : LookupError)
  deriving DecidableEq, Repr

def FileError.message : FileError → String
  | nul => "embedded null byte"
  | unwritable e => e.message
  | lookup path cause => cause.message ++ ": " ++ Text.quoted path
  | link target path cause =>
    cause.message ++ ": " ++ Text.quoted target ++ " -> " ++ Text.quoted path

/-- A folder together with the folders above it, nearest first. Each folder above comes with the
name that leads down from it. -/
structure Trail where
  here : Children
  above : List (Text × Children)

namespace Trail

/-- The folder above, which for the topmost folder is itself. -/
def up : Trail → Trail
  | ⟨_, (_, parent) :: above⟩ => ⟨parent, above⟩
  | ⟨here, []⟩ => ⟨here, []⟩

/-- The topmost folder when the folder of the trail has the entries `here`. -/
def rebuild (place : Trail) (here : Children) : Children :=
  place.above.foldl (fun lower f => Children.set f.1 (.folder lower) f.2) here

end Trail

/-- Where following the names of a path ends, with the names that are left to follow. -/
inductive Arrival where
  | folder (place : Trail)
  | file (place : Trail) (name : Text) (content : Bytes) (rest : List Text)
  | locked (place : Trail) (name : Text) (isFolder : Bool) (rest : List Text)
  | link (target : Text) (place : Trail) (rest : List Text)
  /-- At a name that the folder does not have. -/
  | absent (place : Trail) (name : Text) (rest : List Text)

/-- The largest size of a name in bytes. -/
def maxNameSize : Nat := 255

/-- The size in bytes from which on a path is too long. -/
def maxPathSize : Nat := 4096

/-- The largest number of links followed for one path. -/
def maxLinks : Nat := 40

/-- The size in bytes of a name or path on a disk, where each half of a pair stands for a byte. -/
def diskSize (name : Text) : Nat :=
  name.symbols.foldl (fun n s => n + (s.char?.map Char.utf8Size).getD 1) 0

/-- Follows names up to the first link. -/
def Trail.follow (place : Trail) : List Text → Arrival
  | [] => .folder place
  | name :: rest =>
    if name.isEmpty || name = "." then place.follow rest
    else if name = ".." then place.up.follow rest
    else match Children.get? name place.here with
      | some (.folder sub) => Trail.follow ⟨sub, (name, place.here) :: place.above⟩ rest
      | some (.file content) => .file place name content rest
      | some (.locked isFolder) => .locked place name isFolder rest
      | some (.link target) => .link target place rest
      | none => .absent place name rest

/-- What a path leads to in the end. A name may be followed by a slash. -/
inductive Target where
  | folder (place : Trail)
  | file (place : Trail) (name : Text) (content : Bytes) (slash : Bool)
  | locked (place : Trail) (name : Text) (isFolder slash : Bool)
  /-- A name that its folder does not have. -/
  | absent (place : Trail) (name : Text) (slash : Bool)

/-- The error of a name that is not there. -/
def absence (name : Text) : LookupError :=
  if maxNameSize < diskSize name then .tooLong else .missing

/-- The error of going on from something locked. -/
def lockedError (isFolder : Bool) : LookupError :=
  if isFolder then .denied else .notAFolder

/-- Follows names and at most `links` links on a disk with the given top. When something is to be
made at the end, a last link with a slash after it is refused like a folder. -/
def resolve (top : Children) (making : Bool) :
    (links : Nat) → Trail → List Text → Except LookupError Target
  | links, place, names =>
    match place.follow names with
    | .folder place => .ok (.folder place)
    | .file place name content rest =>
      if rest.all Text.isEmpty then .ok (.file place name content (!rest.isEmpty))
      else .error .notAFolder
    | .locked place name isFolder rest =>
      if rest.all Text.isEmpty then .ok (.locked place name isFolder (!rest.isEmpty))
      else .error (lockedError isFolder)
    | .absent place name rest =>
      if rest.all Text.isEmpty then .ok (.absent place name (!rest.isEmpty))
      else .error (absence name)
    | .link target place rest =>
      if making && !rest.isEmpty && rest.all Text.isEmpty then .error .isAFolder
      else match links with
        | 0 => .error .tooManyLinks
        | links + 1 =>
          let start := if Path.isAbsolute target then ⟨top, []⟩ else place
          resolve top making links start (Path.pieces target ++ rest)

/-- A disk and the path of the working directory on it. -/
structure Volume where
  top : Children
  workingDirectory : Text

namespace Volume

/-- A path as it is on a disk. -/
def diskPath (path : Text) : Except FileError Text :=
  match Utf8.kept path with
  | .error e => .error (.unwritable e)
  | .ok kept => if Path.hasNul kept then .error .nul else .ok kept

/-- The names that lead from the top to a path on the disk. -/
def namesFromTop (v : Volume) (path : Text) : List Text :=
  if Path.isAbsolute path then Path.pieces path
  else Path.pieces v.workingDirectory ++ Path.pieces path

/-- Follows some names from the top. -/
def resolveNames (v : Volume) (names : List Text) : Except LookupError Target :=
  resolve v.top false maxLinks ⟨v.top, []⟩ names

/-- Whether a path on the disk is one that can be followed. -/
def pathError? (path : Text) : Option LookupError :=
  if path.isEmpty then some .missing
  else if maxPathSize ≤ diskSize path then some .tooLong
  else none

/-- What a path on the disk leads to. -/
def resolvePath (v : Volume) (path : Text) : Except LookupError Target :=
  match pathError? path with
  | some cause => .error cause
  | none => v.resolveNames (v.namesFromTop path)

/-- What a path leads to. -/
def find (v : Volume) (path : Text) : Except FileError Target := do
  let disk ← diskPath path
  (v.resolvePath disk).mapError (.lookup path)

/-- Whether a path leads anywhere. -/
def holds (v : Volume) (path : Text) : Bool :=
  match v.find path with
  | .ok (.folder _) => true
  | .ok (.file _ _ _ slash) => !slash
  | .ok (.locked _ _ isFolder slash) => isFolder || !slash
  | _ => false

/-- Whether a path leads to a folder. -/
def holdsFolder (v : Volume) (path : Text) : Bool :=
  match v.find path with
  | .ok (.folder _) => true
  | .ok (.locked _ _ isFolder _) => isFolder
  | _ => false

/-- The content of the file at a path. -/
def read (v : Volume) (path : Text) : Except FileError Bytes := do
  match ← v.find path with
  | .file _ _ content false => return content
  | .file _ _ _ true => throw (.lookup path .notAFolder)
  | .locked _ _ isFolder slash =>
    throw (.lookup path (if slash then lockedError isFolder else .denied))
  | .folder _ => throw (.lookup path .isAFolder)
  | .absent _ name _ => throw (.lookup path (absence name))

end Volume

end Scribe
