import Scribe.Files.Volume
import Scribe.Work

/-!
# Changing files

Files, folders and links are made and taken away one at a time, each change either done or refused
for a reason. `Volume.save` first makes the folders on the way; those stay when it is refused
later on.
-/

namespace Scribe

/-- How a path ends. -/
inductive PathEnd where
  /-- With a name, which a slash may follow. -/
  | name (s : Text) (slash : Bool)
  /-- With a dot or two dots, or it is slashes only. -/
  | dots
  deriving DecidableEq, Repr

/-- Splits names into those of the folder and the last one. -/
def splitEnd (names : List Text) : List Text × PathEnd :=
  let kept := names.reverse.dropWhile Text.isEmpty
  match kept with
  | [] => ([], .dots)
  | last :: before =>
    (before.reverse,
      if last = "." || last = ".." then .dots else .name last (kept.length < names.length))

namespace Volume

/-- The folder that a path on the disk names something in, and how the path ends. The last name is
not looked up. -/
def folderOf (v : Volume) (path : Text) : Except LookupError (Trail × PathEnd) :=
  match pathError? path with
  | some cause => .error cause
  | none =>
    let (names, last) := splitEnd (v.namesFromTop path)
    match v.resolveNames names with
    | .ok (.folder place) => .ok (place, last)
    | .ok (.file _ _ _ _) => .error .notAFolder
    | .ok (.locked _ _ isFolder _) => .error (lockedError isFolder)
    | .ok (.absent _ name _) => .error (absence name)
    | .error cause => .error cause

/-- Gives a folder other entries. -/
def withHere (v : Volume) (place : Trail) (here : Children) : Volume :=
  { v with top := place.rebuild here }

/-- Makes something new at a path on the disk. A slash after its name needs `slashAllowed`. -/
def makeEntry (v : Volume) (path : Text) (slashAllowed : Bool) (e : Entry) :
    Except LookupError Volume := do
  match ← v.folderOf path with
  | (_, .dots) => .error .alreadyThere
  | (place, .name name slash) =>
    match Children.get? name place.here with
    | some _ => .error .alreadyThere
    | none =>
      if maxNameSize < diskSize name then .error .tooLong
      else if slash && !slashAllowed then .error .missing
      else .ok (v.withHere place (Children.set name e place.here))

/-- Makes an empty folder. -/
def makeFolder (v : Volume) (path : Text) : Except FileError Volume := do
  let disk ← diskPath path
  (v.makeEntry disk true (.folder [])).mapError (.lookup path)

/-- Makes a link. -/
def makeLink (v : Volume) (target path : Text) : Except FileError Volume := do
  let diskTarget ← diskPath target
  let disk ← diskPath path
  match pathError? diskTarget with
  | some cause => throw (.link target path cause)
  | none => (v.makeEntry disk false (.link diskTarget)).mapError (.link target path)

/-- What a path on the disk leads to when something is to be made there. -/
def findToMake (v : Volume) (path : Text) : Except LookupError Target :=
  match pathError? path with
  | some cause => .error cause
  | none => resolve v.top true maxLinks ⟨v.top, []⟩ (v.namesFromTop path)

/-- Gives a file its content, making the file if need be. Links are followed. -/
def writeFile (v : Volume) (path : Text) (content : Bytes) : Except FileError Volume := do
  let put (place : Trail) (name : Text) : Volume :=
    v.withHere place (Children.set name (.file content) place.here)
  let failed (cause : LookupError) : Except FileError Volume := .error (.lookup path cause)
  match v.findToMake (← diskPath path) with
  | .error cause => failed cause
  | .ok (.folder _) => failed .isAFolder
  | .ok (.file place name _ slash) =>
    if slash then failed .isAFolder else .ok (put place name)
  | .ok (.locked _ _ isFolder slash) =>
    failed (if isFolder || slash then .isAFolder else .denied)
  | .ok (.absent place name slash) =>
    if slash then failed .isAFolder
    else if maxNameSize < diskSize name then failed .tooLong
    else .ok (put place name)

/-- Takes a file or link away. A link at the end of the path is not followed. -/
def remove (v : Volume) (path : Text) : Except FileError Volume := do
  let failed (cause : LookupError) : Except FileError Volume := .error (.lookup path cause)
  match v.folderOf (← diskPath path) with
  | .error cause => failed cause
  | .ok (_, .dots) => failed .isAFolder
  | .ok (place, .name name slash) =>
    match Children.get? name place.here with
    | none => failed (absence name)
    | some (.folder _) => failed .isAFolder
    | some (.locked true) => failed .isAFolder
    | some _ =>
      if slash then failed .notAFolder
      else .ok (v.withHere place (Children.erase name place.here))

/-- Does a change, unless it is refused. -/
def apply (change : Volume → Except FileError Volume) : Work Volume (Except FileError Unit) :=
  fun v => match change v with
    | .ok changed => ⟨.ok (), changed, []⟩
    | .error e => ⟨.error e, v, []⟩

/-- The refusal of something new because there is something already. -/
def isAlreadyThere : Except FileError Unit → Bool
  | .error (.lookup _ .alreadyThere) => true
  | _ => false

/-- Makes a folder unless there is one. -/
def ensureFolder (path : Text) : Work Volume (Except FileError Unit) := do
  match ← apply (·.makeFolder path) with
  | .error (.lookup path' cause) =>
    if (← Work.get).holdsFolder path then return .ok ()
    else return .error (.lookup path' cause)
  | outcome => return outcome

/-- Makes a folder and those above it, unless they are there. The fuel bounds their number. -/
def ensureFoldersWithin : (fuel : Nat) → (path : Text) → Work Volume (Except FileError Unit)
  | 0, _ => pure (.ok ())
  | fuel + 1, path => do
    let (head, tail) := Path.splitName path
    if head.isEmpty || tail.isEmpty || (← Work.get).holds head then ensureFolder path
    else
      let outcome ← ensureFoldersWithin fuel head
      if !outcome.isOk && !isAlreadyThere outcome then return outcome
      else if tail = "." then return .ok ()
      else ensureFolder path

/-- Makes a folder and those above it, unless they are there. -/
def ensureFolders (path : Text) : Work Volume (Except FileError Unit) :=
  ensureFoldersWithin (path.symbols.length + 1) path

/-- What can be put on a disk. -/
inductive Item where
  | file (content : Bytes)
  | link (target : Text)
  | folder

/-- Makes a change once the folder of a path is there. -/
def inFolder (path : Text) (change : Volume → Except FileError Volume) :
    Work Volume (Except FileError Unit) := do
  match ← ensureFolders (Path.directory path) with
  | .error e => return .error e
  | .ok () => apply change

/-- Puts something at a path, making the folders on the way. -/
def save (path : Text) : Item → Work Volume (Except FileError Unit)
  | .file content => inFolder path (·.writeFile path content)
  | .link target => inFolder path (·.makeLink target path)
  | .folder => ensureFolders path

/-- A disk with nothing but the working directory. -/
def blank (workingDirectory : Text) : Volume :=
  ((ensureFolders workingDirectory).run ⟨[], workingDirectory⟩).state

end Volume

end Scribe
