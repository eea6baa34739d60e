import Scribe.Path
import Scribe.Sort
import Scribe.Text.Encode

/-!
# Files and folders

The content of a disk as a tree. A folder has children by name, in the order in which it lists them;
a link holds the path it stands for, which may lead anywhere or nowhere. What is locked can be seen
but not opened. A disk keeps names as bytes. Here a name is the text that these bytes are read as.
-/

namespace Scribe

/-- Something on a disk. -/
inductive Entry where
  | file (content : Bytes)
  | link (target : Text)
  | folder (children : List (Text × Entry))
  /-- A file or folder that may not be opened. -/
  | locked (isFolder : Bool)

/-- The named entries of a folder. -/
abbrev Children := List (Text × Entry)

namespace Children

/-- The entry with a given name. -/
def get? (name : Text) (cs : Children) : Option Entry :=
  (cs.find? (·.1 = name)).map (·.2)

/-- Gives a name that is there another entry. -/
def replace (name : Text) (e : Entry) (cs : Children) : Children :=
  cs.map fun c => if c.1 = name then (name, e) else c

/-- Gives a name an entry. A new name is listed before the first greater one. -/
def set (name : Text) (e : Entry) (cs : Children) : Children :=
  match get? name cs with
  | some _ => replace name e cs
  | none => insertByName (·.1) (name, e) cs

/-- Takes a name away. -/
def erase (name : Text) (cs : Children) : Children :=
  cs.filter (·.1 ≠ name)

end Children

end Scribe
