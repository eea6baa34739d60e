import Scribe.Text.Basic

/-!
# File paths

Paths are texts with components divided by slashes. `Path.suffix` is the part of the last
component from its last dot on, if that dot is neither its first nor its last symbol.
-/

namespace Scribe.Path

/-- The pieces between separators, at least one. -/
def splitOn {α : Type} [DecidableEq α] (sep : α) : List α → List (List α)
  | [] => [[]]
  | c :: rest =>
    if c = sep then [] :: splitOn sep rest
    else match splitOn sep rest with
      | [] => [[c]]
      | piece :: pieces => (c :: piece) :: pieces

def slash : Symbol := .char '/'

def dot : Symbol := .char '.'

/-- The pieces of a path between slashes. -/
def pieces (path : Text) : List Text := (splitOn slash path.symbols).map Text.mk

/-- The components of a path that name something: no empty ones and no single dots. -/
def components (path : Text) : List Text :=
  (pieces path).filter fun p => !p.isEmpty && p != "."

/-- The last component, empty if there is none. -/
def baseName (path : Text) : Text :=
  (components path).getLastD ""

/-- The part of a file name from its last dot on, unless that dot is its first or last symbol. -/
def nameSuffix (name : Text) : Text :=
  let tail := (name.symbols.reverse.takeWhile (· ≠ dot)).reverse
  let upToDot := name.symbols.length - tail.length
  if 1 < upToDot && !tail.isEmpty then ⟨dot :: tail⟩ else ""

/-- The suffix of the last component of a path. -/
def suffix (path : Text) : Text :=
  nameSuffix (baseName path)

def isAbsolute (path : Text) : Bool :=
  path.symbols.head? == some slash

/-- A name inside a directory. A name that is a path from the root stands alone. -/
def join (directory name : Text) : Text :=
  if isAbsolute name then name
  else if directory.isEmpty || directory.symbols.getLast? = some slash then directory ++ name
  else directory ++ (⟨slash :: name.symbols⟩ : Text)

/-- The part of a path before its last slash, without trailing slashes unless it is all slashes. -/
def directory (path : Text) : Text :=
  let head := (path.symbols.reverse.dropWhile (· ≠ slash)).reverse
  if head.all (· = slash) then ⟨head⟩
  else ⟨(head.reverse.dropWhile (· = slash)).reverse⟩

/-- The part of a path before its last slash, and the part after it. -/
def split (path : Text) : Text × Text :=
  (directory path, ⟨(path.symbols.reverse.takeWhile (· ≠ slash)).reverse⟩)

/-- Splits a path before its last name, slashes after that name set aside. -/
def splitName (path : Text) : Text × Text :=
  let (head, tail) := split path
  if tail.isEmpty then split head else (head, tail)

/-- Takes away empty components, single dots, and double dots with the component before them.
Components kept so far are in `kept`, last first. -/
def collapse (rooted : Bool) (kept : List Text) : List Text → List Text
  | [] => kept.reverse
  | p :: rest =>
    if p.isEmpty || p = "." then collapse rooted kept rest
    else if p = ".." then
      match kept with
      | [] => collapse rooted (if rooted then [] else [p]) rest
      | k :: older =>
        if k = ".." then collapse rooted (p :: kept) rest
        else collapse rooted older rest
    else collapse rooted (p :: kept) rest

/-- The leading slashes of a path in normal form: none, two if there are exactly two, else one. -/
def rootSlashes (path : Text) : Text :=
  match (path.symbols.takeWhile (· = slash)).length with
  | 0 => ""
  | 2 => "//"
  | _ => "/"

/-- The shortest way to write a path, links set aside. -/
def normalize (path : Text) : Text :=
  let root := rootSlashes path
  let body := Text.intercalate "/" (collapse (!root.isEmpty) [] (pieces path))
  if root.isEmpty && body.isEmpty then "." else root ++ body

/-- A path from the root, in normal form, for a path seen from the directory `here`. -/
def absolute (here path : Text) : Text := normalize (join here path)

/-- No path of a file can hold this character. -/
def hasNul (path : Text) : Bool :=
  path.symbols.contains (.char (Char.ofNat 0))

end Scribe.Path
