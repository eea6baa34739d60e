import Scribe.Files.Volume
import Scribe.Json.Value

/-!
# Values that name places

Callers name a place on a disk by a value: a text is a path, and a number is that of an open file.
Other values name no place. What is said about them depends on what was to be done there.
-/

namespace Scribe

/-- Why a value names no place at which something can be done. -/
inductive PlaceError where
  /-- Values of this kind are no paths. -/
  | notAPath (kind : String)
  /-- Values of this kind are neither paths nor numbers of open files. -/
  | notAPlace (kind : String)
  /-- The number is past those that open files can have. -/
  | numberTooLarge
  | numberTooSmall
  /-- Open files have no negative numbers. -/
  | negativeNumber
  /-- No open file has the number. -/
  | notOpen
  | file (e : FileError)
  deriving DecidableEq, Repr

def PlaceError.message : PlaceError → String
  | notAPath kind => "expected str, bytes or os.PathLike object, not " ++ kind
  | notAPlace kind => "stat: path should be string, bytes, os.PathLike or integer, not " ++ kind
  | numberTooLarge => "fd is greater than maximum"
  | numberTooSmall => "fd is less than minimum"
  | negativeNumber => "negative file descriptor"
  | notOpen => "[Errno 9] Bad file descriptor"
  | file e => e.message

/-- A place on a disk. -/
inductive Place where
  | path (t : Text)
  /-- An open file by its number, which cannot be walked. -/
  | openFile (number : Int)
  deriving DecidableEq, Repr

/-- The largest number of an open file. -/
def maxFileNumber : Int := 2147483647

/-- How many files are open at all times, numbered from zero. -/
def openFiles : Int := 3

/-- The path that a value is. -/
def Json.asPath : Json → Except PlaceError Text
  | .str t => .ok t
  | v => .error (.notAPath v.kind)

namespace Volume

/-- The place that a value names, if there is anything at it. -/
def locate (v : Volume) (value : Json) : Except PlaceError (Option Place) :=
  match value with
  | .str t => .ok (if v.holds t then some (.path t) else none)
  | _ =>
    match value.integer? with
    | none => .error (.notAPlace value.kind)
    | some n =>
      if maxFileNumber < n then .error .numberTooLarge
      else if n < -maxFileNumber - 1 then .error .numberTooSmall
      else .ok (if 0 ≤ n ∧ n < openFiles then some (.openFile n) else none)

/-- The content of the file that a value names. Open files cannot be read again. -/
def readAt (v : Volume) (value : Json) : Except PlaceError Bytes :=
  match value.asPath with
  | .ok path => (v.read path).mapError .file
  | .error e =>
    match value.integer? with
    | none => .error e
    | some n =>
      if maxFileNumber < n ∨ n < -maxFileNumber - 1 then .error e
      else if n < 0 then .error .negativeNumber
      else .error .notOpen

end Volume

end Scribe
