import Scribe.Path
import Scribe.Text.Hex
import Scribe.Text.Plain
import Scribe.Text.Punycode
import Scribe.Text.Quoted
import Scribe.Web.Direction

/-!
# Names of hosts

A host is named by labels divided by dots, or by a number in brackets. Labels are written in ASCII.
-/

namespace Scribe.Web

/-- What is wrong with the labels of a name. -/
inductive LabelError where
  | emptyOrTooLong
  | tooLong
  /-- A label that is not ASCII starts like one that has been written in ASCII. -/
  | alreadyWritten
  /-- A label holds a symbol that no label may hold. -/
  | banned (s : Symbol)
  /-- A label has letters of both directions of writing. -/
  | mixedDirections
  /-- A label with letters from right to left has none at one of its ends. -/
  | endDirection
  deriving DecidableEq, Repr

def LabelError.message : LabelError → String
  | emptyOrTooLong => "label empty or too long"
  | tooLong => "label too long"
  | alreadyWritten => "Label starts with ACE prefix"
  | banned s => "Invalid character " ++ Text.quoted ⟨[s]⟩
  | mixedDirections => "Violation of BIDI requirement 2"
  | endDirection => "Violation of BIDI requirement 3"

def inRanges (ranges : List (Nat × Nat)) (n : Nat) : Bool :=
  ranges.any fun r => r.1 ≤ n && n ≤ r.2

/-- The largest size of a label. -/
def maxLabelSize : Nat := 63

def isAscii (cs : List Char) : Bool := cs.all (·.toNat < 0x80)

/-- Whether a label has a size that labels may have. -/
def isLabelSize (label : List Char) : Bool := 0 < label.length && label.length ≤ maxLabelSize

/-- What starts a label that is written in ASCII but stands for others. -/
def asciiMark : List Char := "xn--".toList

/-- Code points that no label holds: blanks, controls, private ones and those that stand for no
character. -/
def bannedRanges : List (Nat × Nat) :=
  [(0x80, 0xa0), (0x340, 0x341), (0x6dd, 0x6dd), (0x70f, 0x70f), (0x1680, 0x1680),
   (0x180e, 0x180e), (0x2000, 0x200f), (0x2028, 0x202f), (0x205f, 0x2063), (0x206a, 0x206f),
   (0x2ff0, 0x2ffb), (0x3000, 0x3000), (0xd800, 0xf8ff), (0xfdd0, 0xfdef), (0xfeff, 0xfeff),
   (0xfff9, 0xffff), (0x1d173, 0x1d17a), (0xe0001, 0xe0001), (0xe0020, 0xe007f),
   (0xf0000, 0x10ffff)]

/-- Whether no label holds a code point. -/
def isBanned (n : Nat) : Bool :=
  (0x10000 ≤ n && 0xfffe ≤ n % 0x10000) || inRanges bannedRanges n

/-- Checks that a label with right-to-left letters has no others and has one at either end. -/
def checkDirection (label : List Char) : Except LabelError Unit :=
  let isLeftward (c : Char) : Bool := inRanges rightToLeftRanges c.toNat
  let isRightward (c : Char) : Bool := inRanges leftToRightRanges c.toNat
  let atEnd (c : Option Char) : Bool := (c.map isLeftward).getD false
  if !label.any isLeftward then .ok ()
  else if label.any isRightward then .error .mixedDirections
  else if !atEnd label.head? || !atEnd label.getLast? then .error .endDirection
  else .ok ()

/-- The plain form of a label, which holds no code point that is banned. -/
def plainLabel (label : List Symbol) : Except LabelError (List Char) := do
  let plain := Text.plainCodes label
  match plain.find? isBanned with
  | some n => throw (.banned (.ofCode n))
  | none =>
    let cs := plain.map Char.ofNat
    checkDirection cs
    return cs

/-- A label in ASCII. -/
def asciiLabel (label : List Symbol) : Except LabelError (List Char) := do
  let checked (written : List Char) : Except LabelError (List Char) :=
    if isLabelSize written then .ok written else .error .emptyOrTooLong
  if label.all (·.satisfies (·.toNat < 0x80)) then checked (label.map Symbol.toChar)
  else
    let plain ← plainLabel label
    if isAscii plain then checked plain
    else if asciiMark.isPrefixOf plain then throw .alreadyWritten
    else checked (asciiMark ++ Punycode.encode plain)

/-- Labels in ASCII with dots between them. -/
def asciiLabels : List (List Symbol) → Except LabelError (List (List Char))
  | [] => .ok []
  | label :: rest => do
    let first ← asciiLabel label
    let more ← asciiLabels rest
    return first :: more

/-- Dots in any script. -/
def isDot (c : Char) : Bool :=
  c = '.' || c.toNat = 0x3002 || c.toNat = 0xff0e || c.toNat = 0xff61

/-- The name of a host in ASCII. Only its last label may be empty. -/
def asciiHost (host : List Symbol) : Except LabelError (List Char) :=
  if host.all (·.satisfies (·.toNat < 0x80)) then
    let name := host.map Symbol.toChar
    let labels := Path.splitOn '.' name
    if !labels.dropLast.all isLabelSize then .error .emptyOrTooLong
    else if maxLabelSize < (labels.getLastD []).length then .error .tooLong
    else .ok name
  else do
    let dotted := host.map fun s => if s.satisfies isDot then Symbol.char '.' else s
    let labels := Path.splitOn (.char '.') dotted
    let full := if labels.getLastD [] = [] then labels.dropLast else labels
    let written ← asciiLabels full
    let dot := if full.length < labels.length then ['.'] else []
    return List.flatten (written.intersperse ['.']) ++ dot

/-- Characters whose plain form has a mark in it that divides the parts of an address. -/
def hidesDivider (c : Char) : Bool :=
  [0x2047, 0x2048, 0x2049, 0x2100, 0x2101, 0x2105, 0x2106, 0x2a74, 0xfe13, 0xfe16, 0xfe55, 0xfe56,
   0xfe5f, 0xfe6b, 0xff03, 0xff0f, 0xff1a, 0xff1f, 0xff20].contains c.toNat

/-- Whether a text is a number from 0 to 255, without leading zeros. -/
def isByteNumber (cs : List Char) : Bool :=
  !cs.isEmpty && cs.all Char.isDigit && cs.length ≤ 3 && (cs = ['0'] || cs.head? ≠ some '0')
    && cs.foldl (fun n c => n * 10 + (c.toNat - 0x30)) 0 ≤ 255

/-- Whether a text is an address of four bytes. -/
def isAddress4 (cs : List Char) : Bool :=
  let parts := Path.splitOn '.' cs
  parts.length = 4 && parts.all isByteNumber

/-- Whether a text is up to four hexadecimal digits. -/
def isHexGroup (cs : List Char) : Bool :=
  !cs.isEmpty && cs.length ≤ 4 && cs.all fun c => (Text.hexValue? c).isSome

/-- Whether some groups are the eight of an address, where one empty group may stand for a run of
zeros, at an end together with the empty group beyond it. -/
def isGroups (parts : List (List Char)) : Bool :=
  let inner := (parts.drop 1).dropLast
  if inner.any List.isEmpty then
    let before := parts.takeWhile (fun p => !p.isEmpty)
    let left := if before.isEmpty then parts.drop 2 else parts.drop (before.length + 1)
    let after := if left = [[]] then [] else left
    before.length + after.length ≤ 7 && before.all isHexGroup && after.all isHexGroup
  else parts.length = 8 && parts.all isHexGroup

/-- Whether a text is an address of sixteen bytes, which may name a zone. -/
def isAddress6 (cs : List Char) : Bool :=
  let number := cs.takeWhile (· ≠ '%')
  let zone := cs.dropWhile (· ≠ '%')
  let zoneOk := zone.isEmpty || (1 < zone.length && !(zone.drop 1).contains '%')
  let parts := Path.splitOn ':' number
  let last := parts.getLastD []
  let zero : List Char := ['0']
  zoneOk && 3 ≤ parts.length &&
    if last.contains '.' then isAddress4 last && isGroups (parts.dropLast ++ [zero, zero])
    else isGroups parts

/-- Whether a text is an address of a kind still to come: `v`, a hexadecimal number, a dot and
something more. -/
def isFutureAddress (cs : List Char) : Bool :=
  let digits := (cs.drop 1).takeWhile fun c => (Text.hexValue? c).isSome
  match (cs.drop 1).dropWhile fun c => (Text.hexValue? c).isSome with
  | '.' :: more => !digits.isEmpty && !more.isEmpty
  | _ => false

end Scribe.Web
