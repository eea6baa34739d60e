import Scribe.Text.Basic
import Scribe.Text.Utf8

/-!
# Units of two and four bytes

UTF-16 writes a text in units of two bytes, where two halves of a pair that follow each other make
one character. UTF-32 writes each symbol in a unit of four bytes. A half of a pair that stands
alone is kept as it is.
-/

namespace Scribe.Text

/-- Whether a unit is the first half of a pair. -/
def isHighUnit (n : Nat) : Bool := 0xd800 ≤ n && n < 0xdc00

/-- Whether a unit is the second half of a pair. -/
def isLowUnit (n : Nat) : Bool := 0xdc00 ≤ n && n < 0xe000

/-- The character of a pair. -/
def pairChar (high low : Nat) : Char :=
  Char.ofNat (0x10000 + (high - 0xd800) * 0x400 + (low - 0xdc00))

/-- The order of the bytes of a unit. -/
inductive ByteOrder where
  | bigEndian
  | littleEndian
  deriving DecidableEq, Repr

/-- The number that some bytes stand for. -/
def ByteOrder.number (order : ByteOrder) (bytes : Bytes) : Nat :=
  let ordered := match order with
    | bigEndian => bytes
    | littleEndian => bytes.reverse
  ordered.foldl (fun n b => n * 0x100 + b.toNat) 0

/-- The units of two bytes. No byte may be left over. -/
def units16 (order : ByteOrder) : Bytes → Option (List Nat)
  | [] => some []
  | a :: b :: rest => (order.number [a, b] :: ·) <$> units16 order rest
  | _ => none

/-- The units of four bytes. No byte may be left over. -/
def units32 (order : ByteOrder) : Bytes → Option (List Nat)
  | [] => some []
  | a :: b :: c :: d :: rest => (order.number [a, b, c, d] :: ·) <$> units32 order rest
  | _ => none

/-- A piece of a text that is being read. -/
inductive Piece where
  /-- A symbol that stands for itself. -/
  | symbol (s : Symbol)
  /-- A UTF-16 unit, which may be half of a pair. -/
  | unit (n : Nat)

/-- The symbols of some pieces. Two halves of a pair that follow each other make one character;
`high` is a first half that may be waiting for its second half. -/
def joinPieces : (high : Option Nat) → List Piece → List Symbol
  | none, [] => []
  | some h, [] => [.ofCode h]
  | none, .symbol s :: rest => s :: joinPieces none rest
  | some h, .symbol s :: rest => .ofCode h :: s :: joinPieces none rest
  | none, .unit n :: rest =>
    if isHighUnit n then joinPieces (some n) rest else .ofCode n :: joinPieces none rest
  | some h, .unit n :: rest =>
    if isLowUnit n then .char (pairChar h n) :: joinPieces none rest
    else if isHighUnit n then .ofCode h :: joinPieces (some n) rest
    else .ofCode h :: .ofCode n :: joinPieces none rest

/-- The text that bytes encode in UTF-16. -/
def ofUtf16 (order : ByteOrder) (bytes : Bytes) : Option Text :=
  (units16 order bytes).map fun units => ⟨joinPieces none (units.map .unit)⟩

/-- The text that bytes encode in UTF-32, where no unit is past the last code point. -/
def ofUtf32 (order : ByteOrder) (bytes : Bytes) : Option Text := do
  let units ← units32 order bytes
  if units.all (· < 0x110000) then some ⟨units.map Symbol.ofCode⟩ else none

end Scribe.Text
