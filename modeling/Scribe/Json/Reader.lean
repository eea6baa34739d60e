import Scribe.Json.Limits
import Scribe.Text.Hex
import Scribe.Text.Units

/-!
# Reading values

`Json.read` reads a whole text as one value. Beyond the standard grammar it takes the words `NaN`,
`Infinity` and `-Infinity`. Of two fields of one name the later gives the value. Lists and objects
may stand inside each other up to a fixed depth. A refusal tells what was expected and where, in
lines, columns and symbols.
-/

namespace Scribe.Json

/-- What makes a text unreadable. -/
inductive Expectation where
  | value
  | fieldName
  | colon
  | comma
  | nothingMore
  | stringEnd
  | noControlCharacter
  | escape
  | unicodeEscape
  | noByteOrderMark
  deriving DecidableEq, Repr

def Expectation.message : Expectation → String
  | value => "Expecting value"
  | fieldName => "Expecting property name enclosed in double quotes"
  | colon => "Expecting ':' delimiter"
  | comma => "Expecting ',' delimiter"
  | nothingMore => "Extra data"
  | stringEnd => "Unterminated string starting at"
  | noControlCharacter => "Invalid control character at"
  | escape => "Invalid \\escape"
  | unicodeEscape => "Invalid \\uXXXX escape"
  | noByteOrderMark => "Unexpected UTF-8 BOM (decode using utf-8-sig)"

/-- What holds other values. -/
inductive Container where
  | list
  | object
  deriving DecidableEq, Repr

/-- The word for a container in messages. -/
def Container.word : Container → String
  | list => "array"
  | object => "object"

/-- Why a text is not read as a value. -/
inductive ReadError where
  /-- The text does not go on as it has to after `offset` symbols. -/
  | malformed (what : Expectation) (line column offset : Nat)
  /-- An integer has more digits than are read. -/
  | longInteger (digits : Nat)
  /-- A container stands inside too many others. -/
  | tooDeep (what : Container)
  deriving DecidableEq, Repr

def ReadError.message : ReadError → String
  | malformed what line column offset =>
    what.message ++ ": line " ++ toString line ++ " column " ++ toString column
      ++ " (char " ++ toString offset ++ ")"
  | longInteger digits =>
    "Exceeds the limit (" ++ toString maxIntegerDigits
      ++ " digits) for integer string conversion: value has " ++ toString digits
      ++ " digits; use sys.set_int_max_str_digits() to increase the limit"
  | tooDeep what =>
    "maximum recursion depth exceeded while decoding a JSON " ++ what.word
      ++ " from a unicode string"

/-- Whether the text is only past what is read, and not ill-formed. -/
def ReadError.isLimit : ReadError → Bool
  | malformed _ _ _ _ => false
  | _ => true

namespace Reader

/-- A refusal inside the text, which stands `left` symbols before its end. -/
inductive Stop where
  | expecting (what : Expectation) (left : Nat)
  | longInteger (digits : Nat)
  | tooDeep (what : Container)

/-- What was read, and the rest of the text. -/
abbrev Parsed (α : Type) := α × List Symbol

def stop {α : Type} (what : Expectation) (rest : List Symbol) : Except Stop α :=
  .error (.expecting what rest.length)

def isBlank (s : Symbol) : Bool :=
  s = .char ' ' || s = .char '\t' || s = .char '\n' || s = .char '\r'

def skipBlanks (cs : List Symbol) : List Symbol := cs.dropWhile isBlank

/-- The value of a hexadecimal digit. -/
def hexValue? (s : Symbol) : Option Nat := s.char?.bind Text.hexValue?

/-- The value of four hexadecimal digits. -/
def unit? (a b c d : Symbol) : Option Nat := do
  let a ← hexValue? a
  let b ← hexValue? b
  let c ← hexValue? c
  let d ← hexValue? d
  return ((a * 16 + b) * 16 + c) * 16 + d

/-- The character of a one-letter escape. -/
def escaped? (s : Symbol) : Option Char :=
  match s with
  | .half _ => none
  | .char c =>
    if c = '"' || c = '\\' || c = '/' then some c
    else if c = 'b' then some (Char.ofNat 0x08)
    else if c = 'f' then some (Char.ofNat 0x0c)
    else if c = 'n' then some '\n'
    else if c = 'r' then some '\r'
    else if c = 't' then some '\t'
    else none

/-- Reads the rest of a text whose opening quote stands at `start`. The pieces read so far are in
`done`, last first. -/
def text (start : List Symbol) (done : List Text.Piece) : List Symbol → Except Stop (Parsed Text)
  | [] => stop .stringEnd start
  | .char '"' :: rest => .ok (⟨Text.joinPieces none done.reverse⟩, rest)
  | [.char '\\'] => stop .stringEnd start
  | .char '\\' :: .char 'u' :: a :: b :: c :: d :: rest =>
    match unit? a b c d, rest.isEmpty with
    | some n, false => text start (.unit n :: done) rest
    | _, _ => stop .unicodeEscape (.char 'u' :: a :: b :: c :: d :: rest)
  | .char '\\' :: .char 'u' :: rest => stop .unicodeEscape (.char 'u' :: rest)
  | .char '\\' :: c :: rest =>
    match escaped? c with
    | some e => text start (.symbol (.char e) :: done) rest
    | none => stop .escape (.char '\\' :: c :: rest)
  | c :: rest =>
    if c.code < 0x20 then stop .noControlCharacter (c :: rest)
    else text start (.symbol c :: done) rest

def isDigit (s : Symbol) : Bool := (s.char?.map Char.isDigit).getD false

def digitsValue (ds : List Symbol) : Nat :=
  ds.foldl (fun n s => n * 10 + (s.code - 0x30)) 0

/-- The digits of the integer part: a zero alone, or digits that do not start with a zero. -/
def wholePart : List Symbol → Option (List Symbol × List Symbol)
  | .char '0' :: rest => some ([.char '0'], rest)
  | c :: rest =>
    if isDigit c then some (c :: rest.takeWhile isDigit, rest.dropWhile isDigit) else none
  | [] => none

/-- The digits after a point, if a point with digits follows. -/
def fractionPart : List Symbol → Option (List Symbol × List Symbol)
  | .char '.' :: rest =>
    let ds := rest.takeWhile isDigit
    if ds.isEmpty then none else some (ds, rest.dropWhile isDigit)
  | _ => none

/-- The sign and digits of an exponent, if one follows. -/
def exponentPart : List Symbol → Option (Int × List Symbol)
  | c :: rest =>
    if c = .char 'e' || c = .char 'E' then
      let (negative, rest) := match rest with
        | .char '-' :: r => (true, r)
        | .char '+' :: r => (false, r)
        | r => (false, r)
      let ds := rest.takeWhile isDigit
      if ds.isEmpty then none
      else
        let n : Int := digitsValue ds
        some (if negative then -n else n, rest.dropWhile isDigit)
    else none
  | [] => none

/-- A number without its sign. -/
def unsigned (negative : Bool) (cs : List Symbol) : Option (Except Stop Json × List Symbol) := do
  let (whole, rest) ← wholePart cs
  match fractionPart rest, exponentPart rest with
  | none, none =>
    if maxIntegerDigits < whole.length then return (.error (.longInteger whole.length), rest)
    else
      let n : Int := digitsValue whole
      return (.ok (.int (if negative then -n else n)), rest)
  | none, some (e, rest) =>
    return (.ok (.float (.ofDecimal negative (digitsValue whole) e)), rest)
  | some (fraction, rest), _ =>
    let (e, rest) := (exponentPart rest).getD (0, rest)
    let digits := digitsValue (whole ++ fraction)
    return (.ok (.float (.ofDecimal negative digits (e - fraction.length))), rest)

/-- A number at the start of the text. -/
def number (cs : List Symbol) : Except Stop (Parsed Json) :=
  let found := match cs with
    | .char '-' :: rest => unsigned true rest
    | rest => unsigned false rest
  match found with
  | some (.ok v, rest) => .ok (v, rest)
  | some (.error e, _) => .error e
  | none => stop .value cs

/-- Words that are values. -/
def words : List (Text × Json) :=
  [("null", .null), ("true", .bool true), ("false", .bool false), ("NaN", .float .notANumber),
   ("Infinity", .float (.infinite false)), ("-Infinity", .float (.infinite true))]

/-- A word or a number. -/
def atom (cs : List Symbol) : Except Stop (Parsed Json) :=
  match words.find? fun w => w.1.symbols.isPrefixOf cs with
  | some (word, v) => .ok (v, cs.drop word.symbols.length)
  | none => number cs

mutual

/-- A value at the start of the text, in which up to `depth` containers may stand inside each
other. The fuel bounds the number of steps. -/
def value : (fuel depth : Nat) → List Symbol → Except Stop (Parsed Json)
  | 0, _, cs => stop .value cs
  | _ + 1, _, .char '"' :: rest => do
    let (s, rest) ← text (.char '"' :: rest) [] rest
    return (.str s, rest)
  | _ + 1, 0, .char '{' :: _ => .error (.tooDeep .object)
  | fuel + 1, depth + 1, .char '{' :: rest =>
    match skipBlanks rest with
    | .char '}' :: rest => .ok (.obj [], rest)
    | rest => members fuel depth [] rest
  | _ + 1, 0, .char '[' :: _ => .error (.tooDeep .list)
  | fuel + 1, depth + 1, .char '[' :: rest =>
    match skipBlanks rest with
    | .char ']' :: rest => .ok (.arr [], rest)
    | rest => items fuel depth [] rest
  | _ + 1, _, cs => atom cs

/-- The items of a list from one item on; `done` holds the earlier ones, last first. -/
def items : (fuel depth : Nat) → List Json → List Symbol → Except Stop (Parsed Json)
  | 0, _, _, cs => stop .value cs
  | fuel + 1, depth, done, cs => do
    let (v, rest) ← value fuel depth cs
    match skipBlanks rest with
    | .char ']' :: rest => return (.arr (v :: done).reverse, rest)
    | .char ',' :: rest => items fuel depth (v :: done) (skipBlanks rest)
    | rest => stop .comma rest

/-- The fields of an object from one name on; `done` holds the earlier ones. -/
def members :
    (fuel depth : Nat) → List (Text × Json) → List Symbol → Except Stop (Parsed Json)
  | 0, _, _, cs => stop .value cs
  | fuel + 1, depth, done, .char '"' :: rest => do
    let (name, rest) ← text (.char '"' :: rest) [] rest
    match skipBlanks rest with
    | .char ':' :: rest =>
      let (v, rest) ← value fuel depth (skipBlanks rest)
      let done := Json.insert name v done
      match skipBlanks rest with
      | .char '}' :: rest => return (.obj done, rest)
      | .char ',' :: rest => members fuel depth done (skipBlanks rest)
      | rest => stop .comma rest
    | rest => stop .colon rest
  | _ + 1, _, _, cs => stop .fieldName cs

end

/-- The whole text as one value, blanks around it allowed. -/
def whole (depth : Nat) (cs : List Symbol) : Except Stop Json := do
  let (v, rest) ← value (2 * cs.length + 2) depth (skipBlanks cs)
  match skipBlanks rest with
  | [] => return v
  | rest => stop .nothingMore rest

/-- The refusal told in lines and columns of the text. -/
def locate (cs : List Symbol) : Stop → ReadError
  | .expecting what left =>
    let seen := cs.take (cs.length - left)
    let line := 1 + seen.count (.char '\n')
    let column := 1 + (seen.reverse.takeWhile (· ≠ .char '\n')).length
    .malformed what line column seen.length
  | .longInteger digits => .longInteger digits
  | .tooDeep what => .tooDeep what

end Reader

/-- The mark that some programs put before a text. -/
def byteOrderMark : Char := Char.ofNat 0xfeff

/-- Reads a text as one value in which up to `depth` containers may stand inside each other. -/
def readWithin (depth : Nat) (t : Text) : Except ReadError Json :=
  (Reader.whole depth t.symbols).mapError (Reader.locate t.symbols)

/-- Reads a text as one value. No byte order mark may stand before it. -/
def read (t : Text) : Except ReadError Json :=
  if t.symbols.head? = some (.char byteOrderMark) then
    .error (Reader.locate t.symbols (.expecting .noByteOrderMark t.symbols.length))
  else readWithin maxDepth t

end Scribe.Json
