import Scribe.Decimal.Shortest
import Scribe.Json.Value
import Scribe.Sort
import Scribe.Text.Hex

/-!
# Writing values

The compact written form: no blanks, fields in the order of their names, and only ASCII
characters, all others being escaped by their UTF-16 units. Half of a pair is escaped as it is.
-/

namespace Scribe.Json

/-- Words for numbers without digits in written values. -/
def writtenWords : Binary64.Words := ⟨"Infinity", "NaN"⟩

def escapeUnit (n : Nat) : List Char := '\\' :: 'u' :: Text.hex 4 n

/-- One character inside a written text. -/
def escapeChar (c : Char) : List Char :=
  if c = '"' || c = '\\' then ['\\', c]
  else if c = '\n' then ['\\', 'n']
  else if c = '\r' then ['\\', 'r']
  else if c = '\t' then ['\\', 't']
  else if c.toNat = 0x0c then ['\\', 'f']
  else if c.toNat = 0x08 then ['\\', 'b']
  else if 0x20 ≤ c.toNat && c.toNat < 0x7f then [c]
  else if c.toNat < 0x10000 then escapeUnit c.toNat
  else
    let n := c.toNat - 0x10000
    escapeUnit (0xd800 + n / 0x400) ++ escapeUnit (0xdc00 + n % 0x400)

/-- One symbol inside a written text. -/
def escapeSymbol : Symbol → List Char
  | .char c => escapeChar c
  | .half i => escapeUnit (Symbol.half i).code

/-- A written text. -/
def renderText (t : Text) : String :=
  String.ofList ('"' :: t.symbols.flatMap escapeSymbol ++ ['"'])

mutual

/-- The compact written form of a value. -/
def render : Json → String
  | null => "null"
  | bool true => "true"
  | bool false => "false"
  | int n => toString n
  | float x => x.text writtenWords
  | str s => renderText s
  | arr items => "[" ++ ",".intercalate (renderItems items) ++ "]"
  | obj fields =>
    let sorted := sortByName (·.1) (renderFields fields)
    "\x7b" ++ ",".intercalate (sorted.map fun f => renderText f.1 ++ ":" ++ f.2) ++ "\x7d"

def renderItems : List Json → List String
  | [] => []
  | v :: rest => render v :: renderItems rest

def renderFields : List (Text × Json) → List (Text × String)
  | [] => []
  | (k, v) :: rest => (k, render v) :: renderFields rest

end

end Scribe.Json
