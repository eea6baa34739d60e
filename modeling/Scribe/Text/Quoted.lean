import Scribe.Text.Basic
import Scribe.Text.Hex
import Scribe.Text.Printable

/-!
# Quoted text

Texts inside messages and inside displayed values are quoted. Single quotes are used unless the
text has a single quote and no double quote. A backslash, the chosen quote and unprintable
symbols are escaped.
-/

namespace Scribe.Text

/-- The quote put around a text. -/
def quoteFor (t : Text) : Char :=
  if t.symbols.contains (.char '\'') && !t.symbols.contains (.char '"') then '"' else '\''

/-- The escape of a code point. -/
def codeEscape (n : Nat) : List Char :=
  if n < 0x100 then '\\' :: 'x' :: hex 2 n
  else if n < 0x10000 then '\\' :: 'u' :: hex 4 n
  else '\\' :: 'U' :: hex 8 n

/-- One symbol between quotes of the kind `quote`. -/
def quoteSymbol (quote : Char) : Symbol → List Char
  | .half i => codeEscape (Symbol.half i).code
  | .char c =>
    if c = quote || c = '\\' then ['\\', c]
    else if c = '\t' then ['\\', 't']
    else if c = '\n' then ['\\', 'n']
    else if c = '\r' then ['\\', 'r']
    else if isPrintable c then [c]
    else codeEscape c.toNat

/-- A text in quotes. -/
def quoted (t : Text) : String :=
  let quote := quoteFor t
  String.ofList (quote :: t.symbols.flatMap (quoteSymbol quote) ++ [quote])

end Scribe.Text
