import Scribe.Text.Basic

/-!
# Capital letters

Words of plain capital letters are recognised in any spelling. A character whose capital form is
one or more of the letters A to Z is replaced by that form; every other symbol stays.
-/

namespace Scribe.Text

/-- The capital forms past the ASCII range that are plain letters. -/
def plainCapitals : List (Nat × String) :=
  [(0xdf, "SS"), (0x131, "I"), (0x17f, "S"), (0xfb00, "FF"), (0xfb01, "FI"), (0xfb02, "FL"),
   (0xfb03, "FFI"), (0xfb04, "FFL"), (0xfb05, "ST"), (0xfb06, "ST")]

/-- The capital form of a character, if it is made of plain letters, else the character. -/
def capitalChar (c : Char) : List Char :=
  if c.toNat < 0x80 then [c.toUpper]
  else match plainCapitals.find? (·.1 = c.toNat) with
    | some form => form.2.toList
    | none => [c]

/-- A word in capital letters. -/
def capitals (t : Text) : Text :=
  ⟨t.symbols.flatMap fun
    | .char c => (capitalChar c).map .char
    | .half i => [.half i]⟩

end Scribe.Text
