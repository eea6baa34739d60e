import Scribe.Text.Basic

/-!
# Blank characters
-/

namespace Scribe.Text

/-- Spaces, line and paragraph ends, and the separators of the ASCII range. -/
def isBlank (c : Char) : Bool :=
  let n := c.toNat
  (0x09 ≤ n && n ≤ 0x0d) || (0x1c ≤ n && n ≤ 0x20) || n = 0x85 || n = 0xa0 || n = 0x1680
    || (0x2000 ≤ n && n ≤ 0x200a) || n = 0x2028 || n = 0x2029 || n = 0x202f || n = 0x205f
    || n = 0x3000

/-- Takes blank characters away from both ends. -/
def trim (t : Text) : Text :=
  let drop (symbols : List Symbol) : List Symbol := symbols.dropWhile (·.satisfies isBlank)
  ⟨(drop (drop t.symbols).reverse).reverse⟩

end Scribe.Text
