/-!
# Text

A text is a list of symbols. Most symbols are characters. A written value may also name half of a
surrogate pair without its other half, so such a half is a symbol too, which no character stands
for.
-/

namespace Scribe

/-- A symbol of a text. -/
inductive Symbol where
  | char (c : Char)
  /-- Half of a surrogate pair without its other half, the unit `0xd800 + i`. -/
  | half (i : Fin 0x800)
  deriving DecidableEq, Repr

namespace Symbol

/-- The code point of a symbol. -/
def code : Symbol → Nat
  | char c => c.toNat
  | half i => 0xd800 + i.val

/-- The symbol with a code point. -/
def ofCode (n : Nat) : Symbol :=
  if h : 0xd800 ≤ n ∧ n < 0xe000 then half ⟨n - 0xd800, by omega⟩ else char (Char.ofNat n)

@[simp]
theorem ofCode_code (s : Symbol) : ofCode s.code = s := by
  cases s with
  | char c =>
    have h : ¬ (0xd800 ≤ c.toNat ∧ c.toNat < 0xe000) := by
      have := c.valid
      simp only [UInt32.isValidChar, Nat.isValidChar] at this
      simp only [Char.toNat]
      omega
    simp [ofCode, code, h]
  | half i =>
    have h : 0xd800 ≤ 0xd800 + i.val ∧ 0xd800 + i.val < 0xe000 := by omega
    simp [ofCode, code, h]

/-- The character of a symbol, if it is one. -/
def char? : Symbol → Option Char
  | char c => some c
  | half _ => none

/-- Whether a symbol is half of a pair. -/
def isHalf : Symbol → Bool
  | char _ => false
  | half _ => true

/-- Whether a symbol is a character of some kind. -/
def satisfies (p : Char → Bool) : Symbol → Bool
  | char c => p c
  | half _ => false

/-- Changes a symbol that is a character. -/
def mapChar (f : Char → Char) : Symbol → Symbol
  | char c => char (f c)
  | half i => half i

/-- The character of a symbol. Half of a pair is replaced. -/
def toChar : Symbol → Char
  | char c => c
  | half _ => Char.ofNat 0xfffd

end Symbol

/-- A text. -/
@[ext]
structure Text where
  symbols : List Symbol
  deriving DecidableEq, Repr, Inhabited

namespace Text

/-- The text of some characters. -/
def ofList (cs : List Char) : Text := ⟨cs.map .char⟩

def ofString (s : String) : Text := ofList s.toList

instance : Coe String Text := ⟨ofString⟩

protected def append (a b : Text) : Text := ⟨a.symbols ++ b.symbols⟩

instance : Append Text := ⟨Text.append⟩

@[simp]
theorem symbols_append (a b : Text) : (a ++ b).symbols = a.symbols ++ b.symbols := rfl

theorem append_assoc (a b c : Text) : a ++ b ++ c = a ++ (b ++ c) := by
  ext1
  simp

theorem ofString_append (a b : String) : ofString (a ++ b) = ofString a ++ ofString b := by
  ext1
  simp [ofString, ofList]

/-- The texts one after the other. -/
def join (ts : List Text) : Text := ⟨ts.flatMap symbols⟩

/-- The texts one after the other, with a text between each two. -/
def intercalate (between : Text) (ts : List Text) : Text := join (ts.intersperse between)

def isEmpty (t : Text) : Bool := t.symbols.isEmpty

/-- Whether the text starts with another one. -/
def startsWith (t start : Text) : Bool := start.symbols.isPrefixOf t.symbols

/-- Whether the text ends with another one. -/
def endsWith (t ending : Text) : Bool := ending.symbols.isSuffixOf t.symbols

@[simp]
theorem startsWith_append (a b : Text) : (a ++ b).startsWith a = true := by
  simp [startsWith]

/-- The code points of a text. -/
def codes (t : Text) : List Nat := t.symbols.map Symbol.code

/-- Texts are ordered by their code points. -/
instance : LE Text := ⟨fun a b => List.le a.codes b.codes⟩

instance : DecidableLE Text := fun a b => List.decidableLE a.codes b.codes

/-- Whether a text has half of a pair in it. -/
def hasHalf (t : Text) : Bool := t.symbols.any Symbol.isHalf

@[simp]
theorem hasHalf_ofString (s : String) : (ofString s).hasHalf = false := by
  simp [hasHalf, ofString, ofList, Symbol.isHalf]

/-- The text as a string, if it has no half of a pair. -/
def plain? (t : Text) : Option String := String.ofList <$> t.symbols.mapM Symbol.char?

/-- The text as a string, with halves of pairs replaced. -/
protected def toString (t : Text) : String := String.ofList (t.symbols.map Symbol.toChar)

instance : ToString Text := ⟨Text.toString⟩

@[simp]
theorem toString_ofString (s : String) : (ofString s).toString = s := by
  have h : Symbol.toChar ∘ Symbol.char = id := rfl
  simp [Text.toString, ofString, ofList, h]

end Text

end Scribe
