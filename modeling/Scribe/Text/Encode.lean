import Scribe.Text.Basic
import Scribe.Text.Utf8

/-!
# Texts as bytes

A text is written in UTF-8. Half of a surrogate pair has no form there: `Utf8.write` refuses a text
with one. Where bytes of any kind are kept, as on a disk, the halves from `0xdc80` to `0xdcff` stand
for single bytes that are not part of UTF-8; `Utf8.writeLoose` writes such halves too, and
`Utf8.readLoose` reads every sequence of bytes.
-/

namespace Scribe.Utf8

/-- Halves of pairs in a row that cannot be written. -/
structure LoneHalves where
  /-- Offset of the first one. -/
  offset : Nat
  /-- How many there are. -/
  size : Nat
  first : Fin 0x800
  deriving DecidableEq, Repr

/-- One half is shown with its code, several by their positions. -/
def LoneHalves.message (e : LoneHalves) : String :=
  let what :=
    if e.size = 1 then
      "character '\\u" ++ String.ofList (Text.hex 4 (Symbol.half e.first).code) ++ "' in position "
        ++ toString e.offset
    else
      "characters in position " ++ toString e.offset ++ "-" ++ toString (e.offset + e.size - 1)
  "'utf-8' codec can't encode " ++ what ++ ": surrogates not allowed"

/-- The bytes of symbols that start at `offset` of a text, where `byte?` gives the bytes for those
halves that have one. -/
def writeFrom (byte? : Fin 0x800 → Option UInt8) (offset : Nat) :
    List Symbol → Except LoneHalves Bytes
  | [] => .ok []
  | .char c :: rest => (encodeChar c ++ ·) <$> writeFrom byte? (offset + 1) rest
  | .half i :: rest =>
    match byte? i with
    | some b => (b :: ·) <$> writeFrom byte? (offset + 1) rest
    | none => .error ⟨offset, (rest.takeWhile Symbol.isHalf).length + 1, i⟩

theorem writeFrom_map_char (byte? : Fin 0x800 → Option UInt8) (offset : Nat) (cs : List Char) :
    writeFrom byte? offset (cs.map .char) = .ok (cs.flatMap encodeChar) := by
  induction cs generalizing offset with
  | nil => rfl
  | cons c rest ih => simp [writeFrom, ih, Functor.map, Except.map]

/-- The bytes of a text without halves of pairs. -/
def write (t : Text) : Except LoneHalves Bytes := writeFrom (fun _ => none) 0 t.symbols

@[simp]
theorem write_ofString (s : String) : write (.ofString s) = .ok (encode s) :=
  writeFrom_map_char _ 0 s.toList

/-- The byte that a half stands for. -/
def looseByte? (i : Fin 0x800) : Option UInt8 :=
  if 0x480 ≤ i.val ∧ i.val < 0x500 then some (i.val - 0x400).toUInt8 else none

/-- The half that stands for a byte. -/
def looseHalf (b : UInt8) : Symbol := .ofCode (0xdc00 + b.toNat)

/-- The bytes of a text in which halves may stand for bytes. -/
def writeLoose (t : Text) : Except LoneHalves Bytes := writeFrom looseByte? 0 t.symbols

/-- The text of any bytes. -/
def readLoose (bytes : Bytes) : Text :=
  ⟨decodeFilling .char (·.map looseHalf) (bytes.length + 1) bytes⟩

/-- The text that comes back when a text has been kept as bytes. It differs from the text only if
halves in it stand for bytes that make up a character. -/
def kept (t : Text) : Except LoneHalves Text :=
  if t.hasHalf then readLoose <$> writeLoose t else .ok t

@[simp]
theorem kept_ofString (s : String) : kept (.ofString s) = .ok (.ofString s) := by
  simp [kept]

end Scribe.Utf8
