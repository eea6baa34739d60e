import Scribe.Text.Hex

/-!
# UTF-8

Source files are bytes, prompts and answers are text. `decode` reads bytes as characters and names
the first piece that is not UTF-8: where it starts, how many bytes it takes and what is wrong with
it. `encode` writes characters as bytes.
-/

namespace Scribe

/-- The content of a file. -/
abbrev Bytes := List UInt8

namespace Utf8

/-- What is wrong with a piece of bytes. -/
inductive Reason where
  /-- The byte cannot start a character. -/
  | start
  /-- A byte that should continue a character does not. -/
  | continuation
  /-- The bytes end inside a character. -/
  | unfinished
  deriving DecidableEq, Repr

/-- The first piece of bytes that is not a character. -/
structure Fault where
  /-- Offset of the piece. -/
  offset : Nat
  /-- First byte of the piece. -/
  byte : UInt8
  /-- Number of bytes in the piece. -/
  size : Nat
  reason : Reason
  deriving DecidableEq, Repr

def isContinuation (b : UInt8) : Bool :=
  0x80 ≤ b && b < 0xc0

/-- The second byte of a three-byte character: no overlong form and no surrogate. -/
def isSecondOfThree (lead b : UInt8) : Bool :=
  isContinuation b && (lead != 0xe0 || 0xa0 ≤ b) && (lead != 0xed || b < 0xa0)

/-- The second byte of a four-byte character: no overlong form, nothing past U+10FFFF. -/
def isSecondOfFour (lead b : UInt8) : Bool :=
  isContinuation b && (lead != 0xf0 || 0x90 ≤ b) && (lead != 0xf4 || b < 0x90)

def char2 (a b : UInt8) : Char :=
  Char.ofNat ((a.toNat - 0xc0) * 0x40 + (b.toNat - 0x80))

def char3 (a b c : UInt8) : Char :=
  Char.ofNat ((a.toNat - 0xe0) * 0x1000 + (b.toNat - 0x80) * 0x40 + (c.toNat - 0x80))

def char4 (a b c d : UInt8) : Char :=
  Char.ofNat ((a.toNat - 0xf0) * 0x40000 + (b.toNat - 0x80) * 0x1000 + (c.toNat - 0x80) * 0x40
    + (d.toNat - 0x80))

/-- Characters of the bytes that start at `offset` of a larger piece. -/
def decodeFrom (offset : Nat) : Bytes → Except Fault (List Char)
  | [] => .ok []
  | a :: rest =>
    if a < 0x80 then
      (Char.ofNat a.toNat :: ·) <$> decodeFrom (offset + 1) rest
    else if a < 0xc2 then
      .error ⟨offset, a, 1, .start⟩
    else if a < 0xe0 then
      match rest with
      | [] => .error ⟨offset, a, 1, .unfinished⟩
      | b :: rest =>
        if !isContinuation b then .error ⟨offset, a, 1, .continuation⟩
        else (char2 a b :: ·) <$> decodeFrom (offset + 2) rest
    else if a < 0xf0 then
      match rest with
      | [] => .error ⟨offset, a, 1, .unfinished⟩
      | b :: rest =>
        if !isSecondOfThree a b then .error ⟨offset, a, 1, .continuation⟩
        else match rest with
          | [] => .error ⟨offset, a, 2, .unfinished⟩
          | c :: rest =>
            if !isContinuation c then .error ⟨offset, a, 2, .continuation⟩
            else (char3 a b c :: ·) <$> decodeFrom (offset + 3) rest
    else if a < 0xf5 then
      match rest with
      | [] => .error ⟨offset, a, 1, .unfinished⟩
      | b :: rest =>
        if !isSecondOfFour a b then .error ⟨offset, a, 1, .continuation⟩
        else match rest with
          | [] => .error ⟨offset, a, 2, .unfinished⟩
          | c :: rest =>
            if !isContinuation c then .error ⟨offset, a, 2, .continuation⟩
            else match rest with
              | [] => .error ⟨offset, a, 3, .unfinished⟩
              | d :: rest =>
                if !isContinuation d then .error ⟨offset, a, 3, .continuation⟩
                else (char4 a b c d :: ·) <$> decodeFrom (offset + 4) rest
    else
      .error ⟨offset, a, 1, .start⟩

/-- The characters that the bytes encode. -/
def decode (bytes : Bytes) : Except Fault (List Char) :=
  decodeFrom 0 bytes

/-- The text that the bytes encode. -/
def decodeText (bytes : Bytes) : Except Fault String :=
  String.ofList <$> decode bytes

/-- The symbols that the bytes encode, where `fill` stands in for a piece that is not UTF-8. The
fuel bounds the number of such pieces. -/
def decodeFilling {α : Type} (ofChar : Char → α) (fill : Bytes → List α) :
    (fuel : Nat) → Bytes → List α
  | 0, _ => []
  | fuel + 1, bytes =>
    match decode bytes with
    | .ok cs => cs.map ofChar
    | .error f =>
      let before := (decode (bytes.take f.offset)).toOption.getD []
      let rest := bytes.drop f.offset
      before.map ofChar ++ fill (rest.take f.size)
        ++ decodeFilling ofChar fill fuel (rest.drop f.size)

/-- The characters that the bytes encode, with a mark for each piece that is not UTF-8. -/
def decodeAll (bytes : Bytes) : List Char :=
  decodeFilling id (fun _ => [Char.ofNat 0xfffd]) (bytes.length + 1) bytes

/-- The bytes of one code point. -/
def encodeCode (n : Nat) : Bytes :=
  if n < 0x80 then [n.toUInt8]
  else if n < 0x800 then [(0xc0 + n / 0x40).toUInt8, (0x80 + n % 0x40).toUInt8]
  else if n < 0x10000 then
    [(0xe0 + n / 0x1000).toUInt8, (0x80 + n / 0x40 % 0x40).toUInt8, (0x80 + n % 0x40).toUInt8]
  else
    [(0xf0 + n / 0x40000).toUInt8, (0x80 + n / 0x1000 % 0x40).toUInt8,
      (0x80 + n / 0x40 % 0x40).toUInt8, (0x80 + n % 0x40).toUInt8]

/-- The bytes of one character. -/
def encodeChar (c : Char) : Bytes := encodeCode c.toNat

/-- The bytes of a text. -/
def encode (s : String) : Bytes :=
  s.toList.flatMap encodeChar

def Reason.message : Reason → String
  | .start => "invalid start byte"
  | .continuation => "invalid continuation byte"
  | .unfinished => "unexpected end of data"

/-- One byte is shown with its value, several bytes by their positions. -/
def Fault.message (f : Fault) : String :=
  let what :=
    if f.size = 1 then
      "byte 0x" ++ String.ofList (Text.hex 2 f.byte.toNat) ++ " in position "
        ++ toString f.offset
    else
      "bytes in position " ++ toString f.offset ++ "-" ++ toString (f.offset + f.size - 1)
  "'utf-8' codec can't decode " ++ what ++ ": " ++ f.reason.message

end Utf8

end Scribe
