import Scribe.Json.Reader
import Scribe.Text.Utf8

/-!
# Encodings of written values

A written value starts with two ASCII characters, or is one, so the places of the zeros among its
first bytes tell how its text is encoded.
-/

namespace Scribe.Json

/-- How bytes encode the text of a value. -/
inductive Encoding where
  | utf8
  /-- UTF-8 after a byte order mark. -/
  | markedUtf8
  | utf16 (order : Text.ByteOrder)
  | utf32 (order : Text.ByteOrder)
  deriving DecidableEq, Repr

namespace Encoding

/-- Tells the encoding by the first bytes. -/
def ofBytes : Bytes → Encoding
  | 0xef :: 0xbb :: 0xbf :: _ => markedUtf8
  | a :: b :: c :: d :: _ =>
    if a = 0 then if b = 0 then utf32 .bigEndian else utf16 .bigEndian
    else if b = 0 then if c = 0 && d = 0 then utf32 .littleEndian else utf16 .littleEndian
    else utf8
  | [a, b] =>
    if a = 0 then utf16 .bigEndian else if b = 0 then utf16 .littleEndian else utf8
  | _ => utf8

/-- The text that bytes encode, a mark before it set aside. -/
def decode (e : Encoding) (bytes : Bytes) : Option Text :=
  let ofUtf8 (bytes : Bytes) : Option Text := (Utf8.decode bytes).toOption.map Text.ofList
  match e with
  | utf8 => ofUtf8 bytes
  | markedUtf8 => ofUtf8 (bytes.drop 3)
  | utf16 order => Text.ofUtf16 order bytes
  | utf32 order => Text.ofUtf32 order bytes

end Encoding

/-- The text of a written value. -/
def textOfBytes (bytes : Bytes) : Option Text := (Encoding.ofBytes bytes).decode bytes

end Scribe.Json
