import Scribe.Text.Encode

/-!
# Percent encoding

`unescape` undoes escapes. Two encodings write a key into a web address. `formEncode` writes a
value of a query parameter: every byte that is not unreserved is escaped and a space becomes a
plus. `requote` tidies text that already is part of an address: what may stand there stays, also
escapes, unless some percent sign starts no escape, in which case every percent sign is itself
escaped. Halves of surrogate pairs cannot be in a parameter, while `requote` escapes them like
characters.
-/

namespace Scribe.Text

/-- Letters, digits and the marks `-`, `.`, `_` and `~` never need an escape. -/
def isUnreserved (c : Char) : Bool :=
  c.isAlphanum || c = '-' || c = '.' || c = '_' || c = '~'

/-- What may stand in the query or fragment of an address. -/
def isQueryChar (c : Char) : Bool :=
  isUnreserved c || "!$&'()*+,;=:@/?".toList.contains c

/-- The escape of a byte, in capital letters. -/
def percentEscape (b : UInt8) : List Char :=
  '%' :: (hex 2 b.toNat).map Char.toUpper

/-- A byte in an address: itself if it is a character of the given kind, else its escape. -/
def percentByte (keep : Char → Bool) (b : UInt8) : List Char :=
  if b < 0x80 && keep (Char.ofNat b.toNat) then [Char.ofNat b.toNat] else percentEscape b

/-- A query parameter's value. -/
def formEncode (t : Text) : Except Utf8.LoneHalves String := do
  let bytes ← Utf8.write t
  return String.ofList <| bytes.flatMap fun b =>
    if b = 0x20 then ['+'] else percentByte isUnreserved b

/-- The bytes of a text in which escapes stand for bytes. -/
def unescape : List Char → Bytes
  | [] => []
  | '%' :: a :: b :: rest =>
    match hexValue? a, hexValue? b with
    | some high, some low => (high * 16 + low).toUInt8 :: unescape rest
    | _, _ => 0x25 :: unescape (a :: b :: rest)
  | c :: rest => Utf8.encodeChar c ++ unescape rest

/-- Whether a symbol is a hexadecimal digit. -/
def isHex (s : Symbol) : Bool := s.satisfies fun c => (hexValue? c).isSome

/-- Whether every percent sign starts an escape. -/
def escapesComplete : List Symbol → Bool
  | [] => true
  | .char '%' :: a :: b :: rest => isHex a && isHex b && escapesComplete rest
  | .char '%' :: _ => false
  | _ :: rest => escapesComplete rest

/-- Existing escapes in capital letters. -/
def capitalizeEscapes : List Symbol → List Symbol
  | [] => []
  | .char '%' :: a :: b :: rest =>
    if isHex a && isHex b then
      .char '%' :: a.mapChar Char.toUpper :: b.mapChar Char.toUpper :: capitalizeEscapes rest
    else .char '%' :: capitalizeEscapes (a :: b :: rest)
  | s :: rest => s :: capitalizeEscapes rest

/-- Escapes of unreserved characters become those characters. -/
def unescapeUnreserved : List Char → List Char
  | [] => []
  | '%' :: a :: b :: rest =>
    let c := Char.ofNat ((hexValue? a).getD 0 * 16 + (hexValue? b).getD 0)
    if isUnreserved c then c :: unescapeUnreserved rest
    else '%' :: a :: b :: unescapeUnreserved rest
  | c :: rest => c :: unescapeUnreserved rest

/-- Text put into the query or fragment of an address. -/
def requote (symbols : List Symbol) : List Char :=
  let keep (c : Char) : Bool := isQueryChar c || (c = '%' && escapesComplete symbols)
  unescapeUnreserved <| (capitalizeEscapes symbols).flatMap fun s =>
    (Utf8.encodeCode s.code).flatMap (percentByte keep)

/-- An address as it is sent: query and fragment requoted, each left out when empty. -/
def tidyAddress (address : Text) : String :=
  let isMark (c : Char) (s : Symbol) : Bool := s = .char c
  let front := address.symbols.takeWhile (!isMark '#' ·)
  let fragment := (address.symbols.dropWhile (!isMark '#' ·)).drop 1
  let place := front.takeWhile (!isMark '?' ·)
  let query := (front.dropWhile (!isMark '?' ·)).drop 1
  let part (mark : Char) (symbols : List Symbol) : List Char :=
    if symbols.isEmpty then [] else mark :: requote symbols
  String.ofList (place.map Symbol.toChar ++ part '?' query ++ part '#' fragment)

end Scribe.Text
