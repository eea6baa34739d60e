import Scribe.Web.Address
import Scribe.Web.Message

/-!
# Targets of requests

The target of a request is a path, possibly with a query, or a whole address. It is taken apart
twice. First loosely, to tell whether it names a scheme and a host of its own; then the path is
read as an address once more.
-/

namespace Scribe.Web

/-- What a request asks for. -/
structure Target where
  scheme : List Symbol
  host : List Symbol
  /-- The path below which the service stands. -/
  root : List Char
  /-- The path that is asked for, without escapes. -/
  path : List Char
  query : List Symbol
  deriving DecidableEq, Repr

namespace Target

/-- What may stand in a loose scheme. -/
def isLooseSchemeChar (c : Char) : Bool := Address.isSchemeChar c || c = ','

/-- Splits off what stands before a colon, unless the rest is the number of a port. A line feed
may stand before the colon. -/
def looseScheme (symbols : List Symbol) : List Symbol × List Symbol :=
  let name := Address.before ':' symbols
  let rest := Address.after ':' symbols
  let word := if name.getLast? = some (.char '\n') then name.dropLast else name
  let isScheme := !word.isEmpty && word.all (·.satisfies isLooseSchemeChar)
  let isPort := !rest.isEmpty && rest.all (·.satisfies Char.isDigit)
  if Address.has ':' symbols && isScheme && !isPort then (Address.lowerAscii name, rest)
  else ([], symbols)

/-- The text without escapes. -/
def plain (symbols : List Symbol) : List Char :=
  Utf8.decodeAll (Text.unescape (symbols.map Symbol.toChar))

/-- The target of a request with its path and query in one piece, as they were given. -/
structure Reading where
  target : Target
  given : Text

/-- Reads the target of a request. -/
def read (target : Text) : Except AddressError Reading := do
  let (scheme, rest) := looseScheme target.symbols
  let (authority, rest) ← Address.splitAuthority rest
  let loose := Address.ofRest scheme authority rest
  let given := loose.path ++ if loose.query.isEmpty then [] else .char '?' :: loose.query
  let asked ← Address.split given
  let path ← Address.tidy asked.path
  let orElse (default : String) (part : List Symbol) : List Symbol :=
    if part.isEmpty then Address.symbolsOf default.toList else part
  let base ← Address.tidy <|
    orElse "http" scheme ++ Address.symbolsOf "://".toList ++ orElse "localhost" authority
      ++ [.char '/']
  let server ← Address.split base
  let root := (server.path.reverse.dropWhile (· = .char '/')).reverse
  return ⟨⟨server.scheme, server.authority, plain root, plain path, asked.query⟩, ⟨given⟩⟩

/-- The path that is looked up: with one slash before it, unless it is empty. -/
def place (t : Target) : List Char :=
  if t.path.isEmpty then [] else '/' :: t.path.dropWhile (· = '/')

/-- Whether the scheme is one of some. -/
def hasScheme (t : Target) (schemes : List Text) : Bool := schemes.contains ⟨t.scheme⟩

/-- Whether the scheme is one for lasting connections. -/
def isSocket (t : Target) : Bool := t.hasScheme ["ws", "wss"]

/-- A text without an ending. -/
def dropEnd (ending : Text) (symbols : List Symbol) : List Symbol :=
  if ending.symbols.isSuffixOf symbols then
    symbols.take (symbols.length - ending.symbols.length)
  else symbols

/-- The host in lower case, without a port that goes without saying. -/
def server (t : Target) : List Symbol :=
  Address.lowerAscii <|
    if t.hasScheme ["http", "ws"] then dropEnd ":80" t.host
    else if t.hasScheme ["https", "wss"] then dropEnd ":443" t.host
    else t.host

/-- Whether the server has a name that can be. -/
def hasServer (t : Target) : Bool := (asciiHost (Address.before ':' t.server)).isOk

/-- What may stand in the path of an address. -/
def isPathChar (c : Char) : Bool :=
  Text.isUnreserved c || "!$&'()*+,/:;=@".toList.contains c

/-- The address of another path of the same service. -/
def address (t : Target) (path : List Char) : String :=
  let trim (cs : List Char) : List Char := cs.dropWhile (· = '/')
  let root := (trim (trim t.root).reverse).reverse
  let scheme := if t.scheme.isEmpty then Address.symbolsOf "http".toList else t.scheme
  let quoted := (path.flatMap Utf8.encodeChar).flatMap (Text.percentByte isPathChar)
  let whole : Address :=
    ⟨scheme, t.server, Address.symbolsOf (root ++ '/' :: trim quoted), t.query, []⟩
  Text.toString ⟨whole.text⟩

end Target

/-- Why a request cannot be sent. -/
inductive RequestError where
  | target (e : AddressError)
  /-- The kind of content is told with a line break in it. -/
  | contentType
  /-- The body, or the target, cannot be written. -/
  | unwritable (e : Utf8.LoneHalves)
  deriving DecidableEq, Repr

def RequestError.message : RequestError → Text
  | target e => e.message
  | contentType => "Header values must not contain newline characters."
  | unwritable e => e.message

/-- The target of a request that can be sent. -/
def Request.aim (r : Request) : Except RequestError Target := do
  let reading ← (Target.read r.target).mapError .target
  let header := (r.contentType.getD "").symbols
  if Address.has '\n' header || Address.has '\r' header then throw .contentType
  let _ ← (Utf8.write r.body).mapError .unwritable
  let _ ← (Utf8.write reading.given).mapError .unwritable
  return reading.target

end Scribe.Web
