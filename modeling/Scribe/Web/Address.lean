import Scribe.Text.Percent
import Scribe.Text.Quoted
import Scribe.Web.Host

/-!
# Addresses

An address has a scheme, an authority, a path, a query and a fragment. `Address.split` takes an
address apart and `Address.text` puts it together; `Address.tidy` writes an address with ASCII
characters only.
-/

namespace Scribe.Web

/-- The parts of an address. A part that is not there is empty. -/
structure Address where
  scheme : List Symbol
  authority : List Symbol
  path : List Symbol
  query : List Symbol
  fragment : List Symbol
  deriving DecidableEq, Repr

/-- Why an address cannot be used. -/
inductive AddressError where
  /-- There is a bracket without its partner. -/
  | brackets
  /-- What stands in brackets is no address of a host. -/
  | bracketed (host : Text)
  /-- An address of four bytes stands in brackets. -/
  | bracketed4
  | future
  /-- A character of the authority hides a mark that divides the parts of an address. -/
  | hiddenDivider (authority : Text)
  | port (text : Text)
  | portRange
  | label (e : LabelError)
  | unwritable (e : Utf8.LoneHalves)
  deriving DecidableEq, Repr

def AddressError.message : AddressError → Text
  | brackets => "Invalid IPv6 URL"
  | bracketed host => Text.quoted host ++ " does not appear to be an IPv4 or IPv6 address"
  | bracketed4 => "An IPv4 address cannot be in brackets"
  | future => "IPvFuture address is invalid"
  | hiddenDivider authority =>
    "netloc '" ++ authority ++ "' contains invalid characters under NFKC normalization"
  | port text => "Port could not be cast to integer value as " ++ Text.quoted text
  | portRange => "Port out of range 0-65535"
  | label e => "encoding with 'idna' codec failed (UnicodeError: " ++ e.message ++ ")"
  | unwritable e => e.message

namespace Address

/-- Some characters as symbols. -/
def symbolsOf (cs : List Char) : List Symbol := cs.map .char

/-- Whether a character is among some symbols. -/
def has (c : Char) (symbols : List Symbol) : Bool := symbols.contains (.char c)

/-- The part of a text before the first place of a character, all of it if there is none. -/
def before (c : Char) (symbols : List Symbol) : List Symbol := symbols.takeWhile (· ≠ .char c)

/-- The part of a text after the first place of a character, empty if there is none. -/
def after (c : Char) (symbols : List Symbol) : List Symbol :=
  (symbols.dropWhile (· ≠ .char c)).drop 1

/-- Takes away control characters and spaces at the start, and line breaks and tabs everywhere. -/
def clean (symbols : List Symbol) : List Symbol :=
  let isDropped (c : Char) : Bool := c = '\t' || c = '\r' || c = '\n'
  (symbols.dropWhile (·.code ≤ 0x20)).filter fun s => !s.satisfies isDropped

def isSchemeChar (c : Char) : Bool := c.isAlphanum || c = '+' || c = '-' || c = '.'

/-- A text with the letters of ASCII in lower case. -/
def lowerAscii (symbols : List Symbol) : List Symbol := symbols.map (·.mapChar Char.toLower)

/-- Splits off a scheme, which starts with a letter and ends with a colon. -/
def splitScheme (symbols : List Symbol) : List Symbol × List Symbol :=
  let name := before ':' symbols
  let startsWithLetter := (name.head?.map (·.satisfies Char.isAlpha)).getD false
  if has ':' symbols && startsWithLetter && name.all (·.satisfies isSchemeChar) then
    (lowerAscii name, after ':' symbols)
  else ([], symbols)

/-- Whether a bracket is there without any of the other kind. -/
def hasLoneBracket (authority : List Symbol) : Bool := has '[' authority != has ']' authority

/-- Splits off an authority, which follows two slashes. -/
def splitAuthority : List Symbol → Except AddressError (List Symbol × List Symbol)
  | .char '/' :: .char '/' :: rest =>
    let isEnd (s : Symbol) : Bool := s.satisfies fun c => c = '/' || c = '?' || c = '#'
    let authority := rest.takeWhile (!isEnd ·)
    if hasLoneBracket authority then .error .brackets
    else .ok (authority, rest.dropWhile (!isEnd ·))
  | symbols => .ok ([], symbols)

/-- Checks what stands in brackets. -/
def checkBrackets (authority : List Symbol) : Except AddressError Unit :=
  if !has '[' authority then .ok ()
  else
    let host := before ']' (after '[' authority)
    let name := host.map Symbol.toChar
    if name.head? = some 'v' then
      if isFutureAddress name then .ok () else .error .future
    else if isAddress4 name then .error .bracketed4
    else if isAddress6 name then .ok ()
    else .error (.bracketed ⟨host⟩)

/-- Takes the rest of an address apart once scheme and authority are known. -/
def ofRest (scheme authority rest : List Symbol) : Address :=
  let front := before '#' rest
  ⟨scheme, authority, before '?' front, after '?' front, after '#' rest⟩

/-- Checks that no character hides a mark that divides the parts of an address. -/
def checkDividers (authority : List Symbol) : Except AddressError Unit :=
  if authority.any (·.satisfies hidesDivider) then .error (.hiddenDivider ⟨authority⟩) else .ok ()

/-- Takes an address apart. -/
def split (symbols : List Symbol) : Except AddressError Address := do
  let (scheme, rest) := splitScheme (clean symbols)
  let (authority, rest) ← splitAuthority rest
  checkBrackets authority
  checkDividers authority
  return ofRest scheme authority rest

/-- The schemes of addresses that are written with an authority even if it is empty. -/
def authoritySchemes : List Text :=
  ["ftp", "http", "gopher", "nntp", "telnet", "imap", "wais", "file", "mms", "https", "shttp",
   "snews", "prospero", "rtsp", "rtsps", "rtspu", "rsync", "svn", "svn+ssh", "sftp", "nfs", "git",
   "git+ssh", "ws", "wss"]

/-- An address in one piece. -/
def text (a : Address) : List Symbol :=
  let slash : Symbol := .char '/'
  let writesAuthority := !a.authority.isEmpty || [slash, slash].isPrefixOf a.path
    || authoritySchemes.contains ⟨a.scheme⟩
  let rooted := if a.path.isEmpty || a.path.head? = some slash then a.path else slash :: a.path
  let place := if writesAuthority then slash :: slash :: a.authority ++ rooted else a.path
  (if a.scheme.isEmpty then place else a.scheme ++ .char ':' :: place)
    ++ (if a.query.isEmpty then [] else .char '?' :: a.query)
    ++ (if a.fragment.isEmpty then [] else .char '#' :: a.fragment)

/-- Escapes all bytes but those of unreserved characters and of those given. -/
def quote (safe : String) (symbols : List Symbol) : Except AddressError (List Symbol) := do
  let bytes ← (Utf8.write ⟨symbols⟩).mapError .unwritable
  let isKept (c : Char) : Bool := Text.isUnreserved c || safe.toList.contains c
  return symbolsOf (bytes.flatMap (Text.percentByte isKept))

/-- The part of an authority before its last at sign, if there is one. -/
def userOf (authority : List Symbol) : Option (List Symbol) :=
  if has '@' authority then some (authority.reverse.dropWhile (· ≠ .char '@')).tail.reverse
  else none

/-- The part of an authority after its last at sign. -/
def hostPart (authority : List Symbol) : List Symbol :=
  (authority.reverse.takeWhile (· ≠ .char '@')).reverse

/-- The host and the port of an authority, both possibly empty. -/
def hostAndPort (authority : List Symbol) : List Symbol × List Symbol :=
  let part := hostPart authority
  if has '[' part then
    let bracketed := after '[' part
    (before ']' bracketed, after ':' (after ']' bracketed))
  else (before ':' part, after ':' part)

/-- The name of a host in lower case, save the zone in it. -/
def lowerHost (host : List Symbol) : List Symbol :=
  Text.lowerAfter [] (before '%' host) ++ host.dropWhile (· ≠ .char '%')

/-- The number of a port, zero if none is given. -/
def portNumber (text : List Symbol) : Except AddressError Nat :=
  let n := text.foldl (fun n s => n * 10 + (s.code - 0x30)) 0
  if !text.all (·.satisfies Char.isDigit) then .error (.port ⟨text⟩)
  else if 65535 < n then .error .portRange
  else .ok n

/-- Characters that stay in the name and the password of a user. -/
def userChars : String := "%!$&'()*+,;="

/-- The part of an authority that names a user, if it does. -/
def tidyUser (authority : List Symbol) : Except AddressError (List Symbol) := do
  let user := (userOf authority).getD []
  let name := before ':' user
  let password := after ':' user
  if name.isEmpty then return []
  let name ← quote userChars name
  let password ← quote userChars password
  return name ++ (if password.isEmpty then [] else .char ':' :: password) ++ [.char '@']

/-- An authority with ASCII characters only. -/
def tidyAuthority (authority : List Symbol) : Except AddressError (List Symbol) := do
  let (host, port) := hostAndPort authority
  let name ← (asciiHost (lowerHost host)).mapError .label
  let n ← portNumber port
  let user ← tidyUser authority
  let name := if name.contains ':' then '[' :: name ++ [']'] else name
  return user ++ symbolsOf (name ++ if n = 0 then [] else ':' :: Nat.toDigits 10 n)

/-- An address with ASCII characters only. -/
def tidy (symbols : List Symbol) : Except AddressError (List Symbol) := do
  let a ← split symbols
  let path ← quote "%!$&'()*+,/:;=@" a.path
  let query ← quote "%!$&'()*+,/:;=?@" a.query
  let fragment ← quote "%!#$&'()*+,/:;=?@" a.fragment
  let authority ← tidyAuthority a.authority
  return text ⟨a.scheme, authority, path, query, fragment⟩

end Address

end Scribe.Web
