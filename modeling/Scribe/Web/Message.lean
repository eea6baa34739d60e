import Scribe.Json.Encoding
import Scribe.Json.Printer
import Scribe.Text.Blank
import Scribe.Text.Encode
import Scribe.Text.Lowercase

/-!
# Requests to the services and their answers
-/

namespace Scribe.Web

/-- A request to one of the services. -/
structure Request where
  method : Text
  /-- A path, possibly with a query, or a whole address. -/
  target : Text
  contentType : Option Text
  body : Text

/-- An answer of one of the services. -/
structure Answer where
  status : Nat
  contentType : String
  body : String
  deriving DecidableEq, Repr

def htmlType : String := "text/html; charset=utf-8"

/-- An answer of plain text. -/
def Answer.text (status : Nat) (body : String) : Answer := ⟨status, htmlType, body⟩

/-- An answer that is a value. -/
def Answer.json (status : Nat) (v : Json) : Answer :=
  ⟨status, "application/json", v.render ++ "\n"⟩

/-- An answer that tells an error. -/
def Answer.error (status : Nat) (message : Text) : Answer :=
  .json status (.obj [("error", .str message)])

@[simp]
theorem Answer.status_json (status : Nat) (v : Json) : (json status v).status = status := rfl

@[simp]
theorem Answer.status_error (status : Nat) (message : Text) :
    (error status message).status = status := rfl

/-- A page of the server itself. -/
def page (status : Nat) (title text : String) : Answer :=
  .text status <| "\n".intercalate
    ["<!doctype html>", "<html lang=en>",
     "<title>" ++ toString status ++ " " ++ title ++ "</title>",
     "<h1>" ++ title ++ "</h1>", "<p>" ++ text ++ "</p>", ""]

def notFound : Answer :=
  page 404 "Not Found" <| "The requested URL was not found on the server. If you entered the URL "
    ++ "manually please check your spelling and try again."

def methodNotAllowed : Answer :=
  page 405 "Method Not Allowed" "The method is not allowed for the requested URL."

def badRequest : Answer :=
  page 400 "Bad Request"
    "The browser (or proxy) sent a request that this server could not understand."

/-- A character as it stands in a page. -/
def markupChar (c : Char) : List Char :=
  if c = '&' then "&amp;".toList
  else if c = '<' then "&lt;".toList
  else if c = '>' then "&gt;".toList
  else if c = '"' then "&#34;".toList
  else if c = '\'' then "&#39;".toList
  else [c]

/-- A page that leads to another address. -/
def redirect (address : String) : Answer :=
  let shown := String.ofList (address.toList.flatMap markupChar)
  .text 308 <| "\n".intercalate
    ["<!doctype html>", "<html lang=en>", "<title>Redirecting...</title>",
     "<h1>Redirecting...</h1>",
     "<p>You should be redirected automatically to the target URL: <a href=\"" ++ shown ++ "\">"
       ++ shown ++ "</a>. If not, click the link.", ""]

/-- The kind of content in lower case, without parameters and blanks around it. -/
def Request.mediaType (r : Request) : Text :=
  let header := r.contentType.getD ""
  Text.lower (Text.trim ⟨header.symbols.takeWhile (· ≠ .char ';')⟩)

/-- Whether the body is declared to be a written value. -/
def Request.isJson (r : Request) : Bool :=
  let kind := r.mediaType
  kind = "application/json" || kind.startsWith "application/" && kind.endsWith "+json"

/-- Why the body of a request gives no value. -/
inductive BodyError where
  | unsupportedType
  | unreadable
  /-- The value is past what is read, though not ill-formed. -/
  | tooDeep (what : Json.Container)
  deriving DecidableEq, Repr

def BodyError.message : BodyError → String
  | unsupportedType =>
    "415 Unsupported Media Type: Did not attempt to load JSON data because the request "
      ++ "Content-Type was not 'application/json'."
  | unreadable =>
    "400 Bad Request: The browser (or proxy) sent a request that this server could not "
      ++ "understand."
  | tooDeep what => (Json.ReadError.tooDeep what).message

/-- The value in the body of a request. -/
def Request.value (r : Request) : Except BodyError Json :=
  if !r.isJson then .error .unsupportedType
  else match (Utf8.write r.body).toOption.bind Json.textOfBytes with
    | none => .error .unreadable
    | some t => match Json.readWithin Json.maxDepth t with
      | .ok v => .ok v
      | .error (.tooDeep what) => .error (.tooDeep what)
      | .error _ => .error .unreadable

end Scribe.Web
