import Scribe.Json.Reader
import Scribe.Machine
import Scribe.Text.Quoted

/-!
# Exchanges with a model service

A request is answered by a response or fails. What the other side will do is a script of replies,
one for each request sent; past the end of the script every request fails to connect.
-/

namespace Scribe

/-- The kinds of failures. -/
inductive FailureKind where
  | request
  | connection
  | timeout
  | readTimeout
  | connectTimeout
  | secureLayer
  | proxy
  | status
  | redirects
  | chunks
  | address
  | header
  | content
  | runtime
  | value
  | key
  | system
  | type
  | systemConnection
  | encoding
  | recursion
  deriving DecidableEq, Repr

/-- Whether the exchange itself failed, and not the program around it. -/
def FailureKind.ofExchange : FailureKind → Bool
  | runtime => false
  | value => false
  | key => false
  | system => false
  | type => false
  | systemConnection => false
  | encoding => false
  | recursion => false
  | _ => true

/-- A failure that takes the place of a response. -/
structure Failure where
  kind : FailureKind
  detail : String
  deriving DecidableEq, Repr

/-- The text of a failure. A missing key is shown in quotes. -/
def Failure.message (f : Failure) : String :=
  if f.kind = .key then Text.quoted f.detail else f.detail

/-- The failure of a request past the end of the script. -/
def Failure.exhausted : Failure := ⟨.connection, "script exhausted"⟩

/-- The failure of something that cannot be written as bytes. -/
def Failure.unwritable (e : Utf8.LoneHalves) : Failure := ⟨.encoding, e.message⟩

structure Response where
  status : Int
  reason : String
  body : String
  deriving DecidableEq, Repr

/-- The error that a status stands for. -/
def Response.statusError? (x : Response) (url : String) : Option String :=
  let told (side : String) : Option String :=
    some (toString x.status ++ " " ++ side ++ " Error: " ++ x.reason ++ " for url: " ++ url)
  if 400 ≤ x.status ∧ x.status < 500 then told "Client"
  else if 500 ≤ x.status ∧ x.status < 600 then told "Server"
  else none

/-- What the other side does on one request. -/
inductive Reply where
  | response (x : Response)
  | failure (f : Failure)

/-- The replies still to come. -/
abbrev Script := List Reply

/-- A header value may hold no line break, save a line feed at its very end. -/
def isHeaderValue (t : Text) : Bool :=
  let cs := t.symbols
  let front := if cs.getLast? = some (.char '\n') then cs.dropLast else cs
  !front.contains (.char '\n') && !front.contains (.char '\r')

/-- The failure of a request with a header that cannot be sent. -/
def Failure.badHeader (value : Text) : Failure :=
  ⟨.header, "Invalid leading whitespace, reserved character(s), or return character(s) in header "
    ++ "value: " ++ Text.quoted value⟩

/-- The failure of a request with a body that cannot be written. -/
def Failure.badBody (o : Json.Obstacle) : Failure :=
  ⟨if o = .tooDeep then .recursion else .content, o.message .strict⟩

/-- Sends a request and waits for its reply. A request whose header cannot be sent, or whose body
cannot be written, stays unsent. -/
def send (r : Request) : Work Script (Except Failure Response) := fun script =>
  match r.authorization.filter (fun value => !isHeaderValue value) with
  | some value => ⟨.error (.badHeader value), script, []⟩
  | none =>
    match r.body.obstacle? .strict with
    | some o => ⟨.error (.badBody o), script, []⟩
    | none =>
      match script with
      | [] => ⟨.error .exhausted, [], [.sent r]⟩
      | .response x :: rest => ⟨.ok x, rest, [.sent r]⟩
      | .failure f :: rest => ⟨.error f, rest, [.sent r]⟩

/-- A request with a value as its body. -/
def Request.post (url : String) (body : Json) (authorization : Option Text)
    (timeout : Option Nat) : Request :=
  ⟨"POST", url, timeout, "application/json", authorization, body⟩

/-- What a reply comes to for one who wants the value in its body. -/
inductive Yield where
  | value (v : Json)
  /-- The exchange failed. -/
  | failed (message : String)
  /-- Something else failed. -/
  | broken (message : String)

/-- Takes the value out of a reply: the status must not stand for an error and the body must be
readable. -/
def yieldOf (url : String) : Except Failure Response → Yield
  | .error f => if f.kind.ofExchange then .failed f.message else .broken f.message
  | .ok x =>
    match x.statusError? url with
    | some message => .failed message
    | none =>
      match Json.read x.body with
      | .ok v => .value v
      | .error e => if e.isLimit then .broken e.message else .failed e.message

end Scribe
