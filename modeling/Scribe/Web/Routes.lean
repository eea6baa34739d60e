import Scribe.Text.Capitals
import Scribe.Web.Target
import Scribe.Work

/-!
# Routes

Each service has a home page, which is asked for, and one place to which values are posted. It
would also hand out files below a fixed path, of which there are none.
-/

namespace Scribe.Web

/-- The routes of a service over a state `σ`. -/
structure Routes (σ : Type) where
  /-- The text of the home page. -/
  home : String
  /-- The place to which values are posted. -/
  place : String
  /-- Answers a posted request. -/
  post : Request → Work σ Answer

/-- A route of a service. -/
inductive Route where
  | home
  | post
  | file
  deriving DecidableEq, Repr

/-- The methods that a route has. -/
def Route.methods : Route → List Text
  | post => ["POST", "OPTIONS"]
  | _ => ["GET", "HEAD", "OPTIONS"]

/-- Whether a path is that of a file to hand out: it names something on one line. -/
def isFilePath (path : List Char) : Bool :=
  "/static/".toList.isPrefixOf path && match path.drop "/static/".length with
    | [] => false
    | c :: rest => c ≠ '/' && !rest.contains '\n'

/-- The route of a path in a service with the given place. -/
def routeOf (place : String) (path : List Char) : Option Route :=
  if path = ['/'] then some .home
  else if path = place.toList then some .post
  else if isFilePath path then some .file
  else none

/-- Where a request is led. -/
inductive Lead where
  | route (r : Route)
  /-- To another path. -/
  | elsewhere (path : List Char)
  | wrongMethod
  | wrongScheme
  | nowhere
  deriving DecidableEq, Repr

/-- Where a request for exactly this path is led. An empty path lacks the slash of the home page. -/
def leadFor (place : String) (method : Text) (isSocket : Bool) (path : List Char) : Lead :=
  if path.isEmpty then
    if Route.home.methods.contains method && !isSocket then .elsewhere ['/'] else .nowhere
  else match routeOf place path with
    | none => .nowhere
    | some r =>
      if !r.methods.contains method then .wrongMethod
      else if isSocket then .wrongScheme
      else .route r

/-- A path with one slash for every two. -/
def mergeSlashes : List Char → List Char
  | '/' :: '/' :: rest => '/' :: mergeSlashes rest
  | c :: rest => c :: mergeSlashes rest
  | [] => []

/-- Where a request for a path is led. A path that leads nowhere is tried with merged slashes. -/
def lead (place : String) (method : Text) (isSocket : Bool) (path : List Char) : Lead :=
  match leadFor place method isSocket path with
  | .route r => .route r
  | .elsewhere path => .elsewhere path
  | first =>
    let merged := mergeSlashes path
    match leadFor place method isSocket merged with
    | .route _ => .elsewhere merged
    | .elsewhere path => .elsewhere path
    | second => if first = .nowhere then second else first

/-- An answer without a body. -/
def emptyAnswer : Answer := .text 200 ""

/-- An answer as it is given to a request: to a question for the head alone, without the body. -/
def Answer.trimmed (a : Answer) (r : Request) : Answer :=
  if r.method = "HEAD" then { a with body := "" } else a

/-- Answers a request for a target. Methods are told apart without regard to case. -/
def Routes.handle {σ : Type} (routes : Routes σ) (r : Request) (t : Target) : Work σ Answer :=
  let method := Text.capitals r.method
  let answer (a : Answer) : Work σ Answer := pure (a.trimmed r)
  if !t.hasServer then answer badRequest
  else match lead routes.place method t.isSocket t.place with
    | .nowhere => answer notFound
    | .wrongScheme => answer badRequest
    | .wrongMethod => answer methodNotAllowed
    | .elsewhere path => answer (redirect (t.address path))
    | .route route =>
      if method = "OPTIONS" then pure emptyAnswer
      else match route with
        | .home => answer (.text 200 routes.home)
        | .post => routes.post r
        | .file => answer notFound

/-- Answers a request that can be sent. -/
def Routes.serve {σ : Type} (routes : Routes σ) (r : Request) :
    Work σ (Except RequestError Answer) :=
  match r.aim with
  | .error e => pure (.error e)
  | .ok t => do return .ok (← routes.handle r t)

end Scribe.Web
