import Scribe.Exchange
import Scribe.Generator.Prompt
import Scribe.Json.Access
import Scribe.Text.Percent

/-!
# The client of the model service

`Client.call` asks the model once and tries again while the exchange fails, up to the number of
attempts of the client. After a failed attempt it pauses, longer each time; after a refused
request it tries again at once.
-/

namespace Scribe

/-- A client of the model service. Its settings are whatever the caller gave; those that cannot be
used fail when they are needed. -/
structure Client where
  key : Json
  model : Json
  maxTokens : Json
  maxRetries : Json
  retryDelay : Json
  /-- The machine that the client prints and pauses on. -/
  machine : Machine

namespace Client

/-- Neither the caller nor the environment gives a key. -/
def noKey : String := "GEMINI_API_KEY not provided and not found in environment"

/-- The environment variable with the key. -/
def keyVariable : String := "GEMINI_API_KEY"

/-- Settings that callers may leave out. -/
structure Settings where
  key : Json := .null
  model : Json := .str "gemini-2.0-flash"
  maxTokens : Json := .int 1000
  maxRetries : Json := .int 3
  retryDelay : Json := .int 1

/-- A client with the given key, or else the key of the environment; an empty key is none. -/
def create (s : Settings) (environmentKey : Option Text) (machine : Machine) :
    Except String Client :=
  let ofEnvironment : Json := .str (environmentKey.getD "")
  let key := if s.key.isTruthy then s.key else ofEnvironment
  if key.isTruthy then .ok ⟨key, s.model, s.maxTokens, s.maxRetries, s.retryDelay, machine⟩
  else .error noKey

/-- Where the model is asked, whatever the model of the client. -/
def endpoint : String :=
  "https://generativelanguage.googleapis.com/v1beta/models/gemini-2.0-flash:generateContent"

/-- Three tenths. -/
def temperature : Binary64 := .ofDecimal false 3 (-1)

/-- Eight tenths. -/
def topP : Binary64 := .ofDecimal false 8 (-1)

/-- The parts of a key: those of a list, the names of an object, else the key itself. -/
def keyParts : Json → List Json
  | .arr items => items
  | .obj fields => fields.map fun f => .str f.1
  | key => [key]

/-- The values that a part of a key stands for. -/
def partValues : Json → List Json
  | .null => []
  | .arr items => items
  | .obj fields => fields.map fun f => .str f.1
  | v => [v]

/-- Why a key has no place in an address. -/
inductive AddressError where
  | unwritable (e : Utf8.LoneHalves)
  /-- The key cannot be put into a text. -/
  | unshown (o : Json.Obstacle)
  deriving DecidableEq, Repr

def AddressError.message : AddressError → String
  | unwritable e => e.message
  | unshown o => o.message .literal

/-- A value as it stands in an address. -/
def encoded (v : Json) : Except AddressError String :=
  match v.obstacle? .literal with
  | some o => .error (.unshown o)
  | none => (Text.formEncode v.display).mapError .unwritable

/-- The address with the key as a query parameter, once for each value of the key. Parts that are
texts are the first to be written. -/
def url (c : Client) : Except AddressError String := do
  let parts := keyParts c.key
  let _ ← (parts.filterMap Json.text?).mapM fun t => (Utf8.write t).mapError .unwritable
  let values ← (parts.flatMap partValues).mapM encoded
  return match values with
    | [] => endpoint
    | values => endpoint ++ "?" ++ "&".intercalate (values.map ("key=" ++ ·))

/-- The request that puts a prompt to the model at an address. -/
def request (c : Client) (url : String) (prompt : Json) : Request :=
  .post url
    (.obj
      [("contents", .arr [.obj [("parts", .arr [.obj [("text", prompt)]])]]),
       ("generationConfig", .obj
         [("maxOutputTokens", c.maxTokens), ("temperature", .float temperature),
          ("topP", .float topP), ("topK", .int 40)])])
    none (some 30)

/-- The text of the first part of the first candidate, if the value has candidates with parts. -/
def answerOf (v : Json) : Except Json.AccessError (Option Json) := do
  if !(← v.mentions "candidates") then return none
  let candidates ← v.field "candidates"
  if !candidates.isTruthy then return none
  let candidate ← candidates.first
  if !(← candidate.mentions "content") then return none
  let content ← candidate.field "content"
  if !(← content.mentions "parts") then return none
  let parts ← content.field "parts"
  let part ← parts.first
  some <$> part.fieldD "text" (.str "")

/-- What one attempt has come to. -/
inductive Attempt where
  /-- The request was refused as ill-formed. -/
  | refused (text : String)
  /-- The exchange failed. -/
  | failed (message : String)
  /-- Something else failed. -/
  | broken (message : String)
  /-- A value without an answer in it. -/
  | shapeless (v : Json)
  | answered (v : Json)

/-- Judges the outcome of an exchange. -/
def judge (url : String) (outcome : Except Failure Response) : Attempt :=
  match outcome with
  | .ok ⟨400, _, body⟩ => .refused body
  | _ =>
    match yieldOf url outcome with
    | .failed message => .failed message
    | .broken message => .broken message
    | .value v =>
      match answerOf v with
      | .ok (some answer) => .answered answer
      | .ok none => .shapeless v
      | .error e => .broken e.message

/-- Why a call breaks off. -/
inductive CallError where
  /-- The number of attempts is a value of a kind that is no integer. -/
  | attemptsNotWhole (kind : String)
  /-- The delay is a value of a kind that has no multiples. -/
  | delayNotMultiplied (kind : String)
  /-- The clock refuses the pause. -/
  | pause (e : PauseError)
  deriving DecidableEq, Repr

def CallError.message : CallError → String
  | attemptsNotWhole kind => "'" ++ kind ++ "' object cannot be interpreted as an integer"
  | delayNotMultiplied kind => "unsupported operand type(s) for *: '" ++ kind ++ "' and 'int'"
  | pause e => e.message

/-- The number of attempts of a client. -/
def attemptCount (c : Client) : Except CallError Nat :=
  match c.maxRetries.integer? with
  | some n => .ok n.toNat
  | none => .error (.attemptsNotWhole c.maxRetries.kind)

/-- The pause after some attempts. Multiples of texts and lists are no numbers. -/
def pauseAfter (c : Client) (made : Nat) : Except CallError Seconds :=
  let noNumber (kind : String) : Except CallError Seconds :=
    .error (.pause (c.machine.clock.noNumber kind))
  match c.retryDelay with
  | .bool b => .ok (.whole (if b then made else 0))
  | .int n => .ok (.whole (n * made))
  | .float x => .ok (.binary (x.times made))
  | .str s => noNumber (Json.str s).kind
  | .arr items => noNumber (Json.arr items).kind
  | v => .error (.delayNotMultiplied v.kind)

/-- Pauses after some attempts. -/
def pause (c : Client) (made : Nat) : Work Script (Except CallError Unit) :=
  match c.pauseAfter made with
  | .error e => pure (.error e)
  | .ok seconds =>
    match c.machine.clock.refusal? seconds with
    | some e => pure (.error (.pause e))
    | none => do
      Work.tell (.slept seconds)
      return .ok ()

/-- Puts a prompt to the model once. -/
def attempt (c : Client) (prompt : Json) : Work Script Attempt :=
  match c.url with
  | .error e => pure (.broken e.message)
  | .ok url => do return judge url (← send (c.request url prompt))

/-- Tells of a failure that is not the exchange's. -/
def giveUp (message : String) : Work Script (Except CallError Json) := do
  Work.print ("Unexpected error: " ++ message)
  return .ok (.str ("Error: " ++ message))

/-- The line that tells of a value without an answer. -/
def unexpected (v : Json) : Text := "Unexpected API response: " ++ v.display

/-- Makes up to `left` attempts, `made` having been made before. -/
def attempts (c : Client) (prompt : Json) :
    (left made : Nat) → Work Script (Except CallError Json)
  | 0, _ => pure (.ok .null)
  | left + 1, made => do
    match ← c.attempt prompt with
    | .refused text =>
      Work.print ("API Error Response: " ++ text)
      if left = 0 then return .ok (.str "Error: Invalid request format")
      else c.attempts prompt left (made + 1)
    | .failed message =>
      Work.print ("API request error (attempt " ++ toString (made + 1) ++ "): " ++ message)
      if left = 0 then return .ok (.str ("Error: API request failed - " ++ message))
      else
        match ← c.pause (made + 1) with
        | .error e => return .error e
        | .ok () => c.attempts prompt left (made + 1)
    | .broken message => giveUp message
    | .shapeless v =>
      match ← c.machine.console.print (unexpected v) with
      | .error message => giveUp message
      | .ok () => return .ok .null
    | .answered v => return .ok v

/-- Puts a prompt to the model. -/
def call (c : Client) (prompt : Json) : Work Script (Except CallError Json) :=
  match c.attemptCount with
  | .error e => pure (.error e)
  | .ok count => c.attempts prompt count 0

end Client

end Scribe
