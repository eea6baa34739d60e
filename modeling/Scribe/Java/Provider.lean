import Scribe.Exchange
import Scribe.Generator.Prompt
import Scribe.Json.Access
import Scribe.Text.Percent

/-!
# Providers of Java documentation

Three servers document Java files. They differ in the model service they ask: where its key is
found, how it is asked and where its answer stands.
-/

namespace Scribe

/-- A model service that documents Java files. -/
inductive Provider where
  | gemini
  | llama
  | deepseek
  deriving DecidableEq, Repr

namespace Provider

/-- The environment variable with the key. -/
def keyVariable : Provider → String
  | gemini => "GEMINI_API_KEY"
  | llama => "LLAMA-90B_API_KEY"
  | deepseek => "DeepSeek_API_KEY"

/-- The message when the environment has no key. -/
def noKey : Provider → String
  | gemini => "GEMINI_API_KEY environment variable is not set"
  | _ => "OPENROUTER_API_KEY environment variable is not set"

/-- Whether the key goes into the address of the service; else it goes into a header. -/
def keyInAddress : Provider → Bool
  | gemini => true
  | _ => false

/-- The address of the service, where `key` was the key when the server started. -/
def address (p : Provider) (key : Text) : Text :=
  if p.keyInAddress then
    "https://generativelanguage.googleapis.com/v1/models/gemini-pro:generateContent?key=" ++ key
  else "https://openrouter.ai/api/v1/chat/completions"

/-- The model asked of services that have several. -/
def model : String := "meta-llama/llama-3.2-90b-vision-instruct:free"

/-- The body that puts a prompt to the service. -/
def body (p : Provider) (prompt : Text) : Json :=
  if p.keyInAddress then
    .obj [("contents", .arr [.obj [("parts", .arr [.obj [("text", .str prompt)]])]])]
  else
    .obj
      [("model", .str model),
       ("messages", .arr
         [.obj
           [("role", .str "user"),
            ("content", .arr [.obj [("type", .str "text"), ("text", .str prompt)]])]])]

/-- The field of an answer that holds the choices. -/
def choicesField : Provider → String
  | gemini => "candidates"
  | _ => "choices"

/-- The text in the first of some choices. -/
def textOf (p : Provider) (choices : Json) : Except Json.AccessError Json := do
  let choice ← choices.first
  if p.keyInAddress then
    let content ← choice.fieldD "content" (.obj [])
    let parts ← content.fieldD "parts" (.arr [.obj []])
    let part ← parts.first
    part.fieldD "text" .null
  else
    let message ← choice.field "message"
    message.field "content"

/-- The text of an answer, if the answer has choices. -/
def answerOf (p : Provider) (v : Json) : Except Json.AccessError (Option Json) := do
  if !(← v.mentions p.choicesField) then return none
  let choices ← v.field p.choicesField
  if !choices.isTruthy then return none
  some <$> p.textOf choices

end Provider

end Scribe
