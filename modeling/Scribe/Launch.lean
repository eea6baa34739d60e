import Scribe.Session

/-!
# Programs that can be launched

The documentation service, the Java servers, and a small program that sends one trial request.
-/

namespace Scribe

/-- A program that can be launched. -/
inductive Program where
  | service
  | java (p : Provider)
  | trial
  deriving DecidableEq, Repr

/-- How a program ended. -/
inductive Ending where
  | finished
  /-- The program gave up on its own. -/
  | gaveUp
  deriving DecidableEq, Repr

/-- Why a program broke off. -/
inductive LaunchError where
  | notStarted (message : String)
  | failure (f : Failure)
  deriving DecidableEq, Repr

def LaunchError.message : LaunchError → String
  | notStarted message => message
  | failure f => f.message

namespace Program

def banner : String := "Flask server is running on http://127.0.0.1:5000"

/-- Announces a service and puts it into operation. -/
def serve : Work Session Unit := do
  Work.print banner
  Work.tell (.served "0.0.0.0" 5000)

/-- The trial request. -/
def trialRequest (key : Text) : Request :=
  .post "https://api.llama.ai/v1/generateContent"
    (.obj [("contents", .arr [.obj [("parts", .arr [.obj [("text", .str "Test request")]])]])])
    (some ("Bearer " ++ key)) none

/-- Sends the trial request and prints what comes back. -/
def runTrial (key : Option Text) : Work Script (Except LaunchError Ending) :=
  match key.filter (!·.isEmpty) with
  | none => do
    Work.print "Error: API key not found."
    return .ok .gaveUp
  | some key => do
    match ← send (trialRequest key) with
    | .ok x =>
      Work.print ("Status Code: " ++ toString x.status)
      Work.print ("Response: " ++ x.body)
      return .ok .finished
    | .error f =>
      if f.kind.ofExchange then
        Work.print ("API Request Error: " ++ f.message)
        return .ok .finished
      else return .error (.failure f)

/-- Launches a program. -/
def launch : Program → Work Session (Except LaunchError Ending)
  | service => do
    match ← Session.service with
    | .error message => return .error (.notStarted message)
    | .ok _ =>
      serve
      Work.print "Flask server stopped."
      return .ok .finished
  | java p => do
    match JavaServer.start p ((← Work.get).lookupVariable p.keyVariable) with
    | .error message => return .error (.notStarted message)
    | .ok _ =>
      serve
      return .ok .finished
  | trial => do
    let s ← Work.get
    Session.onScript (runTrial (s.lookupVariable Provider.llama.keyVariable))

end Program

end Scribe
