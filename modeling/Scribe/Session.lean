import Scribe.Files.Change
import Scribe.Web.JavaDocs
import Scribe.Web.Process

/-!
# Sessions

A session holds all that lasts from one operation to the next: machine, files, toolkit, environment,
parsers, replies to come, and the services that have been started. A service is started when it is
first needed; a start that fails is tried again the next time.
-/

namespace Scribe

/-- Everything that lasts from one operation to the next. -/
structure Session extends Registry where
  machine : Machine
  workspace : Workspace
  /-- Environment variables; later settings come first. -/
  environment : List (String × Option Text)
  script : Script
  /-- The client that callers made for themselves. -/
  client : Option Client
  /-- The client of the documentation service, once started. -/
  serviceClient : Option Client
  /-- The Java servers that have been started, the current form of each first. -/
  servers : List JavaServer

namespace Session

/-- A session in which nothing has happened. -/
def fresh (machine : Machine) (workspace : Workspace) : Session :=
  ⟨.fresh, machine, workspace, [], [], none, none, []⟩

/-- The value of an environment variable. -/
def lookupVariable (s : Session) (name : String) : Option Text :=
  ((s.environment.find? (·.1 = name)).map (·.2)).join

/-- Why an environment variable cannot have a value. -/
inductive VariableError where
  /-- Values of this kind are no texts. -/
  | notAText (kind : String)
  | unwritable (e : Utf8.LoneHalves)
  | nul
  deriving DecidableEq, Repr

def VariableError.message : VariableError → String
  | notAText kind => "str expected, not " ++ kind
  | unwritable e => e.message
  | nul => "embedded null byte"

/-- The text that an environment variable has when a value is given to it. Null takes it away. -/
def variableText : Json → Except VariableError (Option Text)
  | .null => .ok none
  | .str t =>
    match Utf8.kept t with
    | .error e => .error (.unwritable e)
    | .ok kept => if Path.hasNul kept then .error .nul else .ok (some kept)
  | v => .error (.notAText v.kind)

/-- Sets or unsets an environment variable. -/
def setVariable (s : Session) (name : String) (value : Option Text) : Session :=
  { s with environment := (name, value) :: s.environment }

/-- Gives values to environment variables one after the other. The first value that cannot be
given ends it. -/
def assignVariables : List (String × Json) → Work Session (Except VariableError Unit)
  | [] => pure (.ok ())
  | (name, value) :: rest => do
    match variableText value with
    | .error e => return .error e
    | .ok text =>
      Work.set ((← Work.get).setVariable name text)
      assignVariables rest

variable {α : Type}

def onRegistry (w : Work Registry α) : Work Session α :=
  w.on (·.toRegistry) fun registry s => { s with toRegistry := registry }

def onScript (w : Work Script α) : Work Session α :=
  w.on (·.script) fun script s => { s with script := script }

def onVolume (w : Work Volume α) : Work Session α :=
  w.on (·.workspace.volume) fun volume s =>
    { s with workspace := { s.workspace with volume := volume } }

def onService (w : Work ServiceState α) : Work Session α :=
  w.on (fun s => ⟨s.toRegistry, s.script⟩) fun state s =>
    { s with toRegistry := state.toRegistry, script := state.script }

/-- Gives the handler of the parsers, whose table is opened. -/
def openHandler : Work Session Handler := do
  let s ← Work.get
  onRegistry (Registry.openHandler s.workspace.toolkit)

/-- The grammar of the parser that the handler has for a choice of language. -/
def grammarFor (choice : Language.Choice) :
    Work Session (Except Json.AccessError (Option String)) := do
  let _ ← openHandler
  return (← Work.get).parsers.lookup choice

/-- The methods of all files of a language below a directory. -/
def repositoryMethods (directory : Json) (choice : Language.Choice) :
    Work Session (Except SearchError (Except RepositoryError (List FileEntry))) := do
  let s ← Work.get
  onRegistry (s.workspace.repositoryMethods directory choice)

/-- Makes a client for the caller. A failure leaves the old one in place. -/
def newClient (settings : Client.Settings) : Work Session (Except String Client) := do
  let s ← Work.get
  match Client.create settings (s.lookupVariable Client.keyVariable) s.machine with
  | .error message => return .error message
  | .ok c =>
    Work.set { s with client := some c }
    return .ok c

/-- The documentation service, started if need be. -/
def service : Work Session (Except String Service) := do
  let s ← Work.get
  match s.serviceClient with
  | some c => return .ok ⟨s.workspace, c⟩
  | none =>
    match Client.create {} (s.lookupVariable Client.keyVariable) s.machine with
    | .error message => return .error message
    | .ok c =>
      Work.set { s with serviceClient := some c }
      return .ok ⟨s.workspace, c⟩

/-- A Java server, started if need be. -/
def server (p : Provider) : Work Session (Except String JavaServer) := do
  let s ← Work.get
  match s.servers.find? (·.provider = p) with
  | some server => return .ok server
  | none =>
    match JavaServer.start p (s.lookupVariable p.keyVariable) with
    | .error message => return .error message
    | .ok server =>
      Work.set { s with servers := server :: s.servers }
      return .ok server

/-- Changes the key that a Java server uses. -/
def setKey (p : Provider) (key : Json) : Work Session (Except String Unit) := do
  match ← server p with
  | .error message => return .error message
  | .ok old =>
    let s ← Work.get
    Work.set { s with servers := { old with key := key } :: s.servers }
    return .ok ()

/-- Why a request to a service has no answer. -/
inductive AskError where
  | notStarted (message : String)
  | request (e : Web.RequestError)

def AskError.message : AskError → Text
  | notStarted message => message
  | request e => e.message

/-- Sends a request to the documentation service. -/
def askService (r : Web.Request) : Work Session (Except AskError Web.Answer) := do
  match ← service with
  | .error message => return .error (.notStarted message)
  | .ok service => return (← onService (service.routes.serve r)).mapError .request

/-- Sends a request to a Java server. -/
def askServer (p : Provider) (r : Web.Request) : Work Session (Except AskError Web.Answer) := do
  match ← server p with
  | .error message => return .error (.notStarted message)
  | .ok server =>
    let s ← Work.get
    return (← onScript ((server.routes s.workspace.volume).serve r)).mapError .request

end Session

end Scribe
