import Scribe.Launch

/-!
# Command line

`scribe [service | gemini | llama | deepseek | trial]` launches one of the programs, by default
the documentation service, with the keys of the environment.
-/

namespace Scribe

/-- The program that the command line names. -/
def Program.ofArguments : List String → Option Program
  | [] => some .service
  | ["service"] => some .service
  | ["gemini"] => some (.java .gemini)
  | ["llama"] => some (.java .llama)
  | ["deepseek"] => some (.java .deepseek)
  | ["trial"] => some .trial
  | _ => none

/-- The environment variables that hold keys. -/
def keyVariables : List String :=
  [Provider.gemini, Provider.llama, Provider.deepseek].map Provider.keyVariable

/-- Prints what others are to see of a run. -/
def showEvent : Event → IO Unit
  | .printed line => IO.println line
  | _ => pure ()

end Scribe

open Scribe in
def main (args : List String) : IO UInt32 := do
  match Program.ofArguments args with
  | none =>
    IO.eprintln "usage: scribe [service | gemini | llama | deepseek | trial]"
    return 2
  | some program =>
    let mut session := Session.fresh .keeping ⟨Volume.blank "/", Toolkit.fresh true⟩
    for name in keyVariables do
      session := session.setVariable name ((← IO.getEnv name).map Text.ofString)
    let done := program.launch.run session
    done.events.forM showEvent
    match done.value with
    | .ok _ => return 0
    | .error e =>
      IO.eprintln e.message
      return 1
