import Scribe.Proofs.Generator.Documentation

/-!
# The lines of a call

Warnings are told apart from other lines by their first word. The client prints a line for each
attempt that fails and for each failure to document a method, but none of them is a warning: so the
warnings of a run are those of its parsers.

## Main results

* `Client.quiet_call`, `Client.quiet_documentSubjects`: the client gives no warning.
-/

namespace Scribe

/-- The warnings printed among some events. -/
def Event.warnings (events : List Event) : List Text :=
  (lines events).filter (·.startsWith "Warning: ")

namespace Event

@[simp]
theorem warnings_nil : warnings [] = [] := rfl

@[simp]
theorem warnings_append (a b : List Event) : warnings (a ++ b) = warnings a ++ warnings b := by
  simp [warnings]

end Event

namespace Work

variable {σ α β : Type}

/-- Work that gives no warning. -/
def Quiet (w : Work σ α) : Prop := ∀ s, Event.warnings (w.run s).events = []

theorem quiet_pure (a : α) : (pure a : Work σ α).Quiet := fun _ => rfl

theorem quiet_slept (t : Seconds) : (tell (.slept t) : Work σ Unit).Quiet := fun _ => rfl

theorem Quiet.bind {w : Work σ α} {f : α → Work σ β} (hw : w.Quiet) (hf : ∀ a, (f a).Quiet) :
    (w >>= f).Quiet := by
  intro s
  rw [run_bind, Event.warnings_append, hw, hf, List.append_nil]

/-- A line that begins differently is no warning. -/
theorem warnings_printed_of_start {start : Text} (rest : Text)
    (hlength : (Text.symbols "Warning: ").length ≤ start.symbols.length)
    (hstart : start.startsWith "Warning: " = false) :
    Event.warnings [.printed (start ++ rest)] = [] := by
  have hline := Text.startsWith_append_of_le rest hlength
  simp [Event.warnings, Event.lines, hline, hstart]

theorem quiet_print {start : String} (rest : String)
    (hlength : (Text.symbols "Warning: ").length ≤ (Text.symbols start).length)
    (hstart : Text.startsWith start "Warning: " = false) :
    (print (start ++ rest) : Work σ Unit).Quiet := by
  intro s
  rw [run_print, Text.ofString_append]
  exact warnings_printed_of_start rest hlength hstart

theorem quiet_printOn (console : Console) {start : Text} (rest : Text)
    (hlength : (Text.symbols "Warning: ").length ≤ start.symbols.length)
    (hstart : start.startsWith "Warning: " = false) :
    (console.print (start ++ rest) : Work σ _).Quiet := by
  intro s
  rw [Console.run_print]
  split
  · rfl
  · exact warnings_printed_of_start rest hlength hstart

end Work

open Work

theorem quiet_send (r : Request) : (send r).Quiet := by
  intro script
  simp only [Work.run, send]
  split
  · rfl
  · split
    · rfl
    · split <;> rfl

namespace Client

theorem quiet_pause (c : Client) (made : Nat) : (c.pause made).Quiet := by
  unfold pause
  split
  · exact quiet_pure _
  · split
    · exact quiet_pure _
    · exact (quiet_slept _).bind fun _ => quiet_pure _

theorem quiet_attempt (c : Client) (prompt : Json) : (c.attempt prompt).Quiet := by
  unfold attempt
  split
  · exact quiet_pure _
  · exact (quiet_send _).bind fun _ => quiet_pure _

theorem quiet_giveUp (message : String) : (giveUp message).Quiet :=
  (quiet_print _ (by decide) (by decide)).bind fun _ => quiet_pure _

theorem quiet_attempts (c : Client) (prompt : Json) (left made : Nat) :
    (c.attempts prompt left made).Quiet := by
  induction left generalizing made with
  | zero => exact quiet_pure _
  | succ left ih =>
    refine (c.quiet_attempt prompt).bind fun attempt => ?_
    cases attempt with
    | refused text =>
      refine (quiet_print _ (by decide) (by decide)).bind fun _ => ?_
      split
      · exact quiet_pure _
      · exact ih _
    | failed message =>
      simp only [String.append_assoc]
      refine (quiet_print _ (by decide) (by decide)).bind fun _ => ?_
      split
      · exact quiet_pure _
      · refine (c.quiet_pause _).bind fun paused => ?_
        split
        · exact quiet_pure _
        · exact ih _
    | broken message => exact quiet_giveUp message
    | shapeless v =>
      refine (quiet_printOn _ _ (by decide) (by decide)).bind fun printed => ?_
      split
      · exact quiet_giveUp _
      · exact quiet_pure _
    | answered v => exact quiet_pure _

theorem quiet_call (c : Client) (prompt : Json) : (c.call prompt).Quiet := by
  unfold call
  split
  · exact quiet_pure _
  · exact c.quiet_attempts prompt _ 0

theorem quiet_documentEach (c : Client) (language : Json) (done : Documentation)
    (subjects : List (Except Json.AccessError Prompt.Subject)) :
    (c.documentEach language done subjects).Quiet := by
  induction subjects generalizing done with
  | nil => exact quiet_pure _
  | cons subject rest ih =>
    cases subject with
    | error e => exact quiet_pure _
    | ok s =>
      unfold documentEach
      split
      · exact ih done
      · split
        · exact quiet_pure _
        · refine (c.quiet_call _).bind fun answer => ?_
          split
          · exact quiet_pure _
          · split
            · exact quiet_pure _
            · exact ih _

theorem quiet_settle (outcome : Except String Documentation) : (settle outcome).Quiet := by
  cases outcome with
  | ok d => exact quiet_pure d
  | error message => exact (quiet_print _ (by decide) (by decide)).bind fun _ => quiet_pure _

theorem quiet_documentSubjects (c : Client) (language : Json)
    (subjects : List (Except Json.AccessError Prompt.Subject)) :
    (c.documentSubjects language subjects).Quiet :=
  (c.quiet_documentEach language [] subjects).bind quiet_settle

end Client

end Scribe
