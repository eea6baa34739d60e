import Scribe.Proofs.Basic
import Scribe.Proofs.Generator.Call
import Scribe.Web.Process

/-!
# The documentation of one method

Documenting one method is one call of the model. The text that the method gets is a function of its
name and of what the call came to. The method counts as failed exactly if the call broke off or
answered with something that is neither text nor nothing, unless the method has the name under
which failures are told.

## Main results

* `Client.run_documentSubjects`: documenting one method is one call.
* `methodReport_told`: what a report has of it.
-/

namespace Scribe

namespace Client

/-- What a call tells about a method, or why it tells nothing. -/
def told : Except CallError Json → Except String Text
  | .error e => .error e.message
  | .ok answer => (describe answer).mapError (·.message)

/-- The result of documenting one method of which something is told. -/
def resultOf (name : String) : Except String Text → Documentation
  | .ok text => [(.str name, text)]
  | .error message => failure message

/-- The text that a method gets. -/
def textFor (name : String) : Except String Text → Text
  | .ok text => text
  | .error message =>
    if name = "error" then "Error generating structured documentation: " ++ message
    else "Failed to generate documentation"

/-- Whether a method counts as failed. -/
def countsAsFailed (name : String) : Except String Text → Bool
  | .ok _ => false
  | .error _ => name ≠ "error"

/-- The text that stands for a failed call. -/
def failedText (why : Text) : Text := "Failed to generate documentation: " ++ why

/-- An answer is nothing, or something that is no text and cannot be described, or a text. -/
theorem describe_cases (answer : Json) :
    (answer.isTruthy = false ∧ describe answer = .ok (failedText "Unknown error")) ∨
    (answer.isTruthy = true ∧ answer.text? = none ∧
      describe answer = .error (.noOperation answer.kind "startswith")) ∨
    ∃ s : Text, answer = .str s ∧ s.isEmpty = false ∧
      describe answer = .ok (if s.startsWith "Error:" then failedText s else s) := by
  cases htruthy : answer.isTruthy with
  | false => exact .inl ⟨rfl, by simp [describe, htruthy, failedText]⟩
  | true =>
    cases answer with
    | str s =>
      have hne : s.isEmpty = false := by simpa [Json.isTruthy] using htruthy
      exact .inr (.inr ⟨s, rfl, hne, by simp [describe, htruthy, Json.startsWith, failedText]⟩)
    | _ => exact .inr (.inl ⟨rfl, rfl, by simp [describe, htruthy, Json.startsWith]⟩)

/-- A text that tells an error is told as the reason of a failure. -/
theorem describe_of_error {s : Text} (h : s.startsWith "Error:" = true) :
    describe (.str s) = .ok (failedText s) := by
  have hne : s.isEmpty = false := by
    rw [Text.startsWith, List.isPrefixOf_iff_prefix] at h
    cases hs : s.symbols with
    | nil =>
      rw [hs, List.prefix_nil] at h
      exact absurd h (by decide)
    | cons a rest => simp [Text.isEmpty, hs]
  simp [describe, Json.isTruthy, hne, Json.startsWith, h, failedText]

theorem failedText_text (why : Text) :
    (failedText why).isEmpty = false ∧ (failedText why).startsWith "Error:" = false := by
  refine ⟨rfl, ?_⟩
  rw [failedText, Text.startsWith_append_of_le why (by decide)]
  decide

/-- A description is a text that does not look like an error. -/
theorem describe_text {answer : Json} {text : Text} (h : describe answer = .ok text) :
    text.isEmpty = false ∧ text.startsWith "Error:" = false := by
  obtain ⟨-, hdescribe⟩ | ⟨-, -, hdescribe⟩ | ⟨s, -, hne, hdescribe⟩ := describe_cases answer
  · obtain rfl := Except.ok.inj (hdescribe.symm.trans h)
    exact failedText_text _
  · cases hdescribe.symm.trans h
  · obtain rfl := Except.ok.inj (hdescribe.symm.trans h)
    split
    · exact failedText_text s
    · exact ⟨hne, by simp_all⟩

/-- Whatever was extracted can be told. -/
theorem obstacle?_told_ofMethod (language : Text) (m : Method) :
    Prompt.obstacle? (Prompt.told (.str language) (.ofMethod m)) = none := by
  cases h : m.docComment <;> simp [Prompt.obstacle?, Prompt.told, Prompt.Subject.ofMethod, h]

/-- Documenting one method is one call. -/
theorem run_documentSubjects (c : Client) (language : Text) {m : Method} (hname : m.name ≠ "")
    (script : Script) :
    let work := (c.documentSubjects (.str language) [.ok (.ofMethod m)]).run script
    let call := (c.call (.str (Prompt.method (.str language) (.ofMethod m)))).run script
    work.value = resultOf m.name (told call.value) ∧ work.state = call.state ∧
      Event.traffic work.events = Event.traffic call.events := by
  have hsubject : (Prompt.Subject.ofMethod m).name = .str m.name := rfl
  have htold := obstacle?_told_ofMethod language m
  have htruthy : (Json.str m.name).isTruthy = true := by
    have hne : m.name.toList ≠ [] := by simpa using hname
    simpa [Json.isTruthy, Text.isEmpty, Text.ofString, Text.ofList] using hne
  dsimp only
  cases hcall :
      ((c.call (.str (Prompt.method (.str language) (.ofMethod m)))).run script).value with
  | error e =>
    simp [documentSubjects, documentEach, hsubject, htruthy, htold, hcall, settle, told, resultOf]
  | ok answer =>
    cases hdescribe : describe answer with
    | error e =>
      have hentry : entryFor (.str m.name) answer = .error e := by
        rw [entryFor, hdescribe]
        rfl
      simp [documentSubjects, documentEach, hsubject, htruthy, htold, hcall, hentry, settle, told,
        hdescribe, Except.mapError, resultOf]
    | ok text =>
      have hentry : entryFor (.str m.name) answer = .ok text := by
        rw [entryFor, hdescribe]
        rfl
      simp [documentSubjects, documentEach, hsubject, htruthy, htold, hcall, hentry, settle, told,
        hdescribe, Except.mapError, resultOf, Documentation.put]

end Client

theorem Client.told_text {outcome : Except Client.CallError Json} {text : Text}
    (h : Client.told outcome = .ok text) :
    text.isEmpty = false ∧ text.startsWith "Error:" = false := by
  cases outcome with
  | error e => cases h
  | ok answer =>
    have hdescribe : Client.describe answer = .ok text := by
      cases hd : Client.describe answer <;> simp_all [Client.told, Except.mapError]
    exact Client.describe_text hdescribe

/-- Every method gets some text. -/
theorem Client.isEmpty_textFor (name : String) (outcome : Except Client.CallError Json) :
    (Client.textFor name (Client.told outcome)).isEmpty = false := by
  cases htold : Client.told outcome with
  | ok text => exact (Client.told_text htold).1
  | error message =>
    rw [Client.textFor]
    split <;> rfl

/-- What a report has of a method of which something is told. -/
theorem methodReport_told (name : String) (outcome : Except Client.CallError Json) :
    methodReport name (Client.resultOf name (Client.told outcome)) =
      ([⟨name, Client.textFor name (Client.told outcome)⟩],
        if Client.countsAsFailed name (Client.told outcome) then ⟨0, 1⟩ else ⟨1, 0⟩) := by
  cases htold : Client.told outcome with
  | ok text =>
    obtain ⟨hne, herror⟩ := Client.told_text htold
    simp [methodReport, Client.resultOf, Documentation.get?, Json.sameKey, hne, herror,
      Client.textFor, Client.countsAsFailed]
  | error message =>
    by_cases hname : name = "error"
    · subst hname
      have herror : (("Error generating structured documentation: " : Text) ++
          (message : Text)).startsWith "Error:" = false := by
        rw [Text.startsWith_append_of_le _ (by decide)]
        decide
      have hne : (("Error generating structured documentation: " : Text) ++
          (message : Text)).isEmpty = false := rfl
      simp [methodReport, Client.resultOf, Client.failure, Documentation.get?, Json.sameKey, hne,
        herror, Client.textFor, Client.countsAsFailed]
    · have hkey : (Text.ofString "error" == Text.ofString name) = false := by
        refine beq_false_of_ne fun heq => hname ?_
        simpa using congrArg Text.toString heq.symm
      have hempty : (Text.ofString "").isEmpty = true := rfl
      simp [methodReport, Client.resultOf, Client.failure, Documentation.get?, Json.sameKey, hkey,
        hempty, Client.textFor, Client.countsAsFailed, hname]

end Scribe
