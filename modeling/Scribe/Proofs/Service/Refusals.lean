import Scribe.Proofs.Service.Inquiries

/-!
# Requests that are refused

A request is looked at in steps: its body is read, a value without content is sent back, the name of
a directory is taken out of it and brought into normal form, the console is told of it, and only
then is the directory looked up. Only two of these steps refuse a request as a mistake of the
client. A body that cannot be read, or that is no object, or that names no directory, is told as an
error of the service, and so is a directory that the console does not take. An empty name is not
refused at all: its normal form is the working directory.

## Main results

* `Service.process_eq`: a request is either refused unseen, or its directory is documented.
* `Service.invalid_refused_iff`: which invalid requests are refused as mistakes of the client.
-/

namespace Scribe.Service

/-! ## What a request comes to -/

/-- The answer to a request that does not name a directory. -/
def refusal (r : Web.Request) : Web.Answer :=
  match r.value with
  | .error e => .error 500 e.message
  | .ok data =>
    if !data.isTruthy then .error 400 "No JSON data provided"
    else match data.fieldD "directory" .null with
      | .error e => .error 500 e.message
      | .ok other => .error 500 (PlaceError.notAPath other.kind).message

/-- Answers with the documentation of the directory at a path. -/
def document (s : Service) (directory : Text) : Work ServiceState Web.Answer := do
  let volume := s.workspace.volume
  match ← s.client.machine.console.print ("Processing directory: " ++ directory) with
  | .error message => return .error 500 message
  | .ok () =>
    if !volume.holds directory then return invalidDirectory
    else match volume.walk directory with
      | .error e => return .error 500 e.message
      | .ok visits => return .json 200 (← s.walkReport visits).toJson

/-- A request that names a directory has it documented, and any other one is refused unseen. -/
theorem process_eq (s : Service) (r : Web.Request) :
    s.process r = match asked? r with
      | some given => s.document (s.root given)
      | none => pure (refusal r) := by
  unfold process asked? refusal
  cases hvalue : r.value with
  | error e => rfl
  | ok data =>
    dsimp only
    cases hfield : data.fieldD "directory" .null with
    | error e => cases data.isTruthy <;> rfl
    | ok v =>
      cases v with
      | str given =>
        rw [isTruthy_of_fieldD hfield]
        rfl
      | _ => cases data.isTruthy <;> rfl

theorem process_of_asked {s : Service} {r : Web.Request} {given : Text}
    (h : asked? r = some given) : s.process r = s.document (s.root given) := by
  rw [process_eq, h]

theorem process_of_not_asked {s : Service} {r : Web.Request} (h : asked? r = none) :
    s.process r = pure (refusal r) := by
  rw [process_eq, h]

theorem run_document_of_lineRefusal {s : Service} {directory : Text} {message : String}
    (h : s.lineRefusal? directory = some message) (st : ServiceState) :
    (s.document directory).run st = ⟨.error 500 message, st, []⟩ := by
  rw [lineRefusal?] at h
  simp [document, h]

theorem run_document_of_not_holds {s : Service} {directory : Text}
    (hline : s.lineRefusal? directory = none)
    (h : s.workspace.volume.holds directory = false) (st : ServiceState) :
    (s.document directory).run st =
      ⟨invalidDirectory, st, [.printed ("Processing directory: " ++ directory)]⟩ := by
  rw [lineRefusal?] at hline
  simp [document, hline, h]

/-- All that a request can come to. -/
theorem process_cases (s : Service) (r : Web.Request) (st : ServiceState) :
    (asked? r = none ∧ (s.process r).run st = ⟨refusal r, st, []⟩) ∨
    (∃ given message, asked? r = some given ∧ s.lineRefusal? (s.root given) = some message ∧
      (s.process r).run st = ⟨.error 500 message, st, []⟩) ∨
    (∃ given, s.admitted? r = some given ∧ s.workspace.volume.holds (s.root given) = false ∧
      (s.process r).run st =
        ⟨invalidDirectory, st, [.printed ("Processing directory: " ++ s.root given)]⟩) ∨
    ∃ given, s.admitted? r = some given ∧ s.workspace.volume.holds (s.root given) = true ∧
      ((s.process r).run st).value.status = 200 := by
  cases hasked : asked? r with
  | none => exact .inl ⟨rfl, by rw [process_of_not_asked hasked, Work.run_pure]⟩
  | some given =>
    cases hline : s.lineRefusal? (s.root given) with
    | some message =>
      refine .inr (.inl ⟨given, message, rfl, hline, ?_⟩)
      rw [process_of_asked hasked, run_document_of_lineRefusal hline]
    | none =>
      have hadmitted := admitted?_eq_some_iff.mpr ⟨hasked, hline⟩
      cases hholds : s.workspace.volume.holds (s.root given) with
      | false =>
        refine .inr (.inr (.inl ⟨given, hadmitted, hholds, ?_⟩))
        rw [process_of_asked hasked, run_document_of_not_holds hline hholds]
      | true =>
        obtain ⟨visits, -, hvalue, -, -⟩ := process_answered hadmitted hholds st
        exact .inr (.inr (.inr ⟨given, hadmitted, hholds, congrArg Web.Answer.status hvalue⟩))

/-- An empty name and a dot come to the same. -/
theorem process_blank {s : Service} {r r' : Web.Request} (h : asked? r = some "")
    (h' : asked? r' = some ".") : s.process r' = s.process r := by
  rw [process_of_asked h, process_of_asked h', root, root, Path.absolute_empty]

theorem isTruthy_of_asked {r : Web.Request} {given : Text} {data : Json}
    (hasked : asked? r = some given) (hvalue : r.value = .ok data) : data.isTruthy = true := by
  obtain ⟨_, hdata, hfield⟩ := asked?_eq_some_iff.mp hasked
  obtain rfl := Except.ok.inj (hdata.symm.trans hvalue)
  exact isTruthy_of_fieldD hfield

/-- Whether a request is refused as a mistake of the client depends on its value alone. -/
theorem status_refusal (r : Web.Request) :
    ((refusal r).status = 400 ↔ ∃ data, r.value = .ok data ∧ data.isTruthy = false) ∧
      ((refusal r).status = 400 ∨ (refusal r).status = 500) := by
  unfold refusal
  cases hvalue : r.value with
  | error e => simp
  | ok data =>
    cases htruthy : data.isTruthy with
    | false => simp [htruthy]
    | true =>
      cases hfield : data.fieldD "directory" .null <;>
        simp [htruthy, hfield]

/-! ## Invalid requests -/

/-- A request without a body that can be read, or without the path of anything that there is. -/
inductive Invalid (s : Service) (r : Web.Request) : Prop
  | unreadable {e : Web.BodyError} (hvalue : r.value = .error e)
  | notAnObject {data : Json} (hvalue : r.value = .ok data) (hdata : ∀ fields, data ≠ .obj fields)
  | missing {fields : List (Text × Json)} (hvalue : r.value = .ok (.obj fields))
      (hfield : Json.lookup "directory" fields = none)
  | null {fields : List (Text × Json)} (hvalue : r.value = .ok (.obj fields))
      (hfield : Json.lookup "directory" fields = some .null)
  | blank {fields : List (Text × Json)} (hvalue : r.value = .ok (.obj fields))
      (hfield : Json.lookup "directory" fields = some (.str ""))
  | nowhere {fields : List (Text × Json)} {path : Text} (hvalue : r.value = .ok (.obj fields))
      (hfield : Json.lookup "directory" fields = some (.str path))
      (hholds : s.workspace.volume.holds path = false)

/-- Nothing is at the path that an invalid request names. -/
theorem Invalid.not_holds {s : Service} {r : Web.Request} (h : s.Invalid r) {given : Text}
    (hasked : asked? r = some given) : s.workspace.volume.holds given = false := by
  obtain ⟨data, hdata, hgiven⟩ := asked?_eq_some_iff.mp hasked
  have hobj {fields : List (Text × Json)} {v : Json} (hvalue : r.value = .ok (.obj fields))
      (hfield : (Json.lookup "directory" fields).getD .null = v) : v = .str given := by
    obtain rfl := Except.ok.inj (hdata.symm.trans hvalue)
    exact hfield.symm.trans (Except.ok.inj hgiven)
  cases h with
  | unreadable hvalue => cases hdata.symm.trans hvalue
  | notAnObject hvalue hnot =>
    obtain rfl := Except.ok.inj (hdata.symm.trans hvalue)
    cases data with
    | obj fields => exact absurd rfl (hnot fields)
    | _ => cases hgiven
  | missing hvalue hfield => cases hobj hvalue (by rw [hfield])
  | null hvalue hfield => cases hobj hvalue (by rw [hfield])
  | blank hvalue hfield =>
    cases hobj hvalue (by rw [hfield])
    rfl
  | nowhere hvalue hfield hholds =>
    cases hobj hvalue (by rw [hfield])
    exact hholds

/-- A request is invalid if nothing is at the path that it names. -/
theorem invalid_of_not_holds {s : Service} {r : Web.Request} {given : Text}
    (hasked : asked? r = some given) (hholds : s.workspace.volume.holds given = false) :
    s.Invalid r := by
  obtain ⟨data, hdata, hgiven⟩ := asked?_eq_some_iff.mp hasked
  cases data with
  | obj fields =>
    cases hfield : Json.lookup "directory" fields with
    | none => exact .missing hdata hfield
    | some v =>
      simp only [Json.fieldD, hfield, Option.getD_some] at hgiven
      obtain rfl := Except.ok.inj hgiven
      exact .nowhere hdata hfield hholds
  | _ => cases hgiven

/-- An invalid request is refused as a mistake of the client, with nothing sent, exactly if its
value has no content, or if it names a path that leads nowhere in its normal form either and that
the console takes. If it names no path, or one that the console does not take, an error of the
service is told. If the normal form of its path leads somewhere, the files there are documented; for
the empty path, they are those of the working directory. -/
theorem invalid_refused_iff {s : Service} {r : Web.Request} (h : s.Invalid r) (st : ServiceState) :
    let work := (s.process r).run st
    (work.value.status = 400 ∧ Event.traffic work.events = [] ↔
      (∃ data, r.value = .ok data ∧ data.isTruthy = false) ∨
        ∃ given, asked? r = some given ∧ s.lineRefusal? (s.root given) = none ∧
          s.workspace.volume.holds (s.root given) = false) ∧
    (work.value.status = 500 ↔
      (asked? r = none ∧ ∀ data, r.value = .ok data → data.isTruthy = true) ∨
        ∃ given message, asked? r = some given ∧ s.lineRefusal? (s.root given) = some message) ∧
    (work.value.status = 200 ↔
      ∃ given, asked? r = some given ∧ s.lineRefusal? (s.root given) = none ∧
        s.workspace.volume.holds given = false ∧
        s.workspace.volume.holds (s.root given) = true) ∧
    (work.value.status ≠ 200 → work.state = st ∧ Event.traffic work.events = []) ∧
    (asked? r = some "" → ∀ r', asked? r' = some "." → (s.process r').run st = work) := by
  intro work
  have hblank : asked? r = some "" → ∀ r', asked? r' = some "." → (s.process r').run st = work :=
    fun hasked r' hasked' => by rw [process_blank hasked hasked']
  -- A request that names a path has a value with content.
  have hfull {given : Text} (hasked : asked? r = some given) :
      ¬ ∃ data, r.value = .ok data ∧ data.isTruthy = false := by
    rintro ⟨data, hvalue, hfalsy⟩
    simp [isTruthy_of_asked hasked hvalue] at hfalsy
  obtain ⟨hasked, hwork⟩ | ⟨given, message, hasked, hline, hwork⟩ |
    ⟨given, hadmitted, hholds, hwork⟩ | ⟨given, hadmitted, hholds, hstatus⟩ := s.process_cases r st
  · -- The status of the refusal tells the two kinds of unasked requests apart.
    obtain ⟨hclient, hcases⟩ := status_refusal r
    have hservice : (refusal r).status = 500 ↔ ¬ (refusal r).status = 400 := by omega
    have hnot : (refusal r).status ≠ 200 := by omega
    have hwork : work = ⟨refusal r, st, []⟩ := hwork
    rw [hwork, hasked]
    rw [hwork, hasked] at hblank
    refine ⟨?_, ?_, by simpa using hnot, fun _ => ⟨rfl, rfl⟩, hblank⟩
    · simpa using hclient
    · rw [hservice, hclient]
      simp
  · have hwork : work = ⟨.error 500 message, st, []⟩ := hwork
    rw [hwork] at hblank ⊢
    refine ⟨?_, ?_, ?_, fun _ => ⟨rfl, rfl⟩, hblank⟩
    · simp [hfull hasked, hasked, hline]
    · simp [hasked, hline]
    · simp [hasked, hline]
  · obtain ⟨hasked, hline⟩ := admitted?_eq_some_iff.mp hadmitted
    have hwork : work = ⟨invalidDirectory, st, _⟩ := hwork
    rw [hwork] at hblank ⊢
    refine ⟨⟨fun _ => .inr ⟨given, hasked, hline, hholds⟩, fun _ => ⟨rfl, rfl⟩⟩, ?_, ?_,
      fun _ => ⟨rfl, rfl⟩, hblank⟩
    · simp [hasked, hline]
    · simp [hasked, hline, hholds]
  · obtain ⟨hasked, hline⟩ := admitted?_eq_some_iff.mp hadmitted
    have hwork : work.value.status = 200 := hstatus
    rw [hwork]
    refine ⟨?_, ?_, ?_, fun hne => absurd rfl hne, hblank⟩
    · simp [hfull hasked, hasked, hline, hholds]
    · simp [hasked, hline]
    · simp [hasked, hline, hholds, h.not_holds hasked]

/-- A request with some body. -/
def requestOf (body : Text) : Web.Request := ⟨"POST", "/process", some "application/json", body⟩

/-- The small service on a machine that writes its lines as bytes. -/
def written : Service :=
  ⟨nested.workspace, { nested.client with machine := ⟨.writing, .noting⟩ }⟩

/-- An empty name has the working directory documented, a body that breaks off is told as an error
of the service, and only a name that leads nowhere is refused; not even this one if it cannot be
written to the console. -/
theorem nested_refused :
    let blank := requestOf "\x7b\"directory\": \"\"\x7d"
    let broken := requestOf "\x7b"
    let nowhere := requestOf "\x7b\"directory\": \"gone\"\x7d"
    let half := requestOf "\x7b\"directory\": \"\\ud800\"\x7d"
    (nested.Invalid blank ∧ ((nested.process blank).run ⟨.fresh, []⟩).value.status = 200 ∧
      (nested.process requestHere).run ⟨.fresh, []⟩ = (nested.process blank).run ⟨.fresh, []⟩) ∧
    (nested.Invalid broken ∧ ((nested.process broken).run ⟨.fresh, []⟩).value.status = 500) ∧
    (nested.Invalid nowhere ∧ ((nested.process nowhere).run ⟨.fresh, []⟩).value.status = 400) ∧
    written.Invalid half ∧ ((written.process half).run ⟨.fresh, []⟩).value.status = 500 := by
  intro blank broken nowhere half
  have hasked : asked? blank = some "" := by decide +kernel
  have hgone : asked? nowhere = some "gone" := by decide +kernel
  have hhalf : asked? half = some ⟨[.half 0]⟩ := by decide +kernel
  have hunread : broken.value.toBool = false := by decide +kernel
  have hblank : nested.Invalid blank := invalid_of_not_holds hasked rfl
  have hnowhere : nested.Invalid nowhere := invalid_of_not_holds hgone (by decide +kernel)
  have htorn : written.Invalid half := invalid_of_not_holds hhalf (by decide +kernel)
  have hbroken : nested.Invalid broken := by
    cases hvalue : broken.value with
    | error e => exact .unreadable hvalue
    | ok data => simp [hvalue, Except.toBool] at hunread
  obtain ⟨-, -, hdocumented, -, hsame⟩ := invalid_refused_iff hblank ⟨.fresh, []⟩
  obtain ⟨-, hfailed, -⟩ := invalid_refused_iff hbroken ⟨.fresh, []⟩
  obtain ⟨hrefused, -⟩ := invalid_refused_iff hnowhere ⟨.fresh, []⟩
  obtain ⟨-, hunprinted, -⟩ := invalid_refused_iff htorn ⟨.fresh, []⟩
  refine ⟨⟨hblank, ?_, ?_⟩, ⟨hbroken, ?_⟩, ⟨hnowhere, ?_⟩, htorn, ?_⟩
  · exact hdocumented.mpr ⟨"", hasked, rfl, rfl, by decide +kernel⟩
  · exact hsame hasked requestHere asked?_requestHere
  · refine hfailed.mpr (.inl ⟨by decide +kernel, fun data hdata => ?_⟩)
    simp [hdata, Except.toBool] at hunread
  · exact (hrefused.mpr (.inr ⟨"gone", hgone, rfl, by decide +kernel⟩)).1
  · have hsome : (written.lineRefusal? (written.root ⟨[.half 0]⟩)).isSome = true := by
      decide +kernel
    obtain ⟨message, hmessage⟩ := Option.isSome_iff_exists.mp hsome
    exact hunprinted.mpr (.inr ⟨_, message, hhalf, hmessage⟩)

end Scribe.Service
