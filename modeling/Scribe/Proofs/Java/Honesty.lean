import Scribe.Proofs.Java.Accounts

/-!
# Which files a Java server documents

An entry shows a documentation if the file could be read and what the server says of it counts as
something. Most of what it says when no text has come also counts as something: that there is no
key, that the exchange failed, that the status stands for an error, that the body is ill-formed or
has another shape. So a file without a text is shown with an error only if its reply is silent: if
nothing is in the place of the text, or the first candidate is one without a text.

## Main results

* `Provider.answerOf_eq_null_iff`: when nothing is read in place of a text.
* `JavaServer.judge_cases`: what is said of a file counts as something, unless the reply is
  silent.
* `JavaServer.documented_honestly_iff`: which files are documented, and which of them rightly.
-/

namespace Scribe

namespace Json

/-! ## Candidates without a text -/

/-- Whether the first of some parts has no text. -/
def partsLackText : Json → Bool
  | arr (obj part :: _) => (lookup "text" part).isNone
  | _ => false

/-- Whether a candidate has no text in its first part. Its content and parts may be left out. -/
def candidateLacksText : Json → Bool
  | obj candidate =>
    match (lookup "content" candidate).getD (obj []) with
    | obj content => partsLackText ((lookup "parts" content).getD (arr [obj []]))
    | _ => false
  | _ => false

/-- Whether the first candidate has no text in its first part. -/
def lacksText (v : Json) : Bool := (v.at? [.field "candidates", .first]).any candidateLacksText

theorem exists_field_error {v : Json} {name : Text} (h : v.step? (.field name) = none) :
    ∃ e, v.field name = .error e := by
  cases v with
  | obj fields =>
    have hlookup : lookup name fields = none := h
    exact ⟨_, by rw [field, hlookup]⟩
  | _ => exact ⟨_, rfl⟩

theorem field_of_step? {v part : Json} {name : Text} (h : v.step? (.field name) = some part) :
    v.mentions name = .ok true ∧ v.field name = .ok part := by
  cases v with
  | obj fields =>
    have hlookup : lookup name fields = some part := h
    simp [mentions, field, hlookup]
  | _ => cases h

theorem readParts_eq_null_iff {parts : Json} (h : parts.at? [.first, .field "text"] = none) :
    (parts.first >>= fun part => part.fieldD "text" null) = .ok null ↔
      parts.partsLackText = true := by
  cases parts with
  | arr items =>
    cases items with
    | nil => simp [first, bind, Except.bind, partsLackText]
    | cons part more =>
      cases part with
      | obj fields =>
        have hlookup : lookup "text" fields = none := by simpa [at?, step?] using h
        simp [first, bind, Except.bind, fieldD, partsLackText, hlookup]
      | _ => simp [first, bind, Except.bind, fieldD, partsLackText]
  | str s =>
    obtain ⟨_ | ⟨c, more⟩⟩ := s <;> simp [first, bind, Except.bind, fieldD, partsLackText]
  | _ => simp [first, bind, Except.bind, partsLackText]

theorem readCandidate_eq_null_iff {candidate : Json}
    (h : candidate.at? [.field "content", .field "parts", .first, .field "text"] = none) :
    (candidate.fieldD "content" (obj []) >>= fun content =>
      content.fieldD "parts" (arr [obj []]) >>= fun parts =>
        parts.first >>= fun part => part.fieldD "text" null) = .ok null ↔
      candidate.candidateLacksText = true := by
  cases candidate with
  | obj fields =>
    cases hcontent : lookup "content" fields with
    | none =>
      refine iff_of_true ?_ ?_
      · simp [fieldD, hcontent, bind, Except.bind, lookup, first]
      · simp [candidateLacksText, hcontent, lookup, partsLackText]
    | some content =>
      cases content with
      | obj content =>
        have hparts : ((lookup "parts" content).getD (arr [obj []])).at? [.first, .field "text"] =
            none := by
          cases hparts : lookup "parts" content with
          | none => rfl
          | some parts => simpa [at?_cons, step?, hcontent, hparts] using h
        simpa [fieldD, hcontent, bind, Except.bind, candidateLacksText] using
          readParts_eq_null_iff hparts
      | _ => simp [fieldD, hcontent, bind, Except.bind, candidateLacksText]
  | _ => simp [fieldD, bind, Except.bind, candidateLacksText]

end Json

open Json

namespace Provider

theorem textOf_eq_null_iff {candidates : Json}
    (h : candidates.at? [.first, .field "content", .field "parts", .first, .field "text"] = none) :
    gemini.textOf candidates = .ok .null ↔
      (candidates.at? [.first]).any candidateLacksText = true := by
  simp only [textOf, keyInAddress, if_true]
  cases candidates with
  | arr items =>
    cases items with
    | nil => simp [first, bind, Except.bind, at?, step?]
    | cons candidate more =>
      exact readCandidate_eq_null_iff (by simpa [at?_cons, step?] using h)
  | str s =>
    obtain ⟨_ | ⟨c, more⟩⟩ := s <;> simp [first, bind, Except.bind, fieldD, at?, step?]
  | _ => simp [first, bind, Except.bind, at?, step?]

/-- Where there is no text, nothing is read only from a first candidate without one. -/
theorem answerOf_eq_null_iff {p : Provider} {v : Json} (h : v.at? p.answerPath = none) :
    p.answerOf v = .ok (some .null) ↔ p = gemini ∧ v.lacksText = true := by
  by_cases hp : p = gemini
  · subst hp
    rw [eq_self, true_and, lacksText, at?_cons]
    cases hstep : v.step? (.field "candidates") with
    | none =>
      obtain ⟨e, hfield⟩ := exists_field_error hstep
      rcases hmentions : v.mentions "candidates" with e' | _ | _ <;>
        simp [answerOf, choicesField, hmentions, hfield, bind, Except.bind, pure, Except.pure]
    | some candidates =>
      have hbelow : candidates.at?
          [.first, .field "content", .field "parts", .first, .field "text"] = none := by
        simpa [answerPath, candidatePath, at?_cons, hstep] using h
      obtain ⟨hmentions, hfield⟩ := field_of_step? hstep
      rw [Option.bind_some, ← textOf_eq_null_iff hbelow]
      cases htruthy : candidates.isTruthy with
      | false =>
        rw [textOf_eq_null_iff hbelow, at?_cons, step?_first_of_not_isTruthy htruthy]
        simp [answerOf, choicesField, hmentions, hfield, htruthy, bind, Except.bind, pure,
          Except.pure]
      | true =>
        cases htext : gemini.textOf candidates <;>
          simp [answerOf, choicesField, hmentions, hfield, htruthy, htext, bind, Except.bind]
  · have hreads := p.reads_answerOf v
    rw [h] at hreads
    refine iff_of_false (fun hnull => ?_) fun hgemini => hp hgemini.1
    obtain hnothing | ⟨a, ha, -⟩ | ⟨e, herror⟩ := hreads
    · cases hnull.symm.trans hnothing
    · exact hp (eq_of_substitute ha).1
    · cases hnull.symm.trans herror

end Provider

/-! ## Replies -/

namespace Reply

/-- The value in a reply whose status stands for no error. -/
def value? : Reply → Option Json
  | response x => if 400 ≤ x.status ∧ x.status < 600 then none else (Json.read x.body).toOption
  | failure _ => none

/-- What a reply has in the place where a service puts its text. -/
def delivered? (p : Provider) (r : Reply) : Option Json := r.value?.bind (·.at? p.answerPath)

/-- Whether a reply has a text in that place. -/
def delivers (p : Provider) (r : Reply) : Bool := ((r.delivered? p).bind Json.text?).isSome

/-- Whether a reply has a value, but nothing in place of a text. -/
def isSilent (p : Provider) (r : Reply) : Bool :=
  match r.delivered? p with
  | some part => !part.isTruthy
  | none => p = .gemini && r.value?.any Json.lacksText

end Reply

theorem Text.isEmpty_append {a : Text} (h : a.isEmpty = false) (b : Text) :
    (a ++ b).isEmpty = false := by
  obtain ⟨_ | ⟨c, more⟩⟩ := a
  · cases h
  · rfl

namespace JavaServer

/-- A documentation that tells of a failure. -/
inductive TellsFailure : Json → Prop where
  | noKey : TellsFailure (.str "Error: API key not configured")
  | request (why : Text) : TellsFailure (.str ("Error making API request: " ++ why))
  | shape : TellsFailure (.str "Error: Invalid response format from API")
  | unexpected (why : Text) : TellsFailure (.str ("Unexpected error: " ++ why))

theorem TellsFailure.isTruthy {d : Json} (h : TellsFailure d) : d.isTruthy = true := by
  cases h with
  | noKey => decide
  | request why => rw [Json.isTruthy, Text.isEmpty_append (by decide)]; rfl
  | shape => decide
  | unexpected why => rw [Json.isTruthy, Text.isEmpty_append (by decide)]; rfl

theorem tellsFailure_unsent (s : JavaServer) : TellsFailure s.unsent := by
  rw [unsent]
  split
  · split
    · exact .unexpected _
    · exact .request _
  · exact .noKey

variable {r : Reply}

theorem value?_of_yieldOf {url : String} {v : Json} (h : yieldOf url r.outcome = .value v) :
    r.value? = some v := by
  cases r with
  | failure f =>
    rw [Reply.outcome, yieldOf] at h
    split at h <;> cases h
  | response x =>
    have hstatus := Client.statusError?_isSome x url
    rw [Reply.outcome, yieldOf] at h
    cases herror : x.statusError? url with
    | some message => simp [herror] at h
    | none =>
      have hfine : ¬ (400 ≤ x.status ∧ x.status < 600) := by simpa [herror] using hstatus
      rw [Reply.value?, if_neg hfine]
      cases hread : Json.read x.body with
      | ok value => simpa [herror, hread, Except.toOption] using h
      | error e =>
        simp only [herror, hread] at h
        split at h <;> cases h

theorem tellsFailure_judge (h : r.value? = none) (p : Provider) (url : String) :
    TellsFailure (judge p url r.outcome) := by
  rw [judge]
  cases hyield : yieldOf url r.outcome with
  | failed message => exact .request message
  | broken message => exact .unexpected message
  | value v => cases h.symm.trans (value?_of_yieldOf hyield)

theorem judge_of_value {v : Json} (h : r.value? = some v) (p : Provider) (url : String) :
    judge p url r.outcome =
      settled (.str "Error: Invalid response format from API")
        (fun e => .str ("Unexpected error: " ++ e.message)) (p.answerOf v) := by
  cases r with
  | failure f => cases h
  | response x =>
    rw [Reply.value?] at h
    split at h
    · cases h
    · rename_i hstatus
      cases hread : Json.read x.body with
      | error e => simp [hread, Except.toOption] at h
      | ok value =>
        obtain rfl : value = v := by simpa [hread, Except.toOption] using h
        exact judge_of_read hstatus hread p url

/-- What is said after a reply: nothing if the reply is silent, and else what it has in the place
of the text, or that something failed. -/
theorem judge_cases (p : Provider) (url : String) (r : Reply) :
    (r.isSilent p = true ∧ (judge p url r.outcome).isTruthy = false) ∨
    (r.isSilent p = false ∧ (judge p url r.outcome).isTruthy = true ∧
      (r.delivered? p = some (judge p url r.outcome) ∨
        r.delivered? p = none ∧ TellsFailure (judge p url r.outcome))) := by
  cases hvalue : r.value? with
  | none =>
    have hfailure := tellsFailure_judge hvalue p url
    have hnone : r.delivered? p = none := by rw [Reply.delivered?, hvalue]; rfl
    exact .inr ⟨by simp [Reply.isSilent, hnone, hvalue], hfailure.isTruthy, .inr ⟨hnone, hfailure⟩⟩
  | some v =>
    have hreads := p.reads_answerOf v
    have hdelivered : r.delivered? p = v.at? p.answerPath := by rw [Reply.delivered?, hvalue]; rfl
    rw [judge_of_value hvalue]
    cases hat : v.at? p.answerPath with
    | some part =>
      rw [hat] at hreads hdelivered
      rw [hreads.settled_eq]
      cases htruthy : part.isTruthy with
      | false => exact .inl ⟨by simp [Reply.isSilent, hdelivered, htruthy], rfl⟩
      | true => exact .inr ⟨by simp [Reply.isSilent, hdelivered, htruthy], rfl, .inl hdelivered⟩
    | none =>
      have hsilent : r.isSilent p = true ↔ p = .gemini ∧ v.lacksText = true := by
        simp [Reply.isSilent, hdelivered, hat, hvalue]
      rw [← Provider.answerOf_eq_null_iff hat] at hsilent
      rw [hat] at hreads hdelivered
      -- Only the substitute of the reader counts as nothing; the other two outcomes are told.
      obtain hnothing | ⟨a, ha, hsubstitute⟩ | ⟨e, herror⟩ := hreads
      · have hloud : r.isSilent p = false := by
          rw [Bool.eq_false_iff, Ne, hsilent, hnothing]
          simp
        rw [hnothing]
        exact .inr ⟨hloud, TellsFailure.shape.isTruthy, .inr ⟨hdelivered, .shape⟩⟩
      · rw [(Provider.eq_of_substitute ha).2] at hsubstitute
        exact .inl ⟨hsilent.mpr hsubstitute, by rw [hsubstitute]; rfl⟩
      · have hloud : r.isSilent p = false := by
          rw [Bool.eq_false_iff, Ne, hsilent, herror]
          simp
        rw [herror]
        exact .inr ⟨hloud, (TellsFailure.unexpected _).isTruthy,
          .inr ⟨hdelivered, .unexpected _⟩⟩

end JavaServer

/-! ## Entries -/

/-- Whether the written form of an entry has a field. -/
def JavaEntry.shows (e : JavaEntry) (name : Text) : Bool := (e.toJson.at? [.field name]).isSome

/-- Whether a file could be read and the service answered with a text. -/
def JavaFile.isAnswered (p : Provider) (f : JavaFile) : Bool :=
  f.isRead && f.reply.any (·.delivers p)

namespace JavaServer

variable {s : JavaServer} {v : Volume} {f : JavaFile}

theorem shows_error (e : JavaEntry) : e.shows "error" = !e.shows "documentation" := by
  obtain ⟨path, message | d⟩ := e <;> rfl

/-- What is said of a file, as `judge_cases` has it, also if nothing was sent. -/
theorem answerTo_cases (s : JavaServer) (reply : Option Reply) :
    (reply.any (·.isSilent s.provider) = true ∧ (s.answerTo reply).isTruthy = false) ∨
    (reply.any (·.isSilent s.provider) = false ∧ (s.answerTo reply).isTruthy = true ∧
      (reply.bind (·.delivered? s.provider) = some (s.answerTo reply) ∨
        reply.bind (·.delivered? s.provider) = none ∧ TellsFailure (s.answerTo reply))) := by
  cases reply with
  | none =>
    have hfailure := tellsFailure_unsent s
    exact .inr ⟨rfl, hfailure.isTruthy, .inr ⟨rfl, hfailure⟩⟩
  | some r => exact judge_cases s.provider s.url r

/-- A file is documented if it could be read, unless its reply is silent. -/
theorem shows_entryOf (s : JavaServer) (f : JavaFile) :
    (s.entryOf f).shows "documentation" =
      (f.isRead && !f.reply.any (·.isSilent s.provider)) := by
  cases hcontent : f.content with
  | error e =>
    simp only [entryOf, hcontent, JavaFile.isRead, Except.toBool, Bool.false_and]
    rfl
  | ok content =>
    simp only [entryOf, hcontent, JavaFile.isRead, Except.toBool, Bool.true_and]
    obtain ⟨hsilent, htruthy⟩ | ⟨hsilent, htruthy, -⟩ := s.answerTo_cases f.reply
    · rw [hsilent, htruthy]
      rfl
    · rw [hsilent, htruthy]
      rfl

/-- A documentation without a text of the service tells of a failure, or is no text. -/
theorem outcome_of_shows (hshows : (s.entryOf f).shows "documentation" = true)
    (hunanswered : f.isAnswered s.provider = false) :
    ∃ d, (s.entryOf f).outcome = .ok d ∧
      (TellsFailure d ∨
        f.reply.bind (·.delivered? s.provider) = some d ∧ d.text? = none) := by
  rw [shows_entryOf, Bool.and_eq_true] at hshows
  obtain ⟨hread, hloud⟩ := hshows
  obtain ⟨hsilent, -⟩ | ⟨-, htruthy, hsaid⟩ := s.answerTo_cases f.reply
  · simp [hsilent] at hloud
  · refine ⟨s.answerTo f.reply, ?_, ?_⟩
    · obtain ⟨content, hcontent⟩ := JavaFile.exists_content hread
      simp only [entryOf, hcontent, htruthy, if_true]
    · obtain hdelivered | ⟨-, hfailure⟩ := hsaid
      · refine .inr ⟨hdelivered, ?_⟩
        obtain ⟨r, hr, hpart⟩ := Option.bind_eq_some_iff.mp hdelivered
        simpa [JavaFile.isAnswered, hread, hr, Reply.delivers, hpart] using hunanswered
      · exact .inl hfailure

theorem exists_walk_of_ok {directory : Json} {script : Script} {entries : List JavaEntry}
    (h : ((s.repository v directory).run script).value = .ok entries) :
    ∃ path visits, directory = .str path ∧ v.walk path = .ok visits := by
  cases directory with
  | str path =>
    cases hwalk : v.walk path with
    | ok visits => exact ⟨path, visits, rfl, hwalk⟩
    | error e => simp [repository, Json.asPath, hwalk] at h
  | _ => simp [repository, Json.asPath] at h

/-- An entry shows a documentation exactly if its file could be read and the reply is not silent.
So the files that are shown as documented have all been answered with a text exactly if every file
that could be read has been answered with a text or has a silent reply; in all other cases the
documentation of some file tells of a failure, or is no text. -/
theorem documented_honestly_iff {directory : Json} {script : Script} {entries : List JavaEntry}
    (h : ((s.repository v directory).run script).value = .ok entries) :
    ∃ files : List JavaFile,
      entries = files.map s.entryOf ∧
      (∀ f ∈ files, f.content = v.readText f.path ∧
        f.reply.isSome = (s.canSend && f.isRead)) ∧
      JavaFile.replies files = script.upcoming (JavaFile.replies files).length ∧
      ((∀ f ∈ files, (s.entryOf f).shows "documentation" = true →
          f.isAnswered s.provider = true) ↔
        ∀ f ∈ files, f.isRead = true →
          f.isAnswered s.provider = true ∨ f.reply.any (·.isSilent s.provider) = true) ∧
      ∀ f ∈ files,
        ((s.entryOf f).shows "documentation" = true ↔
          f.isRead = true ∧ f.reply.any (·.isSilent s.provider) = false) ∧
        (s.entryOf f).shows "error" = !(s.entryOf f).shows "documentation" ∧
        ((s.entryOf f).shows "documentation" = true → f.isAnswered s.provider = false →
          ∃ d, (s.entryOf f).outcome = .ok d ∧
            (TellsFailure d ∨
              f.reply.bind (·.delivered? s.provider) = some d ∧ d.text? = none)) := by
  obtain ⟨path, visits, rfl, hwalk⟩ := exists_walk_of_ok h
  have hshows (f : JavaFile) : (s.entryOf f).shows "documentation" = true ↔
      f.isRead = true ∧ f.reply.any (·.isSilent s.provider) = false := by
    rw [shows_entryOf, Bool.and_eq_true, Bool.not_eq_true']
  rw [run_repository hwalk] at h
  refine ⟨s.filesAt v script (javaPaths visits), (Except.ok.inj h).symm, fun f => mem_filesAt,
    replies_filesAt s v script _, ?_,
    fun f _ => ⟨hshows f, shows_error _, outcome_of_shows⟩⟩
  refine forall₂_congr fun f _ => ?_
  rw [hshows]
  cases f.isRead <;> cases f.reply.any (·.isSilent s.provider) <;> simp

/-- If nobody answers, files are documented that were not answered. -/
theorem mixed_documented :
    let s : JavaServer := ⟨.llama, "k", .str "k"⟩
    ∃ entries, ((s.repository mixed (.str ".")).run []).value = .ok entries ∧
      ∃ e ∈ entries, e.path = "./A.java" ∧ e.shows "documentation" = true ∧
        ∃ d, e.outcome = .ok d ∧ TellsFailure d := by
  intro s
  have hvalue := congrArg Done.value (run_repository walk_mixed s [])
  obtain ⟨files, hentries, hfiles, hreplies, -, hshown⟩ := documented_honestly_iff hvalue
  have hpaths : files.map JavaFile.path = [("./A.java" : Text), "./B.java", "./sub/C.java"] := by
    have hmap := congrArg (List.map JavaEntry.path) hentries
    rw [List.map_map, List.map_map] at hmap
    exact hmap.symm.trans ((path_filesAt s mixed [] _).trans javaPaths_mixed)
  obtain ⟨f, hf, hpath⟩ := List.mem_map.mp (hpaths ▸ List.mem_cons_self)
  obtain ⟨hcontent, hreply⟩ := hfiles f hf
  have hread : f.isRead = true := by
    rw [JavaFile.isRead, hcontent, hpath]
    decide +kernel
  have hsend : s.canSend = true := by decide +kernel
  rw [hsend, hread] at hreply
  obtain ⟨r, hr⟩ := Option.isSome_iff_exists.mp hreply
  obtain rfl : r = .failure .exhausted := by
    have hmem : r ∈ JavaFile.replies files := List.mem_flatMap.mpr ⟨f, hf, by simp [hr]⟩
    rw [hreplies, Script.upcoming_eq_map] at hmem
    obtain ⟨i, -, hi⟩ := List.mem_map.mp hmem
    rw [← hi, Script.replyAt, List.drop_nil]
    rfl
  obtain ⟨hshows, -, htold⟩ := hshown f hf
  have hshown : (s.entryOf f).shows "documentation" = true := hshows.mpr ⟨hread, by rw [hr]; rfl⟩
  obtain ⟨d, houtcome, hfailure | ⟨hdelivered, -⟩⟩ :=
    htold hshown (by rw [JavaFile.isAnswered, hr]; exact Bool.and_false _)
  · refine ⟨_, hvalue, s.entryOf f, ?_, hpath, hshown, d, houtcome, hfailure⟩
    exact hentries ▸ List.mem_map_of_mem hf
  · rw [hr] at hdelivered
    cases hdelivered

end JavaServer

end Scribe
