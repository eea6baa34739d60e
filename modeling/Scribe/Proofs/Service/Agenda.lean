import Scribe.Proofs.Generator.Call
import Scribe.Proofs.Repository
import Scribe.Web.Process

/-!
# The agenda of the service

The service goes through the files of a walk, and each of them sets off a search. What is searched
for does not depend on the replies of the model, so all the files that will be documented are known
in advance: they are the agenda. Working through the visits gives the same report, takes the same
replies and sends the same requests as documenting the files of the agenda one after the other.

## Main results

* `Service.performs_walkReport`: the service works its agenda off.
* `Service.process_answered`: so does a request for a directory that there is.
-/

namespace Scribe

/-! ## Reports one after another -/

namespace Stats

@[ext]
theorem ext' {a b : Stats} (hprocessed : a.processed = b.processed)
    (hfailed : a.failed = b.failed) : a = b := by
  obtain ⟨_, _⟩ := a
  obtain ⟨_, _⟩ := b
  simp_all

@[simp]
theorem processed_add (a b : Stats) : (a + b).processed = a.processed + b.processed := rfl

@[simp]
theorem failed_add (a b : Stats) : (a + b).failed = a.failed + b.failed := rfl

end Stats

namespace Report

@[simp]
theorem files_append (a b : Report) : (a ++ b).files = a.files ++ b.files := rfl

@[simp]
theorem stats_append (a b : Report) : (a ++ b).stats = a.stats + b.stats := rfl

@[ext]
theorem ext' {a b : Report} (hfiles : a.files = b.files)
    (hprocessed : a.stats.processed = b.stats.processed)
    (hfailed : a.stats.failed = b.stats.failed) : a = b := by
  obtain ⟨_, _, _⟩ := a
  obtain ⟨_, _, _⟩ := b
  simp_all

theorem empty_append (a : Report) : empty ++ a = a := by
  ext1 <;> simp [empty, Stats.none]

theorem append_assoc (a b c : Report) : a ++ b ++ c = a ++ (b ++ c) := by
  ext1 <;> simp [Nat.add_assoc]

end Report

/-! ## Jobs -/

/-- A file to document and the language of its methods. -/
structure Job where
  language : Language
  entry : FileEntry

namespace Service

/-- Documents files one after the other. -/
def jobReports (c : Client) : List Job → Work Script Report
  | [] => pure .empty
  | j :: rest => do
    let first ← fileReport c j.language j.entry
    let more ← jobReports c rest
    return first ++ more

theorem jobReports_append (c : Client) (a b : List Job) :
    jobReports c (a ++ b) = do
      let first ← jobReports c a
      let more ← jobReports c b
      return first ++ more := by
  induction a with
  | nil => exact Work.ext fun script => by simp [jobReports, Report.empty_append]
  | cons j rest ih =>
    rw [List.cons_append, jobReports, ih]
    exact Work.ext fun script => by simp [jobReports, Report.append_assoc]

theorem fileReports_eq_jobReports (c : Client) (l : Language) (es : List FileEntry) :
    fileReports c l es = jobReports c (es.map fun e => ⟨l, e⟩) := by
  induction es with
  | nil => rfl
  | cons e rest ih => rw [fileReports, List.map_cons, jobReports, ih]

/-- Every job is reported under its path and language. -/
theorem files_jobReports (c : Client) (jobs : List Job) (script : Script) :
    ((jobReports c jobs).run script).value.files.map (fun f => (f.path, f.language)) =
      jobs.map fun j => (j.entry.path, j.language) := by
  induction jobs generalizing script with
  | nil => rfl
  | cons j rest ih => simp [jobReports, fileReport, ih]

/-- The jobs that a file of a visit sets off. -/
def jobsFor (w : Workspace) (has : Language → Bool) (visit : Visit) (name : Text) : List Job :=
  let l := Language.ofPath name
  if l = .unknown then []
  else (w.due has (Path.directory (Path.join visit.directory name)) l).map fun e => ⟨l, e⟩

/-- The jobs that the files of some visits set off. -/
def agenda (w : Workspace) (has : Language → Bool) (visits : List Visit) : List Job :=
  visits.flatMap fun visit => visit.files.flatMap (jobsFor w has visit)

/-- The jobs of the agenda are files with what they give. -/
theorem outcome_of_mem_agenda {w : Workspace} {has : Language → Bool} {visits : List Visit}
    {j : Job} (hj : j ∈ agenda w has visits) : j.entry.outcome = w.fileMethods j.entry.path := by
  simp only [agenda, List.mem_flatMap, jobsFor, Workspace.due] at hj
  obtain ⟨visit, -, name, -, hj⟩ := hj
  split at hj
  · cases hj
  · split at hj
    · obtain ⟨e, he, rfl⟩ := List.mem_map.mp hj
      obtain ⟨path, -, rfl⟩ := List.mem_map.mp he
      rfl
    · cases hj

/-! ## Working the agenda off -/

/-- Work of the service that documents the files of some jobs, which depend on the parsers there
are. Beyond that, only lines are printed and the table of parsers is opened. -/
structure Performs (s : Service) (work : Work ServiceState Report)
    (jobs : (Language → Bool) → List Job) : Prop where
  value : ∀ st, (work.run st).value =
    ((jobReports s.client (jobs (s.workspace.hasParser st.parsers))).run st.script).value
  script : ∀ st, (work.run st).state.script =
    ((jobReports s.client (jobs (s.workspace.hasParser st.parsers))).run st.script).state
  traffic : ∀ st, Event.traffic (work.run st).events = Event.traffic
    ((jobReports s.client (jobs (s.workspace.hasParser st.parsers))).run st.script).events
  parsers : ∀ st, s.workspace.hasParser (work.run st).state.parsers =
    s.workspace.hasParser st.parsers

theorem performs_empty (s : Service) : s.Performs (pure .empty) fun _ => [] :=
  ⟨fun _ => rfl, fun _ => rfl, fun _ => rfl, fun _ => rfl⟩

theorem Performs.append {s : Service} {a b : Work ServiceState Report}
    {ja jb : (Language → Bool) → List Job} (ha : s.Performs a ja) (hb : s.Performs b jb) :
    s.Performs
      (do
        let first ← a
        let more ← b
        return first ++ more)
      fun has => ja has ++ jb has where
  value st := by simp [jobReports_append, ha.value, hb.value, ha.script, ha.parsers]
  script st := by simp [jobReports_append, hb.script, ha.script, ha.parsers]
  traffic st := by simp [jobReports_append, ha.traffic, hb.traffic, ha.script, ha.parsers]
  parsers st := by simp [ha.parsers, hb.parsers]

theorem run_languageReport (s : Service) (directory : Text) (l : Language) (st : ServiceState) :
    (s.languageReport directory l).run st =
      let search := (s.workspace.languageMethods directory l).run st.toRegistry
      let reports := (fileReports s.client l (Workspace.entriesOf search.value)).run st.script
      ⟨reports.value, ⟨search.state, reports.state⟩, search.events ++ reports.events⟩ := by
  rw [languageReport, Work.run_bind, onRegistry, Work.run_on]
  cases hvalue : ((s.workspace.languageMethods directory l).run st.toRegistry).value with
  | error e => simp [hvalue, Workspace.entriesOf, fileReports]
  | ok entries => simp [hvalue, Workspace.entriesOf, onScript]

theorem performs_languageReport (s : Service) (directory : Text) (l : Language) :
    s.Performs (s.languageReport directory l)
      fun has => (s.workspace.due has directory l).map fun e => ⟨l, e⟩ := by
  constructor <;> intro st <;> rw [run_languageReport] <;> dsimp only
  · rw [Workspace.languageMethods_value, fileReports_eq_jobReports]
  · rw [Workspace.languageMethods_value, fileReports_eq_jobReports]
  · rw [Event.traffic_append, Event.traffic_eq_nil (s.workspace.languageMethods_events _ _ _),
      Workspace.languageMethods_value, fileReports_eq_jobReports, List.nil_append]
  · exact Workspace.languageMethods_state ..

theorem performs_reportFor (s : Service) (visit : Visit) (name : Text) :
    s.Performs (s.reportFor visit name) fun has => jobsFor s.workspace has visit name := by
  unfold reportFor jobsFor
  by_cases h : Language.ofPath name = .unknown
  · simpa only [h, if_true] using performs_empty s
  · simpa only [h, if_false] using performs_languageReport s _ _

theorem performs_visitReport (s : Service) (visit : Visit) (names : List Text) :
    s.Performs (s.visitReport visit names)
      fun has => names.flatMap (jobsFor s.workspace has visit) := by
  induction names with
  | nil => exact performs_empty s
  | cons name rest ih => exact (performs_reportFor s visit name).append ih

/-- The service works its agenda off. -/
theorem performs_walkReport (s : Service) (visits : List Visit) :
    s.Performs (s.walkReport visits) fun has => agenda s.workspace has visits := by
  induction visits with
  | nil => exact performs_empty s
  | cons visit rest ih => exact (performs_visitReport s visit visit.files).append ih

/-! ## Answers -/

/-- The directory that a request names. -/
def asked? (r : Web.Request) : Option Text :=
  match r.value with
  | .error _ => none
  | .ok data =>
    match data.fieldD "directory" .null with
    | .ok (.str given) => some given
    | _ => none

theorem asked?_eq_some_iff {r : Web.Request} {given : Text} :
    asked? r = some given ↔
      ∃ data, r.value = .ok data ∧ data.fieldD "directory" .null = .ok (.str given) := by
  rw [asked?]
  split
  · simp_all
  · split <;> simp_all

/-- The path of the directory that a request names. -/
def root (s : Service) (given : Text) : Text :=
  Path.absolute s.workspace.volume.workingDirectory given

theorem isTruthy_of_fieldD {data : Json} {name given : Text}
    (h : data.fieldD name .null = .ok (.str given)) : data.isTruthy = true := by
  cases data with
  | obj fields =>
    cases fields with
    | nil => simp [Json.fieldD, Json.lookup] at h
    | cons f rest => rfl
  | _ => simp [Json.fieldD] at h

/-- Why the console does not take the line that announces a directory. -/
def lineRefusal? (s : Service) (directory : Text) : Option String :=
  s.client.machine.console.refusal? ("Processing directory: " ++ directory)

/-- The directory that a request names, if it can be announced. -/
def admitted? (s : Service) (r : Web.Request) : Option Text :=
  (asked? r).filter fun given => (s.lineRefusal? (s.root given)).isNone

theorem admitted?_eq_some_iff {s : Service} {r : Web.Request} {given : Text} :
    s.admitted? r = some given ↔
      asked? r = some given ∧ s.lineRefusal? (s.root given) = none := by
  rw [admitted?, Option.filter_eq_some_iff, Option.isNone_iff_eq_none]

/-- Lines of characters are always taken. -/
theorem lineRefusal?_of_not_hasHalf (s : Service) {directory : Text}
    (h : directory.hasHalf = false) : s.lineRefusal? directory = none := by
  obtain ⟨directory, rfl⟩ := Utf8.exists_ofString_of_not_hasHalf h
  rw [lineRefusal?, ← Text.ofString_append]
  exact s.client.machine.console.refusal?_ofString _

/-- A request for a directory that there is, is answered with the report of the agenda. -/
theorem process_answered {s : Service} {r : Web.Request} {given : Text}
    (hadmits : s.admitted? r = some given)
    (hholds : s.workspace.volume.holds (s.root given) = true) (st : ServiceState) :
    ∃ visits, s.workspace.volume.walk (s.root given) = .ok visits ∧
      let work := (s.process r).run st
      let reports := (jobReports s.client
        (agenda s.workspace (s.workspace.hasParser st.parsers) visits)).run st.script
      work.value = .json 200 reports.value.toJson ∧ work.state.script = reports.state ∧
        Event.traffic work.events = Event.traffic reports.events := by
  obtain ⟨hasks, hline⟩ := admitted?_eq_some_iff.mp hadmits
  obtain ⟨data, hvalue, hfield⟩ := asked?_eq_some_iff.mp hasks
  obtain ⟨visits, hwalk⟩ := walk_of_holds hholds
  have hperforms := performs_walkReport s visits
  refine ⟨visits, hwalk, ?_⟩
  rw [root] at hholds hwalk
  rw [lineRefusal?, root] at hline
  simp [process, hvalue, hfield, isTruthy_of_fieldD hfield, hline, hholds, hwalk, hperforms.value,
    hperforms.script, hperforms.traffic]

/-- Only such requests are answered so. -/
theorem admitted_of_status {s : Service} {r : Web.Request} {st : ServiceState}
    (h : ((s.process r).run st).value.status = 200) :
    ∃ given, s.admitted? r = some given ∧ s.workspace.volume.holds (s.root given) = true := by
  unfold process at h
  split at h
  · cases h
  · rename_i data hvalue
    split at h
    · cases h
    · split at h
      · cases h
      · rename_i given hfield
        have hasked := asked?_eq_some_iff.mpr ⟨data, hvalue, hfield⟩
        cases hline : s.lineRefusal? (s.root given) with
        | some message =>
          rw [lineRefusal?, root] at hline
          simp [hline] at h
        | none =>
          refine ⟨given, admitted?_eq_some_iff.mpr ⟨hasked, hline⟩, ?_⟩
          by_contra hholds
          rw [root, Bool.not_eq_true] at hholds
          rw [lineRefusal?, root] at hline
          simp [hline, hholds] at h
      · cases h

/-! ## A small service -/

/-- A service for a folder with a file of Java, above a folder with another one. Each file has one
method. -/
def nested : Service where
  workspace :=
    { volume :=
        ⟨[("w", .folder [("A.java", .file [109]), ("sub", .folder [("B.java", .file [109])])])],
          "/w"⟩
      toolkit := (Toolkit.fresh true).withTree [109] <| .ok <|
        .ofSource [109] "program" ⟨0, 1⟩ true []
          [.ofSource [109] "method_declaration" ⟨0, 1⟩ true []
            [.ofSource [109] "identifier" ⟨0, 1⟩ true [] []]] }
  client := ⟨.str "k", .str "gemini-2.0-flash", .int 1000, .int 3, .int 1, .keeping⟩

/-- A request for the working directory. -/
def requestHere : Web.Request :=
  ⟨"POST", "/process", some "application/json", "\x7b\"directory\": \".\"\x7d"⟩

theorem asked?_requestHere : asked? requestHere = some "." := by
  decide +kernel

theorem create_nested : Client.create {} (some "k") .keeping = .ok nested.client := rfl

theorem walk_nested : nested.workspace.volume.walk (nested.root ".") =
    .ok [⟨"/w", ["A.java"]⟩, ⟨"/w/sub", ["B.java"]⟩] := by
  decide +kernel

/-- A reply with a text in the place of the answer. -/
def answerReply : Reply :=
  .response ⟨200, "OK", "\x7b\"candidates\": [\x7b\"content\": " ++
    "\x7b\"parts\": [\x7b\"text\": \"d\"\x7d]\x7d\x7d]\x7d"⟩

end Service

end Scribe
