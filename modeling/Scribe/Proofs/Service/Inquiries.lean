import Scribe.Proofs.Generator.Documentation
import Scribe.Proofs.Service.Agenda

/-!
# The inquiries of a run

The service hands the methods of its agenda to the model one after the other, each with the replies
that the ones before it have left. A report is put together from these inquiries: it has one entry
for each of them, in order, its counters count them, and all requests and pauses of the run are
those of their calls.

## Main results

* `Service.transcribes_jobReports`: a report tells its inquiries.
* `Service.transcribes_agenda`: so does the report that answers a request.
-/

namespace Scribe

/-- The methods of a report in order, each with the path and language of its file. -/
def Report.entries (r : Report) : List (Text × Language × MethodReport) :=
  r.files.flatMap fun f => f.methods.map fun m => (f.path, f.language, m)

theorem Report.length_entries (r : Report) :
    r.entries.length = (r.files.map fun f => f.methods.length).sum := by
  simp [entries, List.length_flatMap]

theorem Report.mem_entries {r : Report} {f : FileReport} {m : MethodReport} (hf : f ∈ r.files)
    (hm : m ∈ f.methods) : (f.path, f.language, m) ∈ r.entries :=
  List.mem_flatMap.mpr ⟨f, hf, List.mem_map.mpr ⟨m, hm, rfl⟩⟩

/-- The methods that a file gives. -/
def FileEntry.methods (e : FileEntry) : List Method :=
  match e.outcome with
  | .ok found => found
  | .error _ => []

/-- The methods that are extracted from the file at a path. -/
def Workspace.methodsIn (w : Workspace) (path : Text) : List Method :=
  FileEntry.methods ⟨path, w.fileMethods path⟩

/-- A method of a file, to be documented. -/
structure Task where
  path : Text
  language : Language
  method : Method

/-- What the model is asked. -/
def Task.prompt (t : Task) : Text := Prompt.method (.str t.language.tag) (.ofMethod t.method)

/-- A method that is handed over while some replies are still to come. -/
structure Inquiry extends Task where
  script : Script

namespace Inquiry

/-- Handing the method over. -/
def handed (c : Client) (q : Inquiry) : Done Script Documentation :=
  (c.documentSubjects (.str q.language.tag) [.ok (.ofMethod q.method)]).run q.script

/-- The call that asks for the method. -/
def called (c : Client) (q : Inquiry) : Done Script (Except Client.CallError Json) :=
  (c.call (.str q.prompt)).run q.script

/-- What a report has of an inquiry. -/
def entry (c : Client) (q : Inquiry) : MethodReport :=
  ⟨q.method.name, Client.textFor q.method.name (Client.told (q.called c).value)⟩

@[simp]
theorem name_entry (c : Client) (q : Inquiry) : (q.entry c).name = q.method.name := rfl

/-- Whether an inquiry counts as failed. -/
def isFailed (c : Client) (q : Inquiry) : Bool :=
  Client.countsAsFailed q.method.name (Client.told (q.called c).value)

/-- The requests and pauses of an inquiry. -/
def traffic (c : Client) (q : Inquiry) : List Event := Event.traffic (q.called c).events

/-- Handing a method over is one call, and it gives one entry. -/
theorem handed_spec (c : Client) {q : Inquiry} (hname : q.method.name ≠ "") :
    methodReport q.method.name (q.handed c).value =
        ([q.entry c], if q.isFailed c then ⟨0, 1⟩ else ⟨1, 0⟩) ∧
      (q.handed c).state = (q.called c).state ∧
      Event.traffic (q.handed c).events = q.traffic c := by
  obtain ⟨hvalue, hstate, htraffic⟩ :=
    c.run_documentSubjects q.language.tag hname q.script
  refine ⟨?_, hstate, htraffic⟩
  rw [handed, hvalue]
  exact methodReport_told q.method.name (q.called c).value

end Inquiry

/-- The methods of a job. -/
def Job.tasks (j : Job) : List Task := j.entry.methods.map fun m => ⟨j.entry.path, j.language, m⟩

namespace Service

/-- The inquiries that hand some methods over, one after the other. -/
def inquiries (c : Client) : Script → List Task → List Inquiry
  | _, [] => []
  | script, t :: rest => ⟨t, script⟩ :: inquiries c (Inquiry.handed c ⟨t, script⟩).state rest

/-- The replies that are left when some methods have been handed over. -/
def scriptAfter (c : Client) : Script → List Task → Script
  | script, [] => script
  | script, t :: rest => scriptAfter c (Inquiry.handed c ⟨t, script⟩).state rest

@[simp]
theorem scriptAfter_append (c : Client) (script : Script) (a b : List Task) :
    scriptAfter c script (a ++ b) = scriptAfter c (scriptAfter c script a) b := by
  induction a generalizing script with
  | nil => rfl
  | cons t rest ih => exact ih _

@[simp]
theorem inquiries_append (c : Client) (script : Script) (a b : List Task) :
    inquiries c script (a ++ b) =
      inquiries c script a ++ inquiries c (scriptAfter c script a) b := by
  induction a generalizing script with
  | nil => rfl
  | cons t rest ih => exact congrArg (_ :: ·) (ih _)

/-- Each method is handed over once. -/
theorem map_toTask_inquiries (c : Client) (script : Script) (tasks : List Task) :
    (inquiries c script tasks).map (·.toTask) = tasks := by
  induction tasks generalizing script with
  | nil => rfl
  | cons t rest ih => exact congrArg (t :: ·) (ih _)

/-- A report that tells the inquiries of some jobs. -/
structure Transcribes (c : Client) (script : Script) (jobs : List Job) (d : Done Script Report) :
    Prop where
  entries : d.value.entries =
    (inquiries c script (jobs.flatMap Job.tasks)).map fun q => (q.path, q.language, q.entry c)
  processed : d.value.stats.processed =
    (inquiries c script (jobs.flatMap Job.tasks)).countP (!·.isFailed c)
  failed : d.value.stats.failed =
    (inquiries c script (jobs.flatMap Job.tasks)).countP (·.isFailed c)
  state : d.state = scriptAfter c script (jobs.flatMap Job.tasks)
  traffic : Event.traffic d.events =
    (inquiries c script (jobs.flatMap Job.tasks)).flatMap (·.traffic c)

/-- What the documentation of some methods of a file comes to. -/
theorem methodReports_spec (c : Client) (path : Text) (l : Language) {ms : List Method}
    (hnamed : ∀ m ∈ ms, m.name ≠ "") (script : Script) :
    let work := (methodReports c l ms).run script
    let qs := inquiries c script (ms.map fun m => ⟨path, l, m⟩)
    work.value.1 = qs.map (·.entry c) ∧ work.value.2.processed = qs.countP (!·.isFailed c) ∧
      work.value.2.failed = qs.countP (·.isFailed c) ∧
      work.state = scriptAfter c script (ms.map fun m => ⟨path, l, m⟩) ∧
      Event.traffic work.events = qs.flatMap (·.traffic c) := by
  induction ms generalizing script with
  | nil => exact ⟨rfl, rfl, rfl, rfl, rfl⟩
  | cons m rest ih =>
    have hstep := Inquiry.handed_spec c (q := ⟨⟨path, l, m⟩, script⟩) (hnamed m List.mem_cons_self)
    obtain ⟨hreport, -, htraffic⟩ := hstep
    obtain ⟨hentries, hprocessed, hfailed, hstate, hrest⟩ :=
      ih (fun k hk => hnamed k (List.mem_cons_of_mem _ hk))
        (Inquiry.handed c ⟨⟨path, l, m⟩, script⟩).state
    dsimp only at *
    rw [Inquiry.handed] at *
    simp only [methodReports, Work.run_bind, Work.run_pure, hreport, List.map_cons, inquiries,
      scriptAfter, Inquiry.handed]
    refine ⟨by simp [hentries], ?_, ?_, hstate, by simp [htraffic, hrest]⟩
    · rw [List.countP_cons, Stats.processed_add, hprocessed, Nat.add_comm]
      split <;> simp_all
    · rw [List.countP_cons, Stats.failed_add, hfailed, Nat.add_comm]
      split <;> simp_all

theorem run_fileReport (c : Client) (l : Language) (e : FileEntry) (script : Script) :
    (fileReport c l e).run script =
      let work := (methodReports c l e.methods).run script
      ⟨⟨[⟨e.path, l, work.value.1⟩], work.value.2⟩, work.state, work.events⟩ := by
  cases houtcome : e.outcome <;> simp [fileReport, FileEntry.methods, houtcome]

/-- A report tells its inquiries. -/
theorem transcribes_jobReports (c : Client) {jobs : List Job}
    (hnamed : ∀ j ∈ jobs, ∀ m ∈ j.entry.methods, m.name ≠ "") (script : Script) :
    Transcribes c script jobs ((jobReports c jobs).run script) := by
  induction jobs generalizing script with
  | nil => exact ⟨rfl, rfl, rfl, rfl, rfl⟩
  | cons j rest ih =>
    obtain ⟨hentries, hprocessed, hfailed, hstate, htraffic⟩ :=
      methodReports_spec c j.entry.path j.language (hnamed j List.mem_cons_self) script
    rw [← Job.tasks] at hentries hprocessed hfailed hstate htraffic
    have hrest := ih (fun k hk => hnamed k (List.mem_cons_of_mem _ hk))
      (scriptAfter c script j.tasks)
    have hpairs : (inquiries c script j.tasks).map (fun q => (q.path, q.language, q.entry c)) =
        (inquiries c script j.tasks).map fun q => (j.entry.path, j.language, q.entry c) := by
      refine List.map_congr_left fun q hq => ?_
      have hmem := List.mem_map_of_mem (f := Inquiry.toTask) hq
      rw [map_toTask_inquiries] at hmem
      obtain ⟨m, -, heq⟩ := List.mem_map.mp hmem
      rw [← heq]
    constructor
    · have hmore := hrest.entries
      rw [Report.entries] at hmore ⊢
      simp [jobReports, run_fileReport, hentries, hstate, hmore, hpairs, Function.comp_def]
    · simp [jobReports, run_fileReport, hprocessed, hstate, hrest.processed]
    · simp [jobReports, run_fileReport, hfailed, hstate, hrest.failed]
    · simp [jobReports, run_fileReport, hstate, hrest.state]
    · simp [jobReports, run_fileReport, hstate, htraffic, hrest.traffic]

/-- The inquiries of some jobs, each job with its own. -/
def dossiers (c : Client) : Script → List Job → List (Job × List Inquiry)
  | _, [] => []
  | script, j :: rest =>
    (j, inquiries c script j.tasks) :: dossiers c (scriptAfter c script j.tasks) rest

theorem flatMap_dossiers (c : Client) (script : Script) (jobs : List Job) :
    (dossiers c script jobs).flatMap (·.2) = inquiries c script (jobs.flatMap Job.tasks) := by
  induction jobs generalizing script with
  | nil => rfl
  | cons j rest ih => simp [dossiers, ih]

/-- A file is reported with the entries of its own inquiries. -/
theorem files_eq_map_dossiers (c : Client) {jobs : List Job}
    (hnamed : ∀ j ∈ jobs, ∀ m ∈ j.entry.methods, m.name ≠ "") (script : Script) :
    ((jobReports c jobs).run script).value.files =
      (dossiers c script jobs).map fun d =>
        ⟨d.1.entry.path, d.1.language, d.2.map (·.entry c)⟩ := by
  induction jobs generalizing script with
  | nil => rfl
  | cons j rest ih =>
    obtain ⟨hentries, -, -, hstate, -⟩ :=
      methodReports_spec c j.entry.path j.language (hnamed j List.mem_cons_self) script
    rw [← Job.tasks] at hentries hstate
    have hrest := ih (fun k hk => hnamed k (List.mem_cons_of_mem _ hk))
      (scriptAfter c script j.tasks)
    simp [jobReports, run_fileReport, dossiers, hentries, hstate, hrest]

theorem named_flatMap_tasks {jobs : List Job}
    (hnamed : ∀ j ∈ jobs, ∀ m ∈ j.entry.methods, m.name ≠ "") :
    ∀ t ∈ jobs.flatMap Job.tasks, t.method.name ≠ "" := by
  intro t ht
  obtain ⟨j, hj, ht⟩ := List.mem_flatMap.mp ht
  obtain ⟨m, hm, rfl⟩ := List.mem_map.mp ht
  exact hnamed j hj m hm

theorem named_of_mem_agenda {w : Workspace} {has : Language → Bool} {visits : List Visit} {j : Job}
    (hj : j ∈ agenda w has visits) : ∀ m ∈ j.entry.methods, m.name ≠ "" := by
  have houtcome := outcome_of_mem_agenda hj
  rw [FileEntry.methods]
  split
  · rename_i found hfound
    exact Workspace.name_ne_empty_of_fileMethods (houtcome.symm.trans hfound)
  · simp

theorem named_tasks {w : Workspace} {has : Language → Bool} {visits : List Visit} {t : Task}
    (ht : t ∈ (agenda w has visits).flatMap Job.tasks) : t.method.name ≠ "" :=
  named_flatMap_tasks (fun _ hj => named_of_mem_agenda hj) t ht

/-- The inquiries of a run through some visits. -/
def inquiriesOf (s : Service) (st : ServiceState) (visits : List Visit) : List Inquiry :=
  inquiries s.client st.script
    ((agenda s.workspace (s.workspace.hasParser st.parsers) visits).flatMap Job.tasks)

/-- The inquiries that a request sets off. -/
def inquiriesFor (s : Service) (r : Web.Request) (st : ServiceState) : List Inquiry :=
  match s.admitted? r with
  | none => []
  | some given => s.inquiriesOf st (s.workspace.visits (s.root given))

theorem inquiriesFor_of_admitted {s : Service} {r : Web.Request} {given : Text}
    {visits : List Visit} (hadmitted : s.admitted? r = some given)
    (hwalk : s.workspace.volume.walk (s.root given) = .ok visits) (st : ServiceState) :
    s.inquiriesFor r st = s.inquiriesOf st visits := by
  have hvisits : s.workspace.visits (s.root given) = visits := by rw [Workspace.visits, hwalk]
  rw [inquiriesFor, hadmitted]
  exact congrArg (s.inquiriesOf st) hvisits

/-- Only a request for something that there is sets off inquiries. -/
theorem inquiriesFor_eq_nil {s : Service} {r : Web.Request}
    (h : ∀ given, s.admitted? r = some given → s.workspace.volume.holds (s.root given) = false)
    (st : ServiceState) : s.inquiriesFor r st = [] := by
  rw [inquiriesFor]
  split
  · rfl
  · rename_i given hadmitted
    rw [Workspace.visits_of_not_holds (h given hadmitted)]
    rfl

/-- Every method that is handed over has a name. -/
theorem name_ne_empty_of_mem_inquiriesOf {s : Service} {st : ServiceState} {visits : List Visit}
    {q : Inquiry} (hq : q ∈ s.inquiriesOf st visits) : q.method.name ≠ "" := by
  have hmem := List.mem_map_of_mem (f := Inquiry.toTask) hq
  rw [inquiriesOf, map_toTask_inquiries] at hmem
  exact named_tasks hmem

/-- The report of the agenda tells its inquiries. -/
theorem transcribes_agenda (s : Service) (st : ServiceState) (visits : List Visit) :
    let jobs := agenda s.workspace (s.workspace.hasParser st.parsers) visits
    Transcribes s.client st.script jobs ((jobReports s.client jobs).run st.script) :=
  transcribes_jobReports s.client (fun _ hj => named_of_mem_agenda hj) st.script

end Service

end Scribe
