import Scribe.Proofs.Source.Extraction
import Scribe.Proofs.Service.Multiplicity

/-!
# Failures that an answer does not show

A file of a walk can fail at several levels: its language has no parser, it cannot be read, its
language has no rules, the grammar cannot be used, or the content cannot be parsed. A search of its
directory tells each of these. The report of the service does not: the files of a language without a
parser are left out, and a file with an error has the entry of a file without methods. So services
that differ only in why files have no methods give the same answers.

## Main results

* `Service.jobReports_congr`: a report depends on the methods of files, not on their errors.
* `Service.names_of_mem_jobReports`: a file is reported with the methods that it gives.
* `Service.failures_shown_iff`: an answer shows all failures exactly if there are none.
-/

namespace Scribe

/-! ## What is left of a failure -/

theorem exists_error_of_toBool {ε α : Type} {x : Except ε α} (h : x.toBool = false) :
    ∃ e, x = .error e := by
  cases x with
  | error e => exact ⟨e, rfl⟩
  | ok a => cases h

namespace Extractor

/-- No language keeps its methods in nodes of the kind that a blank tree consists of. -/
theorem methods_blank {t : Toolkit} {l : Language} {x : Extractor}
    (h : create t (.known l) = .ok x) (source : Bytes) :
    x.methods source (.blank source) = .ok [] := by
  have hmethod : x.rules.method ≠ "root" := by
    have hall : ∀ rules, l.rules? = some rules → rules.method ≠ "root" := by
      cases l <;> simp [Language.rules?]
    exact hall x.rules (Extractor.rules_of_create h).2
  have hsites : x.methodSites (.blank source) = [] := by
    simp [methodSites, Node.sites, Node.sitesAfter, Node.sitesOfList, Node.blank, Node.ofSource,
      hmethod.symm]
  rw [methods, hsites, methodsAt]

end Extractor

/-- A source that cannot be parsed gives an error, where a blank tree gives no methods. -/
theorem extractMethods_withTree (t : Toolkit) (source : Bytes) (cause : Text) (l : Language)
    (content : Bytes) :
    let torn := extractMethods (t.withTree source (.error cause)) (.known l) content
    let blank := extractMethods (t.withTree source (.ok (.blank source))) (.known l) content
    blank = torn ∨ (∃ e, torn = .error e) ∧ blank = .ok [] := by
  intro torn blank
  have hcreate (tree : Except Text Node) :
      Extractor.create (t.withTree source tree) (.known l) = Extractor.create t (.known l) := rfl
  simp only [torn, blank, extractMethods, hcreate]
  cases hx : Extractor.create t (.known l) with
  | error e => exact .inl rfl
  | ok x =>
    by_cases hcontent : source = content
    · subst hcontent
      have hparse (grammar : String) (tree : Except Text Node) :
          (t.withTree source tree).parse grammar source = tree := if_pos rfl
      refine .inr ⟨⟨.parse cause, ?_⟩, ?_⟩
      · simp [bind, Except.bind, Extractor.parse, hparse]
      · simp [bind, Except.bind, Extractor.parse, hparse, Extractor.methods_blank hx]
    · have hparse (grammar : String) (tree : Except Text Node) :
          (t.withTree source tree).parse grammar content = t.parse grammar content :=
        if_neg (Ne.symm hcontent)
      exact .inl (by simp [bind, Except.bind, Extractor.parse, hparse])

namespace Workspace

/-- Whether a file of a language gives its methods. -/
def processes (w : Workspace) (table : ParserTable) (l : Language) (path : Text) : Bool :=
  w.hasParser table l && (w.fileMethods path).toBool

/-- A file without methods and a file with an error are the same here. -/
theorem methodsIn_eq_nil_iff {w : Workspace} {path : Text} :
    w.methodsIn path = [] ↔
      w.fileMethods path = .ok [] ∨ ∃ e, w.fileMethods path = .error e := by
  rw [methodsIn, FileEntry.methods]
  cases w.fileMethods path <;> simp

/-- Two workspaces that differ at most in why files have no methods. -/
structure Alike (w w' : Workspace) (table : ParserTable) : Prop where
  workingDirectory : w'.volume.workingDirectory = w.volume.workingDirectory
  holds : w'.volume.holds = w.volume.holds
  walk : w'.volume.walk = w.volume.walk
  parsers : w'.hasParser table = w.hasParser table
  methods : w'.methodsIn = w.methodsIn

/-- A source that cannot be parsed is taken for a source without methods. -/
theorem alike_withTree (w : Workspace) (table : ParserTable) (source : Bytes) (cause : Text) :
    Alike { w with toolkit := w.toolkit.withTree source (.error cause) }
      { w with toolkit := w.toolkit.withTree source (.ok (.blank source)) } table where
  workingDirectory := rfl
  holds := rfl
  walk := rfl
  parsers := by
    funext l
    simp only [hasParser, ParserTable.opened_eq]
    rfl
  methods := by
    funext path
    have hinstalled (tree : Except Text Node) :
        (w.toolkit.withTree source tree).installed = w.toolkit.installed := rfl
    simp only [methodsIn, fileMethods, methodsAt, FileEntry.methods, contentMethods, hinstalled]
    cases hcond : w.toolkit.installed with
    | false => rfl
    | true =>
      cases hread : w.volume.readAt (.str path) with
      | error e => rfl
      | ok content =>
        obtain hsame | ⟨⟨e, htorn⟩, hblank⟩ := extractMethods_withTree w.toolkit source cause
          (Language.ofPath (Json.str path).display) content
        · simp only [hsame]
        · simp only [htorn, hblank]
          rfl

end Workspace

/-- What a report takes from a job. -/
def Job.shown (j : Job) : Language × Text × List Method :=
  (j.language, j.entry.path, j.entry.methods)

namespace Service

/-- A report depends on the methods of files, not on their errors. -/
theorem jobReports_congr (c : Client) {jobs jobs' : List Job}
    (h : jobs.map Job.shown = jobs'.map Job.shown) : jobReports c jobs = jobReports c jobs' := by
  induction jobs generalizing jobs' with
  | nil =>
    obtain rfl := List.map_eq_nil_iff.mp h.symm
    rfl
  | cons j rest ih =>
    obtain ⟨j', rest', rfl, hj, hrest⟩ := List.map_eq_cons_iff.mp h.symm
    obtain ⟨hlanguage, hpath, hmethods⟩ : j'.language = j.language ∧ j'.entry.path = j.entry.path ∧
        j'.entry.methods = j.entry.methods := by simpa [Job.shown] using hj
    have hfirst : fileReport c j.language j.entry = fileReport c j'.language j'.entry :=
      Work.ext fun script => by
        rw [run_fileReport, run_fileReport, hlanguage, hpath, hmethods]
    rw [jobReports, jobReports, hfirst, ih hrest.symm]

/-- Workspaces that are alike have agendas with the same methods. -/
theorem shown_agenda {w w' : Workspace} {table : ParserTable} (h : w.Alike w' table)
    (visits : List Visit) :
    (agenda w' (w'.hasParser table) visits).map Job.shown =
      (agenda w (w.hasParser table) visits).map Job.shown := by
  have hvisits : w'.visits = w.visits := by
    funext directory
    rw [Workspace.visits, Workspace.visits, h.walk]
  have hentries (directory : Text) (l : Language) :
      (w'.due (w'.hasParser table) directory l).map (fun e => Job.shown ⟨l, e⟩) =
        (w.due (w.hasParser table) directory l).map fun e => Job.shown ⟨l, e⟩ := by
    rw [Workspace.due, Workspace.due, h.parsers, h.holds, hvisits]
    split
    · simp only [Workspace.entries, List.map_map]
      refine List.map_congr_left fun path _ => ?_
      exact congrArg (fun methods => (l, path, methods)) (congrFun h.methods path)
    · rfl
  simp only [agenda, List.map_flatMap, jobsFor]
  refine List.flatMap_congr fun visit _ => List.flatMap_congr fun name _ => ?_
  split
  · rfl
  · simpa [Function.comp_def] using hentries _ _

theorem mem_dossiers {c : Client} {script : Script} {jobs : List Job} {d : Job × List Inquiry}
    (hd : d ∈ dossiers c script jobs) : d.1 ∈ jobs ∧ d.2.map (·.toTask) = d.1.tasks := by
  induction jobs generalizing script with
  | nil => cases hd
  | cons j rest ih =>
    obtain rfl | hd := List.mem_cons.mp hd
    · exact ⟨List.mem_cons_self, map_toTask_inquiries ..⟩
    · exact ⟨List.mem_cons_of_mem _ (ih hd).1, (ih hd).2⟩

/-- A file is reported with the methods that it gives. -/
theorem names_of_mem_jobReports (c : Client) {jobs : List Job}
    (hnamed : ∀ j ∈ jobs, ∀ m ∈ j.entry.methods, m.name ≠ "") {script : Script} {f : FileReport}
    (hf : f ∈ ((jobReports c jobs).run script).value.files) :
    ∃ j ∈ jobs, j.entry.path = f.path ∧ j.language = f.language ∧
      f.methods.map (·.name) = j.entry.methods.map (·.name) := by
  rw [files_eq_map_dossiers c hnamed] at hf
  obtain ⟨d, hd, rfl⟩ := List.mem_map.mp hf
  obtain ⟨hjob, htasks⟩ := mem_dossiers hd
  refine ⟨d.1, hjob, rfl, rfl, ?_⟩
  have hnames := congrArg (List.map (·.method.name)) htasks
  simpa [Job.tasks, Function.comp_def] using hnames

/-! ## What an answer shows -/

/-- Whether an answer shows that the file at a path failed: in an entry with an error, or in a
method of the file that counts as failed. -/
def Shows (c : Client) (report : Report) (qs : List Inquiry) (path : Text) : Prop :=
  (∃ f ∈ report.files, f.path = path ∧ f.toJson.mentions "error" = .ok true) ∨
    ∃ q ∈ qs, q.path = path ∧ q.isFailed c = true

/-- No entry has an error. -/
theorem mentions_error (f : FileReport) : f.toJson.mentions "error" = .ok false := by
  have hfields : ("file_path" : Text) ≠ "error" ∧ ("language" : Text) ≠ "error" ∧
      ("methods" : Text) ≠ "error" := by decide
  simp [FileReport.toJson, Json.mentions, Json.lookup, hfields]

/-- The report of a run through some visits. -/
def reportOf (s : Service) (st : ServiceState) (visits : List Visit) : Report :=
  ((jobReports s.client
    (agenda s.workspace (s.workspace.hasParser st.parsers) visits)).run st.script).value

/-- Every method that is handed over is in the entry of its file. -/
theorem exists_entry_of_mem_inquiriesOf {s : Service} {st : ServiceState} {visits : List Visit}
    {q : Inquiry} (hq : q ∈ s.inquiriesOf st visits) :
    ∃ f ∈ (s.reportOf st visits).files, f.path = q.path := by
  have hmem : (q.path, q.language, q.entry s.client) ∈ (s.reportOf st visits).entries := by
    rw [reportOf, (s.transcribes_agenda st visits).entries]
    exact List.mem_map_of_mem hq
  obtain ⟨f, hf, hentry⟩ := List.mem_flatMap.mp hmem
  obtain ⟨m, -, heq⟩ := List.mem_map.mp hentry
  exact ⟨f, hf, congrArg (·.1) heq⟩

section Walk

variable {s : Service} {root : Text} {place : Trail} {visits : List Visit} {l : Language}
  {path : Text} (h : s.workspace.volume.Walkable root place)
  (hw : s.workspace.volume.walk root = .ok visits)
  (hpath : path ∈ Workspace.selected l visits) (st : ServiceState)

include h hw hpath

/-- The methods that are handed over for a file are its methods. -/
theorem method_mem_of_mem_inquiriesOf {q : Inquiry} (hq : q ∈ s.inquiriesOf st visits)
    (hqpath : q.path = path) : q.method ∈ s.workspace.methodsIn path := by
  obtain ⟨visit, hvisit, name, hname, rfl, rfl⟩ := Workspace.mem_selected_iff.mp hpath
  have hmem : q.method ∈ ((s.inquiriesOf st visits).filter
      (·.path = Path.join visit.directory name)).map (·.method) :=
    List.mem_map_of_mem (List.mem_filter.mpr ⟨hq, by simpa using hqpath⟩)
  rw [methods_inquiriesOf h hw st hvisit hname, List.mem_flatten] at hmem
  obtain ⟨methods, hmethods, hmem⟩ := hmem
  rwa [List.eq_of_mem_replicate hmethods] at hmem

/-- A file has an entry exactly if its language has a parser. -/
theorem exists_entry_iff (hknown : l ≠ .unknown) :
    (∃ f ∈ (s.reportOf st visits).files, f.path = path) ↔
      s.workspace.hasParser st.parsers l = true := by
  obtain ⟨visit, hvisit, name, hname, rfl, rfl⟩ := Workspace.mem_selected_iff.mp hpath
  have hcount : (s.reportOf st visits).files.countP (·.path = Path.join visit.directory name) = _ :=
    (countP_jobReports ..).trans (count_agenda h hw _ hvisit hname hknown)
  have hpos : 0 < s.workspace.volume.filesOnChain root visit.directory (Language.ofPath name) := by
    rw [← Volume.length_chainFiles]
    exact List.length_pos_of_mem (h.mem_chainFiles_self hw hvisit hname)
  calc (∃ f ∈ (s.reportOf st visits).files, f.path = Path.join visit.directory name)
      ↔ 0 < (s.reportOf st visits).files.countP (·.path = Path.join visit.directory name) := by
        simp [List.countP_pos_iff]
    _ ↔ s.workspace.hasParser st.parsers (Language.ofPath name) = true := by
        rw [hcount]
        split <;> simp_all

/-- The entries of a file have the methods that the file gives. -/
theorem entry_of_selected {f : FileReport} (hf : f ∈ (s.reportOf st visits).files)
    (hfpath : f.path = path) :
    f.language = l ∧ f.methods.map (·.name) = (s.workspace.methodsIn path).map (·.name) := by
  obtain ⟨visit, hvisit, name, hname, rfl, rfl⟩ := Workspace.mem_selected_iff.mp hpath
  obtain ⟨j, hj, hjpath, hjlanguage, hjmethods⟩ :=
    names_of_mem_jobReports s.client (fun _ hj => named_of_mem_agenda hj) hf
  obtain ⟨u, hu, n, hn, -, rfl⟩ := exists_of_mem_agenda h hw _ hj
  obtain ⟨rfl, rfl⟩ := h.join_inj hw hu hvisit hn hname (hjpath.trans hfpath)
  exact ⟨hjlanguage.symm, hjmethods⟩

/-- Such an entry is that of a readable file without methods exactly if the file is one, or if it
failed. -/
theorem entry_eq_empty_iff {f : FileReport} (hf : f ∈ (s.reportOf st visits).files)
    (hfpath : f.path = path) :
    f = ⟨path, l, []⟩ ↔
      s.workspace.fileMethods path = .ok [] ∨ ∃ e, s.workspace.fileMethods path = .error e := by
  obtain ⟨hlanguage, hnames⟩ := entry_of_selected h hw hpath st hf hfpath
  have hmethods : f.methods = [] ↔ s.workspace.methodsIn path = [] := by
    rw [← List.map_eq_nil_iff (f := MethodReport.name), hnames, List.map_eq_nil_iff]
  rw [← Workspace.methodsIn_eq_nil_iff, ← hmethods]
  obtain ⟨fpath, flanguage, fmethods⟩ := f
  simp_all

/-- The failure of a file is not shown. -/
theorem not_shows (hknown : l ≠ .unknown)
    (hfails : s.workspace.processes st.parsers l path = false) :
    ¬ Shows s.client (s.reportOf st visits) (s.inquiriesOf st visits) path := by
  rintro (⟨f, -, -, herror⟩ | ⟨q, hq, hqpath, -⟩)
  · simp [mentions_error] at herror
  · have hentry := exists_entry_of_mem_inquiriesOf hq
    rw [hqpath, exists_entry_iff h hw hpath st hknown] at hentry
    rw [Workspace.processes, hentry, Bool.true_and] at hfails
    have hmethod := method_mem_of_mem_inquiriesOf h hw hpath st hq hqpath
    have hnone : s.workspace.methodsIn path = [] :=
      Workspace.methodsIn_eq_nil_iff.mpr (.inr (exists_error_of_toBool hfails))
    rw [hnone] at hmethod
    cases hmethod

end Walk

/-- Workspaces that are alike are answered alike. -/
theorem answer_of_alike {s : Service} {w : Workspace} {r : Web.Request} {st : ServiceState}
    {given : Text} (h : s.workspace.Alike w st.parsers) (hadmitted : s.admitted? r = some given)
    (hholds : s.workspace.volume.holds (s.root given) = true) :
    ((process ⟨w, s.client⟩ r).run st).value = ((s.process r).run st).value := by
  have hroot : root ⟨w, s.client⟩ given = s.root given := by
    rw [root, root, h.workingDirectory]
  have hholds' : w.volume.holds (root ⟨w, s.client⟩ given) = true := by
    rw [hroot, h.holds, hholds]
  have hadmitted' : admitted? ⟨w, s.client⟩ r = some given := by
    rw [admitted?_eq_some_iff, hroot]
    exact admitted?_eq_some_iff.mp hadmitted
  obtain ⟨visits, hw, hvalue, -, -⟩ := process_answered hadmitted hholds st
  obtain ⟨visits', hw', hvalue', -, -⟩ := process_answered hadmitted' hholds' st
  have hwalk : w.volume.walk (s.root given) = .ok visits' := hroot ▸ hw'
  rw [h.walk, hw] at hwalk
  obtain rfl := Except.ok.inj hwalk
  rw [hvalue, hvalue', jobReports_congr s.client (shown_agenda h visits)]

/-- An answer shows all files that failed exactly if there are none. The files of a language without
a parser have no entry. Any other file has one, which is that of a readable file without methods
exactly if the file is one or if it failed. So no answer tells workspaces apart that differ only in
why files have no methods. -/
theorem failures_shown_iff {s : Service} {r : Web.Request} {st : ServiceState}
    (hv : s.workspace.volume.WellFormed) (hstatus : ((s.process r).run st).value.status = 200) :
    ∃ (report : Report) (given : Text) (visits : List Visit),
      ((s.process r).run st).value = .json 200 report.toJson ∧
      asked? r = some given ∧ s.workspace.volume.walk (s.root given) = .ok visits ∧
      report.stats.failed = (s.inquiriesOf st visits).countP (·.isFailed s.client) ∧
      ((∀ l, l ≠ .unknown → ∀ path ∈ Workspace.selected l visits,
          s.workspace.processes st.parsers l path = false →
          Shows s.client report (s.inquiriesOf st visits) path) ↔
        ∀ l, l ≠ .unknown → ∀ path ∈ Workspace.selected l visits,
          s.workspace.processes st.parsers l path = true) ∧
      (∀ l, l ≠ .unknown → ∀ path ∈ Workspace.selected l visits,
        ((∃ f ∈ report.files, f.path = path) ↔ s.workspace.hasParser st.parsers l = true) ∧
        ∀ f ∈ report.files, f.path = path →
          (f = ⟨path, l, []⟩ ↔
            s.workspace.fileMethods path = .ok [] ∨ ∃ e, s.workspace.fileMethods path = .error e)) ∧
      ∀ w : Workspace, s.workspace.Alike w st.parsers →
        ((process ⟨w, s.client⟩ r).run st).value = ((s.process r).run st).value := by
  obtain ⟨given, hadmitted, hholds⟩ := admitted_of_status hstatus
  obtain ⟨visits, hw, hvalue, -, -⟩ := process_answered hadmitted hholds st
  refine ⟨s.reportOf st visits, given, visits, hvalue, (admitted?_eq_some_iff.mp hadmitted).1, hw,
    (s.transcribes_agenda st visits).failed, ?_, ?_, fun w halike =>
      answer_of_alike halike hadmitted hholds⟩
  · obtain rfl | ⟨place, h⟩ := walkable_root hv hw
    · simp [Workspace.selected]
    · constructor
      · intro hshown l hknown path hpath
        by_contra hfails
        rw [Bool.not_eq_true] at hfails
        exact not_shows h hw hpath st hknown hfails (hshown l hknown path hpath hfails)
      · intro hall l hknown path hpath hfails
        rw [hall l hknown path hpath] at hfails
        cases hfails
  · intro l hknown path hpath
    obtain rfl | ⟨place, h⟩ := walkable_root hv hw
    · simp [Workspace.selected] at hpath
    · exact ⟨exists_entry_iff h hw hpath st hknown,
        fun f hf hfpath => entry_eq_empty_iff h hw hpath st hf hfpath⟩

/-- The small service with a toolkit that knows a tree for its files. -/
def nestedWith (tree : Except Text Node) : Service :=
  ⟨{ nested.workspace with toolkit := (Toolkit.fresh true).withTree [109] tree }, nested.client⟩

/-- Files that cannot be parsed are not shown as failures. They have the entries of files without
methods, and the answer is the same as if they were such files. -/
theorem nested_hidden :
    let torn := nestedWith (.error "stack overflow")
    let visits : List Visit := [⟨"/w", ["A.java"]⟩, ⟨"/w/sub", ["B.java"]⟩]
    ∃ report : Report,
      ((torn.process requestHere).run ⟨.fresh, []⟩).value = .json 200 report.toJson ∧
      (¬ ∀ l, l ≠ .unknown → ∀ path ∈ Workspace.selected l visits,
        torn.workspace.processes [] l path = false →
        Shows torn.client report (torn.inquiriesOf ⟨.fresh, []⟩ visits) path) ∧
      (∃ f ∈ report.files, f.path = "/w/A.java") ∧
      (∀ f ∈ report.files, f.path = "/w/A.java" → f = ⟨"/w/A.java", .java, []⟩) ∧
      (((nestedWith (.ok (.blank [109]))).process requestHere).run ⟨.fresh, []⟩).value =
        ((torn.process requestHere).run ⟨.fresh, []⟩).value := by
  intro torn visits
  obtain ⟨report, given, walked, hvalue, hasked, hwalk, -, hshown, hentries, halike⟩ :=
    @failures_shown_iff torn requestHere ⟨.fresh, []⟩ (by decide +kernel) (by decide +kernel)
  obtain rfl := Option.some.inj (hasked.symm.trans asked?_requestHere)
  obtain rfl : walked = visits := Except.ok.inj (hwalk.symm.trans walk_nested)
  have hselected : ("/w/A.java" : Text) ∈ Workspace.selected .java visits := by decide +kernel
  obtain ⟨hparser, hempty⟩ := hentries .java (by decide) _ hselected
  refine ⟨report, hvalue, fun hall => ?_, hparser.mpr (by decide +kernel), fun f hf hpath => ?_, ?_⟩
  · exact absurd (hshown.mp hall .java (by decide) _ hselected) (by decide +kernel)
  · exact (hempty f hf hpath).mpr (.inr (exists_error_of_toBool (by decide +kernel)))
  · exact halike _
      (Workspace.alike_withTree ⟨nested.workspace.volume, Toolkit.fresh true⟩ [] [109] _)

end Service

end Scribe
