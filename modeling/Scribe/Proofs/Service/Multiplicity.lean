import Mathlib.Algebra.BigOperators.Group.List.Basic
import Mathlib.Algebra.GroupWithZero.Nat
import Scribe.Proofs.Basic
import Scribe.Proofs.Service.Inquiries
import Scribe.Proofs.Service.Reports

/-!
# How often a file is reported

Every file of a walk sets off a search in and below its own folder, for all files of its language.
So a file is reported once for each file of its language that lies in a folder on the way down to
it, itself included.

## Main results

* `Service.count_agenda`: how often a file is on the agenda.
* `Service.count_reported`: how often a file is reported.
* `Service.documented_once_iff`: when a file is reported once.
-/

namespace Scribe

/-- The number of files of a language in the folders from `root` down to a directory. -/
def Volume.filesOnChain (v : Volume) (root directory : Text) (l : Language) : Nat :=
  ((Path.chain root directory).map fun d => (v.filesIn d).countP (Language.ofPath · = l)).sum

/-- The files of a language in the folders from `root` down to a directory. -/
def Volume.chainFiles (v : Volume) (root directory : Text) (l : Language) : List (Text × Text) :=
  (Path.chain root directory).flatMap fun d =>
    ((v.filesIn d).filter (Language.ofPath · = l)).map fun name => (d, name)

theorem Volume.length_chainFiles (v : Volume) (root directory : Text) (l : Language) :
    (v.chainFiles root directory l).length = v.filesOnChain root directory l := by
  simp [chainFiles, filesOnChain, List.length_flatMap, List.countP_eq_length_filter]

theorem Volume.mem_chainFiles {v : Volume} {root directory d name : Text} {l : Language} :
    (d, name) ∈ v.chainFiles root directory l ↔
      d ∈ Path.chain root directory ∧ name ∈ v.filesIn d ∧ Language.ofPath name = l := by
  simp only [chainFiles, List.mem_flatMap, List.mem_map, List.mem_filter, decide_eq_true_eq,
    Prod.mk.injEq]
  constructor
  · rintro ⟨d, hd, name, hname, rfl, rfl⟩
    exact ⟨hd, hname⟩
  · rintro ⟨hd, hname⟩
    exact ⟨d, hd, name, hname, rfl, rfl⟩

theorem Volume.Walkable.mem_chainFiles_self {v : Volume} {root : Text} {place : Trail}
    {visits : List Visit} {visit : Visit} {name : Text} (h : v.Walkable root place)
    (hw : v.walk root = .ok visits) (hvisit : visit ∈ visits) (hname : name ∈ visit.files) :
    (visit.directory, name) ∈ v.chainFiles root visit.directory (Language.ofPath name) := by
  rw [h.files_eq_filesIn hw hvisit] at hname
  exact mem_chainFiles.mpr ⟨h.mem_chain_self hw hvisit, hname, rfl⟩

/-- A file is the only one of its language on its chain exactly if their number is one. -/
theorem Volume.Walkable.filesOnChain_eq_one_iff {v : Volume} {root : Text} {place : Trail}
    {visits : List Visit} {visit : Visit} {name : Text} (h : v.Walkable root place)
    (hv : v.WellFormed) (hw : v.walk root = .ok visits) (hvisit : visit ∈ visits)
    (hname : name ∈ visit.files) :
    v.filesOnChain root visit.directory (Language.ofPath name) = 1 ↔
      ∀ d ∈ Path.chain root visit.directory, ∀ other ∈ v.filesIn d,
        Language.ofPath other = Language.ofPath name → d = visit.directory ∧ other = name := by
  have hnodup : (v.chainFiles root visit.directory (Language.ofPath name)).Nodup := by
    rw [chainFiles, List.nodup_flatMap]
    refine ⟨fun d _ => ((nodup_filesIn hv d).filter _).map fun a b hab => (Prod.mk.inj hab).2, ?_⟩
    refine (h.nodup_chain hw hvisit).imp fun {a b} hne => ?_
    rintro ⟨d, n⟩ hda hdb
    simp only [List.mem_map, Prod.mk.injEq] at hda hdb
    grind
  rw [← length_chainFiles,
    length_eq_one_iff_of_mem hnodup (h.mem_chainFiles_self hw hvisit hname)]
  constructor
  · intro hall d hd other hother hlanguage
    exact Prod.mk.inj (hall (d, other) (mem_chainFiles.mpr ⟨hd, hother, hlanguage⟩))
  · rintro hall ⟨d, other⟩ hmem
    obtain ⟨hd, hother, hlanguage⟩ := mem_chainFiles.mp hmem
    exact Prod.ext_iff.mpr (hall d hd other hother hlanguage)

namespace Service

theorem countP_jobReports (c : Client) (jobs : List Job) (script : Script) (path : Text) :
    ((jobReports c jobs).run script).value.files.countP (·.path = path) =
      jobs.countP (·.entry.path = path) := by
  have hpairs := congrArg (List.countP (·.1 = path)) (files_jobReports c jobs script)
  rwa [List.countP_map, List.countP_map] at hpairs

theorem exists_job_of_mem (c : Client) {jobs : List Job} {script : Script} {f : FileReport}
    (hf : f ∈ ((jobReports c jobs).run script).value.files) :
    ∃ j ∈ jobs, j.entry.path = f.path ∧ j.language = f.language := by
  have hmem := List.mem_map_of_mem (f := fun f => (f.path, f.language)) hf
  rw [files_jobReports] at hmem
  obtain ⟨j, hj, heq⟩ := List.mem_map.mp hmem
  exact ⟨j, hj, (Prod.mk.inj heq).1, (Prod.mk.inj heq).2⟩

section Agenda

variable {w : Workspace} {root : Text} {place : Trail} {visits : List Visit} {visit other : Visit}
  {name : Text}

/-- A file sets off a search in its own folder. -/
theorem jobsFor_eq (h : w.volume.Walkable root place) (hw : w.volume.walk root = .ok visits)
    (hvisit : visit ∈ visits) (hname : name ∈ visit.files) (has : Language → Bool)
    (hknown : Language.ofPath name ≠ .unknown) :
    jobsFor w has visit name =
      if has (Language.ofPath name) then
        (Workspace.selected (Language.ofPath name) (w.visits visit.directory)).map fun path =>
          ⟨Language.ofPath name, path, w.fileMethods path⟩
      else [] := by
  obtain ⟨p, hp, -⟩ := h.visited hw hvisit
  have hisName := (h.isDiskName_of_mem_files hw hvisit hname).toIsName
  have hholds : w.volume.holds visit.directory = true := by
    rw [Volume.holds, hp.find]
  rw [jobsFor, if_neg hknown, Path.directory_join hp.trimmed hisName, Workspace.due, hholds,
    Bool.and_true]
  split <;> simp [Workspace.entries]

/-- How often one file sets off a job for another. -/
theorem count_jobsFor (h : w.volume.Walkable root place) (hw : w.volume.walk root = .ok visits)
    (has : Language → Bool) (hvisit : visit ∈ visits) (hname : name ∈ visit.files)
    (hknown : Language.ofPath name ≠ .unknown) (hother : other ∈ visits) {cause : Text}
    (hcause : cause ∈ other.files) :
    (jobsFor w has other cause).countP (·.entry.path = Path.join visit.directory name) =
      if Language.ofPath cause = Language.ofPath name then
        if has (Language.ofPath name) = true ∧
          other.directory ∈ Path.chain root visit.directory then 1 else 0
      else 0 := by
  by_cases hunknown : Language.ofPath cause = .unknown
  · rw [jobsFor, if_pos hunknown, if_neg fun hsame => hknown (hsame.symm.trans hunknown)]
    rfl
  · have hcount := Workspace.count_selected h hw hvisit hname hother (Language.ofPath cause)
    rw [List.count, funext fun path => beq_eq_decide path _] at hcount
    rw [jobsFor_eq h hw hother hcause has hunknown]
    by_cases hsame : Language.ofPath cause = Language.ofPath name
    · rw [hsame] at hcount ⊢
      cases hhas : has (Language.ofPath name) with
      | false => simp
      | true => simpa [List.countP_map, Function.comp_def] using hcount
    · rw [if_neg fun both => hsame both.1.symm] at hcount
      rw [if_neg hsame]
      split
      · rw [List.countP_map]
        exact hcount
      · rfl

/-- How often the files of one folder set off a job for a file. -/
theorem count_visit (h : w.volume.Walkable root place) (hw : w.volume.walk root = .ok visits)
    (has : Language → Bool) (hvisit : visit ∈ visits) (hname : name ∈ visit.files)
    (hknown : Language.ofPath name ≠ .unknown) (hother : other ∈ visits) :
    (other.files.flatMap (jobsFor w has other)).countP
        (·.entry.path = Path.join visit.directory name) =
      if has (Language.ofPath name) = true ∧ other.directory ∈ Path.chain root visit.directory then
        other.files.countP (Language.ofPath · = Language.ofPath name)
      else 0 := by
  rw [List.countP_flatMap, Function.comp_def, List.map_congr_left fun cause hcause =>
    count_jobsFor h hw has hvisit hname hknown hother hcause, List.sum_map_ite]
  split
  · simp [List.countP_eq_length_filter]
  · simp

/-- A file is on the agenda once for each file of its language on its chain. -/
theorem count_agenda (h : w.volume.Walkable root place) (hw : w.volume.walk root = .ok visits)
    (has : Language → Bool) (hvisit : visit ∈ visits) (hname : name ∈ visit.files)
    (hknown : Language.ofPath name ≠ .unknown) :
    (agenda w has visits).countP (·.entry.path = Path.join visit.directory name) =
      if has (Language.ofPath name) then
        w.volume.filesOnChain root visit.directory (Language.ofPath name)
      else 0 := by
  rw [agenda, List.countP_flatMap, Function.comp_def, List.map_congr_left fun other hother =>
    count_visit h hw has hvisit hname hknown hother]
  cases hhas : has (Language.ofPath name) with
  | false => simp
  | true =>
    -- The visits on the chain are the folders of the chain, in another order.
    have hperm := (h.chain_perm hw hvisit).map
      fun u => u.files.countP (Language.ofPath · = Language.ofPath name)
    simp only [true_and, if_true]
    rw [List.sum_map_ite, hperm.sum_nat, List.map_map, Volume.filesOnChain]
    simp [Function.comp_def]

/-- The jobs of the agenda are files of the walk. -/
theorem exists_of_mem_agenda (h : w.volume.Walkable root place)
    (hw : w.volume.walk root = .ok visits) (has : Language → Bool) {j : Job}
    (hj : j ∈ agenda w has visits) :
    ∃ visit ∈ visits, ∃ name ∈ visit.files, Language.ofPath name ≠ .unknown ∧
      j = ⟨Language.ofPath name, Path.join visit.directory name,
        w.fileMethods (Path.join visit.directory name)⟩ := by
  obtain ⟨other, hother, hj⟩ := List.mem_flatMap.mp hj
  obtain ⟨cause, hcause, hj⟩ := List.mem_flatMap.mp hj
  have hknown : Language.ofPath cause ≠ .unknown := by
    intro hunknown
    rw [jobsFor, if_pos hunknown] at hj
    cases hj
  rw [jobsFor_eq h hw hother hcause has hknown] at hj
  split at hj
  · obtain ⟨path, hpath, rfl⟩ := List.mem_map.mp hj
    obtain ⟨visit, hvisit, name, hname, hlang, rfl⟩ := Workspace.mem_selected_iff.mp hpath
    obtain ⟨q, hq, -⟩ := h.visited hw hother
    have hbelow := (Workspace.visits_eq_iff hq).mp rfl
    have hmem := (h.mem_visits_below_iff hw hother hbelow).mp hvisit
    exact ⟨visit, hmem.1, name, hname, hlang ▸ hknown, by rw [hlang]⟩
  · cases hj

end Agenda

/-- The folder that a request names can be walked, or nothing is visited. -/
theorem walkable_root {s : Service} {given : Text} {visits : List Visit}
    (hv : s.workspace.volume.WellFormed)
    (hw : s.workspace.volume.walk (s.root given) = .ok visits) :
    visits = [] ∨ ∃ place, s.workspace.volume.Walkable (s.root given) place := by
  cases hfind : s.workspace.volume.find (s.root given) with
  | error e =>
    rw [Volume.walk, hfind] at hw
    cases e <;> simp_all
  | ok target =>
    cases target with
    | folder place =>
      exact .inr ⟨place, Volume.find_wellFormed hv hfind, Path.trimmed_absolute _ _, hfind⟩
    | _ =>
      rw [Volume.walk, hfind] at hw
      exact .inl (Except.ok.inj hw).symm

/-- A file of the walk with a known language is reported once for each file of its language in the
folders from the requested directory down to its own, if the language has a parser, and else not at
all. Nothing else is reported. The report can be read out of the answer, field by field. -/
theorem count_reported {s : Service} {r : Web.Request} {given : Text}
    (hv : s.workspace.volume.WellFormed) (hasks : asked? r = some given)
    (hline : s.lineRefusal? (s.root given) = none)
    (hholds : s.workspace.volume.holds (s.root given) = true) (st : ServiceState) :
    ∃ (report : Report) (visits : List Visit),
      ((s.process r).run st).value = .json 200 report.toJson ∧
      Report.ofJson? report.toJson = some report ∧
      s.workspace.volume.walk (s.root given) = .ok visits ∧
      (∀ visit ∈ visits, ∀ name ∈ visit.files, Language.ofPath name ≠ .unknown →
        report.files.countP (·.path = Path.join visit.directory name) =
            (if s.workspace.hasParser st.parsers (Language.ofPath name) then
              s.workspace.volume.filesOnChain (s.root given) visit.directory
                (Language.ofPath name)
            else 0) ∧
          ∀ f ∈ report.files, f.path = Path.join visit.directory name →
            f.language = Language.ofPath name) ∧
      ∀ f ∈ report.files, ∃ visit ∈ visits, ∃ name ∈ visit.files,
        Language.ofPath name ≠ .unknown ∧ f.path = Path.join visit.directory name := by
  obtain ⟨visits, hw, hvalue, -, -⟩ :=
    process_answered (admitted?_eq_some_iff.mpr ⟨hasks, hline⟩) hholds st
  refine ⟨_, visits, hvalue, Report.ofJson?_toJson _, hw, ?_⟩
  obtain rfl | ⟨place, h⟩ := walkable_root hv hw
  · exact ⟨by simp, by simp [agenda, jobReports, Report.empty]⟩
  · refine ⟨fun visit hvisit name hname hknown => ⟨?_, fun f hf hpath => ?_⟩, fun f hf => ?_⟩
    · rw [countP_jobReports, count_agenda h hw _ hvisit hname hknown]
    · obtain ⟨j, hj, hjpath, hjlanguage⟩ := exists_job_of_mem s.client hf
      obtain ⟨u, hu, n, hn, -, rfl⟩ := exists_of_mem_agenda h hw _ hj
      obtain ⟨rfl, rfl⟩ := h.join_inj hw hu hvisit hn hname (hjpath.trans hpath)
      exact hjlanguage.symm
    · obtain ⟨j, hj, hjpath, -⟩ := exists_job_of_mem s.client hf
      obtain ⟨u, hu, n, hn, hknown, rfl⟩ := exists_of_mem_agenda h hw _ hj
      exact ⟨u, hu, n, hn, hknown, hjpath.symm⟩

/-- The lower file is reported for the upper one too. -/
theorem nested_reported :
    ∃ report : Report,
      ((nested.process requestHere).run ⟨.fresh, []⟩).value = .json 200 report.toJson ∧
      report.files.countP (·.path = Path.join "/w" "A.java") = 1 ∧
      report.files.countP (·.path = Path.join "/w/sub" "B.java") = 2 := by
  obtain ⟨report, visits, hvalue, -, hwalk, hcount, -⟩ :=
    @count_reported nested requestHere "." (by decide +kernel) asked?_requestHere rfl
      (by decide +kernel) ⟨.fresh, []⟩
  obtain rfl := Except.ok.inj (hwalk.symm.trans walk_nested)
  have hupper := (hcount _ List.mem_cons_self "A.java" (by decide) (by decide +kernel)).1
  have hlower := (hcount ⟨"/w/sub", ["B.java"]⟩ (by simp) "B.java" (by decide)
    (by decide +kernel)).1
  refine ⟨report, hvalue, ?_, ?_⟩
  · exact hupper.trans (by decide +kernel)
  · exact hlower.trans (by decide +kernel)

/-! ## Methods handed over more than once -/

theorem filter_path_tasks (j : Job) (path : Text) :
    j.tasks.filter (·.path = path) = if j.entry.path = path then j.tasks else [] := by
  split
  · rename_i hpath
    simp [Job.tasks, hpath]
  · rename_i hpath
    simp [Job.tasks, hpath]

theorem filter_path_flatMap_tasks (jobs : List Job) (path : Text) :
    (jobs.flatMap Job.tasks).filter (·.path = path) =
      (jobs.filter (·.entry.path = path)).flatMap Job.tasks := by
  induction jobs with
  | nil => rfl
  | cons j rest ih =>
    rw [List.flatMap_cons, List.filter_append, filter_path_tasks, ih, List.filter_cons]
    by_cases hpath : j.entry.path = path <;> simp [hpath]

/-- All jobs of one file are the same. -/
theorem filter_path_agenda {w : Workspace} {root : Text} {place : Trail} {visits : List Visit}
    {visit : Visit} {name : Text} (h : w.volume.Walkable root place)
    (hw : w.volume.walk root = .ok visits) (has : Language → Bool) (hvisit : visit ∈ visits)
    (hname : name ∈ visit.files) :
    let path := Path.join visit.directory name
    (agenda w has visits).filter (·.entry.path = path) =
      List.replicate ((agenda w has visits).countP (·.entry.path = path))
        ⟨Language.ofPath name, path, w.fileMethods path⟩ := by
  refine List.eq_replicate_iff.mpr ⟨List.countP_eq_length_filter.symm, fun j hj => ?_⟩
  obtain ⟨hj, hpath⟩ := List.mem_filter.mp hj
  obtain ⟨u, hu, n, hn, -, rfl⟩ := exists_of_mem_agenda h hw has hj
  obtain ⟨rfl, rfl⟩ := h.join_inj hw hu hvisit hn hname (of_decide_eq_true hpath)
  rfl

/-- The methods of a file are handed over as often as the file is on the agenda. -/
theorem methods_inquiriesOf {s : Service} {root : Text} {place : Trail} {visits : List Visit}
    {visit : Visit} {name : Text} (h : s.workspace.volume.Walkable root place)
    (hw : s.workspace.volume.walk root = .ok visits) (st : ServiceState) (hvisit : visit ∈ visits)
    (hname : name ∈ visit.files) :
    let path := Path.join visit.directory name
    ((s.inquiriesOf st visits).filter (·.path = path)).map (·.method) =
      (List.replicate
        ((agenda s.workspace (s.workspace.hasParser st.parsers) visits).countP
          (·.entry.path = path)) (s.workspace.methodsIn path)).flatten := by
  intro path
  calc ((s.inquiriesOf st visits).filter (·.path = path)).map (·.method)
      = (((s.inquiriesOf st visits).map (·.toTask)).filter (·.path = path)).map (·.method) := by
        rw [List.filter_map, List.map_map]
        rfl
    _ = ((agenda s.workspace (s.workspace.hasParser st.parsers) visits).filter
          (·.entry.path = path)).flatMap fun j => j.entry.methods := by
        rw [inquiriesOf, map_toTask_inquiries, filter_path_flatMap_tasks, List.map_flatMap]
        simp [Job.tasks, Function.comp_def]
    _ = _ := by
        rw [filter_path_agenda h hw _ hvisit hname, List.flatMap_replicate]
        rfl

/-- A file with a parser is reported once, and each of its methods handed over once, exactly if it
is the only file of its language in the folders from the requested directory down to its own. Its
methods are handed over as often as it is reported. -/
theorem documented_once_iff {s : Service} {r : Web.Request} {given : Text}
    (hv : s.workspace.volume.WellFormed) (hasks : asked? r = some given)
    (hline : s.lineRefusal? (s.root given) = none)
    (hholds : s.workspace.volume.holds (s.root given) = true) (st : ServiceState) :
    ∃ (report : Report) (visits : List Visit),
      ((s.process r).run st).value = .json 200 report.toJson ∧
      s.workspace.volume.walk (s.root given) = .ok visits ∧
      report.entries =
        (s.inquiriesOf st visits).map (fun q => (q.path, q.language, q.entry s.client)) ∧
      Event.traffic ((s.process r).run st).events =
        (s.inquiriesOf st visits).flatMap (·.traffic s.client) ∧
      ∀ visit ∈ visits, ∀ name ∈ visit.files, Language.ofPath name ≠ .unknown →
        s.workspace.hasParser st.parsers (Language.ofPath name) = true →
        let path := Path.join visit.directory name
        let handed := ((s.inquiriesOf st visits).filter (·.path = path)).map (·.method)
        let copies := report.files.countP (·.path = path)
        handed = (List.replicate copies (s.workspace.methodsIn path)).flatten ∧
        (copies = 1 ∧ handed = s.workspace.methodsIn path ↔
          ∀ d ∈ Path.chain (s.root given) visit.directory, ∀ other ∈ s.workspace.volume.filesIn d,
            Language.ofPath other = Language.ofPath name →
              d = visit.directory ∧ other = name) := by
  obtain ⟨visits, hw, hvalue, -, htraffic⟩ :=
    process_answered (admitted?_eq_some_iff.mpr ⟨hasks, hline⟩) hholds st
  have htranscript := s.transcribes_agenda st visits
  refine ⟨_, visits, hvalue, hw, htranscript.entries, htraffic.trans htranscript.traffic, ?_⟩
  obtain rfl | ⟨place, h⟩ := walkable_root hv hw
  · simp
  · intro visit hvisit name hname hknown hparser path handed copies
    have hcopies : copies = _ := countP_jobReports ..
    have hhanded : handed = (List.replicate copies (s.workspace.methodsIn path)).flatten := by
      rw [hcopies]
      exact methods_inquiriesOf h hw st hvisit hname
    refine ⟨hhanded, ?_⟩
    rw [← h.filesOnChain_eq_one_iff hv hw hvisit hname]
    rw [count_agenda h hw _ hvisit hname hknown, if_pos hparser] at hcopies
    rw [← hcopies]
    refine ⟨And.left, fun hone => ⟨hone, ?_⟩⟩
    simpa [hone] using hhanded

/-- The method of the upper file is handed over once, that of the lower file twice. -/
theorem nested_documented :
    ∃ report : Report,
      ((nested.process requestHere).run ⟨.fresh, []⟩).value = .json 200 report.toJson ∧
      report.files.countP (·.path = Path.join "/w" "A.java") = 1 ∧
      ¬ (report.files.countP (·.path = Path.join "/w/sub" "B.java") = 1 ∧
        ((nested.inquiriesOf ⟨.fresh, []⟩ [⟨"/w", ["A.java"]⟩, ⟨"/w/sub", ["B.java"]⟩]).filter
            (·.path = Path.join "/w/sub" "B.java")).map (·.method) =
          nested.workspace.methodsIn (Path.join "/w/sub" "B.java")) := by
  obtain ⟨report, visits, hvalue, hwalk, -, -, honce⟩ :=
    @documented_once_iff nested requestHere "." (by decide +kernel) asked?_requestHere rfl
      (by decide +kernel) ⟨.fresh, []⟩
  obtain rfl := Except.ok.inj (hwalk.symm.trans walk_nested)
  have hupper := (honce ⟨"/w", ["A.java"]⟩ (by simp) "A.java" (by decide) (by decide +kernel)
    (by decide +kernel)).2
  have hlower := (honce ⟨"/w/sub", ["B.java"]⟩ (by simp) "B.java" (by decide) (by decide +kernel)
    (by decide +kernel)).2
  refine ⟨report, hvalue, (hupper.mpr (by decide +kernel)).1, fun hboth => ?_⟩
  exact absurd (hlower.mp hboth) (by decide +kernel)

end Service

end Scribe
