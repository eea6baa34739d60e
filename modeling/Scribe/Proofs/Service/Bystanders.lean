import Scribe.Proofs.Files.Without
import Scribe.Proofs.Service.Failures
import Scribe.Proofs.Service.Refusals
import Scribe.Proofs.Web.Routes

/-!
# Files that have no part

A walk lists all files, but only those of known languages set anything off, and a search reads only
those of its language. The other ones are bystanders: unless a link leads to them, they can be
added, removed and rewritten, and a service answers as before, with the same requests in the same
order.

A bystander can be noticed nevertheless. A link whose path leads through a file cannot be followed,
and neither can it if there is no such file, but the errors differ. Reports do not show them. The
entries of a search do.

## Main results

* `Workspace.languageMethods_without`: a search without bystanders.
* `Service.document_without`: a report without bystanders.
* `Service.bystanders_ignored`: disks that differ by bystanders.
-/

namespace Scribe

/-- The files at some spots have no part in what is done at the path `root`: their names do not
matter, and neither the path nor a link with a name that matters leads to any of them. -/
structure Volume.Bystanders (v : Volume) (spots : Spots) (matters : Text → Bool) (root : Text) :
    Prop where
  wellFormed : v.WellFormed
  idle : spots.Idle matters
  unlinked : ∀ a ∈ v.linkEnds matters, a.endsAt spots = false
  away : v.endsAt spots root = false

namespace Volume.Bystanders

variable {v : Volume} {spots : Spots} {matters : Text → Bool} {root : Text} {visits : List Visit}
  {visit : Visit} {name : Text}

/-- Bystanders have no part in what is done at a folder of the walk either. -/
theorem descend (h : v.Bystanders spots matters root) (hw : v.walk root = .ok visits)
    (hvisit : visit ∈ visits) : v.Bystanders spots matters visit.directory := by
  obtain ⟨p, -, harrival, -⟩ := arrival_of_mem_walk h.wellFormed hw hvisit
  refine ⟨h.wellFormed, h.idle, h.unlinked, ?_⟩
  rw [endsAt, harrival]
  rfl

/-- The path of a file of the walk that matters comes to no bystander, unless a link leads there. So
what is false of all other paths and of these links is false of it. -/
theorem any_file (h : v.Bystanders spots matters root) {p : Arrival → Bool}
    (hmeets : ∀ a, a.meets spots = false → p a = false)
    (hlinks : ∀ a ∈ v.linkEnds matters, p a = false)
    (hw : v.walk root = .ok visits) (hvisit : visit ∈ visits) (hname : name ∈ visit.files)
    (hm : matters name = true) :
    (v.arrival (Path.join visit.directory name)).toOption.any p = false := by
  obtain ⟨place, hplace, harrival, hfiles⟩ := arrival_of_mem_walk h.wellFormed hw hvisit
  cases hfile : v.arrival (Path.join visit.directory name) with
  | error e => rfl
  | ok a =>
    have hdisk := isDiskName_of_mem_filesOf hplace (hfiles ▸ hname)
    obtain rfl | hlink := arrival_join_cases hdisk hm harrival hfile
    · refine hmeets _ (Bool.eq_false_iff.mpr fun hspot => ?_)
      rw [h.idle _ _ (Arrival.spot_of_meets_follow hdisk.toIsName hspot)] at hm
      cases hm
    · exact hlinks _ hlink

theorem endsAt_file (h : v.Bystanders spots matters root) (hw : v.walk root = .ok visits)
    (hvisit : visit ∈ visits) (hname : name ∈ visit.files) (hm : matters name = true) :
    v.endsAt spots (Path.join visit.directory name) = false := by
  refine h.any_file (fun a ha => ?_) h.unlinked hw hvisit hname hm
  exact Bool.eq_false_iff.mpr fun hends => by simp [Arrival.meets_of_endsAt hends] at ha

end Volume.Bystanders

/-! ## Searches -/

/-- What a file gives, apart from why it gives nothing. -/
def FileEntry.found (e : FileEntry) : Text × Option (List Method) := (e.path, e.outcome.toOption)

namespace Workspace

variable {w : Workspace} {spots : Spots} {matters : Text → Bool} {l : Language} {root : Text}

/-- A workspace without the files at some spots. -/
def without (spots : Spots) (w : Workspace) : Workspace := ⟨w.volume.without spots, w.toolkit⟩

theorem toolkit_without (w : Workspace) : (w.without spots).toolkit = w.toolkit := rfl

/-- The methods of a file are those of its content. -/
theorem toOption_fileMethods (w : Workspace) (path : Text) :
    (w.fileMethods path).toOption = (w.volume.read path).toOption.bind fun content =>
      if w.toolkit.installed then (w.contentMethods path content).toOption else none := by
  simp only [fileMethods, methodsAt, Volume.readAt, Json.asPath]
  cases w.toolkit.installed with
  | false => cases w.volume.read path <;> rfl
  | true =>
    cases w.volume.read path with
    | error e => rfl
    | ok content =>
      cases hmethods : w.contentMethods path content <;>
        simp [Except.mapError, Except.toOption, Json.display, hmethods]

theorem fileMethods_without {path : Text}
    (h : (w.volume.without spots).read path = w.volume.read path) :
    (w.without spots).fileMethods path = w.fileMethods path := by
  simp only [fileMethods, methodsAt, Volume.readAt, Json.asPath, contentMethods, without, h]

/-- Files whose names do not matter are not selected. -/
theorem selected_narrow (hl : ∀ name, Language.ofPath name = l → matters name = true)
    (visits : List Visit) : selected l (visits.map (Visit.narrow matters)) = selected l visits := by
  have hfilter (files : List Text) :
      (files.filter matters).filter (Language.ofPath · = l) =
        files.filter (Language.ofPath · = l) := by
    rw [List.filter_filter]
    refine List.filter_congr fun name _ => ?_
    by_cases hname : Language.ofPath name = l <;> simp [hname, hl]
  rw [selected, selected, List.flatMap_map]
  simp only [Visit.narrow, hfilter]

theorem visits_without (hidle : spots.Idle matters) (hv : w.volume.WellFormed) (root : Text) :
    ((w.without spots).visits root).map (Visit.narrow matters) =
      (w.visits root).map (Visit.narrow matters) := by
  have hwalk := Volume.walk_without hidle hv root
  simp only [visits, without]
  cases hleft : (w.volume.without spots).walk root <;> cases hright : w.volume.walk root <;>
    simp_all [Except.map]

/-- The same files are selected. -/
theorem selected_without (h : w.volume.Bystanders spots matters root)
    (hl : ∀ name, Language.ofPath name = l → matters name = true) :
    selected l ((w.without spots).visits root) = selected l (w.visits root) := by
  rw [← selected_narrow hl, visits_without h.idle h.wellFormed, selected_narrow hl]

theorem walk_of_mem_visits {visit : Visit} (h : visit ∈ w.visits root) :
    w.volume.walk root = .ok (w.visits root) := by
  rw [visits] at h ⊢
  cases hwalk : w.volume.walk root with
  | error e => simp [hwalk] at h
  | ok visits => rfl

/-- The files of a language give the same, apart from why they give nothing. -/
theorem found_entries_without (h : w.volume.Bystanders spots matters root)
    (hl : ∀ name, Language.ofPath name = l → matters name = true) :
    ((w.without spots).entries l ((w.without spots).visits root)).map FileEntry.found =
      (w.entries l (w.visits root)).map FileEntry.found := by
  simp only [entries, selected_without h hl, List.map_map]
  refine List.map_congr_left fun path hpath => ?_
  obtain ⟨visit, hvisit, name, hname, hofPath, rfl⟩ := mem_selected_iff.mp hpath
  have hends := h.endsAt_file (walk_of_mem_visits hvisit) hvisit hname (hl name hofPath)
  have hread : ((w.without spots).volume.read _).toOption = _ :=
    Volume.toOption_read_without h.wellFormed hends
  simp only [Function.comp_apply, FileEntry.found, toOption_fileMethods, hread, contentMethods,
    toolkit_without]
  rfl

/-- If no link leads through a bystander, they give the same. -/
theorem entries_without (h : w.volume.Bystanders spots matters root)
    (hclear : ∀ a ∈ w.volume.linkEnds matters, a.meets spots = false)
    (hl : ∀ name, Language.ofPath name = l → matters name = true) :
    (w.without spots).entries l ((w.without spots).visits root) = w.entries l (w.visits root) := by
  simp only [entries, selected_without h hl]
  refine List.map_congr_left fun path hpath => ?_
  obtain ⟨visit, hvisit, name, hname, hofPath, rfl⟩ := mem_selected_iff.mp hpath
  have hmeets := h.any_file (fun _ ha => ha) hclear (walk_of_mem_visits hvisit) hvisit hname
    (hl name hofPath)
  rw [fileMethods_without (Volume.read_without h.wellFormed hmeets)]

/-- A search depends on what there is at its path and on the entries below it. -/
theorem languageMethods_congr {α : Type} {w w' : Workspace} (htoolkit : w'.toolkit = w.toolkit)
    (hholds : w'.volume.holds root = w.volume.holds root) (f : List FileEntry → α)
    (hentries : f (w'.entries l (w'.visits root)) = f (w.entries l (w.visits root))) :
    Except.map f <$> w'.languageMethods root l = Except.map f <$> w.languageMethods root l := by
  refine Work.ext fun r => ?_
  simp only [Work.run_map, run_languageMethods, htoolkit, hholds]
  split
  · rfl
  · split
    · rfl
    · cases ((r.parsers.opened w.toolkit).get? l).isSome <;> simp [Except.map, hentries]

/-- A search without bystanders. -/
theorem languageMethods_without (h : w.volume.Bystanders spots matters root)
    (hl : ∀ name, Language.ofPath name = l → matters name = true) :
    Except.map (List.map FileEntry.found) <$> (w.without spots).languageMethods root l =
      Except.map (List.map FileEntry.found) <$> w.languageMethods root l := by
  have hholds : (w.without spots).volume.holds root = w.volume.holds root :=
    Volume.holds_without h.wellFormed h.away
  exact languageMethods_congr w.toolkit_without hholds _ (found_entries_without h hl)

/-- The same for whatever a caller gave as a directory. -/
theorem repositoryMethods_congr {α : Type} {w w' : Workspace} (htoolkit : w'.toolkit = w.toolkit)
    (f : List FileEntry → α) {directory : Json}
    (h : ∀ path, directory = .str path → w'.volume.holds path = w.volume.holds path ∧
      f (w'.entries l (w'.visits path)) = f (w.entries l (w.visits path))) :
    Except.map (Except.map f) <$> w'.repositoryMethods directory (.known l) =
      Except.map (Except.map f) <$> w.repositoryMethods directory (.known l) := by
  have hlocate : w'.volume.locate directory = w.volume.locate directory := by
    cases directory with
    | str path => rw [Volume.locate, Volume.locate, (h path rfl).1]
    | _ => rfl
  unfold repositoryMethods
  rw [htoolkit, hlocate]
  cases w.toolkit.installed with
  | false => simp only [Bool.not_false, if_true]
  | true =>
    simp only [Bool.not_true, Bool.false_eq_true, if_false]
    split
    · rfl
    · rfl
    · rename_i place hplace
      cases place with
      | openFile number => dsimp only
      | path path =>
        -- A path is the value that names it.
        have hdirectory : directory = .str path := by
          cases directory <;> grind [Volume.locate]
        obtain ⟨hholds, hentries⟩ := h path hdirectory
        have hmap (u : Workspace) :
            Except.map (Except.map f) <$> (do return Except.ok (← u.languageMethods path l)) =
              (fun x => (.ok x : Except SearchError _)) <$> Except.map f <$>
                u.languageMethods path l :=
          Work.ext fun r => by simp [Except.map]
        dsimp only
        rw [hmap, hmap, languageMethods_congr htoolkit hholds f hentries]

/-- What a search gives, apart from why files give nothing. -/
def found : Except SearchError (Except RepositoryError (List FileEntry)) →
    Except SearchError (Except RepositoryError (List (Text × Option (List Method)))) :=
  Except.map (Except.map (List.map FileEntry.found))

theorem found_repositoryMethods_without {directory : Json}
    (h : ∀ path, directory = .str path →
      w.volume.Bystanders spots (Language.ofPath · = l) path) :
    found <$> (w.without spots).repositoryMethods directory (.known l) =
      found <$> w.repositoryMethods directory (.known l) := by
  refine repositoryMethods_congr w.toolkit_without (List.map FileEntry.found) fun path hpath => ?_
  exact ⟨Volume.holds_without (h path hpath).wellFormed (h path hpath).away,
    found_entries_without (h path hpath) fun _ hname => decide_eq_true hname⟩

theorem repositoryMethods_without {directory : Json}
    (h : ∀ path, directory = .str path →
      w.volume.Bystanders spots (Language.ofPath · = l) path)
    (hclear : ∀ a ∈ w.volume.linkEnds (Language.ofPath · = l), a.meets spots = false) :
    (w.without spots).repositoryMethods directory (.known l) =
      w.repositoryMethods directory (.known l) := by
  have hentries (path : Text) (hpath : directory = .str path) :
      (w.without spots).entries l ((w.without spots).visits path) = w.entries l (w.visits path) :=
    entries_without (h path hpath) hclear fun _ hname => decide_eq_true hname
  have hmap := repositoryMethods_congr w.toolkit_without id fun path hpath =>
    ⟨Volume.holds_without (h path hpath).wellFormed (h path hpath).away, hentries path hpath⟩
  simpa only [Except.map_id, id_map] using hmap

end Workspace

/-! ## Reports -/

/-- Whether a file is of a known language. -/
def Language.isKnown (name : Text) : Bool := ofPath name ≠ .unknown

namespace Service

variable {s : Service} {spots : Spots} {matters : Text → Bool} {root : Text} {visits : List Visit}
  {visit : Visit}

/-- A service without the files at some spots. -/
def without (spots : Spots) (s : Service) : Service := ⟨s.workspace.without spots, s.client⟩

/-- A report depends on what files give, not on why they give nothing. -/
theorem fileReports_congr (c : Client) (l : Language) {es es' : List FileEntry}
    (h : es.map FileEntry.found = es'.map FileEntry.found) :
    fileReports c l es = fileReports c l es' := by
  have hshown (e : FileEntry) : Job.shown ⟨l, e⟩ = (l, e.found.1, e.found.2.getD []) := by
    obtain ⟨path, outcome⟩ := e
    cases outcome <;> rfl
  rw [fileReports_eq_jobReports, fileReports_eq_jobReports]
  refine jobReports_congr c ?_
  have hmap := congrArg (List.map fun p => (l, p.1, p.2.getD [])) h
  simpa [Function.comp_def, hshown] using hmap

theorem languageReport_without {l : Language}
    (h : s.workspace.volume.Bystanders spots matters root)
    (hl : ∀ name, Language.ofPath name = l → matters name = true) :
    (s.without spots).languageReport root l = s.languageReport root l := by
  refine Work.ext fun st => ?_
  have hrun := congrArg (·.run st.toRegistry) (Workspace.languageMethods_without h hl)
  simp only [Work.run_map, Done.mk.injEq] at hrun
  obtain ⟨hvalue, hstate, hevents⟩ := hrun
  have hfound (x : Except RepositoryError (List FileEntry)) :
      (Workspace.entriesOf x).map FileEntry.found =
        (x.map (List.map FileEntry.found)).toOption.getD [] := by cases x <;> rfl
  have hentries := congrArg (·.toOption.getD []) hvalue
  simp only [← hfound] at hentries
  rw [run_languageReport, run_languageReport]
  simp only [without, hstate, hevents, fileReports_congr s.client l hentries]

/-- Files of unknown languages set nothing off. -/
theorem visitReport_narrow (s : Service) (visit : Visit) (names : List Text) :
    s.visitReport visit (names.filter Language.isKnown) = s.visitReport visit names := by
  induction names with
  | nil => rfl
  | cons name rest ih =>
    rw [List.filter_cons, visitReport, ← ih]
    cases hknown : Language.isKnown name with
    | true => rfl
    | false =>
      have hunknown : s.reportFor visit name = pure .empty := by
        rw [reportFor, if_pos (by simpa [Language.isKnown] using hknown)]
      exact Work.ext fun st => by simp [hunknown, Report.empty_append]

/-- The reports of some visits depend on the files of known languages. -/
theorem walkReport_narrow (s : Service) (visits : List Visit) :
    s.walkReport (visits.map (Visit.narrow Language.isKnown)) = s.walkReport visits := by
  have hvisit (visit : Visit) (names : List Text) :
      s.visitReport (visit.narrow Language.isKnown) names = s.visitReport visit names := by
    induction names with
    | nil => rfl
    | cons name rest ih =>
      rw [visitReport, visitReport, ih]
      rfl
  induction visits with
  | nil => rfl
  | cons visit rest ih =>
    rw [List.map_cons, walkReport, walkReport, ih, hvisit, Visit.narrow, visitReport_narrow]

theorem walkReport_congr {s s' : Service} {visits : List Visit}
    (h : ∀ visit ∈ visits, ∀ name ∈ visit.files, s'.reportFor visit name = s.reportFor visit name) :
    s'.walkReport visits = s.walkReport visits := by
  have hvisit (visit : Visit) (names : List Text)
      (hnames : ∀ name ∈ names, s'.reportFor visit name = s.reportFor visit name) :
      s'.visitReport visit names = s.visitReport visit names := by
    induction names with
    | nil => rfl
    | cons name rest ih =>
      obtain ⟨hname, hrest⟩ := List.forall_mem_cons.mp hnames
      rw [visitReport, visitReport, hname, ih hrest]
  induction visits with
  | nil => rfl
  | cons visit rest ih =>
    obtain ⟨hfirst, hrest⟩ := List.forall_mem_cons.mp h
    rw [walkReport, walkReport, hvisit visit visit.files hfirst, ih hrest]

/-- Every file of the walk sets the same off. -/
theorem reportFor_without (h : s.workspace.volume.Bystanders spots Language.isKnown root)
    {place : Trail} (hroot : s.workspace.volume.Walkable root place)
    (hw : s.workspace.volume.walk root = .ok visits) (hvisit : visit ∈ visits) {name : Text}
    (hname : name ∈ visit.files) :
    (s.without spots).reportFor visit name = s.reportFor visit name := by
  rw [reportFor, reportFor]
  split
  · rfl
  · rename_i hknown
    obtain ⟨p, hp, -⟩ := hroot.visited hw hvisit
    have hisName := (hroot.isDiskName_of_mem_files hw hvisit hname).toIsName
    rw [Path.directory_join hp.trimmed hisName]
    refine languageReport_without (h.descend hw hvisit) fun n hn => ?_
    simpa [Language.isKnown, hn] using hknown

/-- A report without bystanders. -/
theorem document_without {given : Text}
    (h : s.workspace.volume.Bystanders spots Language.isKnown (s.root given)) :
    (s.without spots).document (s.root given) = s.document (s.root given) := by
  have hholds : (s.without spots).workspace.volume.holds (s.root given) =
      s.workspace.volume.holds (s.root given) := Volume.holds_without h.wellFormed h.away
  have hclient : (s.without spots).client = s.client := rfl
  cases hthere : s.workspace.volume.holds (s.root given) with
  | false => simp [document, hclient, hholds, hthere]
  | true =>
    obtain ⟨visits, hw⟩ := walk_of_holds hthere
    obtain ⟨visits', hw'⟩ := walk_of_holds (hholds.trans hthere)
    have hnarrow : visits'.map (Visit.narrow Language.isKnown) =
        visits.map (Visit.narrow Language.isKnown) := by
      have hwalk := Volume.walk_without h.idle h.wellFormed (s.root given)
      rw [show (s.workspace.volume.without spots).walk (s.root given) = _ from hw', hw] at hwalk
      exact Except.ok.inj hwalk
    have hsame : (s.without spots).walkReport visits = s.walkReport visits := by
      refine walkReport_congr fun visit hvisit name hname => ?_
      obtain rfl | ⟨place, hroot⟩ := walkable_root h.wellFormed hw
      · cases hvisit
      · exact reportFor_without h hroot hw hvisit hname
    have hreport : (s.without spots).walkReport visits' = s.walkReport visits := by
      rw [← walkReport_narrow, hnarrow, walkReport_narrow, hsame]
    simp [document, hclient, hholds, hthere, hw, hw', hreport]

/-- A request is served without bystanders as with them. -/
theorem serve_without {r : Web.Request}
    (h : ∀ given, asked? r = some given →
      s.workspace.volume.Bystanders spots Language.isKnown (s.root given)) :
    (s.without spots).routes.serve r = s.routes.serve r := by
  refine Web.Routes.serve_congr rfl rfl ?_
  change (s.without spots).process r = s.process r
  rw [process_eq, process_eq]
  split
  · rename_i given hasked
    exact document_without (h given hasked)
  · rfl

/-- On disks that are the same without some bystanders, a request is answered alike, with the same
requests, pauses and lines, and leaves the same parsers and replies. A search of a directory gives
the same for every file, apart from why a file gives nothing, and all the same if no link of its
language leads through a bystander. -/
theorem bystanders_ignored (client : Client) (t : Toolkit) {v v' : Volume} {spots : Spots}
    (hsame : v.without spots = v'.without spots) :
    let s : Service := ⟨⟨v, t⟩, client⟩
    let s' : Service := ⟨⟨v', t⟩, client⟩
    (∀ r : Web.Request,
      (∀ given, asked? r = some given →
        v.Bystanders spots Language.isKnown (s.root given) ∧
          v'.Bystanders spots Language.isKnown (s'.root given)) →
      s.routes.serve r = s'.routes.serve r) ∧
    ∀ (directory : Json) (l : Language),
      (∀ path, directory = .str path →
        v.Bystanders spots (Language.ofPath · = l) path ∧
          v'.Bystanders spots (Language.ofPath · = l) path) →
      Workspace.found <$> s.workspace.repositoryMethods directory (.known l) =
        Workspace.found <$> s'.workspace.repositoryMethods directory (.known l) ∧
      ((∀ a ∈ v.linkEnds (Language.ofPath · = l) ++ v'.linkEnds (Language.ofPath · = l),
          a.meets spots = false) →
        s.workspace.repositoryMethods directory (.known l) =
          s'.workspace.repositoryMethods directory (.known l)) := by
  intro s s'
  have hworkspace : s.workspace.without spots = s'.workspace.without spots := by
    rw [Workspace.without, Workspace.without, hsame]
  have hservice : s.without spots = s'.without spots := by rw [without, without, hworkspace]
  refine ⟨fun r hr => ?_, fun directory l h => ⟨?_, fun hclear => ?_⟩⟩
  · rw [← serve_without fun given hasked => (hr given hasked).1, hservice,
      serve_without fun given hasked => (hr given hasked).2]
  · rw [← Workspace.found_repositoryMethods_without fun path hpath => (h path hpath).1, hworkspace,
      Workspace.found_repositoryMethods_without fun path hpath => (h path hpath).2]
  · obtain ⟨hleft, hright⟩ := List.forall_mem_append.mp hclear
    rw [← Workspace.repositoryMethods_without (fun path hpath => (h path hpath).1) hleft,
      hworkspace, Workspace.repositoryMethods_without (fun path hpath => (h path hpath).2) hright]

/-- A folder with a file of Java, a link, and some other files. -/
def folderWith (target : Text) (others : Children) : Volume :=
  ⟨[("w", .folder (("A.java", .file [109]) :: ("L.java", .link target) :: others))], "/w"⟩

/-- Two spots for files without a language in that folder. -/
def plainSpots : Spots := fun path name =>
  path = [("w" : Text)] && ((name = "notes") || (name = "README"))

theorem idle_plainSpots {matters : Text → Bool} (hnotes : matters "notes" = false)
    (hreadme : matters "README" = false) : plainSpots.Idle matters := by
  intro path name h
  simp only [plainSpots, Bool.and_eq_true, Bool.or_eq_true, decide_eq_true_eq] at h
  obtain ⟨-, rfl | rfl⟩ := h
  · exact hnotes
  · exact hreadme

/-- A file is rewritten and another one added. The link beside them leads to a file of Java. -/
theorem plain_files_ignored :
    let v := folderWith "A.java" [("notes", .file [1])]
    let v' := folderWith "A.java" [("README", .file []), ("notes", .file [2])]
    let s : Service := ⟨⟨v, nested.workspace.toolkit⟩, nested.client⟩
    let s' : Service := ⟨⟨v', nested.workspace.toolkit⟩, nested.client⟩
    v.walk "/w" = .ok [⟨"/w", ["A.java", "L.java", "notes"]⟩] ∧
    v'.walk "/w" = .ok [⟨"/w", ["A.java", "L.java", "README", "notes"]⟩] ∧
    s.routes.serve requestHere = s'.routes.serve requestHere ∧
    s.workspace.repositoryMethods (.str "/w") (.known .java) =
      s'.workspace.repositoryMethods (.str "/w") (.known .java) := by
  intro v v' s s'
  have hsame : v.without plainSpots = v'.without plainSpots := rfl
  have hknown : plainSpots.Idle Language.isKnown := idle_plainSpots (by decide) (by decide)
  have hjava : plainSpots.Idle (Language.ofPath · = .java) :=
    idle_plainSpots (by decide) (by decide)
  obtain ⟨hserve, hsearch⟩ :=
    bystanders_ignored nested.client nested.workspace.toolkit hsame
  refine ⟨by decide +kernel, by decide +kernel, hserve _ fun given hasked => ?_,
    (hsearch _ _ fun path hpath => ?_).2 (by decide +kernel)⟩
  · obtain rfl := Option.some.inj (asked?_requestHere.symm.trans hasked)
    exact ⟨⟨by decide, hknown, by decide +kernel, by decide +kernel⟩,
      ⟨by decide, hknown, by decide +kernel, by decide +kernel⟩⟩
  · obtain rfl := Json.str.inj hpath
    exact ⟨⟨by decide, hjava, by decide +kernel, by decide +kernel⟩,
      ⟨by decide, hjava, by decide +kernel, by decide +kernel⟩⟩

/-- A link leads through a name that is not there, and then through a file of this name. It cannot
be followed in either case, but the errors differ. -/
theorem noticed_through_link :
    let v := folderWith "notes/B.java" []
    let v' := folderWith "notes/B.java" [("notes", .file [])]
    let outcomes (v : Volume) :=
      ((Workspace.repositoryMethods ⟨v, nested.workspace.toolkit⟩ (.str "/w") (.known .java)).run
        .fresh).value.map (Except.map (List.map FileEntry.outcome))
    v.without plainSpots = v'.without plainSpots ∧
    v.Bystanders plainSpots (Language.ofPath · = .java) "/w" ∧
    v'.Bystanders plainSpots (Language.ofPath · = .java) "/w" ∧
    outcomes v = .ok (.ok [.ok [⟨"m", none, "m", 0, 0⟩],
      .error "Error processing file: [Errno 2] No such file or directory: '/w/L.java'"]) ∧
    outcomes v' = .ok (.ok [.ok [⟨"m", none, "m", 0, 0⟩],
      .error "Error processing file: [Errno 20] Not a directory: '/w/L.java'"]) := by
  have hjava : plainSpots.Idle (Language.ofPath · = .java) :=
    idle_plainSpots (by decide) (by decide)
  exact ⟨rfl, ⟨by decide, hjava, by decide +kernel, by decide +kernel⟩,
    ⟨by decide, hjava, by decide +kernel, by decide +kernel⟩, by decide +kernel, by decide +kernel⟩

end Service

end Scribe
