import Scribe.Proofs.Files.Rewrite
import Scribe.Proofs.Repository
import Scribe.Proofs.Source.Extraction

/-!
# Searching a directory

A search for the files of a language gives one entry for each file of the walk that has this
language, in the order of the walk. Whatever is wrong with a file is told in its own entry, which
depends on nothing but the file and the grammar. So a change to one file is seen in one entry, and
the searches for all languages share the files among them.

## Main results

* `Workspace.search_eq_ok_iff`: when a search gives entries, and which.
* `Workspace.fileMethods_congr`: what the methods of a file depend on.
* `Workspace.entries_rewrite`: entries after files have been rewritten.
* `Workspace.search_file_by_file`: what a search gives for each file.
-/

namespace Scribe

/-- The extension of a path is that of its last name. -/
theorem Language.extensionOf_join (d : Text) {name : Text} (h : Path.IsName name) :
    extensionOf (Path.join d name) = extensionOf name := by
  rw [extensionOf, extensionOf, Path.suffix_join d h, Path.suffix_name h]

theorem Language.ofPath_join (d : Text) {name : Text} (h : Path.IsName name) :
    ofPath (Path.join d name) = ofPath name := by
  rw [ofPath, ofPath, extensionOf_join d h]

/-- The files of some visits, each as the path of its folder and its name. -/
def listed (visits : List Visit) : List (Text × Text) :=
  visits.flatMap fun visit => visit.files.map fun name => (visit.directory, name)

theorem mem_listed_iff {visits : List Visit} {d name : Text} :
    (d, name) ∈ listed visits ↔ ∃ visit ∈ visits, visit.directory = d ∧ name ∈ visit.files := by
  simp only [listed, List.mem_flatMap, List.mem_map, Prod.mk.injEq]
  constructor
  · rintro ⟨visit, hvisit, n, hn, rfl, rfl⟩
    exact ⟨visit, hvisit, rfl, hn⟩
  · rintro ⟨visit, hvisit, rfl, hname⟩
    exact ⟨visit, hvisit, name, hname, rfl, rfl⟩

namespace Workspace

variable {w w' : Workspace} {r : Registry} {table : ParserTable} {directory path : Text}
  {l : Language} {visits : List Visit} {entries : List FileEntry}

/-- What a search for the files of a language gives. -/
def search (w : Workspace) (r : Registry) (directory : Text) (l : Language) :
    Except SearchError (Except RepositoryError (List FileEntry)) :=
  ((w.repositoryMethods (.str directory) (.known l)).run r).value

/-- A search gives entries if the directory is there and the language has a parser. -/
theorem search_eq_ok_iff :
    w.search r directory l = .ok (.ok entries) ↔
      w.volume.holds directory = true ∧ w.hasParser r.parsers l = true ∧
        w.entries l (w.visits directory) = entries := by
  unfold search repositoryMethods hasParser
  cases hinstalled : w.toolkit.installed with
  | false => simp
  | true =>
    cases hholds : w.volume.holds directory with
    | false => simp [Volume.locate, hholds]
    | true =>
      cases hparser : ((r.parsers.opened w.toolkit).get? l).isSome <;>
        simp [Volume.locate, hholds, run_languageMethods, hinstalled, hparser]

/-! ## One file -/

/-- What is wrong with a file is said in words. -/
theorem error_ne_empty (hinstalled : w.toolkit.installed = true) {message : Text}
    (h : w.fileMethods path = .error message) : message ≠ "" := by
  have hwords (cause : Text) : ("Error processing file: " : Text) ++ cause ≠ "" := by
    intro hempty
    have hsymbols := congrArg Text.symbols hempty
    rw [Text.symbols_append, Path.symbols_empty, List.append_eq_nil_iff] at hsymbols
    exact absurd hsymbols.1 (by decide)
  unfold fileMethods methodsAt at h
  simp only [hinstalled, Bool.not_true, Bool.false_eq_true, if_false] at h
  split at h
  · rw [← Except.error.inj h]
    exact hwords _
  · split at h
    · rw [← Except.error.inj h]
      exact hwords _
    · cases h

/-- An extraction depends on the faults of the grammar and on the tree. -/
theorem extractMethods_congr {t t' : Toolkit} {source : Bytes}
    (hfaults : t'.faultsOf l.tag = t.faultsOf l.tag)
    (htree : t'.parse l.tag source = t.parse l.tag source) :
    extractMethods t' (.known l) source = extractMethods t (.known l) source := by
  have hcreate : Extractor.create t' (.known l) = Extractor.create t (.known l) := by
    simp only [Extractor.create, Language.Choice.rules?]
    cases l.rules? with
    | none => rfl
    | some rules => simp only [Extractor.ofRules, Toolkit.loadGrammar, hfaults]
  rw [extractMethods, extractMethods, hcreate]
  cases hx : Extractor.create t (.known l) with
  | error e => rfl
  | ok x =>
    have hlanguage : x.language = l := (Extractor.rules_of_create hx).1
    simp only [bind, Except.bind, Extractor.parse, hlanguage, htree]

/-- The methods of a file depend on its path and its content, or why it has none, on the tree of the
content and on the faults of the grammar. -/
theorem fileMethods_congr (hinstalled : w'.toolkit.installed = w.toolkit.installed)
    (hfaults : w'.toolkit.faultsOf (Language.ofPath path).tag =
      w.toolkit.faultsOf (Language.ofPath path).tag)
    (hread : w'.volume.read path = w.volume.read path)
    (htree : ∀ content, w.volume.read path = .ok content →
      w'.toolkit.parse (Language.ofPath path).tag content =
        w.toolkit.parse (Language.ofPath path).tag content) :
    w'.fileMethods path = w.fileMethods path := by
  simp only [fileMethods, methodsAt, Volume.readAt, Json.asPath, hinstalled, hread]
  cases hcontent : w.volume.read path with
  | error e => rfl
  | ok content =>
    have hmethods : w'.contentMethods (Json.str path).display content =
        w.contentMethods (Json.str path).display content :=
      extractMethods_congr hfaults (htree content hcontent)
    simp only [Except.mapError, hmethods]

/-! ## The files of a search -/

theorem selected_eq (l : Language) (visits : List Visit) :
    selected l visits =
      ((listed visits).filter (Language.ofPath ·.2 = l)).map fun f => Path.join f.1 f.2 := by
  unfold selected listed
  rw [List.filter_flatMap, List.map_flatMap]
  refine List.flatMap_congr fun visit _ => ?_
  rw [List.filter_map, List.map_map]
  rfl

theorem installed_of_hasParser (h : w.hasParser table l = true) : w.toolkit.installed = true :=
  (Bool.and_eq_true_iff.mp h).1

/-- There is an entry for each file of the language, and if it has no methods it tells why. -/
theorem forall₂_entries (hinstalled : w.toolkit.installed = true) (l : Language)
    (visits : List Visit) :
    List.Forall₂ (fun file e => e.path = Path.join file.1 file.2 ∧
        e.outcome = w.fileMethods e.path ∧
        ∀ message : Text, e.outcome = .error message → message ≠ "")
      ((listed visits).filter (Language.ofPath ·.2 = l)) (w.entries l visits) := by
  rw [entries, selected_eq, List.map_map, List.forall₂_map_right_iff, List.forall₂_same]
  intro file _
  exact ⟨rfl, rfl, fun message => error_ne_empty hinstalled⟩

theorem map_path_entries (w : Workspace) (l : Language) (visits : List Visit) :
    (w.entries l visits).map (·.path) = selected l visits := by
  rw [entries, List.map_map]
  exact List.map_id _

theorem mem_entries_iff {e : FileEntry} :
    e ∈ w.entries l visits ↔ e.path ∈ selected l visits ∧ e.outcome = w.fileMethods e.path := by
  obtain ⟨path, outcome⟩ := e
  simp only [entries, List.mem_map, FileEntry.mk.injEq]
  constructor
  · rintro ⟨_, hpath, rfl, rfl⟩
    exact ⟨hpath, rfl⟩
  · rintro ⟨hpath, rfl⟩
    exact ⟨path, hpath, rfl, rfl⟩

/-- The language of a file can be told from its path. -/
theorem ofPath_of_mem_selected (hv : w.volume.WellFormed)
    (hw : w.volume.walk directory = .ok visits) (hpath : path ∈ selected l visits) :
    Language.ofPath path = l := by
  obtain ⟨visit, hvisit, name, hname, hl, rfl⟩ := mem_selected_iff.mp hpath
  obtain ⟨p, hp, -, hfiles⟩ := Volume.arrival_of_mem_walk hv hw hvisit
  have hdisk := isDiskName_of_mem_filesOf hp (hfiles ▸ hname)
  rw [Language.ofPath_join _ hdisk.toIsName, hl]

/-- A file is found once by the search for its language, and by no other one. -/
theorem count_selected_listed (hv : w.volume.WellFormed)
    (hw : w.volume.walk directory = .ok visits) {d name : Text} (hfile : (d, name) ∈ listed visits)
    (l : Language) :
    (selected l visits).count (Path.join d name) = if l = Language.ofPath name then 1 else 0 := by
  obtain ⟨visit, hvisit, rfl, hname⟩ := mem_listed_iff.mp hfile
  have hown : Path.join visit.directory name ∈ selected (Language.ofPath name) visits :=
    mem_selected_iff.mpr ⟨visit, hvisit, name, hname, rfl, rfl⟩
  have hnodup : (selected l visits).Nodup := Volume.nodup_paths_walk hv hw _
  split
  · rename_i hl
    rw [List.count_eq_one_of_mem hnodup (hl ▸ hown)]
  · rename_i hl
    refine List.count_eq_zero.mpr fun hmem => hl ?_
    rw [← ofPath_of_mem_selected hv hw hmem, ofPath_of_mem_selected hv hw hown]

/-- What the entry of a file depends on. The two searches may be of other directories on other
disks. -/
theorem entry_congr (hv : w.volume.WellFormed) (hw : w.volume.walk directory = .ok visits)
    (hinstalled : w'.toolkit.installed = w.toolkit.installed)
    (hfaults : w'.toolkit.faultsOf l.tag = w.toolkit.faultsOf l.tag) {visits' : List Visit}
    {e e' : FileEntry} (he : e ∈ w.entries l visits) (he' : e' ∈ w'.entries l visits')
    (hpath : e'.path = e.path) (hread : w'.volume.read e.path = w.volume.read e.path)
    (htree : ∀ content, w.volume.read e.path = .ok content →
      w'.toolkit.parse l.tag content = w.toolkit.parse l.tag content) : e' = e := by
  obtain ⟨hselected, houtcome⟩ := mem_entries_iff.mp he
  obtain ⟨-, houtcome'⟩ := mem_entries_iff.mp he'
  have hl := ofPath_of_mem_selected hv hw hselected
  have hmethods : w'.fileMethods e.path = w.fileMethods e.path :=
    fileMethods_congr hinstalled (hl ▸ hfaults) hread (hl ▸ htree)
  obtain ⟨path, outcome⟩ := e
  obtain ⟨path', outcome'⟩ := e'
  dsimp only at *
  rw [houtcome, houtcome', hpath, hmethods]

/-! ## Rewritten files -/

/-- A workspace with its files rewritten. -/
def rewrite (f : Rewriting) (w : Workspace) : Workspace := ⟨w.volume.rewrite f, w.toolkit⟩

theorem visits_rewrite (f : Rewriting) (hv : w.volume.WellFormed) (directory : Text) :
    (w.rewrite f).visits directory = w.visits directory := by
  rw [visits, visits, rewrite, Volume.walk_rewrite f hv]

/-- Rewriting one file leaves all entries as they are whose paths do not lead there. -/
theorem entries_rewrite {folder : List Text} {name : Text} {content : Bytes} (w : Workspace)
    (l : Language) (visits : List Visit) :
    List.Forall₂ (fun e e' => e'.path = e.path ∧
        (w.volume.endsAt (.only folder name) e.path = false → e' = e))
      (w.entries l visits) ((w.rewrite (.only folder name content)).entries l visits) := by
  rw [entries, entries, List.forall₂_map_left_iff, List.forall₂_map_right_iff, List.forall₂_same]
  intro path _
  refine ⟨rfl, fun h => ?_⟩
  have hmethods : (w.rewrite (.only folder name content)).fileMethods path = w.fileMethods path :=
    fileMethods_congr rfl rfl (Volume.read_rewrite_only h) fun _ _ => rfl
  rw [hmethods]

end Workspace

/-! ## The entry of a file -/

theorem Trail.names_of_below {place p : Trail} {names : List Text}
    (h : place.below names = some p) : p.names = names.reverse ++ place.names := by
  induction names generalizing place with
  | nil =>
    obtain rfl := Option.some.inj h
    rfl
  | cons name rest ih =>
    obtain ⟨sub, -, hrest⟩ := below_cons_eq_some_iff.mp h
    rw [ih hrest, List.reverse_cons, List.append_assoc]
    rfl

/-- A folder is visited under one path only. -/
theorem Volume.directory_inj {v : Volume} {path : Text} {visits : List Visit}
    {visit other : Visit} {p q : Trail} (hv : v.WellFormed) (hw : v.walk path = .ok visits)
    (hvisit : visit ∈ visits) (hother : other ∈ visits)
    (hp : v.arrival visit.directory = .ok (.folder p))
    (hq : v.arrival other.directory = .ok (.folder q)) (h : p.names = q.names) :
    visit.directory = other.directory := by
  rw [walk_eq] at hw
  split at hw
  · rename_i place harrival
    obtain rfl := Except.ok.inj hw
    have hplace : place.WellFormed := (on_of_arrival harrival).wellFormed hv
    have hbelow : ∀ u ∈ walkEntry v.top place.above path (.folder place.here), ∀ r,
        v.arrival u.directory = .ok (.folder r) →
        ∃ names, u.directory = Path.descend path names ∧
          r.names = names.reverse ++ place.names := by
      intro u hu r hr
      obtain ⟨names, s, hs, hsize, rfl⟩ := (mem_walkEntry_iff hplace).mp hu
      have hsame := (arrival_descend hplace harrival hs hsize).symm.trans hr
      obtain rfl : s = r := by simpa using hsame
      exact ⟨names, rfl, Trail.names_of_below hs⟩
    obtain ⟨names, hd, hnames⟩ := hbelow visit hvisit p hp
    obtain ⟨names', hd', hnames'⟩ := hbelow other hother q hq
    rw [hnames, hnames', List.append_cancel_right_eq, List.reverse_inj] at h
    rw [hd, hd', h]
  · obtain rfl := Except.ok.inj hw
    cases hvisit
  · obtain rfl := Except.ok.inj hw
    cases hvisit
  · cases hw

namespace Workspace

variable {w : Workspace} {directory : Text} {l : Language}
  {visits : List Visit} {folder : List Text} {name : Text}

/-- If no link leads to a file, then a selected path leads there only if it is that of the file. -/
theorem exists_visit_of_endsAt (hv : w.volume.WellFormed)
    (hw : w.volume.walk directory = .ok visits)
    (hunlinked : ∀ a ∈ w.volume.linkEnds (Language.ofPath · = l),
      a.endsAt (.only folder name) = false)
    {path : Text} (hpath : path ∈ selected l visits)
    (h : w.volume.endsAt (.only folder name) path = true) :
    ∃ visit ∈ visits, path = Path.join visit.directory name ∧
      ∃ p, w.volume.arrival visit.directory = .ok (.folder p) ∧ p.names = folder := by
  obtain ⟨visit, hvisit, n, hn, hl, rfl⟩ := mem_selected_iff.mp hpath
  obtain ⟨p, hp, hd, hfiles⟩ := Volume.arrival_of_mem_walk hv hw hvisit
  have hdisk := isDiskName_of_mem_filesOf hp (hfiles ▸ hn)
  obtain ⟨a, ha, hends⟩ := Volume.exists_of_endsAt h
  have hcases : a = p.follow [n] ∨ a ∈ w.volume.linkEnds (Language.ofPath · = l) :=
    Volume.arrival_join_cases hdisk (decide_eq_true hl) hd ha
  obtain rfl | hlink := hcases
  · have hspot := Arrival.spot_of_meets_follow hdisk.toIsName (Arrival.meets_of_endsAt hends)
    obtain ⟨hnames, rfl⟩ := Spots.only_eq_true_iff.mp hspot
    exact ⟨visit, hvisit, rfl, p, hd, hnames⟩
  · simp [hunlinked _ hlink] at hends

/-- Then at most one entry is that of the file. -/
theorem pairwise_not_endsAt (hv : w.volume.WellFormed)
    (hw : w.volume.walk directory = .ok visits)
    (hunlinked : ∀ a ∈ w.volume.linkEnds (Language.ofPath · = l),
      a.endsAt (.only folder name) = false) :
    (w.entries l visits).Pairwise fun e other =>
      ¬(w.volume.endsAt (.only folder name) e.path = true ∧
        w.volume.endsAt (.only folder name) other.path = true) := by
  have hnodup : (selected l visits).Nodup := Volume.nodup_paths_walk hv hw _
  rw [entries, List.pairwise_map]
  refine List.Pairwise.imp_of_mem ?_ hnodup
  rintro path other hpath hother hne ⟨hends, hends'⟩
  obtain ⟨visit, hvisit, rfl, p, hp, hnames⟩ :=
    exists_visit_of_endsAt hv hw hunlinked hpath hends
  obtain ⟨visit', hvisit', rfl, p', hp', hnames'⟩ :=
    exists_visit_of_endsAt hv hw hunlinked hother hends'
  refine hne ?_
  rw [Volume.directory_inj hv hw hvisit hvisit' hp hp' (hnames.trans hnames'.symm)]

/-- A search of a directory that is there, for a language that has a parser, gives an entry for each
file of the walk that has this language, in order, with the methods that are extracted from the file
or the reason why there are none. So a file is found once by the search for its language, and by no
other one. An entry depends on the path of its file, the content or the reason why there is none,
the tree, and the faults of the grammar. Rewriting a file to which no link leads changes its own
entry at most. -/
theorem search_file_by_file (w : Workspace) (r : Registry)
    (hv : w.volume.WellFormed) (hthere : w.volume.holds directory = true) :
    ∃ visits, w.volume.walk directory = .ok visits ∧
      ∀ l, w.hasParser r.parsers l = true → ∃ entries,
        w.search r directory l = .ok (.ok entries) ∧
        List.Forall₂ (fun file e => e.path = Path.join file.1 file.2 ∧
            e.outcome = w.fileMethods e.path ∧
            ∀ message : Text, e.outcome = .error message → message ≠ "")
          ((listed visits).filter (Language.ofPath ·.2 = l)) entries ∧
        (∀ file ∈ listed visits, (entries.map (·.path)).count (Path.join file.1 file.2) =
          if l = Language.ofPath file.2 then 1 else 0) ∧
        (∀ w' r' directory' entries', search w' r' directory' l = .ok (.ok entries') →
          w'.toolkit.faultsOf l.tag = w.toolkit.faultsOf l.tag →
          ∀ e ∈ entries, ∀ e' ∈ entries', e'.path = e.path →
            w'.volume.read e.path = w.volume.read e.path →
            (∀ content, w.volume.read e.path = .ok content →
              w'.toolkit.parse l.tag content = w.toolkit.parse l.tag content) → e' = e) ∧
        ∀ folder name target content v', w.volume.endsAt (.only folder name) target = true →
          w.volume.writeFile target content = .ok v' →
          (∀ a ∈ w.volume.linkEnds (Language.ofPath · = l), a.endsAt (.only folder name) = false) →
          ∃ entries', search ⟨v', w.toolkit⟩ r directory l = .ok (.ok entries') ∧
            List.Forall₂ (fun e e' => e'.path = e.path ∧
              (w.volume.endsAt (.only folder name) e.path = false → e' = e)) entries entries' ∧
            entries.Pairwise fun e other =>
              ¬(w.volume.endsAt (.only folder name) e.path = true ∧
                w.volume.endsAt (.only folder name) other.path = true) := by
  obtain ⟨visits, hw⟩ := walk_of_holds hthere
  have hvisits : w.visits directory = visits := by rw [Workspace.visits, hw]
  refine ⟨visits, hw, fun l hparser => ?_⟩
  have hinstalled := installed_of_hasParser hparser
  have hsearch : w.search r directory l = .ok (.ok (w.entries l visits)) :=
    search_eq_ok_iff.mpr ⟨hthere, hparser, by rw [hvisits]⟩
  refine ⟨_, hsearch, forall₂_entries hinstalled l visits, ?_, ?_, ?_⟩
  · rintro ⟨d, name⟩ hfile
    rw [map_path_entries, count_selected_listed hv hw hfile]
  · intro w' r' directory' entries' hsearch' hfaults e he e' he'
    obtain ⟨-, hparser', rfl⟩ := search_eq_ok_iff.mp hsearch'
    have hinstalled' := installed_of_hasParser hparser'
    exact entry_congr hv hw (hinstalled'.trans hinstalled.symm) hfaults he he'
  · intro folder name target content v' htarget hwrite hunlinked
    obtain rfl := Volume.writeFile_eq hv htarget hwrite
    refine ⟨(w.rewrite (.only folder name content)).entries l visits, ?_,
      entries_rewrite w l visits, pairwise_not_endsAt hv hw hunlinked⟩
    refine search_eq_ok_iff.mpr ⟨?_, hparser, ?_⟩
    · rw [Volume.holds_rewrite, hthere]
    · rw [← hvisits, ← visits_rewrite (.only folder name content) hv]
      rfl

/-- Of two files of Java the first is rewritten. The second is a link to a file of Python, which is
found once by the search for Python. -/
theorem rewritten_alone :
    let top (content : Bytes) : Children := [("w", .folder [("A.java", .file content),
      ("L.java", .link "b/C.py"), ("b", .folder [("C.py", .file [3])])])]
    let t := (Toolkit.fresh true).withTree [2] (.error "bad")
    let w : Workspace := ⟨⟨top [1], "/w"⟩, t⟩
    w.volume.walk "/w" = .ok [⟨"/w", ["A.java", "L.java"]⟩, ⟨"/w/b", ["C.py"]⟩] ∧
      (∃ entries entries', w.search .fresh "/w" .java = .ok (.ok entries) ∧
        search ⟨⟨top [2], "/w"⟩, t⟩ .fresh "/w" .java = .ok (.ok entries') ∧
        List.Forall₂ (fun e e' => e'.path = e.path ∧
          (w.volume.endsAt (.only ["w"] "A.java") e.path = false → e' = e)) entries entries') ∧
      w.volume.endsAt (.only ["w"] "A.java") "/w/L.java" = false ∧
      ∃ entries, w.search .fresh "/w" .python = .ok (.ok entries) ∧
        (entries.map (·.path)).count (Path.join "/w/b" "C.py") = 1 := by
  intro top t w
  have hwalk : w.volume.walk "/w" = .ok [⟨"/w", ["A.java", "L.java"]⟩, ⟨"/w/b", ["C.py"]⟩] := by
    decide +kernel
  have hthere : w.volume.holds "/w" = true := by decide +kernel
  obtain ⟨visits, hw, hsearch⟩ := search_file_by_file w .fresh (by decide) hthere
  obtain rfl := Except.ok.inj (hwalk.symm.trans hw)
  obtain ⟨entries, hjava, -, -, -, hrewritten⟩ := hsearch .java (by decide +kernel)
  obtain ⟨entries', hjava', hsame, -⟩ :=
    hrewritten ["w"] "A.java" "/w/A.java" [2] ⟨top [2], "/w"⟩ (by decide +kernel) rfl
      (by decide +kernel)
  obtain ⟨python, hpython, -, hcount, -⟩ := hsearch .python (by decide +kernel)
  exact ⟨hwalk, ⟨entries, entries', hjava, hjava', hsame⟩, by decide +kernel, python, hpython,
    hcount ("/w/b", "C.py") (by decide)⟩

end Workspace

end Scribe
