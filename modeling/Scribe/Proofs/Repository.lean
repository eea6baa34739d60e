import Scribe.Proofs.Basic
import Scribe.Proofs.Files.Walk
import Scribe.Proofs.Source.ParserTable
import Scribe.Repository

/-!
# The files of one language

The files of one language in and below a folder of a walk: each is selected once, and a file of the
walk is among them exactly if the folder is on the way down to it. A search for them gives nothing
but printed lines, and it leaves the parsers that there are.

## Main results

* `Workspace.count_selected`: how often a file is selected from a folder of a walk.
* `Workspace.languageMethods_value`: what a search gives.
-/

namespace Scribe

namespace Extractor

/-- Only methods with a name are extracted. -/
theorem name_ne_empty_of_methodAt {x : Extractor} {source : Bytes} {site : Node.Site} {m : Method}
    (h : x.methodAt source site = .ok (some m)) : m.name ≠ "" := by
  obtain ⟨name?, -, h⟩ := bind_eq_ok_iff.mp h
  split at h
  · cases h
  · cases h
  · rename_i name hname
    obtain ⟨doc, -, h⟩ := bind_eq_ok_iff.mp h
    obtain ⟨code, -, h⟩ := bind_eq_ok_iff.mp h
    cases h
    exact hname

theorem name_ne_empty_of_methodsAt {x : Extractor} {source : Bytes} {sites : List Node.Site}
    {ms : List Method} (h : x.methodsAt source sites = .ok ms) : ∀ m ∈ ms, m.name ≠ "" := by
  induction sites generalizing ms with
  | nil =>
    cases h
    simp
  | cons site rest ih =>
    obtain ⟨found, hfound, h⟩ := bind_eq_ok_iff.mp h
    obtain ⟨more, hmore, h⟩ := bind_eq_ok_iff.mp h
    cases h
    intro m hm
    obtain hm | hm := List.mem_append.mp hm
    · obtain rfl := Option.mem_toList.mp hm
      exact name_ne_empty_of_methodAt hfound
    · exact ih hmore m hm

end Extractor

namespace Workspace

variable {w : Workspace} {root : Text} {place : Trail} {visits : List Visit} {visit other : Visit}
  {name : Text}

/-! ## Selected files -/

theorem mem_selected_iff {l : Language} {visits : List Visit} {path : Text} :
    path ∈ selected l visits ↔
      ∃ visit ∈ visits, ∃ name ∈ visit.files,
        Language.ofPath name = l ∧ Path.join visit.directory name = path := by
  simp [selected, and_assoc]

theorem visits_eq_iff (h : w.volume.Walkable root place) {visits : List Visit} :
    w.visits root = visits ↔ w.volume.walk root = .ok visits := by
  rw [Workspace.visits, h.walk_eq]
  simp

/-- Nothing is visited where there is nothing. -/
theorem visits_of_not_holds (h : w.volume.holds root = false) : w.visits root = [] := by
  rw [Workspace.visits, Volume.walk]
  rw [Volume.holds] at h
  cases hfind : w.volume.find root with
  | error e => cases e <;> rfl
  | ok target =>
    cases target with
    | folder place => simp [hfind] at h
    | _ => rfl

theorem nodup_selected (h : w.volume.Walkable root place) (l : Language) :
    (selected l (w.visits root)).Nodup := by
  rw [selected, (visits_eq_iff h).mpr h.walk_eq]
  exact nodup_paths_walkEntry h.wellFormed _

/-- A file of a walk is selected from a folder of it if the folder is on the way down to the file,
and then once. -/
theorem count_selected (h : w.volume.Walkable root place) (hw : w.volume.walk root = .ok visits)
    (hvisit : visit ∈ visits) (hname : name ∈ visit.files) (hother : other ∈ visits)
    (l : Language) :
    (selected l (w.visits other.directory)).count (Path.join visit.directory name) =
      if Language.ofPath name = l ∧ other.directory ∈ Path.chain root visit.directory then 1
      else 0 := by
  obtain ⟨q, hq, -⟩ := h.visited hw hother
  have hbelow := (visits_eq_iff hq).mp rfl
  have hmem (u : Visit) : u ∈ w.visits other.directory ↔ _ :=
    h.mem_visits_below_iff hw hother hbelow
  rw [(nodup_selected hq l).count]
  refine if_congr ?_ rfl rfl
  rw [mem_selected_iff]
  constructor
  · rintro ⟨u, hu, n, hn, rfl, heq⟩
    obtain ⟨huv, hchain⟩ := (hmem u).mp hu
    obtain ⟨rfl, rfl⟩ := h.join_inj hw huv hvisit hn hname heq
    exact ⟨rfl, hchain⟩
  · rintro ⟨rfl, hchain⟩
    exact ⟨visit, (hmem visit).mpr ⟨hvisit, hchain⟩, name, hname, rfl, rfl⟩

/-! ## Searches -/

theorem name_ne_empty_of_fileMethods {path : Text} {ms : List Method}
    (h : w.fileMethods path = .ok ms) : ∀ m ∈ ms, m.name ≠ "" := by
  unfold fileMethods methodsAt at h
  split at h
  · cases h
  · split at h
    · cases h
    · split at h
      · cases h
      · rename_i content _ _ found hfound
        cases h
        obtain ⟨x, -, hparse⟩ := bind_eq_ok_iff.mp hfound
        unfold Extractor.parse at hparse
        split at hparse
        · cases hparse
        · split at hparse
          · cases hparse
          · rename_i root _ _ found hmethods
            cases hparse
            exact Extractor.name_ne_empty_of_methodsAt hmethods

/-- Whether a language has a parser once the table is open. -/
def hasParser (w : Workspace) (table : ParserTable) (l : Language) : Bool :=
  w.toolkit.installed && ((table.opened w.toolkit).get? l).isSome

/-- The entries of a language in and below a directory, if a search for it succeeds. -/
def due (w : Workspace) (has : Language → Bool) (directory : Text) (l : Language) :
    List FileEntry :=
  if has l && w.volume.holds directory then w.entries l (w.visits directory) else []

/-- The entries that a search gives. -/
def entriesOf : Except RepositoryError (List FileEntry) → List FileEntry
  | .ok entries => entries
  | .error _ => []

theorem run_languageMethods (w : Workspace) (directory : Text) (l : Language) (r : Registry) :
    (w.languageMethods directory l).run r =
      if w.toolkit.installed = false then ⟨.error .notInstalled, r, []⟩
      else if w.volume.holds directory = false then ⟨.error (.notFound directory), r, []⟩
      else
        ⟨if ((r.parsers.opened w.toolkit).get? l).isSome then .ok (w.entries l (w.visits directory))
          else .error (.noParser l.tag),
          r.opened w.toolkit, ((ParserTable.openTable w.toolkit).run r.parsers).events⟩ := by
  obtain ⟨handler, -, hopen⟩ := r.run_openHandler w.toolkit
  cases hinstalled : w.toolkit.installed with
  | false => simp [languageMethods, hinstalled]
  | true =>
    cases hholds : w.volume.holds directory with
    | false => simp [languageMethods, hinstalled, hholds]
    | true =>
      cases hget : (r.parsers.opened w.toolkit).get? l with
      | none => simp [languageMethods, hinstalled, hholds, hopen, Registry.opened, hget]
      | some grammar => simp [languageMethods, hinstalled, hholds, hopen, Registry.opened, hget]

theorem languageMethods_value (w : Workspace) (directory : Text) (l : Language) (r : Registry) :
    entriesOf ((w.languageMethods directory l).run r).value =
      w.due (w.hasParser r.parsers) directory l := by
  rw [run_languageMethods]
  split_ifs <;> simp_all [due, hasParser, entriesOf]

/-- A search leaves the parsers that there are. -/
theorem languageMethods_state (w : Workspace) (directory : Text) (l : Language) (r : Registry) :
    w.hasParser ((w.languageMethods directory l).run r).state.parsers = w.hasParser r.parsers := by
  rw [run_languageMethods]
  split
  · rfl
  · split
    · rfl
    · funext k
      simp only [hasParser, Registry.opened, ParserTable.opened_opened]

theorem languageMethods_events (w : Workspace) (directory : Text) (l : Language) (r : Registry) :
    ∀ e ∈ ((w.languageMethods directory l).run r).events, ∃ line, e = .printed line := by
  rw [run_languageMethods]
  split
  · simp
  · split
    · simp
    · exact ParserTable.events_openTable w.toolkit r.parsers

end Workspace

end Scribe
