import Scribe.Proofs.Generator.Lines
import Scribe.Proofs.Service.Refusals
import Scribe.Proofs.Web.Routes

/-!
# How the service opens its parsers

Each search that gets as far as the parsers asks for their handler, which opens their table.
Whatever else a piece of work does, its table, its handlers and its warnings are those of a number
of openings one after the other, and for the service this number is known in advance: one for each
file of a known language.

## Main results

* `Registry.state_openTimes`: what some openings leave.
* `Service.opens_serve`: how often a request opens the table.
-/

namespace Scribe

namespace Registry

/-- Asks for the handler some times. -/
def openTimes (t : Toolkit) : Nat → Work Registry Unit
  | 0 => pure ()
  | n + 1 => do
    let _ ← openHandler t
    openTimes t n

theorem openTimes_add (t : Toolkit) (m n : Nat) :
    openTimes t (m + n) = openTimes t m >>= fun _ => openTimes t n := by
  induction m with
  | zero => rw [Nat.zero_add, openTimes, pure_bind]
  | succ m ih => rw [Nat.succ_add, openTimes, openTimes, ih, bind_assoc]

/-- All but the first of some openings leave the table and the handlers as they are. -/
theorem state_openTimes (t : Toolkit) (n : Nat) (r : Registry) :
    ((openTimes t n).run r).state = if n = 0 then r else r.opened t := by
  induction n generalizing r with
  | zero => rfl
  | succ n ih =>
    rw [openTimes, Work.run_bind, ih, state_openHandler, if_neg (Nat.succ_ne_zero n)]
    split
    · rfl
    · exact opened_opened t r

/-- A table with parsers, or one that cannot be filled, is left as it is. -/
theorem openTimes_of_not_isEmpty {t : Toolkit} {r : Registry}
    (h : (r.parsers.isEmpty && t.installed) = false) (n : Nat) :
    ((openTimes t n).run r).state.parsers = r.parsers ∧ ((openTimes t n).run r).events = [] := by
  have hopen := ParserTable.run_openTable_of_not_isEmpty h
  have hopened : (r.opened t).parsers = r.parsers := by
    rw [opened, ParserTable.opened, hopen]
  induction n generalizing r with
  | zero => exact ⟨rfl, rfl⟩
  | succ n ih =>
    rw [openTimes, Work.run_bind, state_openHandler, events_openHandler, hopen, List.nil_append]
    have hagain := r.opened_opened t
    have hrest := @ih (r.opened t) (by rwa [hopened]) (by rwa [hopened]) (by rw [hagain])
    rwa [hopened] at hrest

end Registry

open Registry

variable {σ α β : Type}

/-- Work that was found with parsers in its state and has done to them and to their handlers what
`n` openings do. -/
structure Opens (registry : σ → Registry) (t : Toolkit) (n : Nat) (s : σ) (d : Done σ α) :
    Prop where
  state : registry d.state = ((openTimes t n).run (registry s)).state
  warnings : Event.warnings d.events = Event.warnings ((openTimes t n).run (registry s)).events

namespace Opens

variable {registry : σ → Registry} {t : Toolkit} {m n : Nat} {s : σ}

theorem of_quiet {w : Work σ α} (hquiet : w.Quiet)
    (hstate : registry (w.run s).state = registry s) : Opens registry t 0 s (w.run s) :=
  ⟨hstate, hquiet s⟩

theorem bind {w : Work σ α} {f : α → Work σ β} (hw : Opens registry t m s (w.run s))
    (hf : Opens registry t n (w.run s).state ((f (w.run s).value).run (w.run s).state)) :
    Opens registry t (m + n) s ((w >>= f).run s) where
  state := by
    rw [Work.run_bind, hf.state, hw.state, openTimes_add, Work.run_bind]
  warnings := by
    rw [Work.run_bind, Event.warnings_append, hw.warnings, hf.warnings, hw.state, openTimes_add,
      Work.run_bind, Event.warnings_append]

/-- What is given does not matter. -/
theorem bind_pure {w : Work σ α} (hw : Opens registry t n s (w.run s)) (f : α → β) :
    Opens registry t n s ((w >>= fun a => pure (f a)).run s) := by
  rw [← map_eq_pure_bind, Work.run_map]
  exact ⟨hw.state, hw.warnings⟩

/-- Whoever asks for the handler has opened the table once. -/
theorem of_opened {d : Done σ α} (hstate : registry d.state = (registry s).opened t)
    (hevents : d.events = ((ParserTable.openTable t).run (registry s).parsers).events) :
    Opens registry t 1 s d where
  state := by rw [hstate, state_openTimes, if_neg Nat.one_ne_zero]
  warnings := by
    rw [hevents, openTimes, Work.run_bind, events_openHandler, openTimes, Work.run_pure,
      List.append_nil]

end Opens

/-! ## Searches -/

namespace Workspace

/-- Whether a search of a directory gets as far as the parsers. -/
def reaches (w : Workspace) (directory : Text) : Bool :=
  w.toolkit.installed && w.volume.holds directory

/-- Whether a file of a visit sets off such a search. -/
def setsOff (w : Workspace) (visit : Visit) (name : Text) : Bool :=
  Language.ofPath name ≠ .unknown && w.reaches (Path.directory (Path.join visit.directory name))

/-- How many such searches the files of some visits set off. -/
def searches (w : Workspace) (visits : List Visit) : Nat :=
  (visits.map fun visit => visit.files.countP (w.setsOff visit)).sum

theorem opens_languageMethods (w : Workspace) (directory : Text) (l : Language) (r : Registry) :
    Opens id w.toolkit (if w.reaches directory then 1 else 0) r
      ((w.languageMethods directory l).run r) := by
  rw [run_languageMethods, reaches]
  cases w.toolkit.installed with
  | false => exact ⟨rfl, rfl⟩
  | true =>
    cases w.volume.holds directory with
    | false => exact ⟨rfl, rfl⟩
    | true => exact .of_opened rfl rfl

end Workspace

/-! ## Requests -/

namespace Service

theorem quiet_methodReports (c : Client) (l : Language) (ms : List Method) :
    (methodReports c l ms).Quiet := by
  induction ms with
  | nil => exact Work.quiet_pure _
  | cons m rest ih =>
    refine (c.quiet_documentSubjects _ _).bind fun d => ?_
    exact ih.bind fun more => Work.quiet_pure _

theorem quiet_fileReports (c : Client) (l : Language) (es : List FileEntry) :
    (fileReports c l es).Quiet := by
  induction es with
  | nil => exact Work.quiet_pure _
  | cons e rest ih =>
    refine Work.Quiet.bind ?_ fun first => ih.bind fun more => Work.quiet_pure _
    exact (quiet_methodReports c l _).bind fun methods => Work.quiet_pure _

/-- Work of the service that opens the table `n` times, whatever state it is found in. -/
def OpensTimes (s : Service) (n : Nat) (work : Work ServiceState α) : Prop :=
  ∀ st, Opens (·.toRegistry) s.workspace.toolkit n st (work.run st)

theorem opensTimes_pure (s : Service) (a : α) : s.OpensTimes 0 (pure a) :=
  fun _ => .of_quiet (Work.quiet_pure a) rfl

theorem OpensTimes.append {s : Service} {a b : Work ServiceState Report} {m n : Nat}
    (ha : s.OpensTimes m a) (hb : s.OpensTimes n b) :
    s.OpensTimes (m + n)
      (do
        let first ← a
        let more ← b
        return first ++ more) := by
  intro st
  refine (ha st).bind ?_
  exact (hb _).bind_pure _

theorem opens_languageReport (s : Service) (directory : Text) (l : Language) :
    s.OpensTimes (if s.workspace.reaches directory then 1 else 0)
      (s.languageReport directory l) := by
  intro st
  obtain ⟨hstate, hwarnings⟩ := s.workspace.opens_languageMethods directory l st.toRegistry
  rw [run_languageReport]
  refine ⟨hstate, ?_⟩
  rw [Event.warnings_append, quiet_fileReports, List.append_nil]
  exact hwarnings

theorem opens_reportFor (s : Service) (visit : Visit) (name : Text) :
    s.OpensTimes (if s.workspace.setsOff visit name then 1 else 0) (s.reportFor visit name) := by
  unfold reportFor Workspace.setsOff
  by_cases h : Language.ofPath name = .unknown
  · simpa [h] using s.opensTimes_pure Report.empty
  · simpa [h] using s.opens_languageReport _ _

theorem opens_visitReport (s : Service) (visit : Visit) (names : List Text) :
    s.OpensTimes (names.countP (s.workspace.setsOff visit)) (s.visitReport visit names) := by
  induction names with
  | nil => exact s.opensTimes_pure _
  | cons name rest ih =>
    rw [List.countP_cons, Nat.add_comm]
    exact (s.opens_reportFor visit name).append ih

theorem opens_walkReport (s : Service) (visits : List Visit) :
    s.OpensTimes (s.workspace.searches visits) (s.walkReport visits) := by
  induction visits with
  | nil => exact s.opensTimes_pure _
  | cons visit rest ih =>
    rw [Workspace.searches, List.map_cons, List.sum_cons]
    exact (s.opens_visitReport visit visit.files).append ih

theorem opens_document {s : Service} {directory : Text}
    (hline : s.lineRefusal? directory = none) :
    s.OpensTimes (s.workspace.searches (s.workspace.visits directory)) (s.document directory) := by
  have hprint : (s.client.machine.console.print ("Processing directory: " ++ directory) :
      Work ServiceState _).Quiet := Work.quiet_printOn _ _ (by decide) (by decide)
  rw [lineRefusal?] at hline
  intro st
  rw [← Nat.zero_add (Workspace.searches _ _)]
  refine (Opens.of_quiet hprint (by rw [Console.run_print, hline])).bind ?_
  rw [Console.run_print, hline]
  cases hholds : s.workspace.volume.holds directory with
  | false =>
    rw [Workspace.visits_of_not_holds hholds]
    exact s.opensTimes_pure _ _
  | true =>
    obtain ⟨visits, hwalk⟩ := walk_of_holds hholds
    have hvisits : s.workspace.visits directory = visits := by rw [Workspace.visits, hwalk]
    simp only [hwalk, hvisits, Bool.not_true, Bool.false_eq_true, if_false]
    exact (s.opens_walkReport visits _).bind_pure _

/-- How many searches that get as far as the parsers a request sets off. -/
def searches (s : Service) (r : Web.Request) : Nat :=
  if s.routes.accepts r then
    match s.admitted? r with
    | some given => s.workspace.searches (s.workspace.visits (s.root given))
    | none => 0
  else 0

theorem opens_process (s : Service) (r : Web.Request) :
    s.OpensTimes
      (match s.admitted? r with
        | some given => s.workspace.searches (s.workspace.visits (s.root given))
        | none => 0)
      (s.process r) := by
  intro st
  rw [process_eq, admitted?]
  cases asked? r with
  | none => exact s.opensTimes_pure _ st
  | some given =>
    cases hline : s.lineRefusal? (s.root given) with
    | none => simpa [Option.filter, hline] using opens_document hline st
    | some message =>
      rw [run_document_of_lineRefusal hline]
      simpa [Option.filter, hline] using s.opensTimes_pure (Web.Answer.error 500 message) st

/-- A request opens the table once for each search that gets so far. -/
theorem opens_serve (s : Service) (r : Web.Request) :
    s.OpensTimes (s.searches r) (s.routes.serve r) := by
  intro st
  rw [searches]
  cases haccepts : s.routes.accepts r with
  | false =>
    obtain ⟨outcome, hserve⟩ := Web.Routes.serve_of_not_accepts haccepts
    rw [hserve]
    exact s.opensTimes_pure outcome st
  | true =>
    rw [Web.Routes.serve_of_accepts haccepts, if_pos rfl, map_eq_pure_bind]
    exact Opens.bind_pure (s.opens_process r st) _

end Service

end Scribe
