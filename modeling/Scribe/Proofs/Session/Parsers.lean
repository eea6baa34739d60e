import Scribe.Proofs.Service.Openings
import Scribe.Session

/-!
# The parsers of a session

Whatever is done in a session, in whatever order, there is never more than one handler, and the
table of parsers is filled once. As long as no parser could be made, each operation that gets as far
as the parsers tries all grammars again. The first one that can make some of them settles the table
for good: a grammar that fails then has no parser, even if it is repaired later.

## Main results

* `opens_perform`: an operation changes the table as some openings do.
* `perform_of_isEmpty`, `perform_of_not_isEmpty`: what that comes to.
* `parsers_performAll_of_ne_nil`: a table with parsers stays.
* `tidy_perform`, `tidy_performAll`: the handlers and the table stay in order.
* `shared_performAll`: a handler that is shared stays so.
* `parsers_of_run`: the parsers over whole runs.
-/

namespace Scribe

namespace ParserTable

theorem nodup_grammars : (grammars.map (·.1)).Nodup := by decide

/-- A table made from the grammars has for each language the grammar that is listed with it. -/
theorem get?_eq_some_iff {table : ParserTable} (h : table.Sublist grammars) {l : Language}
    {grammar : String} : table.get? l = some grammar ↔ (l, grammar) ∈ table := by
  have hnodup : (table.map (·.1)).Nodup := nodup_grammars.sublist (h.map _)
  rw [get?, Option.map_eq_some_iff]
  constructor
  · rintro ⟨⟨k, g⟩, hfind, rfl⟩
    obtain rfl : k = l := by simpa using List.find?_some hfind
    exact List.mem_of_find?_eq_some hfind
  · intro hmem
    cases hfind : table.find? (·.1 = l) with
    | none => exact absurd (List.find?_eq_none.mp hfind _ hmem) (by simp)
    | some g =>
      have hl : g.1 = l := by simpa using List.find?_some hfind
      have hg := List.inj_on_of_nodup_map hnodup (List.mem_of_find?_eq_some hfind) hmem hl
      exact ⟨g, rfl, by rw [hg]⟩

theorem made_sublist (t : Toolkit) (gs : List (Language × String)) : (made t gs).Sublist gs :=
  List.filter_sublist

theorem mem_made_iff {t : Toolkit} {gs : List (Language × String)} {g : Language × String} :
    g ∈ made t gs ↔ g ∈ gs ∧ t.hasParsers = true ∧ t.makeParser g.2 = .ok () := by
  rw [← warning?_eq_none_iff]
  constructor
  · intro hg
    have hmem := (made_sublist t gs).subset hg
    exact ⟨hmem, (warning?_eq_none_iff_mem_made hmem).mpr hg⟩
  · rintro ⟨hmem, hnone⟩
    exact (warning?_eq_none_iff_mem_made hmem).mp hnone

theorem opened_sublist {table : ParserTable} (h : table.Sublist grammars) (t : Toolkit) :
    (table.opened t).Sublist grammars := by
  rw [opened_eq]
  split
  · exact made_sublist t grammars
  · exact h

theorem warnings_printed (t : Toolkit) (gs : List (Language × String)) :
    Event.warnings ((warnings t gs).map .printed) = warnings t gs := by
  have hlines (ls : List Text) : Event.lines (ls.map .printed) = ls := by
    induction ls with
    | nil => rfl
    | cons line rest ih => exact congrArg (line :: ·) ih
  rw [Event.warnings, hlines, List.filter_eq_self]
  intro line hline
  obtain ⟨g, -, hwarning⟩ := List.mem_filterMap.mp hline
  rw [warning?] at hwarning
  split at hwarning
  · obtain rfl := Option.some.inj hwarning
    rw [Text.startsWith_append_of_le _ (by decide)]
    decide
  · split at hwarning
    · cases hwarning
    · obtain rfl := Option.some.inj hwarning
      rw [Text.append_assoc, Text.append_assoc, Text.startsWith_append_of_le _ (by decide)]
      decide

/-- Openings of an empty table give all warnings each time, until some parser can be made. -/
theorem warnings_openTimes {t : Toolkit} (hinstalled : t.installed = true) (n : Nat)
    {r : Registry} (hempty : r.parsers = []) :
    Event.warnings ((Registry.openTimes t n).run r).events =
      (List.replicate (if made t grammars = [] then n else min n 1)
        (warnings t grammars)).flatten := by
  have hopened : (r.opened t).parsers = made t grammars := by
    rw [Registry.opened, opened_eq, hempty, hinstalled]
    rfl
  induction n generalizing r with
  | zero => simp [Registry.openTimes]
  | succ n ih =>
    rw [Registry.openTimes, Work.run_bind, Registry.events_openHandler,
      Registry.state_openHandler, hempty, run_openTable_of_isEmpty hinstalled,
      Event.warnings_append, warnings_printed]
    split
    · rename_i hmade
      rw [if_pos hmade] at ih
      rw [ih (hopened.trans hmade) (by rw [Registry.opened_opened, hopened]),
        List.replicate_succ, List.flatten_cons]
    · rename_i hmade
      have hmin : min (n + 1) 1 = 1 := by omega
      rw [(Registry.openTimes_of_not_isEmpty (by simp [hopened, hmade]) n).2, hmin]
      simp

end ParserTable

open ParserTable

theorem Opens.on {σ α : Type} {part : σ → Registry} {replace : Registry → σ → σ}
    {t : Toolkit} {n : Nat} {w : Work Registry α} {s : σ}
    (hw : Opens id t n (part s) (w.run (part s)))
    (hreplace : ∀ registry, part (replace registry s) = registry) :
    Opens part t n s ((w.on part replace).run s) :=
  ⟨(hreplace _).trans hw.state, hw.warnings⟩

/-- Looking at the state opens nothing. -/
theorem Opens.get_pure {σ α : Type} {registry : σ → Registry} {t : Toolkit} {s : σ} (f : σ → α) :
    Opens registry t 0 s ((Work.get >>= fun found => pure (f found)).run s) := ⟨rfl, rfl⟩

namespace Workspace

/-- Whether a value names a place at which a search gets as far as the parsers. -/
def reachesAt (w : Workspace) (directory : Json) : Bool :=
  w.toolkit.installed && (w.volume.locate directory).toOption.join.isSome

theorem holds_of_locate {v : Volume} {value : Json} {path : Text}
    (h : v.locate value = .ok (some (.path path))) : v.holds path = true := by
  unfold Volume.locate at h
  split at h
  · split at h
    · rename_i hholds
      cases h
      exact hholds
    · cases h
  · split at h
    · cases h
    · split_ifs at h <;> cases h

theorem opens_openHandler (t : Toolkit) (r : Registry) :
    Opens id t 1 r ((Registry.openHandler t).run r) :=
  .of_opened (r.state_openHandler t) (r.events_openHandler t)

theorem opens_repositoryMethods (w : Workspace) (directory : Json) (choice : Language.Choice)
    (r : Registry) :
    Opens id w.toolkit (if w.reachesAt directory then 1 else 0) r
      ((w.repositoryMethods directory choice).run r) := by
  unfold repositoryMethods reachesAt
  cases hinstalled : w.toolkit.installed with
  | false => exact ⟨rfl, rfl⟩
  | true =>
    cases hlocate : w.volume.locate directory with
    | error e => exact ⟨rfl, rfl⟩
    | ok place =>
      have hopen := opens_openHandler w.toolkit r
      cases place with
      | none => exact ⟨rfl, rfl⟩
      | some place =>
        cases choice with
        | other v =>
          refine hopen.bind (n := 0) ?_
          cases v.asKey <;> exact ⟨rfl, rfl⟩
        | known l =>
          cases place with
          | path path =>
            have hreaches : w.reaches path = true := by
              rw [reaches, hinstalled, holds_of_locate hlocate]
              rfl
            have hsearch := w.opens_languageMethods path l r
            rw [hreaches] at hsearch
            exact hsearch.bind_pure _
          | openFile number =>
            refine hopen.bind (n := 0) ?_
            rw [Work.run_bind, Work.run_get]
            cases get? _ l <;> exact ⟨rfl, rfl⟩

end Workspace

namespace Session

/-! ## Operations -/

/-- What can be done in a session, as far as it matters to the parsers. -/
inductive Operation where
  /-- Asks for the handler of the parsers. -/
  | handler
  /-- Asks for the grammar of the parser of a language. -/
  | grammar (choice : Language.Choice)
  /-- Searches a directory for the methods of a language. -/
  | search (directory : Json) (choice : Language.Choice)
  /-- Sends a request to the documentation service. -/
  | ask (r : Web.Request)
  /-- A grammar gets faults, or is repaired. -/
  | fault (grammar : String) (faults : GrammarFaults)
  /-- Ready-made parsers can no longer be asked for. -/
  | withdraw
  /-- Files, environment, replies and the trees of sources are replaced. -/
  | arrange (volume : Volume) (environment : List (String × Option Text)) (script : Script)
      (parse : String → Bytes → Except Text Node)

/-- The session with another toolkit. -/
def withToolkit (s : Session) (t : Toolkit) : Session :=
  { s with workspace := { s.workspace with toolkit := t } }

namespace Operation

/-- Performs an operation. It gives the handler that was asked for. -/
def perform : Operation → Work Session (Option Handler)
  | handler => some <$> openHandler
  | grammar choice => (fun _ => none) <$> grammarFor choice
  | search directory choice => (fun _ => none) <$> repositoryMethods directory choice
  | ask r => (fun _ => none) <$> askService r
  | fault name faults => do
    let s ← Work.get
    Work.set (s.withToolkit (s.workspace.toolkit.withFaults name faults))
    return none
  | withdraw => do
    let s ← Work.get
    Work.set (s.withToolkit { s.workspace.toolkit with hasParsers := false })
    return none
  | arrange volume environment script parse => do
    let s ← Work.get
    let toolkit := { s.workspace.toolkit with parse := parse }
    Work.set
      { s with workspace := ⟨volume, toolkit⟩, environment := environment, script := script }
    return none

/-- How often an operation gets as far as the parsers. -/
def openings (s : Session) : Operation → Nat
  | handler => 1
  | grammar _ => 1
  | search directory _ => if s.workspace.reachesAt directory then 1 else 0
  | ask r =>
    match (service.run s).value with
    | .ok service => service.searches r
    | .error _ => 0
  | _ => 0

end Operation

/-- Performs operations one after the other, and gives the handlers that were asked for. -/
def performAll : List Operation → Work Session (List Handler)
  | [] => pure []
  | op :: rest => do
    let first ← op.perform
    let more ← performAll rest
    return first.toList ++ more

/-! ## One operation -/

theorem run_openHandler (s : Session) :
    openHandler.run s =
      let opened := (Registry.openHandler s.workspace.toolkit).run s.toRegistry
      ⟨opened.value, { s with toRegistry := opened.state }, opened.events⟩ := rfl

theorem opens_openHandler (s : Session) :
    Opens (·.toRegistry) s.workspace.toolkit 1 s (openHandler.run s) :=
  .of_opened (s.state_openHandler _) (s.events_openHandler _)

/-- Starting the service changes nothing but its client, and nothing is seen of it. -/
theorem service_spec (s : Session) :
    (∃ client, (service.run s).state = { s with serviceClient := client }) ∧
      (service.run s).events = [] ∧
      ∀ started, (service.run s).value = .ok started → started.workspace = s.workspace := by
  unfold service
  rw [Work.run_bind, Work.run_get]
  dsimp only
  split
  · exact ⟨⟨s.serviceClient, rfl⟩, rfl, by rintro _ ⟨⟩; rfl⟩
  · split
    · exact ⟨⟨s.serviceClient, rfl⟩, rfl, by rintro _ ⟨⟩⟩
    · exact ⟨⟨_, rfl⟩, rfl, by rintro _ ⟨⟩; rfl⟩

theorem opens_askService (s : Session) (r : Web.Request) :
    Opens (·.toRegistry) s.workspace.toolkit ((Operation.ask r).openings s) s
      ((askService r).run s) := by
  obtain ⟨⟨client, hstate⟩, hevents, hworkspace⟩ := service_spec s
  have hstart : Opens (·.toRegistry) s.workspace.toolkit 0 s (service.run s) :=
    ⟨by rw [hstate]; rfl, by rw [hevents]; rfl⟩
  rw [← Nat.zero_add (Operation.openings s _)]
  refine hstart.bind ?_
  rw [Operation.openings]
  cases hvalue : (service.run s).value with
  | error message => exact ⟨rfl, rfl⟩
  | ok started =>
    have hserve := started.opens_serve r
      ⟨(service.run s).state.toRegistry, (service.run s).state.script⟩
    rw [hworkspace started hvalue] at hserve
    refine Opens.bind_pure ?_ _
    exact ⟨hserve.state, hserve.warnings⟩

/-- An operation changes the table and the handlers, and warns, as some openings do. -/
theorem opens_perform (s : Session) (op : Operation) :
    Opens (·.toRegistry) s.workspace.toolkit (op.openings s) s (op.perform.run s) := by
  cases op with
  | handler =>
    rw [Operation.perform, map_eq_pure_bind]
    exact (opens_openHandler s).bind_pure _
  | grammar choice =>
    rw [Operation.perform, map_eq_pure_bind]
    refine Opens.bind_pure ?_ _
    rw [grammarFor]
    refine (opens_openHandler s).bind (n := 0) ?_
    exact Opens.get_pure _
  | search directory choice =>
    rw [Operation.perform, map_eq_pure_bind]
    refine Opens.bind_pure ?_ _
    have hsearch : Opens (·.toRegistry) _ _ s
        ((onRegistry (s.workspace.repositoryMethods directory choice)).run s) :=
      (s.workspace.opens_repositoryMethods directory choice s.toRegistry).on fun _ => rfl
    rw [repositoryMethods, Work.run_bind, Work.run_get, List.nil_append]
    exact ⟨hsearch.state, hsearch.warnings⟩
  | ask r =>
    rw [Operation.perform, map_eq_pure_bind]
    exact (opens_askService s r).bind_pure _
  | fault name faults => exact ⟨rfl, rfl⟩
  | withdraw => exact ⟨rfl, rfl⟩
  | arrange volume environment script parse => exact ⟨rfl, rfl⟩

/-- A table with parsers, or one that cannot be filled, is left as it is without a warning. -/
theorem perform_of_not_isEmpty {s : Session}
    (h : (s.parsers.isEmpty && s.workspace.toolkit.installed) = false) (op : Operation) :
    (op.perform.run s).state.parsers = s.parsers ∧
      Event.warnings (op.perform.run s).events = [] := by
  obtain ⟨hstate, hwarnings⟩ := opens_perform s op
  obtain ⟨hparsers, hevents⟩ := Registry.openTimes_of_not_isEmpty h (op.openings s)
  refine ⟨(congrArg Registry.parsers hstate).trans hparsers, ?_⟩
  rw [hwarnings, hevents]
  rfl

/-- An empty table is filled as soon as an operation gets as far as the parsers. If none could be
made, the next one tries again. -/
theorem perform_of_isEmpty {s : Session} (hempty : s.parsers = [])
    (hinstalled : s.workspace.toolkit.installed = true) (op : Operation) :
    let t := s.workspace.toolkit
    (op.perform.run s).state.parsers = (if op.openings s = 0 then [] else made t grammars) ∧
      Event.warnings (op.perform.run s).events =
        (List.replicate (if made t grammars = [] then op.openings s else min (op.openings s) 1)
          (warnings t grammars)).flatten := by
  obtain ⟨hstate, hwarnings⟩ := opens_perform s op
  refine ⟨?_, ?_⟩
  · rw [hstate, Registry.state_openTimes]
    split
    · exact hempty
    · rw [Registry.opened, opened_eq, hempty, hinstalled]
      rfl
  · rw [hwarnings, warnings_openTimes hinstalled _ hempty]

/-- An operation that gets as far as the parsers has asked for their handler. -/
theorem handlers_perform (s : Session) (op : Operation) :
    (op.perform.run s).state.handlers =
      if op.openings s = 0 then s.handlers else s.handlers.obtained := by
  rw [(opens_perform s op).state, Registry.state_openTimes]
  split <;> rfl

/-- Whoever asks for the handler is given the one that is shared from then on. -/
theorem shared_of_perform {s : Session} {op : Operation} {given : Handler}
    (h : (op.perform.run s).value = some given) :
    (op.perform.run s).state.handlers.shared = some given := by
  cases op with
  | handler =>
    obtain ⟨handler, hshared, hrun⟩ := s.toRegistry.run_openHandler s.workspace.toolkit
    rw [Operation.perform, Work.run_map, run_openHandler, hrun] at h ⊢
    obtain rfl := Option.some.inj h
    exact hshared
  | _ => cases h

/-- A handler that is shared stays so. -/
theorem shared_perform {s : Session} {handler : Handler} (h : s.handlers.shared = some handler)
    (op : Operation) : (op.perform.run s).state.handlers.shared = some handler := by
  rw [handlers_perform]
  split
  · exact h
  · rw [Handlers.obtained, Handlers.obtain, Work.run_bind, Work.run_get, h]
    exact h

/-! ## Whole runs -/

/-- The only handler that there is in a session. -/
def onlyHandler : Handler := ⟨0⟩

/-- A session with at most one handler, and with parsers for the languages of their grammars. -/
structure Tidy (s : Session) : Prop where
  handlers : s.handlers = .fresh ∨ s.handlers = ⟨some onlyHandler, 1⟩
  parsers : s.parsers.Sublist grammars

theorem tidy_fresh (machine : Machine) (w : Workspace) : (fresh machine w).Tidy :=
  ⟨.inl rfl, List.nil_sublist _⟩

theorem Tidy.obtained_eq {s : Session} (h : s.Tidy) :
    s.handlers.obtained = ⟨some onlyHandler, 1⟩ := by
  obtain hfresh | hshared := h.handlers
  · rw [hfresh]
    rfl
  · rw [hshared]
    rfl

theorem tidy_perform {s : Session} (h : s.Tidy) (op : Operation) :
    (op.perform.run s).state.Tidy := by
  refine ⟨?_, ?_⟩
  · rw [handlers_perform]
    split
    · exact h.handlers
    · exact .inr h.obtained_eq
  · rw [(opens_perform s op).state, Registry.state_openTimes]
    split
    · exact h.parsers
    · exact opened_sublist h.parsers _

theorem tidy_performAll {s : Session} (h : s.Tidy) (ops : List Operation) :
    ((performAll ops).run s).state.Tidy := by
  induction ops generalizing s with
  | nil => exact h
  | cons op rest ih => exact ih (tidy_perform h op)

theorem shared_performAll {s : Session} {handler : Handler}
    (h : s.handlers.shared = some handler) (ops : List Operation) :
    ((performAll ops).run s).state.handlers.shared = some handler := by
  induction ops generalizing s with
  | nil => exact h
  | cons op rest ih => exact ih (shared_perform h op)

/-- All who have asked for the handler were given the one that is shared in the end. -/
theorem shared_of_performAll {s : Session} {ops : List Operation} {given : Handler}
    (h : given ∈ ((performAll ops).run s).value) :
    ((performAll ops).run s).state.handlers.shared = some given := by
  induction ops generalizing s with
  | nil => cases h
  | cons op rest ih =>
    obtain hfirst | hmore := List.mem_append.mp h
    · exact shared_performAll (shared_of_perform (Option.mem_toList.mp hfirst)) rest
    · exact ih hmore

theorem parsers_performAll_of_ne_nil {s : Session} (h : s.parsers ≠ []) (ops : List Operation) :
    ((performAll ops).run s).state.parsers = s.parsers := by
  induction ops generalizing s with
  | nil => rfl
  | cons op rest ih =>
    have hstep := (perform_of_not_isEmpty (s := s) (by simp [h]) op).1
    have hrest := ih (s := (op.perform.run s).state) (by rwa [hstep])
    exact hrest.trans hstep

/-- Asking for a grammar when there are parsers. -/
theorem grammarFor_of_ne_nil {s : Session} (h : s.parsers ≠ []) (l : Language) :
    ((grammarFor (.known l)).run s).value = .ok (s.parsers.get? l) := by
  have hopen : (openTable s.workspace.toolkit).run s.parsers = ⟨(), s.parsers, []⟩ :=
    run_openTable_of_not_isEmpty (by simp [h])
  have hopened : (s.opened s.workspace.toolkit).parsers = s.parsers := by
    rw [Registry.opened, opened, hopen]
  rw [grammarFor, Work.run_bind, run_openHandler]
  simp [s.state_openHandler, hopened, lookup]

end Session

end Scribe
