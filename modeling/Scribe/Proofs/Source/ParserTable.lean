import Scribe.Source.Handler

/-!
# The table of parsers once it is open

Filling the table adds exactly the grammars whose parser can be made, and nothing but printed lines
is seen of it. The table that an opening leaves is not changed by another opening, as long as the
toolkit stays as it is.

## Main results

* `state_fill`: what filling adds.
* `opened_opened`: an open table stays as it is.
* `run_openTable_of_isEmpty`: what opening an empty table comes to.
* `Registry.run_openHandler`: what asking for the handler comes to.
-/

namespace Scribe

namespace ParserTable

/-- Those of some grammars whose parser can be made. -/
def made (t : Toolkit) (gs : List (Language × String)) : ParserTable :=
  gs.filter fun g => t.hasParsers && (t.makeParser g.2).isOk

/-- The table as an opening leaves it. -/
def opened (t : Toolkit) (table : ParserTable) : ParserTable := ((openTable t).run table).state

theorem state_fill (t : Toolkit) (gs : List (Language × String)) (table : ParserTable) :
    ((fill t gs).run table).state = table ++ made t gs := by
  induction gs generalizing table with
  | nil => simp [fill, made]
  | cons g rest ih =>
    obtain ⟨l, grammar⟩ := g
    rw [fill]
    cases hparsers : t.hasParsers with
    | false => simp [made, hparsers, ih]
    | true =>
      cases hmake : t.makeParser grammar with
      | error cause => simp [made, hparsers, hmake, ih, Except.isOk, Except.toBool]
      | ok u => simp [made, hparsers, hmake, ih, Except.isOk, Except.toBool]

theorem events_fill (t : Toolkit) (gs : List (Language × String)) (table : ParserTable) :
    ∀ e ∈ ((fill t gs).run table).events, ∃ line, e = .printed line := by
  induction gs generalizing table with
  | nil => simp [fill]
  | cons g rest ih =>
    obtain ⟨l, grammar⟩ := g
    rw [fill]
    cases hparsers : t.hasParsers with
    | false => simpa using ih table
    | true =>
      cases hmake : t.makeParser grammar with
      | error cause => simpa using ih table
      | ok u => simpa using ih (table ++ [(l, grammar)])

theorem run_openTable (t : Toolkit) (table : ParserTable) :
    (openTable t).run table =
      (if table.isEmpty && t.installed then fill t grammars else pure ()).run table := rfl

theorem opened_eq (t : Toolkit) (table : ParserTable) :
    opened t table = if table.isEmpty && t.installed then made t grammars else table := by
  rw [opened, run_openTable]
  split
  · rename_i hempty
    obtain ⟨hnil, -⟩ := Bool.and_eq_true_iff.mp hempty
    rw [state_fill, List.isEmpty_iff.mp hnil, List.nil_append]
  · rfl

theorem events_openTable (t : Toolkit) (table : ParserTable) :
    ∀ e ∈ ((openTable t).run table).events, ∃ line, e = .printed line := by
  rw [run_openTable]
  split
  · exact events_fill t grammars table
  · simp

/-- An open table stays as it is. -/
theorem opened_opened (t : Toolkit) (table : ParserTable) :
    opened t (opened t table) = opened t table := by
  rw [opened_eq t table]
  split
  · rw [opened_eq]
    split <;> rfl
  · rename_i hkept
    rw [opened_eq, if_neg hkept]

/-! ## Warnings -/

/-- The warning for a grammar whose parser cannot be made. -/
def warning? (t : Toolkit) (g : Language × String) : Option Text :=
  if !t.hasParsers then some ("Warning: get_parser is not available for " ++ g.2)
  else match t.makeParser g.2 with
    | .ok () => none
    | .error cause => some ("Warning: Failed to initialize parser for " ++ g.2 ++ ": " ++ cause)

/-- The warnings for some grammars. -/
def warnings (t : Toolkit) (gs : List (Language × String)) : List Text :=
  gs.filterMap (warning? t)

theorem warning?_eq_none_iff {t : Toolkit} {g : Language × String} :
    warning? t g = none ↔ t.hasParsers = true ∧ t.makeParser g.2 = .ok () := by
  rw [warning?]
  cases t.hasParsers with
  | false => simp
  | true => rcases t.makeParser g.2 with cause | u <;> simp

/-- Each grammar has either a parser or a warning. -/
theorem warning?_eq_none_iff_mem_made {t : Toolkit} {gs : List (Language × String)}
    {g : Language × String} (hg : g ∈ gs) : warning? t g = none ↔ g ∈ made t gs := by
  rw [warning?_eq_none_iff, made, List.mem_filter, and_iff_right hg, Bool.and_eq_true]
  rcases t.makeParser g.2 with cause | u <;> simp [Except.isOk, Except.toBool]

theorem length_made_add_length_warnings (t : Toolkit) (gs : List (Language × String)) :
    (made t gs).length + (warnings t gs).length = gs.length := by
  induction gs with
  | nil => rfl
  | cons g rest ih =>
    rw [made, warnings] at ih ⊢
    rw [List.length_cons, ← ih, List.filter_cons, List.filterMap_cons]
    have hg := warning?_eq_none_iff_mem_made (t := t) (List.mem_singleton_self g)
    rw [made, List.mem_filter, and_iff_right (List.mem_singleton_self g)] at hg
    split
    · rename_i hmade
      rw [hg.mpr hmade, List.length_cons]
      dsimp only
      omega
    · rename_i hfails
      obtain ⟨line, hline⟩ := Option.ne_none_iff_exists'.mp (mt hg.mp hfails)
      rw [hline, List.length_cons]
      omega

/-- Filling adds the parsers that can be made, and gives a warning for each other one. -/
theorem run_fill (t : Toolkit) (gs : List (Language × String)) (table : ParserTable) :
    (fill t gs).run table = ⟨(), table ++ made t gs, (warnings t gs).map .printed⟩ := by
  induction gs generalizing table with
  | nil => simp [fill, made, warnings]
  | cons g rest ih =>
    obtain ⟨l, grammar⟩ := g
    rw [fill]
    cases hparsers : t.hasParsers with
    | false => simp [made, warnings, warning?, hparsers, ih, Text.ofString_append]
    | true =>
      cases hmake : t.makeParser grammar with
      | error cause =>
        simp [made, warnings, warning?, hparsers, hmake, ih, Except.isOk, Except.toBool,
          Text.ofString_append]
      | ok u => simp [made, warnings, warning?, hparsers, hmake, ih, Except.isOk, Except.toBool]

/-- An empty table is filled from all grammars. -/
theorem run_openTable_of_isEmpty {t : Toolkit} (hinstalled : t.installed = true) :
    (openTable t).run [] = ⟨(), made t grammars, (warnings t grammars).map .printed⟩ := by
  rw [run_openTable, hinstalled]
  exact run_fill t grammars []

/-- Any other table is left as it is. -/
theorem run_openTable_of_not_isEmpty {t : Toolkit} {table : ParserTable}
    (h : (table.isEmpty && t.installed) = false) : (openTable t).run table = ⟨(), table, []⟩ := by
  rw [run_openTable, h]
  rfl

end ParserTable

/-! ## The handler -/

namespace Handlers

/-- The handlers once someone has asked for one. -/
def obtained (s : Handlers) : Handlers := (obtain.run s).state

/-- Whoever asks is given the handler that is shared from then on. -/
theorem run_obtain (s : Handlers) :
    ∃ handler, obtain.run s = ⟨handler, s.obtained, []⟩ ∧ s.obtained.shared = some handler ∧
      s.obtained.obtained = s.obtained := by
  obtain ⟨shared, made⟩ := s
  cases shared with
  | none => exact ⟨⟨made⟩, rfl, rfl, rfl⟩
  | some handler => exact ⟨handler, rfl, rfl, rfl⟩

end Handlers

namespace Registry

/-- The table and the handlers once someone has asked for the handler. -/
def opened (t : Toolkit) (r : Registry) : Registry :=
  ⟨r.handlers.obtained, r.parsers.opened t⟩

theorem run_openHandler (t : Toolkit) (r : Registry) :
    ∃ handler, (r.opened t).handlers.shared = some handler ∧
      (openHandler t).run r =
        ⟨handler, r.opened t, ((ParserTable.openTable t).run r.parsers).events⟩ := by
  obtain ⟨handler, hrun, hshared, -⟩ := r.handlers.run_obtain
  refine ⟨handler, hshared, ?_⟩
  simp only [openHandler, onHandlers, onParsers, Work.run_bind, Work.run_on, Work.run_pure, hrun,
    List.nil_append, List.append_nil]
  rfl

theorem state_openHandler (t : Toolkit) (r : Registry) :
    ((openHandler t).run r).state = r.opened t := by
  obtain ⟨handler, -, hrun⟩ := r.run_openHandler t
  rw [hrun]

theorem events_openHandler (t : Toolkit) (r : Registry) :
    ((openHandler t).run r).events = ((ParserTable.openTable t).run r.parsers).events := by
  obtain ⟨handler, -, hrun⟩ := r.run_openHandler t
  rw [hrun]

/-- Asking again changes nothing. -/
theorem opened_opened (t : Toolkit) (r : Registry) : (r.opened t).opened t = r.opened t := by
  obtain ⟨-, -, -, hhandlers⟩ := r.handlers.run_obtain
  rw [opened, opened, hhandlers, ParserTable.opened_opened]

end Registry

end Scribe
