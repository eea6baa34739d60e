import Mathlib.Data.List.Infix
import Mathlib.Data.List.Nodup
import Scribe.Path

/-!
# Paths of names below a directory

A name joined to a path is a new component of it, so the path of an entry tells the names that lead
to it. `Path.chain` lists the paths on the way from one directory down to another.

## Main results

* `components_join`, `components_descend`: joining names appends components.
* `descend_inj`: names below a directory and paths below it correspond.
* `directory_join`: the directory of a name joined to a path is that path, if it is trimmed.
* `trimmed_absolute`: paths from the root in normal form are trimmed.
-/

namespace Scribe.Path

/-- A text that can name an entry of a folder: no way up, and one component of a path. -/
structure IsName (name : Text) : Prop where
  nonempty : name.isEmpty = false
  ne_dot : name ≠ "."
  ne_dots : name ≠ ".."
  no_slash : slash ∉ name.symbols

instance (name : Text) : Decidable (IsName name) :=
  decidable_of_iff
    (name.isEmpty = false ∧ name ≠ "." ∧ name ≠ ".." ∧ slash ∉ name.symbols)
    ⟨fun h => ⟨h.1, h.2.1, h.2.2.1, h.2.2.2⟩,
      fun h => ⟨h.nonempty, h.ne_dot, h.ne_dots, h.no_slash⟩⟩

/-- A path without a slash at its end, or slashes only. -/
structure Trimmed (path : Text) : Prop where
  nonempty : path.isEmpty = false
  slashes : path.symbols.getLast? = some slash → ∀ s ∈ path.symbols, s = slash

/-- The path that names lead to from a directory. -/
def descend (root : Text) (names : List Text) : Text := names.foldl join root

/-- The names that lead from a directory to one below it. -/
def namesBelow (root path : Text) : List Text :=
  (components path).drop (components root).length

/-- The paths from a directory down to one below it, both ends included. -/
def chain (root path : Text) : List Text := (namesBelow root path).inits.map (descend root)

example : chain "/r" "/r/a/b" = (["/r", "/r/a", "/r/a/b"] : List Text) := by decide

/-! ## Pieces -/

@[simp]
theorem symbols_slash : (Text.ofString "/").symbols = [slash] := by decide

@[simp]
theorem symbols_empty : (Text.ofString "").symbols = [] := by decide

theorem eq_empty_of_isEmpty {t : Text} (h : t.isEmpty = true) : t = "" := by
  ext1
  simpa [Text.isEmpty] using h

theorem splitOn_ne_nil {α : Type} [DecidableEq α] (sep : α) (xs : List α) :
    splitOn sep xs ≠ [] := by
  cases xs with
  | nil => simp [splitOn]
  | cons x rest =>
    rw [splitOn]
    split
    · simp
    · split <;> simp

theorem splitOn_append_cons {α : Type} [DecidableEq α] (sep : α) (xs ys : List α) :
    splitOn sep (xs ++ sep :: ys) = splitOn sep xs ++ splitOn sep ys := by
  induction xs with
  | nil => simp [splitOn]
  | cons x rest ih =>
    by_cases h : x = sep
    · simp [splitOn, h, ih]
    · obtain ⟨piece, others, hs⟩ := List.exists_cons_of_ne_nil (splitOn_ne_nil sep rest)
      simp [splitOn, h, ih, hs]

theorem splitOn_of_notMem {α : Type} [DecidableEq α] {sep : α} {xs : List α} (h : sep ∉ xs) :
    splitOn sep xs = [xs] := by
  induction xs with
  | nil => rfl
  | cons x rest ih =>
    obtain ⟨hx, hrest⟩ := List.ne_and_not_mem_of_not_mem_cons h
    simp [splitOn, Ne.symm hx, ih hrest]

theorem notMem_of_mem_splitOn {α : Type} [DecidableEq α] {sep : α} {xs piece : List α}
    (h : piece ∈ splitOn sep xs) : sep ∉ piece := by
  induction xs generalizing piece with
  | nil =>
    obtain rfl : piece = [] := by simpa [splitOn] using h
    simp
  | cons x rest ih =>
    by_cases hx : x = sep
    · obtain rfl | h : piece = [] ∨ piece ∈ splitOn sep rest := by simpa [splitOn, hx] using h
      · simp
      · exact ih h
    · simp only [splitOn, hx, ↓reduceIte] at h
      cases hs : splitOn sep rest with
      | nil =>
        obtain rfl : piece = [x] := by simpa [hs] using h
        simpa using Ne.symm hx
      | cons first others =>
        rw [hs] at h ih
        obtain rfl | h := List.mem_cons.mp h
        · simpa [Ne.symm hx] using ih List.mem_cons_self
        · exact ih (List.mem_cons_of_mem _ h)

theorem pieces_slash (a b : Text) : pieces (a ++ "/" ++ b) = pieces a ++ pieces b := by
  have h : (a ++ "/" ++ b).symbols = a.symbols ++ slash :: b.symbols := by simp
  rw [pieces, h, splitOn_append_cons, List.map_append]
  rfl

theorem pieces_name {name : Text} (h : slash ∉ name.symbols) : pieces name = [name] := by
  simp [pieces, splitOn_of_notMem h]

/-- A path that ends in a slash has an empty last piece. -/
theorem pieces_append_slash (a : Text) : pieces (a ++ "/") = pieces a ++ [("" : Text)] := by
  have h : (a ++ "/").symbols = a.symbols ++ slash :: [] := by simp
  rw [pieces, h, splitOn_append_cons, List.map_append]
  rfl

/-! ## Joining -/

theorem IsName.not_isAbsolute {name : Text} (h : IsName name) : isAbsolute name = false := by
  obtain ⟨symbols⟩ := name
  cases symbols with
  | nil => rfl
  | cons s rest =>
    have hs : s ≠ slash := fun hs => h.no_slash (by simp [hs])
    simpa [isAbsolute] using hs

theorem eq_append_slash {path : Text} (h : path.symbols.getLast? = some slash) :
    ∃ before, path = before ++ "/" := by
  obtain ⟨before, hb⟩ := List.getLast?_eq_some_iff.mp h
  exact ⟨⟨before⟩, by ext1; simpa using hb⟩

/-- A join puts a slash before the name, unless there is one or nothing comes before. -/
theorem join_cases (d : Text) {name : Text} (h : IsName name) :
    (d.isEmpty = true ∧ join d name = name)
      ∨ (∃ before, d = before ++ "/" ∧ join d name = before ++ "/" ++ name)
      ∨ (d.isEmpty = false ∧ d.symbols.getLast? ≠ some slash ∧ join d name = d ++ "/" ++ name) := by
  simp only [join, h.not_isAbsolute, Bool.false_eq_true, ↓reduceIte, Bool.or_eq_true,
    decide_eq_true_eq]
  by_cases he : d.isEmpty = true
  · left
    refine ⟨he, ?_⟩
    rw [if_pos (.inl he), eq_empty_of_isEmpty he]
    rfl
  · by_cases hs : d.symbols.getLast? = some slash
    · right; left
      obtain ⟨before, hb⟩ := eq_append_slash hs
      exact ⟨before, hb, by rw [if_pos (.inr hs), hb]⟩
    · right; right
      refine ⟨by simpa using he, hs, ?_⟩
      rw [if_neg (by simp [he, hs])]
      ext1
      simp

theorem components_join (d : Text) {name : Text} (h : IsName name) :
    components (join d name) = components d ++ [name] := by
  have hname : components name = [name] := by
    simp [components, pieces_name h.no_slash, h.nonempty, h.ne_dot]
  obtain ⟨he, hj⟩ | ⟨before, rfl, hj⟩ | ⟨-, -, hj⟩ := join_cases d h
  · rw [hj, hname, eq_empty_of_isEmpty he]
    rfl
  · rw [hj, components, components, pieces_slash, pieces_append_slash, List.filter_append,
      List.filter_append, ← components, ← components, hname]
    simp [Text.isEmpty]
  · rw [hj, components, components, pieces_slash, List.filter_append, ← components, ← components,
      hname]

/-- The suffix of a path is that of its last name. -/
theorem suffix_join (d : Text) {name : Text} (h : IsName name) :
    suffix (join d name) = nameSuffix name := by
  rw [suffix, baseName, components_join d h, List.getLastD_concat]

theorem suffix_name {name : Text} (h : IsName name) : suffix name = nameSuffix name := by
  rw [suffix, baseName, components, pieces_name h.no_slash]
  simp [h.nonempty, h.ne_dot]

@[simp]
theorem descend_nil (root : Text) : descend root [] = root := rfl

@[simp]
theorem descend_cons (root name : Text) (rest : List Text) :
    descend root (name :: rest) = descend (join root name) rest := rfl

theorem descend_append (root : Text) (names more : List Text) :
    descend root (names ++ more) = descend (descend root names) more := List.foldl_append

theorem components_descend (root : Text) {names : List Text} (h : ∀ n ∈ names, IsName n) :
    components (descend root names) = components root ++ names := by
  induction names generalizing root with
  | nil => simp
  | cons name rest ih =>
    rw [descend_cons, ih _ fun n hn => h n (List.mem_cons_of_mem _ hn),
      components_join root (h name List.mem_cons_self)]
    simp

theorem namesBelow_descend (root : Text) {names : List Text} (h : ∀ n ∈ names, IsName n) :
    namesBelow root (descend root names) = names := by
  simp [namesBelow, components_descend root h]

/-- Different names lead to different paths. -/
theorem descend_inj {root : Text} {names names' : List Text} (h : ∀ n ∈ names, IsName n)
    (h' : ∀ n ∈ names', IsName n) (heq : descend root names = descend root names') :
    names = names' := by
  rw [← namesBelow_descend root h, heq, namesBelow_descend root h']

/-- The path of a name in a directory tells both. -/
theorem join_inj {root : Text} {names names' : List Text} {name name' : Text}
    (h : ∀ n ∈ names, IsName n) (h' : ∀ n ∈ names', IsName n) (hn : IsName name)
    (hn' : IsName name')
    (heq : join (descend root names) name = join (descend root names') name') :
    names = names' ∧ name = name' := by
  have hall : ∀ n ∈ names ++ [name], IsName n := by grind
  have hall' : ∀ n ∈ names' ++ [name'], IsName n := by grind
  have hpath : descend root (names ++ [name]) = descend root (names' ++ [name']) := by
    rw [descend_append, descend_append]
    exact heq
  have hsnoc := descend_inj hall hall' hpath
  exact ⟨(List.append_inj' hsnoc rfl).1, by simpa using (List.append_inj' hsnoc rfl).2⟩

/-! ## Chains -/

theorem mem_chain_descend {root d : Text} {names : List Text} (h : ∀ n ∈ names, IsName n) :
    d ∈ chain root (descend root names) ↔ ∃ front, front <+: names ∧ descend root front = d := by
  simp [chain, namesBelow_descend root h]

theorem nodup_inits {α : Type} (l : List α) : l.inits.Nodup := by
  induction l with
  | nil => simp
  | cons a rest ih =>
    rw [List.inits_cons, List.nodup_cons]
    refine ⟨by simp, ih.map ?_⟩
    exact List.cons_injective

/-- No path is on a chain twice. -/
theorem nodup_chain {root : Text} {names : List Text} (h : ∀ n ∈ names, IsName n) :
    (chain root (descend root names)).Nodup := by
  rw [chain, namesBelow_descend root h]
  refine (nodup_inits names).map_on fun a ha b hb heq => ?_
  rw [List.mem_inits] at ha hb
  exact descend_inj (fun n hn => h n (ha.subset hn)) (fun n hn => h n (hb.subset hn)) heq

/-! ## Trimmed paths -/

theorem getLast?_name {name : Text} (h : IsName name) : name.symbols.getLast? ≠ some slash :=
  fun hl => h.no_slash (List.mem_of_getLast? hl)

theorem symbols_ne_nil {name : Text} (h : name.isEmpty = false) : name.symbols ≠ [] := by
  simpa [Text.isEmpty] using h

theorem trimmed_of_getLast? {path : Text} (hne : path.isEmpty = false)
    (hl : path.symbols.getLast? ≠ some slash) : Trimmed path :=
  ⟨hne, fun h => absurd h hl⟩

/-- A path that ends in a name is trimmed. -/
theorem trimmed_append_name (a : Text) {name : Text} (h : IsName name) : Trimmed (a ++ name) := by
  have hne := symbols_ne_nil h.nonempty
  refine trimmed_of_getLast? (by simp [Text.isEmpty, hne]) ?_
  rw [Text.symbols_append, List.getLast?_append_of_ne_nil _ hne]
  exact getLast?_name h

theorem trimmed_join (d : Text) {name : Text} (h : IsName name) : Trimmed (join d name) := by
  obtain ⟨-, hj⟩ | ⟨before, -, hj⟩ | ⟨-, -, hj⟩ := join_cases d h
  · rw [hj]
    exact trimmed_of_getLast? h.nonempty (getLast?_name h)
  · rw [hj]
    exact trimmed_append_name _ h
  · rw [hj]
    exact trimmed_append_name _ h

/-- Up to its last slash, a path with a name after it is what comes before the name. -/
theorem head_append_name (a : Text) {name : Text} (h : IsName name) :
    ((a ++ "/" ++ name).symbols.reverse.dropWhile (· ≠ slash)).reverse = a.symbols ++ [slash] := by
  have hname : ∀ s ∈ name.symbols.reverse, decide (s ≠ slash) = true := by
    intro s hs
    rw [decide_eq_true_eq]
    rintro rfl
    exact h.no_slash (List.mem_reverse.mp hs)
  simp only [Text.symbols_append, symbols_slash, List.reverse_append, List.reverse_singleton,
    List.append_assoc, List.dropWhile_append_of_pos hname]
  simp

theorem directory_join {d name : Text} (hd : Trimmed d) (h : IsName name) :
    directory (join d name) = d := by
  obtain ⟨he, -⟩ | ⟨before, hb, hj⟩ | ⟨-, hl, hj⟩ := join_cases d h
  · simp [hd.nonempty] at he
  · -- The path is slashes only, and all of them stay.
    have hall : (before.symbols ++ [slash]).all (· = slash) = true := by
      have hsymbols : d.symbols = before.symbols ++ [slash] := by simp [hb]
      rw [List.all_eq_true]
      intro s hs
      exact decide_eq_true (hd.slashes (by simp [hsymbols]) s (hsymbols ▸ hs))
    rw [hj, directory, head_append_name before h, if_pos hall, hb]
    ext1
    simp
  · obtain ⟨front, last, hfront⟩ : ∃ front last, d.symbols = front ++ [last] :=
      ⟨_, _, (List.dropLast_append_getLast (symbols_ne_nil hd.nonempty)).symm⟩
    have hlast : last ≠ slash := by
      rintro rfl
      simp [hfront] at hl
    rw [hj, directory, head_append_name d h, if_neg (by simp [hfront, hlast])]
    ext1
    simp [hfront, hlast]

/-! ## Normal forms -/

theorem no_slash_of_mem_pieces {path p : Text} (h : p ∈ pieces path) : slash ∉ p.symbols := by
  obtain ⟨piece, hpiece, rfl⟩ := List.mem_map.mp h
  exact notMem_of_mem_splitOn hpiece

/-- Collapsing keeps components only. -/
theorem mem_collapse {rooted : Bool} {kept ps : List Text} {p : Text}
    (h : p ∈ collapse rooted kept ps) : p ∈ kept ∨ p ∈ ps ∧ p.isEmpty = false := by
  fun_induction collapse rooted kept ps <;> grind

theorem getLast?_intercalate {ps : List Text}
    (h : ∀ p ∈ ps, p.isEmpty = false ∧ slash ∉ p.symbols) :
    (Text.intercalate "/" ps).symbols.getLast? ≠ some slash := by
  induction ps with
  | nil => simp [Text.intercalate, Text.join]
  | cons p rest ih =>
    obtain ⟨hne, hs⟩ := h p List.mem_cons_self
    cases rest with
    | nil =>
      simp only [Text.intercalate, Text.join, List.intersperse, List.flatMap_cons,
        List.flatMap_nil, List.append_nil]
      exact fun hl => hs (List.mem_of_getLast? hl)
    | cons q others =>
      have hq := h q (List.mem_cons_of_mem _ List.mem_cons_self)
      have hrest := ih fun p hp => h p (List.mem_cons_of_mem _ hp)
      have hjoined : (Text.intercalate "/" (p :: q :: others)).symbols =
          p.symbols ++ [slash] ++ (Text.intercalate "/" (q :: others)).symbols := by
        simp [Text.intercalate, Text.join, List.intersperse]
      have hnonempty : (Text.intercalate "/" (q :: others)).symbols ≠ [] := by
        cases others <;> simp [Text.intercalate, Text.join, List.intersperse, symbols_ne_nil hq.1]
      rwa [hjoined, List.getLast?_append_of_ne_nil _ hnonempty]

theorem trimmed_normalize (path : Text) : Trimmed (normalize path) := by
  have hbody : (Text.intercalate "/" (collapse (!(rootSlashes path).isEmpty) []
      (pieces path))).symbols.getLast? ≠ some slash := by
    refine getLast?_intercalate fun p hp => ?_
    obtain h | ⟨h, hne⟩ := mem_collapse hp
    · cases h
    · exact ⟨hne, no_slash_of_mem_pieces h⟩
  have hroot : ∀ s ∈ (rootSlashes path).symbols, s = slash := by
    rw [rootSlashes]
    split <;> decide
  simp only [normalize]
  generalize Text.intercalate "/" _ = body at hbody
  split
  · exact trimmed_of_getLast? (by decide) (by decide)
  · rename_i hboth
    by_cases hb : body.symbols = []
    · refine ⟨by simpa [Text.isEmpty, hb] using hboth, fun _ => ?_⟩
      simpa [hb] using hroot
    · refine trimmed_of_getLast? (by simp [Text.isEmpty, hb]) ?_
      rwa [Text.symbols_append, List.getLast?_append_of_ne_nil _ hb]

theorem trimmed_absolute (here path : Text) : Trimmed (absolute here path) :=
  trimmed_normalize _

theorem collapse_append_skipped {p : Text} (h : p.isEmpty = true ∨ p = ".") (rooted : Bool)
    (kept ps : List Text) : collapse rooted kept (ps ++ [p]) = collapse rooted kept ps := by
  fun_induction collapse rooted kept ps <;> simp_all [collapse]

theorem normalize_slash_dot (a : Text) :
    normalize (a ++ "/" ++ ".") = normalize (a ++ "/" ++ "") := by
  have hdot : pieces "." = [("." : Text)] := by decide
  have hempty : pieces "" = [("" : Text)] := by decide
  have hroot : rootSlashes (a ++ "/" ++ ".") = rootSlashes (a ++ "/" ++ "") := by
    have hnot : ("." : Text).symbols.takeWhile (· = slash) = [] := by decide
    simp only [rootSlashes, Text.symbols_append, List.takeWhile_append, hnot, symbols_empty,
      List.takeWhile_nil]
  simp only [normalize, hroot, pieces_slash, hdot, hempty]
  rw [collapse_append_skipped (.inr rfl), collapse_append_skipped (.inl rfl)]

/-- An empty path leads to the directory that it is seen from, as a dot does. -/
theorem absolute_empty (here : Text) : absolute here "" = absolute here "." := by
  have hdot : isAbsolute "." = false := by decide
  have hempty : isAbsolute "" = false := by decide
  simp only [absolute, join, hdot, hempty, Bool.false_eq_true, if_false]
  by_cases he : here.isEmpty = true
  · obtain rfl := eq_empty_of_isEmpty he
    decide
  · by_cases hs : here.symbols.getLast? = some slash
    · obtain ⟨before, rfl⟩ := eq_append_slash hs
      rw [if_pos (by simp), if_pos (by simp), normalize_slash_dot]
    · have hslash (name : Text) :
          here ++ (⟨slash :: name.symbols⟩ : Text) = here ++ "/" ++ name := by
        ext1
        simp
      rw [if_neg (by simp [he, hs]), if_neg (by simp [he, hs]), hslash, hslash, normalize_slash_dot]

end Scribe.Path
