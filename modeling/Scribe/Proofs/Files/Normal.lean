import Scribe.Proofs.Files.Lookup

/-!
# Paths in normal form

A path is brought into normal form without a look at the disk: names that stay where they are go
away, and a way up goes away with the name before it. As long as there is no way up in a path, its
normal form leads where the path does, if it is not too long. After a link, a way up leads to the
folder above the one that the link stands for, and the normal form does not go there.

## Main results

* `Path.pieces_normalize`: the names of a normal form.
* `Thinned.resolve`: names that stay where they are can be left out.
* `Volume.holds_absolute`: what is at a path without a way up is at its normal form.
-/

namespace Scribe

namespace Path

theorem collapse_of_notMem {ps : List Text} (h : (".." : Text) ∉ ps) (rooted : Bool)
    (kept : List Text) :
    collapse rooted kept ps = kept.reverse ++ ps.filter fun p : Text => !p.isEmpty && p != "." := by
  fun_induction collapse rooted kept ps <;> grind

theorem pieces_intercalate {ps : List Text} (hne : ps ≠ []) (h : ∀ p ∈ ps, slash ∉ p.symbols) :
    pieces (Text.intercalate "/" ps) = ps := by
  induction ps with
  | nil => contradiction
  | cons p rest ih =>
    have hp := pieces_name (h p List.mem_cons_self)
    cases rest with
    | nil =>
      have hone : Text.intercalate "/" [p] = p := by
        ext1
        simp [Text.intercalate, Text.join]
      rw [hone, hp]
    | cons q others =>
      have hmore : Text.intercalate "/" (p :: q :: others) =
          p ++ "/" ++ Text.intercalate "/" (q :: others) := by
        ext1
        simp [Text.intercalate, Text.join, List.intersperse]
      have hrest := ih (List.cons_ne_nil _ _) fun r hr => h r (List.mem_cons_of_mem _ hr)
      rw [hmore, pieces_slash, hp, hrest, List.singleton_append]

theorem rootSlashes_of_isAbsolute {path : Text} (h : isAbsolute path = true) :
    rootSlashes path = "/" ∨ rootSlashes path = "//" := by
  rw [rootSlashes]
  split
  · rename_i hnone
    obtain ⟨symbols⟩ := path
    cases symbols with
    | nil => simp [isAbsolute] at h
    | cons s rest =>
      obtain rfl : s = slash := by simpa [isAbsolute] using h
      simp at hnone
  · exact .inr rfl
  · exact .inl rfl

theorem isAbsolute_append {a : Text} (h : isAbsolute a = true) (b : Text) :
    isAbsolute (a ++ b) = true := by
  obtain ⟨symbols⟩ := a
  cases symbols with
  | nil => simp [isAbsolute] at h
  | cons s rest => exact h

theorem isEmpty_of_isAbsolute {path : Text} (h : isAbsolute path = true) :
    path.isEmpty = false := by
  obtain ⟨symbols⟩ := path
  cases symbols with
  | nil => simp [isAbsolute] at h
  | cons s rest => rfl

theorem isAbsolute_normalize {path : Text} (h : isAbsolute path = true) :
    isAbsolute (normalize path) = true := by
  have hroot : isAbsolute (rootSlashes path) = true := by
    obtain hroot | hroot := rootSlashes_of_isAbsolute h <;> rw [hroot] <;> decide
  simp only [normalize, isEmpty_of_isAbsolute hroot, Bool.false_and, Bool.false_eq_true, if_false]
  exact isAbsolute_append hroot _

/-- The names of the normal form of a path from the root, after some empty ones. -/
theorem pieces_normalize {path : Text} (habs : isAbsolute path = true)
    (hdots : (".." : Text) ∉ pieces path) :
    ∃ blanks : List Text, (∀ b ∈ blanks, b = "") ∧
      pieces (normalize path) = blanks ++ components path := by
  have hslash : ∀ p ∈ components path, slash ∉ p.symbols := fun p hp =>
    no_slash_of_mem_pieces (List.mem_filter.mp hp).1
  have hbody : collapse (!(rootSlashes path).isEmpty) [] (pieces path) = components path :=
    collapse_of_notMem hdots _ []
  rw [normalize, hbody]
  obtain ⟨blanks, hblanks, hroot⟩ : ∃ blanks : List Text, (∀ b ∈ blanks, b = "") ∧
      ∀ body : Text, pieces (rootSlashes path ++ body) = blanks ++ pieces body := by
    obtain hroot | hroot := rootSlashes_of_isAbsolute habs
    · exact ⟨[""], by simp, fun body => by rw [hroot]; exact pieces_slash "" body⟩
    · exact ⟨["", ""], by simp, fun body => by rw [hroot]; exact pieces_slash "/" body⟩
  have hnonempty : (rootSlashes path).isEmpty = false := by
    obtain hroot | hroot := rootSlashes_of_isAbsolute habs <;> rw [hroot] <;> decide
  simp only [hnonempty, Bool.false_and, Bool.false_eq_true, if_false, hroot]
  by_cases hnone : components path = []
  · refine ⟨blanks ++ [("" : Text)], by grind, ?_⟩
    rw [hnone]
    simp only [List.append_nil]
    rfl
  · exact ⟨blanks, hblanks, by rw [pieces_intercalate hnone hslash]⟩

theorem mem_intersperse {α : Type} {sep x : α} {xs : List α} (h : x ∈ xs.intersperse sep) :
    x = sep ∨ x ∈ xs := by
  induction xs with
  | nil => cases h
  | cons y rest ih => cases rest <;> grind [List.intersperse]

theorem mem_of_mem_splitOn {α : Type} [DecidableEq α] {sep x : α} {xs piece : List α}
    (hpiece : piece ∈ splitOn sep xs) (hx : x ∈ piece) : x ∈ xs := by
  induction xs generalizing piece with
  | nil => simp_all [splitOn]
  | cons y rest ih => grind [splitOn]

/-- The symbols of a normal form are slashes, dots, and symbols of the path. -/
theorem mem_symbols_normalize {path : Text} {s : Symbol} (h : s ∈ (normalize path).symbols) :
    s = slash ∨ s = dot ∨ s ∈ path.symbols := by
  rw [normalize] at h
  split at h
  · have hdot : (Text.ofString ".").symbols = [dot] := by decide
    rw [hdot, List.mem_singleton] at h
    exact .inr (.inl h)
  · rw [Text.symbols_append] at h
    obtain h | h := List.mem_append.mp h
    · have hroot : ∀ s ∈ (rootSlashes path).symbols, s = slash := by
        rw [rootSlashes]
        split <;> decide
      exact .inl (hroot s h)
    · obtain ⟨p, hp, hs⟩ := List.mem_flatMap.mp h
      obtain rfl | hp := mem_intersperse hp
      · rw [symbols_slash, List.mem_singleton] at hs
        exact .inl hs
      · obtain hp | ⟨hp, -⟩ := mem_collapse hp
        · cases hp
        · obtain ⟨piece, hpiece, rfl⟩ := List.mem_map.mp hp
          exact .inr (.inr (mem_of_mem_splitOn hpiece hs))

theorem mem_symbols_join {directory name : Text} {s : Symbol}
    (h : s ∈ (join directory name).symbols) :
    s = slash ∨ s ∈ directory.symbols ∨ s ∈ name.symbols := by
  rw [join] at h
  split at h
  · exact .inr (.inr h)
  · split at h
    · exact .inr (List.mem_append.mp h)
    · obtain h | h := List.mem_append.mp h
      · exact .inr (.inl h)
      · obtain h | h := List.mem_cons.mp h
        · exact .inl h
        · exact .inr (.inr h)

/-- Whatever holds of slashes and dots and of the symbols of two paths holds of the symbols of one
of them as seen from the other. -/
theorem forall_mem_symbols_absolute {p : Symbol → Prop} {here path : Text} (hslash : p slash)
    (hdot : p dot) (hhere : ∀ s ∈ here.symbols, p s) (hpath : ∀ s ∈ path.symbols, p s) :
    ∀ s ∈ (absolute here path).symbols, p s := by
  intro s hs
  obtain rfl | rfl | hs := mem_symbols_normalize hs
  · exact hslash
  · exact hdot
  · obtain rfl | hs | hs := mem_symbols_join hs
    · exact hslash
    · exact hhere s hs
    · exact hpath s hs

theorem hasHalf_absolute {here path : Text} (hhere : here.hasHalf = false)
    (hpath : path.hasHalf = false) : (absolute here path).hasHalf = false := by
  rw [Text.hasHalf, List.any_eq_false] at *
  exact forall_mem_symbols_absolute (by decide) (by decide) hhere hpath

/-- A path seen from a directory starts from the root, or it is that of the directory with a slash
after it. -/
theorem join_of_isAbsolute {here : Text} (h : isAbsolute here = true) (path : Text) :
    (isAbsolute path = true ∧ join here path = path) ∨
      isAbsolute path = false ∧ ∃ before, (here = before ∨ here = before ++ "/") ∧
        join here path = before ++ "/" ++ path := by
  have hempty := isEmpty_of_isAbsolute h
  rw [join]
  cases habs : isAbsolute path with
  | true => exact .inl ⟨rfl, rfl⟩
  | false =>
    refine .inr ⟨rfl, ?_⟩
    by_cases hlast : here.symbols.getLast? = some slash
    · obtain ⟨before, rfl⟩ := eq_append_slash hlast
      exact ⟨before, .inr rfl, by simp⟩
    · refine ⟨here, .inl rfl, ?_⟩
      ext1
      simp [hempty, hlast]

end Path

/-! ## Names that stay where they are -/

/-- Names from which some that stay where they are have been left out. -/
inductive Thinned : List Text → List Text → Prop where
  | nil : Thinned [] []
  | keep (name : Text) {a b : List Text} (h : Thinned a b) : Thinned (name :: a) (name :: b)
  | skip {name : Text} (hname : (name.isEmpty || name = ".") = true) {a b : List Text}
      (h : Thinned a b) : Thinned (name :: a) b

namespace Thinned

theorem append_left (names : List Text) {a b : List Text} (h : Thinned a b) :
    Thinned (names ++ a) (names ++ b) := by
  induction names with
  | nil => exact h
  | cons name rest ih => exact .keep name ih

theorem filter (names : List Text) :
    Thinned names (names.filter fun p : Text => !p.isEmpty && p != ".") := by
  induction names with
  | nil => exact .nil
  | cons name rest ih =>
    by_cases hskip : (name.isEmpty || name = ".") = true
    · rw [List.filter_cons_of_neg (by grind)]
      exact .skip hskip ih
    · rw [List.filter_cons_of_pos (by grind)]
      exact .keep name ih

theorem eq_nil {b : List Text} (h : Thinned [] b) : b = [] := by
  cases h
  rfl

end Thinned

/-- Arrivals at the same place with fewer names left to follow. -/
inductive Arrival.Thinned : Arrival → Arrival → Prop where
  | folder (place : Trail) : Arrival.Thinned (.folder place) (.folder place)
  | file (place : Trail) (name : Text) (content : Bytes) {a b : List Text}
      (h : Scribe.Thinned a b) :
      Arrival.Thinned (.file place name content a) (.file place name content b)
  | locked (place : Trail) (name : Text) (isFolder : Bool) {a b : List Text}
      (h : Scribe.Thinned a b) :
      Arrival.Thinned (.locked place name isFolder a) (.locked place name isFolder b)
  | link (target : Text) (place : Trail) {a b : List Text} (h : Scribe.Thinned a b) :
      Arrival.Thinned (.link target place a) (.link target place b)
  | absent (place : Trail) (name : Text) {a b : List Text} (h : Scribe.Thinned a b) :
      Arrival.Thinned (.absent place name a) (.absent place name b)

theorem Thinned.follow {a b : List Text} (h : Thinned a b) (place : Trail) :
    Arrival.Thinned (place.follow a) (place.follow b) := by
  induction h generalizing place with
  | nil => exact .folder place
  | skip hname h ih =>
    rw [Trail.follow, if_pos hname]
    exact ih place
  | keep name h ih =>
    rw [Trail.follow, Trail.follow]
    split
    · exact ih place
    · split
      · exact ih place.up
      · split
        · exact ih _
        · exact .file _ _ _ h
        · exact .locked _ _ _ h
        · exact .link _ _ h
        · exact .absent _ _ h

/-- Whether there is anything at a target. -/
def Target.isHeld : Target → Bool
  | .folder _ => true
  | .file _ _ _ slash => !slash
  | .locked _ _ isFolder slash => isFolder || !slash
  | .absent .. => false

/-- Names that stay in place and are all blank stay blank. -/
theorem Thinned.all_isEmpty {a b : List Text} (h : Thinned a b)
    (ha : a.all Text.isEmpty = true) : b.all Text.isEmpty = true := by
  induction h with
  | nil => rfl
  | skip _ _ ih => exact ih (by simpa using (Bool.and_eq_true_iff.mp ha).2)
  | keep name _ ih =>
    obtain ⟨hname, hrest⟩ := Bool.and_eq_true_iff.mp ha
    exact Bool.and_eq_true_iff.mpr ⟨hname, ih hrest⟩

/-- If there is something at the end of some names, there is something without those that stay where
they are. -/
theorem Thinned.resolve {top : Children} {links : Nat} {place : Trail} {a b : List Text}
    (h : Thinned a b) {t : Target} (hheld : t.isHeld = true)
    (hresolve : Scribe.resolve top false links place a = .ok t) :
    ∃ t', Scribe.resolve top false links place b = .ok t' ∧ t'.isHeld = true := by
  have hfollow := h.follow place
  generalize hb : place.follow b = arrival at hfollow
  fun_induction Scribe.resolve top false links place a generalizing b arrival with
  | case1 links place names p heq =>
    rw [heq] at hfollow
    cases hfollow
    exact ⟨t, by rwa [Scribe.resolve, hb], hheld⟩
  | case2 links place names p name content rest heq hrest =>
    -- The path of a file that is held has no slash after it.
    cases hresolve
    have hnil : rest = [] := by simpa [Target.isHeld] using hheld
    rw [heq] at hfollow
    cases hfollow with
    | file _ _ _ hthin =>
      rw [hnil] at hthin
      exact ⟨_, by rw [Scribe.resolve, hb, hthin.eq_nil, hnil]; rfl, hheld⟩
  | case3 => cases hresolve
  | case4 links place names p name isFolder rest heq hrest =>
    cases hresolve
    rw [heq] at hfollow
    cases hfollow with
    | @locked _ _ _ _ rest' hthin =>
      refine ⟨.locked p name isFolder (!rest'.isEmpty), ?_, ?_⟩
      · rw [Scribe.resolve, hb]
        exact if_pos (hthin.all_isEmpty hrest)
      · -- A locked folder may have a slash after it, a locked file has none.
        cases isFolder with
        | true => rfl
        | false =>
          have hnil : rest = [] := by simpa [Target.isHeld] using hheld
          rw [hnil] at hthin
          rw [hthin.eq_nil]
          rfl
  | case5 => cases hresolve
  | case6 links place names p name rest heq hrest =>
    cases hresolve
    cases hheld
  | case7 => cases hresolve
  | case8 links place names target p rest heq hmaking => simp at hmaking
  | case9 => cases hresolve
  | case10 place names target p rest heq hmaking left start =>
    rename_i ih
    rw [heq] at hfollow
    cases hfollow with
    | link _ _ hthin =>
      have hmore := hthin.append_left (Path.pieces target)
      rw [Scribe.resolve, hb]
      exact ih hmore hresolve _ rfl (hmore.follow start)

namespace Volume

variable {v : Volume} {given : Text}

theorem holds_iff {path : Text} :
    v.holds path = true ↔ ∃ disk t, diskPath path = .ok disk ∧ pathError? disk = none ∧
      v.resolveNames (v.namesFromTop disk) = .ok t ∧ t.isHeld = true := by
  simp only [holds, find, bind, Except.bind]
  cases diskPath path with
  | error e => simp
  | ok disk =>
    simp only [resolvePath, Except.ok.injEq, exists_and_left, exists_eq_left']
    cases pathError? disk with
    | some cause => simp [Except.mapError]
    | none =>
      cases v.resolveNames (v.namesFromTop disk) with
      | error cause => simp [Except.mapError]
      | ok t => cases t <;> simp [Except.mapError, Target.isHeld]

/-- A working directory as systems have it: a path from the root that can be printed, without a
way up. -/
structure Based (v : Volume) : Prop where
  isAbsolute : Path.isAbsolute v.workingDirectory = true
  no_half : v.workingDirectory.hasHalf = false
  no_nul : Path.hasNul v.workingDirectory = false
  no_dots : (".." : Text) ∉ Path.pieces v.workingDirectory

/-- A path as it is seen from the working directory. -/
theorem join_spec (hv : v.Based) (hdots : (".." : Text) ∉ Path.pieces given) :
    let whole := Path.join v.workingDirectory given
    Path.isAbsolute whole = true ∧ (".." : Text) ∉ Path.pieces whole ∧
      Path.components whole =
        (v.namesFromTop given).filter (fun p : Text => !p.isEmpty && p != ".") := by
  intro whole
  obtain ⟨habs, hwhole⟩ | ⟨habs, before, hbefore, hwhole⟩ :=
    Path.join_of_isAbsolute hv.isAbsolute given
  · simp [whole, hwhole, habs, hdots, Path.components, namesFromTop]
  · have hpieces : Path.pieces v.workingDirectory = Path.pieces before ∨
        Path.pieces v.workingDirectory = Path.pieces before ++ [("" : Text)] := by
      obtain hbefore | hbefore := hbefore
      · exact .inl (by rw [hbefore])
      · exact .inr (by rw [hbefore, Path.pieces_append_slash])
    have hroot : Path.isAbsolute (before ++ "/") = true := by
      have hdirectory := hv.isAbsolute
      obtain hbefore | hbefore := hbefore
      · rw [hbefore] at hdirectory
        exact Path.isAbsolute_append hdirectory _
      · rwa [hbefore] at hdirectory
    have hno := hv.no_dots
    simp only [whole, hwhole, Path.components, Path.pieces_slash, namesFromTop, habs,
      Path.isAbsolute_append hroot, Bool.false_eq_true, if_false]
    refine ⟨trivial, ?_, ?_⟩
    · grind
    · obtain hpieces | hpieces := hpieces
      · rw [hpieces]
      · rw [hpieces, List.append_assoc, List.filter_append, List.filter_append, List.filter_append]
        rfl

theorem plain_of_mem {path : Text} (hhalf : path.hasHalf = false)
    (hnul : Path.hasNul path = false) {s : Symbol} (hs : s ∈ path.symbols) :
    s.isHalf = false ∧ s ≠ .char (Char.ofNat 0) := by
  rw [Path.hasNul, List.contains_eq_mem, decide_eq_false_iff_not] at hnul
  rw [Text.hasHalf, List.any_eq_false] at hhalf
  refine ⟨by simpa using hhalf s hs, ?_⟩
  rintro rfl
  exact hnul hs

theorem diskPath_of_plain {path : Text}
    (h : ∀ s ∈ path.symbols, s.isHalf = false ∧ s ≠ .char (Char.ofNat 0)) :
    diskPath path = .ok path := by
  have hhalf : path.hasHalf = false := by
    rw [Text.hasHalf, List.any_eq_false]
    exact fun s hs => by simp [(h s hs).1]
  have hnul : Path.hasNul path = false := by
    rw [Path.hasNul, List.contains_eq_mem, decide_eq_false_iff_not]
    exact fun hmem => (h _ hmem).2 rfl
  exact diskPath_eq_ok_iff.mpr ⟨by simp [Utf8.kept, hhalf], hnul⟩

/-- Empty names at the start change nothing. -/
theorem resolveNames_append_left (v : Volume) {blanks : List Text} (h : ∀ b ∈ blanks, b = "")
    (names : List Text) : v.resolveNames (blanks ++ names) = v.resolveNames names := by
  have hfollow : Trail.follow ⟨v.top, []⟩ (blanks ++ names) = Trail.follow ⟨v.top, []⟩ names := by
    induction blanks with
    | nil => rfl
    | cons b rest ih =>
      rw [h b List.mem_cons_self, List.cons_append, Trail.follow, if_pos (by decide)]
      exact ih fun c hc => h c (List.mem_cons_of_mem _ hc)
  rw [resolveNames, resolveNames, resolve, resolve, hfollow]

/-- What is at a path without a way up is also at its normal form, if that is not too long. -/
theorem holds_absolute (hv : v.Based) (hprintable : given.hasHalf = false)
    (hdots : (".." : Text) ∉ Path.pieces given)
    (hsize : diskSize (Path.absolute v.workingDirectory given) < maxPathSize)
    (hholds : v.holds given = true) :
    v.holds (Path.absolute v.workingDirectory given) = true := by
  obtain ⟨habs, hno, hcomponents⟩ := join_spec hv hdots
  obtain ⟨disk, t, hdisk, -, hresolve, hheld⟩ := holds_iff.mp hholds
  obtain ⟨hkept, hnul⟩ := diskPath_eq_ok_iff.mp hdisk
  obtain rfl : given = disk := by simpa [Utf8.kept, hprintable] using hkept
  obtain ⟨blanks, hblanks, hpieces⟩ := Path.pieces_normalize habs hno
  have hplain : diskPath (Path.absolute v.workingDirectory given) =
      .ok (Path.absolute v.workingDirectory given) :=
    diskPath_of_plain (Path.forall_mem_symbols_absolute (by decide) (by decide)
      (fun _ hs => plain_of_mem hv.no_half hv.no_nul hs)
      (fun _ hs => plain_of_mem hprintable hnul hs))
  obtain ⟨t', hthin, hheld'⟩ := (Thinned.filter _).resolve hheld hresolve
  refine holds_iff.mpr ⟨_, t', hplain, ?_, ?_, hheld'⟩
  · exact pathError?_eq_none_iff.mpr ⟨(Path.trimmed_absolute _ _).nonempty, hsize⟩
  · rw [namesFromTop, Path.absolute, Path.isAbsolute_normalize habs, if_pos rfl, hpieces,
      resolveNames_append_left v hblanks, hcomponents]
    exact hthin

end Volume

end Scribe
