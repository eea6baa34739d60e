import Mathlib.Data.List.TakeWhile
import Scribe.Java.Server
import Scribe.Proofs.Searches
import Scribe.Proofs.Text.Lowercase

/-!
# The languages of file names

The language of a file is told by its extension, and the extension by the last dot of its name. A
search tells it twice: it selects a file by its bare name, and then tells the language from the path
to which the name was joined. Both are the same, since the extension of a path is that of its last
name.

The servers of Java documentation select files in another way, by the last five symbols as they
are. The extension is put into lower case first, so it is taken for that of Java in any case of its
letters, but no other characters can stand for them. And a name that is nothing but an extension has
none.

## Main results

* `Path.nameSuffix_cases`: the suffix of a name, by its last dot.
* `Language.ofPath_eq_java_iff`: the names of files of Java.
* `Workspace.languages_agree`: both ways to tell a language agree.
* `Language.java_names`: how the files of Java and those of the servers relate.
-/

namespace Scribe

/-! ## The last dot of a name -/

namespace Path

/-- A name that is cut at its last dot. -/
structure CutAtDot (name stem tail : Text) : Prop where
  eq : name = stem ++ "." ++ tail
  last : dot ∉ tail.symbols

@[simp]
theorem symbols_dot : (Text.ofString ".").symbols = [dot] := by decide

theorem exists_cutAtDot {name : Text} (h : dot ∈ name.symbols) :
    ∃ stem tail, CutAtDot name stem tail := by
  obtain ⟨after, before, heq, hdot⟩ := List.eq_append_cons_of_mem (List.mem_reverse.mpr h)
  refine ⟨⟨before.reverse⟩, ⟨after.reverse⟩, ?_, by simpa using hdot⟩
  ext1
  simpa using congrArg List.reverse heq

theorem CutAtDot.nameSuffix_eq {name stem tail : Text} (h : CutAtDot name stem tail) :
    nameSuffix name = if stem.isEmpty || tail.isEmpty then ("" : Text) else "." ++ tail := by
  have hall : ∀ s ∈ tail.symbols.reverse, decide (s ≠ dot) = true := by
    intro s hs
    rw [decide_eq_true_eq]
    rintro rfl
    exact h.last (List.mem_reverse.mp hs)
  have htail : name.symbols.reverse.takeWhile (· ≠ dot) = tail.symbols.reverse := by
    simp only [h.eq, Text.symbols_append, symbols_dot, List.reverse_append,
      List.reverse_singleton, List.takeWhile_append_of_pos hall]
    simp
  have hlength : name.symbols.length - tail.symbols.length = stem.symbols.length + 1 := by
    simp [h.eq]
    omega
  simp only [nameSuffix, htail, List.reverse_reverse, hlength]
  cases hstem : stem.symbols <;> cases htail : tail.symbols <;>
    simp [Text.isEmpty, hstem, htail, Text.ext_iff]

theorem nameSuffix_of_notMem {name : Text} (h : dot ∉ name.symbols) : nameSuffix name = "" := by
  have hall : name.symbols.reverse.takeWhile (· ≠ dot) = name.symbols.reverse := by
    rw [List.takeWhile_eq_self_iff]
    intro s hs
    rw [decide_eq_true_eq]
    rintro rfl
    exact h (List.mem_reverse.mp hs)
  simp only [nameSuffix, hall, List.reverse_reverse, Nat.sub_self]
  rfl

/-- A name has a suffix exactly if something stands before and after its last dot. -/
theorem nameSuffix_cases (name : Text) :
    nameSuffix name = "" ∧
        (∀ stem tail, CutAtDot name stem tail → stem.isEmpty = true ∨ tail.isEmpty = true) ∨
      ∃ stem tail, CutAtDot name stem tail ∧ stem.isEmpty = false ∧ tail.isEmpty = false ∧
        nameSuffix name = "." ++ tail := by
  by_cases hall : ∀ stem tail, CutAtDot name stem tail → stem.isEmpty = true ∨ tail.isEmpty = true
  · refine .inl ⟨?_, hall⟩
    by_cases hdot : dot ∈ name.symbols
    · obtain ⟨stem, tail, hcut⟩ := exists_cutAtDot hdot
      rw [hcut.nameSuffix_eq, if_pos (by simpa using hall stem tail hcut)]
    · exact nameSuffix_of_notMem hdot
  · push Not at hall
    obtain ⟨stem, tail, hcut, hstem, htail⟩ := hall
    refine .inr ⟨stem, tail, hcut, by simpa using hstem, by simpa using htail, ?_⟩
    rw [hcut.nameSuffix_eq, if_neg (by simp [hstem, htail])]

end Path

/-! ## Extensions -/

namespace Language

/-- The extension of a name: a dot and the lower-case form of what follows it. -/
theorem extensionOf_cases {name : Text} (h : Path.IsName name) :
    extensionOf name = "" ∧ (∀ stem tail, Path.CutAtDot name stem tail →
        stem.isEmpty = true ∨ tail.isEmpty = true) ∨
      ∃ stem tail, Path.CutAtDot name stem tail ∧ stem.isEmpty = false ∧ tail.isEmpty = false ∧
        extensionOf name = "." ++ (⟨Text.lowerAfter [Path.dot] tail.symbols⟩ : Text) := by
  rw [extensionOf, Path.suffix_name h]
  obtain ⟨hsuffix, hall⟩ | ⟨stem, tail, hcut, hstem, htail, hsuffix⟩ := Path.nameSuffix_cases name
  · exact .inl ⟨by rw [hsuffix]; rfl, hall⟩
  · exact .inr ⟨stem, tail, hcut, hstem, htail, by rw [hsuffix]; rfl⟩

end Language

/-- The language of a file is the same whether it is told from the bare name or from the path that
the name is joined to. So a search extracts the methods of a file by the language for which it has
selected the file. The extension that tells the language is empty, or a dot and a text without dots
and slashes, and it is not empty exactly if something stands before and after the last dot of the
name. -/
theorem Workspace.languages_agree :
    (∀ root name : Text, Path.IsName name →
      Language.extensionOf (Path.join root name) = Language.extensionOf name ∧
      (∀ (w : Workspace) (content : Bytes), w.contentMethods (Path.join root name) content =
        extractMethods w.toolkit (.known (Language.ofPath name)) content) ∧
      (Language.extensionOf name = "" ∨ ∃ tail : Text, Language.extensionOf name = "." ++ tail ∧
        tail.isEmpty = false ∧ Path.dot ∉ tail.symbols ∧ Path.slash ∉ tail.symbols) ∧
      (Language.extensionOf name ≠ "" ↔ ∃ stem tail, Path.CutAtDot name stem tail ∧
        stem.isEmpty = false ∧ tail.isEmpty = false)) ∧
    ∀ (w : Workspace) (r : Registry) (directory : Text) (l : Language)
      (entries : List FileEntry), w.volume.WellFormed →
      w.search r directory l = .ok (.ok entries) → ∀ e ∈ entries,
        (∃ visit ∈ w.visits directory, ∃ name ∈ visit.files,
          Language.ofPath name = l ∧ e.path = Path.join visit.directory name) ∧
        e.outcome = w.fileMethods e.path ∧
        ∀ content, w.contentMethods e.path content =
          extractMethods w.toolkit (.known l) content := by
  refine ⟨fun root name h => ⟨Language.extensionOf_join root h, fun w content => ?_, ?_⟩,
    fun w r directory l entries hv hsearch e he => ?_⟩
  · rw [contentMethods, Language.ofPath_join root h]
  · obtain ⟨hempty, hall⟩ | ⟨stem, tail, hcut, hstem, htail, hext⟩ :=
      Language.extensionOf_cases h
    · refine ⟨.inl hempty, iff_of_false (fun hne => hne hempty) ?_⟩
      rintro ⟨stem, tail, hcut, hstem, htail⟩
      simpa [hstem, htail] using hall stem tail hcut
    · have hslash : Path.slash ∉ tail.symbols := fun hmem => h.no_slash (by simp [hcut.eq, hmem])
      refine ⟨.inr ⟨_, hext, ?_, ?_, ?_⟩, iff_of_true ?_ ⟨stem, tail, hcut, hstem, htail⟩⟩
      · simpa [Text.isEmpty, Text.lowerAfter_eq_nil_iff] using htail
      · exact fun hmem => hcut.last ((Text.mem_lowerAfter_char_iff (by decide) _ _).mp hmem)
      · exact fun hmem => hslash ((Text.mem_lowerAfter_char_iff (by decide) _ _).mp hmem)
      · rw [hext]
        intro hempty
        simpa using congrArg Text.symbols hempty
  · obtain ⟨hthere, -, rfl⟩ := search_eq_ok_iff.mp hsearch
    obtain ⟨visits, hw⟩ := walk_of_holds hthere
    have hvisits : w.visits directory = visits := by rw [Workspace.visits, hw]
    rw [hvisits] at he ⊢
    obtain ⟨hselected, houtcome⟩ := mem_entries_iff.mp he
    obtain ⟨visit, hvisit, name, hname, hl, hpath⟩ := mem_selected_iff.mp hselected
    refine ⟨⟨visit, hvisit, name, hname, hl, hpath.symm⟩, houtcome, fun content => ?_⟩
    rw [contentMethods, ofPath_of_mem_selected hv hw hselected]

/-- A name with two dots in a folder with one more, whose extension is written in capitals. The name
that begins with its only dot is not selected. -/
theorem dotted_agree :
    let name : Text := "a.b.PY"
    let w : Workspace := ⟨⟨[("w.d", .folder [(name, .file [1]), (".py", .file [])])], "/"⟩,
      Toolkit.fresh true⟩
    Path.IsName name ∧
      Language.extensionOf (Path.join "//w.d/" name) = Language.extensionOf name ∧
      Language.extensionOf name ≠ "" ∧
      w.volume.WellFormed ∧ ∃ entries, w.search .fresh "/w.d" .python = .ok (.ok entries) ∧
        entries.map (·.path) = ["/w.d/a.b.PY"] ∧
        ∀ e ∈ entries, ∀ content, w.contentMethods e.path content =
          extractMethods w.toolkit (.known .python) content := by
  intro name w
  have hname : Path.IsName name := by decide
  have hv : w.volume.WellFormed := by decide
  have hsearch : w.search .fresh "/w.d" .python = .ok (.ok (w.entries .python (w.visits "/w.d"))) :=
    Workspace.search_eq_ok_iff.mpr ⟨by decide +kernel, by decide +kernel, rfl⟩
  obtain ⟨hnames, hsearches⟩ := Workspace.languages_agree
  obtain ⟨hjoined, -, -, hiff⟩ := hnames "//w.d/" name hname
  refine ⟨hname, hjoined, ?_, hv, _, hsearch, by decide +kernel, fun e he => ?_⟩
  · exact hiff.mpr ⟨"a.b", "PY", ⟨by decide, by decide⟩, by decide, by decide⟩
  · exact (hsearches w .fresh "/w.d" .python _ hv hsearch e he).2.2

/-! ## Names of Java -/

namespace Text

/-- The last symbols of a text. -/
def ending (n : Nat) (t : Text) : Text := ⟨t.symbols.drop (t.symbols.length - n)⟩

theorem ending_append (a b : Text) : (a ++ b).ending b.symbols.length = b := by
  simp [ending]

theorem append_ending (n : Nat) (t : Text) :
    (⟨t.symbols.take (t.symbols.length - n)⟩ : Text) ++ t.ending n = t := by
  ext1
  simp [ending]

theorem endsWith_iff {t u : Text} : t.endsWith u = true ↔ t.ending u.symbols.length = u := by
  rw [endsWith, List.isSuffixOf_iff_suffix, List.suffix_iff_eq_drop, Text.ext_iff, ending, eq_comm]

end Text

/-- The suffix of a name is `kind` in some case exactly if the name ends so, and something stands
before it. -/
theorem Path.asciiLower_nameSuffix_iff {kind : Text} (hne : kind.isEmpty = false)
    (hdot : dot ∉ kind.symbols) (name : Text) :
    (nameSuffix name).asciiLower = "." ++ kind ↔
      kind.symbols.length + 1 < name.symbols.length ∧
        (name.ending (kind.symbols.length + 1)).asciiLower = "." ++ kind := by
  have hsymbols : ("." ++ kind : Text).symbols = dot :: kind.symbols := rfl
  constructor
  · intro hsuffix
    obtain ⟨hempty, -⟩ | ⟨stem, tail, hcut, hstem, -, htail⟩ := nameSuffix_cases name
    · rw [hempty] at hsuffix
      simpa [Text.asciiLower] using congrArg Text.symbols hsuffix
    · rw [htail] at hsuffix
      have hlength : ("." ++ tail : Text).symbols.length = kind.symbols.length + 1 := by
        simpa [Text.asciiLower, hsymbols] using congrArg (·.symbols.length) hsuffix
      have hending := Text.ending_append stem ("." ++ tail)
      rw [← Text.append_assoc, ← hcut.eq, hlength] at hending
      refine ⟨?_, by rw [hending, hsuffix]⟩
      have hpos := List.length_pos_iff.mpr (symbols_ne_nil hstem)
      simp only [hcut.eq, Text.symbols_append, symbols_dot, List.length_append] at hlength ⊢
      omega
  · rintro ⟨hlength, hending⟩
    -- The ending is a dot and a tail without dots, so it is the suffix.
    have hname := Text.append_ending (kind.symbols.length + 1) name
    have hmapped := congrArg Text.symbols hending
    rw [Text.asciiLower, hsymbols] at hmapped
    obtain ⟨s, tail, hcons, hs, htail⟩ := List.map_eq_cons_iff.mp hmapped
    obtain rfl : s = dot := (Text.mapChar_toLower_eq_char_iff (by decide)).mp hs
    have hcut : CutAtDot name ⟨name.symbols.take (name.symbols.length - (kind.symbols.length + 1))⟩
        ⟨tail⟩ := by
      refine ⟨?_, fun hmem => hdot ?_⟩
      · rw [Text.append_assoc]
        refine hname.symm.trans (congrArg (_ ++ ·) ?_)
        ext1
        rw [hcons]
        rfl
      · rw [← htail]
        exact List.mem_map.mpr ⟨dot, hmem, rfl⟩
    have hrest : tail ≠ [] := by
      rintro rfl
      exact symbols_ne_nil hne htail.symm
    have hstem : name.symbols.take (name.symbols.length - (kind.symbols.length + 1)) ≠ [] := by
      rw [← List.length_pos_iff, List.length_take]
      omega
    rw [hcut.nameSuffix_eq, if_neg (by simp [Text.isEmpty, hrest, hstem]), ← hending]
    refine congrArg Text.asciiLower (Text.ext ?_)
    rw [hcons]
    rfl

namespace Language

/-- The extension of Java in any case of its letters, and nothing else, stands for Java. -/
theorem ofExtension_eq_java_iff (extension : Text) :
    ofExtension extension = .java ↔ extension.asciiLower = ".java" := by
  have hown : ∀ e ∈ extensions, e.2 = .java → e.1 = ".java" := by decide
  have hfound : ((extensions.find? fun e => (e.1 : Text) = (".java" : Text)).map (·.2)).getD
      unknown = .java := by decide
  rw [← Text.lower_eq_iff (by decide), ofExtension]
  generalize Text.lower extension = small
  constructor
  · intro hjava
    cases hfind : extensions.find? fun e => (e.1 : Text) = small with
    | none => simp [hfind] at hjava
    | some e =>
      have hsmall := List.find?_some hfind
      rw [decide_eq_true_eq] at hsmall
      rw [← hsmall, hown e (List.mem_of_find?_eq_some hfind) (by simpa [hfind] using hjava)]
  · rintro rfl
    exact hfound

/-- The files of Java are those whose names end in the extension of Java, in any case of its
letters, with something before it. -/
theorem ofPath_eq_java_iff {name : Text} (h : Path.IsName name) :
    ofPath name = .java ↔
      5 < name.symbols.length ∧ (name.ending 5).asciiLower = ".java" := by
  have hplain : ∀ s ∈ (".java" : Text).symbols, s.hasAsciiSources = true := by decide
  rw [ofPath, ofExtension_eq_java_iff, extensionOf, Text.asciiLower_lower,
    Text.lower_eq_iff hplain, Path.suffix_name h]
  exact @Path.asciiLower_nameSuffix_iff "java" (by decide) (by decide) name

/-- The servers of Java documentation look at the last five symbols as they are. -/
theorem isJavaName_iff {name : Text} :
    JavaServer.isJavaName name = true ↔ name.ending 5 = ".java" :=
  Text.endsWith_iff

/-- Only a dot can be at the front of an ending that is the extension of Java in some case, and it
is no capital. -/
theorem exists_capital_iff {name : Text} (hlength : 5 < name.symbols.length)
    (hending : (name.ending 5).asciiLower = ".java") :
    (∃ s ∈ (name.ending 5).symbols, s.satisfies Char.isUpper = true) ↔
      ∃ s ∈ (name.ending 4).symbols, s.satisfies Char.isUpper = true := by
  have hsymbols : (".java" : Text).symbols = Path.dot :: ("java" : Text).symbols := by decide
  have hmapped := congrArg Text.symbols hending
  rw [Text.asciiLower, hsymbols] at hmapped
  obtain ⟨s, tail, hcons, hs, -⟩ := List.map_eq_cons_iff.mp hmapped
  obtain rfl : s = Path.dot := (Text.mapChar_toLower_eq_char_iff (by decide)).mp hs
  have htail : (name.ending 4).symbols = tail := by
    have hdrop : (name.ending 4).symbols = (name.ending 5).symbols.drop 1 := by
      have hsub : name.symbols.length - 4 = name.symbols.length - 5 + 1 := by omega
      simp only [Text.ending, List.drop_drop, hsub]
    rw [hdrop, hcons]
    rfl
  have hnot : Path.dot.satisfies Char.isUpper = false := by decide
  rw [hcons, htail]
  simp [hnot]

/-- A name is that of a file of Java exactly if it is longer than the extension of Java and ends in
it, in any case of its letters; no other characters stand for them. So of the names that the servers
of Java documentation take, just the one that is nothing but the extension is not that of a file of
Java. Of the names of files of Java, they do not take those with a capital among the last four
symbols. -/
theorem java_names {name : Text} (h : Path.IsName name) :
    (∀ extension : Text, ofExtension extension = .java ↔ extension.asciiLower = ".java") ∧
    (ofExtension (extensionOf name) = .java ↔
      5 < name.symbols.length ∧ (name.ending 5).asciiLower = ".java") ∧
    (JavaServer.isJavaName name = true →
      (ofExtension (extensionOf name) = .java ↔ name ≠ ".java")) ∧
    (ofExtension (extensionOf name) = .java →
      (JavaServer.isJavaName name = false ↔
        ∃ s ∈ (name.ending 4).symbols, s.satisfies Char.isUpper = true)) := by
  have hjava := ofPath_eq_java_iff h
  rw [ofPath] at hjava
  refine ⟨ofExtension_eq_java_iff, hjava, fun htaken => ?_, fun hof => ?_⟩
  · have hending := isJavaName_iff.mp htaken
    have hsmall : Text.asciiLower ".java" = ".java" := by decide
    rw [hjava, hending]
    constructor
    · rintro ⟨hlength, -⟩ rfl
      exact absurd hlength (by decide)
    · intro hne
      refine ⟨?_, hsmall⟩
      by_contra hlength
      refine hne (Eq.trans (Text.ext ?_) hending)
      rw [Text.ending, Nat.sub_eq_zero_of_le (by omega)]
      rfl
  · obtain ⟨hlength, hending⟩ := hjava.mp hof
    rw [← exists_capital_iff hlength hending]
    calc JavaServer.isJavaName name = false
        ↔ ¬ (name.ending 5).asciiLower = name.ending 5 := by
          rw [← Bool.not_eq_true, isJavaName_iff, hending, eq_comm]
      _ ↔ ∃ s ∈ (name.ending 5).symbols, s.satisfies Char.isUpper = true := by
          rw [Text.asciiLower_eq_self_iff]
          push Not
          simp

/-- A file of Java with capitals in its extension is one that the servers skip. The bare extension
is a name that only the servers take. -/
theorem capital_java_name :
    (Path.IsName "Main.JaVa" ∧ ofExtension (extensionOf "Main.JaVa") = .java ∧
      JavaServer.isJavaName "Main.JaVa" = false) ∧
    Path.IsName ".java" ∧ JavaServer.isJavaName ".java" = true ∧
      ofExtension (extensionOf ".java") ≠ .java := by
  have hcapital : Path.IsName "Main.JaVa" := by decide
  have hbare : Path.IsName ".java" := by decide
  obtain ⟨-, hjava, -, hskipped⟩ := java_names hcapital
  have hof := hjava.mpr ⟨by decide, by decide⟩
  obtain ⟨-, -, htaken, -⟩ := java_names hbare
  have hends : JavaServer.isJavaName ".java" = true := by decide
  refine ⟨⟨hcapital, hof, (hskipped hof).mpr (by decide)⟩, hbare, hends, fun hjava => ?_⟩
  exact (htaken hends).mp hjava rfl

end Language

end Scribe
