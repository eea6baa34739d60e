import Mathlib.Data.List.Forall2
import Scribe.Proofs.Basic
import Scribe.Proofs.Source.Places
import Scribe.Proofs.Text.Utf8
import Scribe.Source.Extraction

/-!
# What extraction finds

Extraction goes through the method nodes of a tree in preorder. At each it reads some pieces of the
source: the name, and if this is not empty, the documentation and the method itself. The first piece
that is no text ends it; if there is none, every node with a name gives one method, which repeats
the bytes of its pieces.

## Main results

* `Extractor.methodAt_cases`, `Extractor.methodsAt_cases`: what is found at some sites.
* `Extractor.parse_cases`: what is found in a source that has a tree.
* `extracted_by_place`: extraction as a function of the tree.
-/

namespace Scribe

/-- Whether bytes are the written form of a text. -/
def Utf8.IsText (bytes : Bytes) : Prop := ∃ s, Utf8.encode s = bytes

/-- Whether some piece of a source is no text, and the first such piece has a fault. -/
def FirstFault (source : Bytes) (pieces : List Range) (fault : Utf8.Fault) : Prop :=
  ∃ before piece after, pieces = before ++ piece :: after ∧
    (∀ r ∈ before, Utf8.IsText (r.bytes source)) ∧ piece.text source = .error fault

theorem Range.text_eq_ok_iff {source : Bytes} {r : Range} {s : String} :
    r.text source = .ok s ↔ Utf8.encode s = r.bytes source :=
  Utf8.decodeText_eq_ok_iff

namespace FirstFault

variable {source : Bytes} {pieces : List Range} {fault : Utf8.Fault}

theorem singleton {r : Range} (h : r.text source = .error fault) : FirstFault source [r] fault :=
  ⟨[], r, [], rfl, by simp, h⟩

theorem append_right (h : FirstFault source pieces fault) (more : List Range) :
    FirstFault source (pieces ++ more) fault := by
  obtain ⟨before, piece, after, rfl, hbefore, hfault⟩ := h
  exact ⟨before, piece, after ++ more, by simp, hbefore, hfault⟩

theorem append_left (h : FirstFault source pieces fault) {first : List Range}
    (hfirst : ∀ r ∈ first, Utf8.IsText (r.bytes source)) :
    FirstFault source (first ++ pieces) fault := by
  obtain ⟨before, piece, after, rfl, hbefore, hfault⟩ := h
  exact ⟨first ++ before, piece, after, by simp, List.forall_mem_append.mpr ⟨hfirst, hbefore⟩,
    hfault⟩

/-- Where there is a fault, not every piece is a text. -/
theorem not_forall (h : FirstFault source pieces fault) :
    ¬ ∀ r ∈ pieces, Utf8.IsText (r.bytes source) := by
  obtain ⟨before, piece, after, rfl, -, hfault⟩ := h
  intro hall
  obtain ⟨s, hs⟩ := hall piece (by simp)
  cases hfault.symm.trans (Range.text_eq_ok_iff.mpr hs)

end FirstFault

/-! ## What stands at a site -/

/-- Where the named sibling before a node stands, if it is of the kind of a comment. -/
def Node.Site.commentBefore (kind : String) (site : Node.Site) : Option Range :=
  site.previous.bind fun n => if n.kind = kind then some n.range else none

namespace Extractor

variable {x : Extractor} {source : Bytes} {site : Node.Site}

/-- The node with the name of a method: the first child of the right kind, or in languages with
declarators the first identifier below any declarator. -/
def nameOf (x : Extractor) (n : Node) : Option Node :=
  if x.language = .c ∨ x.language = .cpp then
    ((n.children.filter (·.kind = "function_declarator")).flatMap (·.children)).find?
      (·.kind = "identifier")
  else n.children.find? (·.kind = x.rules.name)

/-- What the query captures in a node, if there is a query. -/
def captured (x : Extractor) (n : Node) : List Range := if x.seesDocstrings then n.captures else []

/-- Where the documentation of a method stands: in the first capture if there is any, else in the
comment before it. -/
def docOf (x : Extractor) (site : Node.Site) : Option Range :=
  (x.captured site.node).head?.or (site.commentBefore x.rules.comment)

/-- Whether a method has a name. -/
def hasName (x : Extractor) (source : Bytes) (site : Node.Site) : Bool :=
  (x.nameOf site.node).any fun n => !(n.range.bytes source).isEmpty

/-- The pieces of a source that are read at a site, in order. -/
def pieces (x : Extractor) (source : Bytes) (site : Node.Site) : List Range :=
  ((x.nameOf site.node).map (·.range)).toList ++
    if x.hasName source site then (x.docOf site).toList ++ [site.node.range] else []

/-- A method that repeats what stands at a site. -/
structure Describes (x : Extractor) (source : Bytes) (site : Node.Site) (m : Method) : Prop where
  name : (x.nameOf site.node).map (·.range.bytes source) = some (Utf8.encode m.name)
  docComment : (x.docOf site).map (·.bytes source) = m.docComment.map Utf8.encode
  sourceCode : site.node.range.bytes source = Utf8.encode m.sourceCode
  startLine : site.node.startRow = m.startLine
  endLine : site.node.stopRow = m.endLine

theorem nameNode?_eq (x : Extractor) (n : Node) : x.nameNode? n = x.nameOf n := by
  unfold nameNode? nameOf
  have hlanguage : x.language.hasDeclarators = true ↔ x.language = .c ∨ x.language = .cpp := by
    cases x.language <;> simp [Language.hasDeclarators]
  by_cases h : x.language.hasDeclarators = true
  · rw [if_pos h, if_pos (hlanguage.mp h), List.find?_flatMap]
  · rw [if_neg h, if_neg (fun h' => h (hlanguage.mpr h'))]

theorem docRange?_eq (x : Extractor) (site : Node.Site) : x.docRange? site = x.docOf site := by
  have hcomment : (site.previous.filter (·.kind = x.rules.comment)).map (·.range) =
      site.commentBefore x.rules.comment := by
    unfold Node.Site.commentBefore
    cases site.previous with
    | none => rfl
    | some n => by_cases h : n.kind = x.rules.comment <;> simp [h, Option.filter]
  unfold docRange? docOf captured
  cases x.seesDocstrings with
  | false => simpa using hcomment
  | true =>
    cases site.node.captures with
    | nil => simpa using hcomment
    | cons capture rest => rfl

theorem hasName_iff : x.hasName source site = true ↔
    ∃ child, x.nameOf site.node = some child ∧ child.range.bytes source ≠ [] := by
  simp [hasName, Option.any_eq_true]

theorem hasName_of_text {child : Node} {s : String} (h : x.nameOf site.node = some child)
    (hs : Utf8.encode s = child.range.bytes source) : x.hasName source site = !decide (s = "") := by
  rw [hasName, h, Option.any_some, ← hs]
  by_cases hempty : s = ""
  · subst hempty
    rfl
  · -- No bytes are read as the empty text, and as no other.
    have hne : Utf8.encode s ≠ [] := by
      intro hnil
      have hread : Utf8.decodeText [] = .ok s := Utf8.decodeText_eq_ok_iff.mpr hnil
      cases hread
      exact hempty rfl
    simp [hempty, hne]

/-! ## What is read at a site -/

theorem methodAt_of_nameless (h : x.nameOf site.node = none) :
    x.methodAt source site = .ok none := by
  rw [methodAt, name, nameNode?_eq, h]
  rfl

theorem methodAt_of_fault {child : Node} {fault : Utf8.Fault} (h : x.nameOf site.node = some child)
    (hfault : child.range.text source = .error fault) : x.methodAt source site = .error fault := by
  rw [methodAt, name, nameNode?_eq, h]
  simp only [Node.text, hfault, Functor.map, Except.map, bind, Except.bind]

/-- What is read once the name of a method is known. -/
def details (x : Extractor) (source : Bytes) (site : Node.Site) (name : String) :
    Except Utf8.Fault Method := do
  let doc ← x.docComment source site
  let code ← site.node.text source
  return ⟨name, doc, code, site.node.startRow, site.node.stopRow⟩

theorem methodAt_of_text {child : Node} {s : String} (h : x.nameOf site.node = some child)
    (hs : child.range.text source = .ok s) :
    x.methodAt source site = if s = "" then .ok none else some <$> x.details source site s := by
  have hchild : child.text source = .ok s := hs
  rw [methodAt, name, nameNode?_eq, h]
  simp only [hchild, Functor.map, Except.map]
  by_cases hempty : s = ""
  · subst hempty
    rfl
  · rw [if_neg hempty, details]
    simp only [bind, Except.bind]
    cases x.docComment source site with
    | error fault => rfl
    | ok doc => cases site.node.text source <;> rfl

/-- The documentation that is read repeats its bytes, or it cannot be read. -/
theorem docComment_cases (x : Extractor) (source : Bytes) (site : Node.Site) :
    (∃ doc, x.docComment source site = .ok doc ∧
      (∀ r ∈ (x.docOf site).toList, Utf8.IsText (r.bytes source)) ∧
      (x.docOf site).map (·.bytes source) = doc.map Utf8.encode) ∨
    ∃ fault, x.docComment source site = .error fault ∧
      FirstFault source (x.docOf site).toList fault := by
  rw [docComment, docRange?_eq]
  cases x.docOf site with
  | none => exact .inl ⟨none, rfl, by simp, rfl⟩
  | some r =>
    cases hr : r.text source with
    | ok s =>
      have hencode := Range.text_eq_ok_iff.mp hr
      exact .inl ⟨some s, by simp [hr, Functor.map, Except.map], by simp [Utf8.IsText, ← hencode],
        by simp [hencode]⟩
    | error fault => exact .inr ⟨fault, by simp [hr, Functor.map, Except.map], .singleton hr⟩

/-- The documentation is read before the method itself, so its fault comes first. -/
theorem details_cases {child : Node} {s : String} (h : x.nameOf site.node = some child)
    (hs : Utf8.encode s = child.range.bytes source) :
    (∃ m, x.details source site s = .ok m ∧
      (∀ r ∈ (x.docOf site).toList ++ [site.node.range], Utf8.IsText (r.bytes source)) ∧
      x.Describes source site m) ∨
    ∃ fault, x.details source site s = .error fault ∧
      FirstFault source ((x.docOf site).toList ++ [site.node.range]) fault := by
  unfold details
  obtain ⟨doc, hdoc, htext, hbytes⟩ | ⟨fault, hdoc, hfault⟩ := x.docComment_cases source site
  · cases hcode : site.node.range.text source with
    | ok code =>
      have hown := Range.text_eq_ok_iff.mp hcode
      refine .inl ⟨_, by rw [hdoc, Node.text, hcode]; rfl, ?_, ?_⟩
      · exact List.forall_mem_append.mpr ⟨htext, List.forall_mem_singleton.mpr ⟨code, hown⟩⟩
      · exact ⟨by simp [h, hs], hbytes, hown.symm, rfl, rfl⟩
    | error fault =>
      exact .inr ⟨fault, by rw [hdoc, Node.text, hcode]; rfl,
        (FirstFault.singleton hcode).append_left htext⟩
  · exact .inr ⟨fault, by rw [hdoc]; rfl, hfault.append_right _⟩

/-- At a site every piece is a text, and there is a method if there is a name, or else some piece
cannot be read. -/
theorem methodAt_cases (x : Extractor) (source : Bytes) (site : Node.Site) :
    (∃ found, x.methodAt source site = .ok found ∧
      (∀ r ∈ x.pieces source site, Utf8.IsText (r.bytes source)) ∧
      List.Forall₂ (x.Describes source) ([site].filter (x.hasName source)) found.toList) ∨
    ∃ fault, x.methodAt source site = .error fault ∧
      FirstFault source (x.pieces source site) fault := by
  unfold pieces
  cases hname : x.nameOf site.node with
  | none =>
    have hnot : x.hasName source site = false := by simp [hasName, hname]
    exact .inl ⟨none, methodAt_of_nameless hname, by simp [hnot], by simp [hnot]⟩
  | some child =>
    cases hs : child.range.text source with
    | error fault =>
      exact .inr ⟨fault, methodAt_of_fault hname hs, (FirstFault.singleton hs).append_right _⟩
    | ok s =>
      have hencode := Range.text_eq_ok_iff.mp hs
      have hhas := hasName_of_text hname hencode
      have hfirst : ∀ r ∈ [child.range], Utf8.IsText (r.bytes source) :=
        List.forall_mem_singleton.mpr ⟨s, hencode⟩
      rw [methodAt_of_text hname hs]
      by_cases hempty : s = ""
      · rw [if_pos hempty]
        exact .inl ⟨none, rfl, by simpa [hhas, hempty] using hfirst, by simp [hhas, hempty]⟩
      · have hhas : x.hasName source site = true := by simp [hhas, hempty]
        rw [if_neg hempty, if_pos hhas]
        obtain ⟨m, hm, htext, hdescribes⟩ | ⟨fault, hm, hfault⟩ := details_cases hname hencode
        · exact .inl ⟨some m, by rw [hm]; rfl, List.forall_mem_append.mpr ⟨hfirst, htext⟩,
            by simpa [hhas] using hdescribes⟩
        · exact .inr ⟨fault, by rw [hm]; rfl, hfault.append_left hfirst⟩

/-- The sites are read one after the other, and a fault at one ends the reading. -/
theorem methodsAt_cases (x : Extractor) (source : Bytes) (sites : List Node.Site) :
    (∃ ms, x.methodsAt source sites = .ok ms ∧
      (∀ r ∈ sites.flatMap (x.pieces source), Utf8.IsText (r.bytes source)) ∧
      List.Forall₂ (x.Describes source) (sites.filter (x.hasName source)) ms) ∨
    ∃ fault, x.methodsAt source sites = .error fault ∧
      FirstFault source (sites.flatMap (x.pieces source)) fault := by
  induction sites with
  | nil => exact .inl ⟨[], rfl, by simp, .nil⟩
  | cons site rest ih =>
    rw [List.flatMap_cons, methodsAt]
    obtain ⟨found, hfound, htext, hdescribes⟩ | ⟨fault, hfound, hfault⟩ :=
      x.methodAt_cases source site
    · obtain ⟨more, hmore, hrest, hothers⟩ | ⟨fault, hmore, hfault⟩ := ih
      · refine .inl ⟨found.toList ++ more, by rw [hfound, hmore]; rfl, ?_, ?_⟩
        · exact List.forall_mem_append.mpr ⟨htext, hrest⟩
        · rw [← List.singleton_append, List.filter_append]
          exact List.rel_append hdescribes hothers
      · exact .inr ⟨fault, by rw [hfound, hmore]; rfl, hfault.append_left htext⟩
    · exact .inr ⟨fault, by rw [hfound]; rfl, hfault.append_right _⟩

/-! ## Whole sources -/

/-- Whether everything that matters at a site is a text. Without a name the rest does not matter. -/
def Legible (x : Extractor) (source : Bytes) (site : Node.Site) : Prop :=
  ∀ child, x.nameOf site.node = some child →
    Utf8.IsText (child.range.bytes source) ∧
      (child.range.bytes source ≠ [] →
        (∀ r, x.docOf site = some r → Utf8.IsText (r.bytes source)) ∧
          Utf8.IsText (site.node.range.bytes source))

theorem legible_iff :
    x.Legible source site ↔ ∀ r ∈ x.pieces source site, Utf8.IsText (r.bytes source) := by
  unfold Legible pieces hasName
  cases x.nameOf site.node with
  | none => simp
  | some child =>
    by_cases hempty : child.range.bytes source = []
    · simp [hempty]
    · simp [hempty, or_imp, forall_and]

theorem forall_legible_iff {sites : List Node.Site} :
    (∀ site ∈ sites, x.Legible source site) ↔
      ∀ r ∈ sites.flatMap (x.pieces source), Utf8.IsText (r.bytes source) := by
  simp only [legible_iff, List.mem_flatMap]
  constructor
  · rintro h r ⟨site, hsite, hr⟩
    exact h site hsite r hr
  · intro h site hsite r hr
    exact h r ⟨site, hsite, hr⟩

/-- A source that has a tree is read to the end, or up to the first piece that is no text. -/
theorem parse_cases {t : Toolkit} {root : Node} (x : Extractor)
    (h : t.parse x.language.tag source = .ok root) :
    (∃ ms, x.parse t source = .ok ms ∧
      (∀ site ∈ x.methodSites root, x.Legible source site) ∧
      List.Forall₂ (x.Describes source) ((x.methodSites root).filter (x.hasName source)) ms) ∨
    ∃ fault, x.parse t source = .error (.parse fault.message) ∧
      (¬ ∀ site ∈ x.methodSites root, x.Legible source site) ∧
      FirstFault source ((x.methodSites root).flatMap (x.pieces source)) fault := by
  rw [forall_legible_iff]
  obtain ⟨ms, hms, htext, hdescribes⟩ | ⟨fault, hms, hfault⟩ :=
    x.methodsAt_cases source (x.methodSites root)
  · exact .inl ⟨ms, by rw [parse, h]; simp only [methods, hms], htext, hdescribes⟩
  · exact .inr ⟨fault, by rw [parse, h]; simp only [methods, hms], hfault.not_forall, hfault⟩

/-- The methods of a source are those that its named method nodes describe, in order. -/
theorem describes_of_parse {t : Toolkit} {root : Node} {ms : List Method}
    (h : t.parse x.language.tag source = .ok root) (hms : x.parse t source = .ok ms) :
    List.Forall₂ (x.Describes source) ((x.methodSites root).filter (x.hasName source)) ms := by
  obtain ⟨_, hfound, -, hdescribes⟩ | ⟨fault, hfound, -⟩ := x.parse_cases h
  · obtain rfl := Except.ok.inj (hfound.symm.trans hms)
    exact hdescribes
  · cases hfound.symm.trans hms

end Extractor

/-- An extractor has the rules of its language. -/
theorem Extractor.rules_of_create {t : Toolkit} {l : Language} {x : Extractor}
    (h : create t (.known l) = .ok x) : x.language = l ∧ l.rules? = some x.rules := by
  simp only [create, Language.Choice.rules?] at h
  cases hrules : l.rules? with
  | none => simp [hrules] at h
  | some rules =>
    simp only [hrules, ofRules] at h
    cases hgrammar : t.loadGrammar l.tag with
    | error cause => simp [hgrammar] at h
    | ok _ =>
      simp only [hgrammar, Except.ok.injEq] at h
      subst h
      exact ⟨rfl, rfl⟩

/-- A language with rules and a grammar has an extractor. -/
theorem exists_extractor {t : Toolkit} {l : Language} {rules : Rules}
    (hrules : l.rules? = some rules) (hgrammar : t.loadGrammar l.tag = .ok ()) :
    ∃ x : Extractor, x.language = l ∧ x.rules = rules ∧
      (x.seesDocstrings = true ↔ rules.docQuery ≠ none ∧ (t.faultsOf l.tag).query = none) ∧
      ∀ source, extractMethods t (.known l) source = x.parse t source := by
  refine ⟨⟨l, rules, rules.docQuery.isSome && (t.faultsOf l.tag).query.isNone⟩, rfl, rfl,
    by simp [Option.isSome_iff_ne_none], ?_⟩
  intro source
  simp only [extractMethods, Extractor.create, Language.Choice.rules?, hrules, Extractor.ofRules,
    hgrammar, bind, Except.bind]

/-- Extraction gives the methods that stand at the places of the method nodes, and exactly if
everything that matters there is a text. -/
theorem extracted_by_place {t : Toolkit} {l : Language} {rules : Rules}
    (hrules : l.rules? = some rules) (hgrammar : t.loadGrammar l.tag = .ok ()) (source : Bytes) :
    ∃ x : Extractor, x.language = l ∧ x.rules = rules ∧
      (x.seesDocstrings = true ↔ rules.docQuery ≠ none ∧ (t.faultsOf l.tag).query = none) ∧
      (∀ cause, t.parse l.tag source = .error cause →
        ∃ e, extractMethods t (.known l) source = .error e ∧
          e.message = "Failed to parse source code: " ++ cause) ∧
      ∀ root, t.parse l.tag source = .ok root →
        ∃ (places : List (List Nat)) (sites : List Node.Site),
          places.Pairwise (· < ·) ∧
          (∀ p, p ∈ places ↔
            ∃ site, root.siteAt? none p = some site ∧ site.node.kind = rules.method) ∧
          places.map (root.siteAt? none) = sites.map some ∧
          ((∃ ms, extractMethods t (.known l) source = .ok ms) ↔
            ∀ site ∈ sites, x.Legible source site) ∧
          (∀ ms, extractMethods t (.known l) source = .ok ms →
            List.Forall₂ (x.Describes source) (sites.filter (x.hasName source)) ms) ∧
          ∀ e, extractMethods t (.known l) source = .error e →
            ∃ fault, FirstFault source (sites.flatMap (x.pieces source)) fault ∧
              e.message = "Failed to parse source code: " ++ fault.message := by
  obtain ⟨x, rfl, rfl, hsees, hextract⟩ := exists_extractor hrules hgrammar
  rw [hextract]
  refine ⟨x, rfl, rfl, hsees, ?_, ?_⟩
  · intro cause hparse
    exact ⟨.parse cause, by rw [Extractor.parse, hparse], rfl⟩
  · intro root hparse
    refine ⟨root.placesOf x.rules.method, x.methodSites root, root.pairwise_placesOf _,
      fun _ => Node.mem_placesOf_iff, root.map_placesOf _, ?_⟩
    obtain ⟨ms, hms, hlegible, hdescribes⟩ | ⟨fault, hms, hillegible, hfault⟩ :=
      x.parse_cases hparse
    · rw [hms]
      refine ⟨by simpa using hlegible, ?_, nofun⟩
      rintro _ ⟨⟩
      exact hdescribes
    · rw [hms]
      refine ⟨by simpa using hillegible, nofun, ?_⟩
      rintro _ ⟨⟩
      exact ⟨fault, hfault, rfl⟩

/-- Of two declarators only the second has a name, and the function inside has none. -/
theorem nested_by_place :
    let source := Utf8.encode "/*f*/int f(){}"
    let node := Node.ofSource source
    let root : Node := node "translation_unit" ⟨0, 14⟩ true []
      [node "comment" ⟨0, 5⟩ true [] [],
        node "function_definition" ⟨5, 14⟩ true []
          [node "function_declarator" ⟨5, 8⟩ true [] [],
            node "function_declarator" ⟨9, 12⟩ true [] [node "identifier" ⟨9, 10⟩ true [] []],
            node "function_definition" ⟨12, 14⟩ true [] []]]
    let t := (Toolkit.fresh true).withTree source (.ok root)
    extractMethods t (.known .c) source = .ok [⟨"f", some "/*f*/", "int f(){}", 0, 0⟩] ∧
      ∃ x : Extractor, x.language = .c ∧ ∃ sites : List Node.Site,
        (∀ site ∈ sites, x.Legible source site) ∧
        List.Forall₂ (x.Describes source) (sites.filter (x.hasName source))
          [⟨"f", some "/*f*/", "int f(){}", 0, 0⟩] := by
  intro source node root t
  have hvalue : extractMethods t (.known .c) source =
      .ok [⟨"f", some "/*f*/", "int f(){}", 0, 0⟩] := eq_ok_of_toOption (by decide +kernel)
  have hparse : t.parse "c" source = .ok root := by simp [t, Toolkit.withTree]
  obtain ⟨x, hl, -, -, -, htree⟩ := extracted_by_place (t := t) (l := .c) rfl rfl source
  obtain ⟨places, sites, -, -, -, hiff, hdescribes, -⟩ := htree root hparse
  exact ⟨hvalue, x, hl, sites, hiff.mp ⟨_, hvalue⟩, hdescribes _ hvalue⟩

end Scribe
