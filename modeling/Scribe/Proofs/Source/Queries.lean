import Scribe.Proofs.Basic
import Scribe.Proofs.Source.Docstrings
import Scribe.Proofs.Source.Ranges

/-!
# Extraction without the query

An extractor whose query for docstrings cannot be compiled is blind to them, and no other part of it
depends on the query. It goes through the same nodes, and reads the same names and source texts.
Only where there is a capture can it find other documentation, or fail where the other one does not.

## Main results

* `Extractor.create_withBrokenQuery`: without its query, an extractor is blind.
* `Extractor.parse_blind`: a source without captures is extracted alike.
* `query_lost_harmlessly`: what is extracted with the query and without it.
-/

namespace Scribe

/-! ## Losing the query -/

namespace Toolkit

/-- A toolkit that cannot compile a query for a grammar. All else works as before. -/
def withBrokenQuery (t : Toolkit) (grammar : String) (cause : Text) : Toolkit :=
  t.withFaults grammar { t.faultsOf grammar with query := some cause }

variable (t : Toolkit) (grammar : String) (cause : Text)

@[simp]
theorem faultsOf_withFaults (f : GrammarFaults) :
    (t.withFaults grammar f).faultsOf grammar = f := by
  simp [withFaults, faultsOf]

theorem loadGrammar_withBrokenQuery :
    (t.withBrokenQuery grammar cause).loadGrammar grammar = t.loadGrammar grammar := by
  simp [withBrokenQuery, loadGrammar]

end Toolkit

namespace Extractor

variable {x : Extractor} {source : Bytes} {site : Node.Site}

/-- An extractor that does not look for documentation inside methods. -/
def blind (x : Extractor) : Extractor := { x with seesDocstrings := false }

theorem create_withBrokenQuery (t : Toolkit) (l : Language) (cause : Text) :
    create (t.withBrokenQuery l.tag cause) (.known l) = blind <$> create t (.known l) := by
  simp only [create, Language.Choice.rules?]
  cases l.rules? with
  | none => rfl
  | some rules =>
    simp only [ofRules, Toolkit.loadGrammar_withBrokenQuery]
    cases t.loadGrammar l.tag with
    | error cause => rfl
    | ok _ => simp [Toolkit.withBrokenQuery, blind, Functor.map, Except.map]

/-- The places of the method nodes with a name, in preorder. -/
def namedPlaces (x : Extractor) (source : Bytes) (root : Node) : List (List Nat) :=
  (root.placesOf x.rules.method).filter fun p => (root.siteAt? none p).any (x.hasName source)

theorem mem_namedPlaces_iff {root : Node} {p : List Nat} :
    p ∈ x.namedPlaces source root ↔ ∃ site child, root.siteAt? none p = some site ∧
      site.node.kind = x.rules.method ∧ x.nameOf site.node = some child ∧
      child.range.bytes source ≠ [] := by
  rw [namedPlaces, List.mem_filter, Node.mem_placesOf_iff]
  cases root.siteAt? none p with
  | none => simp
  | some site => simp [hasName_iff]

/-- The extraction of a source without the query. -/
theorem extractMethods_withBrokenQuery (t : Toolkit) (l : Language) (cause : Text)
    (source : Bytes) :
    extractMethods (t.withBrokenQuery l.tag cause) (.known l) source =
      create t (.known l) >>= fun x => x.blind.parse t source := by
  rw [extractMethods, create_withBrokenQuery]
  cases create t (.known l) <;> rfl

/-- Where nothing is captured, a blind extractor finds the same documentation. -/
theorem docRange?_blind (h : site.node.captures = []) :
    x.blind.docRange? site = x.docRange? site := by
  rw [docRange?, docRange?, h]
  cases x.seesDocstrings <;> rfl

theorem methodAt_blind (h : site.node.captures = []) :
    x.blind.methodAt source site = x.methodAt source site := by
  unfold methodAt docComment
  rw [docRange?_blind h]
  rfl

theorem methodsAt_congr {y : Extractor} {sites : List Node.Site}
    (h : ∀ site ∈ sites, y.methodAt source site = x.methodAt source site) :
    y.methodsAt source sites = x.methodsAt source sites := by
  induction sites with
  | nil => rfl
  | cons site rest ih =>
    obtain ⟨hsite, hrest⟩ := List.forall_mem_cons.mp h
    rw [methodsAt, methodsAt, hsite, ih hrest]

/-- A source in whose methods nothing is captured is extracted alike. -/
theorem parse_blind {t : Toolkit}
    (h : ∀ root, t.parse x.language.tag source = .ok root →
      root.Every fun n => n.kind = x.rules.method → n.captures = []) :
    x.blind.parse t source = x.parse t source := by
  have hlanguage : x.blind.language = x.language := rfl
  rw [parse, parse, hlanguage]
  cases hroot : t.parse x.language.tag source with
  | error cause => rfl
  | ok root =>
    have hmethods : x.blind.methods source root = x.methods source root := by
      refine methodsAt_congr fun site hsite => methodAt_blind ?_
      obtain ⟨hmem, hkind⟩ := List.mem_filter.mp hsite
      exact h root hroot site hmem (of_decide_eq_true hkind)
    dsimp only
    rw [hmethods]

/-- What a blind extractor describes differs in the documentation at most, and not in this where
nothing is captured. -/
theorem Describes.eq_of_blind {m m' : Method} (h : x.Describes source site m)
    (h' : x.blind.Describes source site m') :
    m'.name = m.name ∧ m'.sourceCode = m.sourceCode ∧ m'.startLine = m.startLine ∧
      m'.endLine = m.endLine ∧ (site.node.captures = [] → m'.docComment = m.docComment) := by
  refine ⟨?_, ?_, h'.startLine.symm.trans h.startLine, h'.endLine.symm.trans h.endLine, ?_⟩
  · exact Utf8.encode_injective (Option.some.inj (h'.name.symm.trans h.name))
  · exact Utf8.encode_injective (h'.sourceCode.symm.trans h.sourceCode)
  · intro hcaptures
    have hdoc : x.blind.docOf site = x.docOf site := by
      rw [← docRange?_eq, ← docRange?_eq, docRange?_blind hcaptures]
    have hbytes := h'.docComment
    rw [hdoc, h.docComment] at hbytes
    exact (Option.map_injective (fun _ _ => Utf8.encode_injective) hbytes).symm

end Extractor

/-- Functions are found at the same places with the query and without it, and with the same names,
source texts and lines; their documentation is the same wherever nothing is captured. If nothing is
captured in any function, then the outcome is the same. -/
theorem query_lost_harmlessly (t : Toolkit) (cause : Text) (source : Bytes) :
    let broken := t.withBrokenQuery Language.python.tag cause
    (∀ root ms ms', t.parse Language.python.tag source = .ok root →
      extractMethods t (.known .python) source = .ok ms →
      extractMethods broken (.known .python) source = .ok ms' →
      ms'.length = ms.length ∧
      ∃ places : List (List Nat), places.Pairwise (· < ·) ∧
        (∀ p, p ∈ places ↔ ∃ site child, root.siteAt? none p = some site ∧
          site.node.kind = "function_definition" ∧
          site.node.children.find? (·.kind = "identifier") = some child ∧
          child.range.bytes source ≠ []) ∧
        List.Forall₂ (fun p both => both.2.name = both.1.name ∧
          both.2.sourceCode = both.1.sourceCode ∧ both.2.startLine = both.1.startLine ∧
          both.2.endLine = both.1.endLine ∧
          ∀ site, root.siteAt? none p = some site → site.node.captures = [] →
            both.2.docComment = both.1.docComment) places (ms.zip ms')) ∧
    ((∀ root, t.parse Language.python.tag source = .ok root →
      root.Every fun n => n.kind = "function_definition" → n.captures = []) →
      extractMethods broken (.known .python) source =
        extractMethods t (.known .python) source) := by
  intro broken
  rw [Extractor.extractMethods_withBrokenQuery, extractMethods]
  cases hx : Extractor.create t (.known .python) with
  | error e =>
    refine ⟨fun root ms ms' _ hms => ?_, fun _ => rfl⟩
    cases hms
  | ok x =>
    obtain ⟨hlanguage, hrules⟩ := Extractor.rules_of_create hx
    have hmethod : x.rules.method = "function_definition" := by
      rw [← Option.some.inj hrules]
    have hname (n : Node) : x.nameOf n = n.children.find? (·.kind = "identifier") := by
      simp [Extractor.nameOf, hlanguage, ← Option.some.inj hrules]
    refine ⟨fun root ms ms' hparse hms hms' => ?_,
      fun h => Extractor.parse_blind (hmethod ▸ hlanguage ▸ h)⟩
    rw [← hlanguage] at hparse
    have hseen := Extractor.describes_of_parse hparse hms
    have hblind := Extractor.describes_of_parse (x := x.blind) hparse hms'
    refine ⟨hblind.length_eq.symm.trans hseen.length_eq, x.namedPlaces source root,
      (root.pairwise_placesOf _).filter _, fun p => ?_, ?_⟩
    · rw [Extractor.mem_namedPlaces_iff, hmethod]
      simp only [hname]
    · have hboth := forall₂_zip_of_forall₂ (Node.forall₂_placesOf hseen)
        (Node.forall₂_placesOf hblind)
      refine hboth.imp ?_
      rintro p ⟨m, m'⟩ ⟨⟨site, hsite, -, hm⟩, ⟨_, hsite', -, hm'⟩⟩
      obtain rfl := Option.some.inj (hsite.symm.trans hsite')
      obtain ⟨hnames, hcode, hstart, hend, hdoc⟩ := hm.eq_of_blind hm'
      refine ⟨hnames, hcode, hstart, hend, fun other hother => ?_⟩
      obtain rfl := Option.some.inj (hsite.symm.trans hother)
      exact hdoc

/-- Without the query the first function is documented by the comment before it, and the second one
as before. A tree without captures gives the same in both cases. -/
theorem comment_found_instead :
    let source := Utf8.encode "#A\ndef a():\n 'D'\ndef b():1\n"
    let node := Node.ofSource source
    let function (range name : Range) (captures : List Range) : Node :=
      node "function_definition" range true captures [node "identifier" name true [] []]
    let tree (captures : List Range) : Node := node "module" ⟨0, 27⟩ true []
      [node "comment" ⟨0, 2⟩ true [] [], function ⟨3, 16⟩ ⟨7, 8⟩ captures,
        function ⟨17, 26⟩ ⟨21, 22⟩ []]
    let t := (Toolkit.fresh true).withTree source (.ok (tree [⟨13, 16⟩]))
    let bare := (Toolkit.fresh true).withTree source (.ok (tree []))
    let a (doc : String) : Method := ⟨"a", some doc, "def a():\n 'D'", 1, 2⟩
    let b : Method := ⟨"b", none, "def b():1", 3, 3⟩
    extractMethods t (.known .python) source = .ok [a "'D'", b] ∧
      extractMethods (t.withBrokenQuery "python" "bad") (.known .python) source =
        .ok [a "#A", b] ∧
      (∃ places : List (List Nat), places.Pairwise (· < ·) ∧
        List.Forall₂ (fun p both => ∀ site, (tree [⟨13, 16⟩]).siteAt? none p = some site →
          site.node.captures = [] → both.2.docComment = both.1.docComment) places
          [(a "'D'", a "#A"), (b, b)]) ∧
      extractMethods (bare.withBrokenQuery "python" "bad") (.known .python) source =
        extractMethods bare (.known .python) source := by
  intro source node function tree t bare a b
  have hseen : extractMethods t (.known .python) source = .ok [a "'D'", b] :=
    eq_ok_of_toOption (by decide +kernel)
  have hblind : extractMethods (t.withBrokenQuery "python" "bad") (.known .python) source =
      .ok [a "#A", b] := eq_ok_of_toOption (by decide +kernel)
  have hparse : t.parse "python" source = .ok (tree [⟨13, 16⟩]) := by
    simp [t, Toolkit.withTree]
  have hbare : bare.parse "python" source = .ok (tree []) := by
    simp [bare, Toolkit.withTree]
  obtain ⟨-, places, hsorted, -, hsame⟩ :=
    (query_lost_harmlessly t "bad" source).1 _ _ _ hparse hseen hblind
  refine ⟨hseen, hblind, ⟨places, hsorted, hsame.imp ?_⟩,
    (query_lost_harmlessly bare "bad" source).2 ?_⟩
  · rintro p ⟨m, m'⟩ ⟨-, -, -, -, hdoc⟩
    exact hdoc
  · intro root hroot
    obtain rfl := Except.ok.inj (hbare.symm.trans hroot)
    decide +kernel

end Scribe
