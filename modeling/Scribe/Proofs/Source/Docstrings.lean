import Scribe.Proofs.Source.Extraction

/-!
# Docstrings of nested functions

The documentation query captures in a function the docstrings of this function and of all functions
inside it, in preorder. The first capture is the function's own docstring if there is one; otherwise
it is the first docstring further inside, and only a function with no docstring in it at all is
documented by the comment before it.

## Main results

* `Node.filter_isPrefixOf_placesOf`: a node comes before those inside it.
* `Extractor.docOf_eq`: where the documentation of a function stands.
* `own_documentation_iff`: when a function is documented by what belongs to it.
-/

namespace Scribe

namespace Node

variable {root : Node} {kind : String} {own : List Nat → Option Range} {p : List Nat}

/-- The docstrings of the nodes of a kind inside the one at a place, in preorder. -/
def docstringsInside (root : Node) (kind : String) (own : List Nat → Option Range)
    (p : List Nat) : List Range :=
  ((root.placesOf kind).filter fun q => p.isPrefixOf q && q != p).filterMap own

/-- Whether every node of a kind captures the docstrings of the nodes of this kind in its subtree,
itself included, in preorder. -/
def CapturesDocstrings (root : Node) (kind : String) (own : List Nat → Option Range) : Prop :=
  ∀ p ∈ root.placesOf kind, (root.siteAt? none p).map (·.node.captures) =
    some (((root.placesOf kind).filter p.isPrefixOf).filterMap own)

instance : Decidable (root.CapturesDocstrings kind own) :=
  inferInstanceAs (Decidable (∀ p ∈ root.placesOf kind, _))

theorem eq_or_lt_of_isPrefixOf {p q : List Nat} (h : p.isPrefixOf q = true) : p = q ∨ p < q := by
  obtain ⟨rest, rfl⟩ := List.isPrefixOf_iff_prefix.mp h
  cases rest with
  | nil => exact .inl (List.append_nil p).symm
  | cons i rest =>
    right
    clear h
    induction p with
    | nil => exact List.nil_lt_cons i rest
    | cons j p ih => exact List.cons_lt_cons_iff.mpr (.inr ⟨rfl, ih⟩)

/-- What is least in a sorted list is its first. -/
theorem eq_cons_of_pairwise {l : List (List Nat)} (h : l.Pairwise (· < ·)) (hp : p ∈ l)
    (hle : ∀ q ∈ l, p = q ∨ p < q) : l = p :: l.filter (· != p) := by
  cases l with
  | nil => cases hp
  | cons q rest =>
    obtain ⟨hfirst, -⟩ := List.pairwise_cons.mp h
    obtain rfl : p = q := by
      rcases List.mem_cons.mp hp with rfl | hrest
      · rfl
      · rcases hle q List.mem_cons_self with rfl | hlt
        · rfl
        · exact absurd hlt (List.lt_asymm (hfirst p hrest))
    have hkept : rest.filter (· != p) = rest := by
      refine List.filter_eq_self.mpr ?_
      intro q hq
      have hne : q ≠ p := by
        rintro rfl
        exact List.lt_irrefl q (hfirst q hq)
      simpa using hne
    simp [hkept]

/-- A node comes before those inside it. -/
theorem filter_isPrefixOf_placesOf (hp : p ∈ root.placesOf kind) :
    (root.placesOf kind).filter p.isPrefixOf =
      p :: (root.placesOf kind).filter fun q => p.isPrefixOf q && q != p := by
  have hsorted := (root.pairwise_placesOf kind).filter p.isPrefixOf
  have hmem : p ∈ (root.placesOf kind).filter p.isPrefixOf := by simp [hp]
  have hle : ∀ q ∈ (root.placesOf kind).filter p.isPrefixOf, p = q ∨ p < q := by
    intro q hq
    exact eq_or_lt_of_isPrefixOf (List.mem_filter.mp hq).2
  have hcons := eq_cons_of_pairwise hsorted hmem hle
  rw [List.filter_filter] at hcons
  simpa [Bool.and_comm] using hcons

/-- What is found at sites one by one is found at their places. -/
theorem forall₂_placesOf {β : Type} {bs : List β} {R : Site → β → Prop} {q : Site → Bool}
    (h : List.Forall₂ R ((root.sites.filter (·.node.kind = kind)).filter q) bs) :
    List.Forall₂ (fun p b => ∃ site, root.siteAt? none p = some site ∧ site.node.kind = kind ∧
      R site b) ((root.placesOf kind).filter fun p => (root.siteAt? none p).any q) bs := by
  have hkind : ∀ site ∈ (root.sites.filter (·.node.kind = kind)).filter q,
      site.node.kind = kind := by
    intro site hsite
    simpa using (List.mem_filter.mp (List.mem_filter.mp hsite).1).2
  have hmap : ((root.placesOf kind).filter fun p => (root.siteAt? none p).any q).map
      (root.siteAt? none) = ((root.sites.filter (·.node.kind = kind)).filter q).map some := by
    calc
      _ = ((root.placesOf kind).map (root.siteAt? none)).filter (·.any q) := by
        rw [List.filter_map]
        rfl
      _ = _ := by
        rw [map_placesOf, List.filter_map]
        rfl
  have hsome : List.Forall₂ (fun found b => ∃ site, found = some site ∧ site.node.kind = kind ∧
      R site b) (((root.sites.filter (·.node.kind = kind)).filter q).map some) bs := by
    rw [List.forall₂_map_left_iff]
    refine ((List.forall₂_and_left _ _).mpr ⟨hkind, h⟩).imp ?_
    rintro site b ⟨hsite, hb⟩
    exact ⟨site, rfl, hsite, hb⟩
  rw [← hmap] at hsome
  exact List.forall₂_map_left_iff.mp hsome

theorem CapturesDocstrings.captures_eq (h : root.CapturesDocstrings kind own) {site : Site}
    (hsite : root.siteAt? none p = some site) (hkind : site.node.kind = kind) :
    site.node.captures = (own p).toList ++ root.docstringsInside kind own p := by
  have hp : p ∈ root.placesOf kind := mem_placesOf_iff.mpr ⟨site, hsite, hkind⟩
  have hcaptures := h p hp
  rw [hsite, Option.map_some, Option.some.injEq, filter_isPrefixOf_placesOf hp] at hcaptures
  rw [hcaptures, docstringsInside]
  cases hown : own p <;> simp [hown]

end Node

namespace Extractor

/-- The documentation of a function is its own docstring, else the first docstring inside it, else
the comment before it. -/
theorem docOf_eq {x : Extractor} {root : Node} {own : List Nat → Option Range} {p : List Nat}
    {site : Node.Site} (hsees : x.seesDocstrings = true)
    (h : root.CapturesDocstrings x.rules.method own) (hsite : root.siteAt? none p = some site)
    (hkind : site.node.kind = x.rules.method) :
    x.docOf site = (own p).or ((root.docstringsInside x.rules.method own p).head?.or
      (site.commentBefore x.rules.comment)) := by
  rw [docOf, captured, if_pos hsees, h.captures_eq hsite hkind]
  cases own p <;> simp

end Extractor

/-- Documentation that may be borrowed from inside is the same as without if there is something of
its own, if there is nothing to borrow, or if what is borrowed reads the same. -/
theorem borrowed_eq_iff {α β : Type} (f : α → β) (own inside before : Option α) :
    (own.or (inside.or before)).map f = (own.or before).map f ↔
      (own = none → ∀ a, inside = some a → before.map f = some (f a)) := by
  cases own with
  | some a => simp
  | none =>
    cases inside with
    | none => simp
    | some a => simp [eq_comm]

/-- A function is documented by its own docstring or the comment before it exactly if it has a
docstring, if no function inside it has one, or if the first of these reads like that comment. -/
theorem own_documentation_iff {t : Toolkit} {source : Bytes} {root : Node}
    {own : List Nat → Option Range} {ms : List Method}
    (hgrammar : t.loadGrammar Language.python.tag = .ok ())
    (hquery : (t.faultsOf Language.python.tag).query = none)
    (hparse : t.parse Language.python.tag source = .ok root)
    (hcaptures : root.CapturesDocstrings "function_definition" own)
    (hms : extractMethods t (.known .python) source = .ok ms) :
    ∃ places : List (List Nat), places.Pairwise (· < ·) ∧
      (∀ p, p ∈ places ↔ ∃ site child, root.siteAt? none p = some site ∧
        site.node.kind = "function_definition" ∧
        site.node.children.find? (·.kind = "identifier") = some child ∧
        child.range.bytes source ≠ []) ∧
      List.Forall₂ (fun p m => ∃ site, root.siteAt? none p = some site ∧
        site.node.range.bytes source = Utf8.encode m.sourceCode ∧
        let inside := (root.docstringsInside "function_definition" own p).head?
        let before := site.commentBefore "comment"
        m.docComment.map Utf8.encode = ((own p).or (inside.or before)).map (·.bytes source) ∧
        (m.docComment.map Utf8.encode = ((own p).or before).map (·.bytes source) ↔
          (own p = none → ∀ r, inside = some r →
            before.map (·.bytes source) = some (r.bytes source)))) places ms := by
  obtain ⟨x, hl, hrules, hsees, hextract⟩ := exists_extractor rfl hgrammar
  have hsees : x.seesDocstrings = true := hsees.mpr ⟨nofun, hquery⟩
  have hmethod : x.rules.method = "function_definition" := by rw [hrules]
  have hcomment : x.rules.comment = "comment" := by rw [hrules]
  have hname : ∀ n : Node, x.nameOf n = n.children.find? (·.kind = "identifier") := by
    intro n
    simp [Extractor.nameOf, hl, hrules]
  rw [hextract] at hms
  obtain ⟨_, hfound, -, hdescribes⟩ | ⟨fault, hfound, -⟩ := x.parse_cases (hl ▸ hparse)
  · obtain rfl : _ = ms := by simpa using hfound.symm.trans hms
    rw [Extractor.methodSites, hmethod] at hdescribes
    refine ⟨_, (root.pairwise_placesOf "function_definition").filter _, ?_,
      (Node.forall₂_placesOf hdescribes).imp ?_⟩
    · intro p
      rw [List.mem_filter, Node.mem_placesOf_iff]
      cases root.siteAt? none p with
      | none => simp
      | some site => simp [Extractor.hasName_iff, hname]
    · rintro p m ⟨site, hsite, hkind, hm⟩
      refine ⟨site, hsite, hm.sourceCode, ?_⟩
      have hdoc := x.docOf_eq hsees (hmethod ▸ hcaptures) hsite (hmethod ▸ hkind)
      rw [hmethod, hcomment] at hdoc
      rw [← hm.docComment, hdoc]
      exact ⟨rfl, borrowed_eq_iff _ _ _ _⟩
  · cases hfound.symm.trans hms

/-- The outer function has no docstring, and is documented by that of the inner one in spite of the
comment before it. -/
theorem inner_docstring_taken :
    let source := Utf8.encode "#A\ndef a():\n def b():\n  'B'\n"
    let node := Node.ofSource source
    let docstring : Range := ⟨24, 27⟩
    let inner : Node := node "function_definition" ⟨13, 27⟩ true [docstring]
      [node "identifier" ⟨17, 18⟩ true [] []]
    let outer : Node := node "function_definition" ⟨3, 27⟩ true [docstring]
      [node "identifier" ⟨7, 8⟩ true [] [], node "block" ⟨13, 27⟩ true [] [inner]]
    let root : Node := node "module" ⟨0, 28⟩ true [] [node "comment" ⟨0, 2⟩ true [] [], outer]
    let t := (Toolkit.fresh true).withTree source (.ok root)
    let own : List Nat → Option Range := fun p => if p = [1, 1, 0] then some docstring else none
    let a : Method := ⟨"a", some "'B'", "def a():\n def b():\n  'B'", 1, 3⟩
    let b : Method := ⟨"b", some "'B'", "def b():\n  'B'", 2, 3⟩
    root.CapturesDocstrings "function_definition" own ∧
      extractMethods t (.known .python) source = .ok [a, b] ∧
      ∃ places : List (List Nat), places.Pairwise (· < ·) ∧
        List.Forall₂ (fun p m => own p = none → ∀ r,
          (root.docstringsInside "function_definition" own p).head? = some r →
            m.docComment.map Utf8.encode = some (r.bytes source)) places [a, b] := by
  intro source node docstring inner outer root t own a b
  have hcaptures : root.CapturesDocstrings "function_definition" own := by decide +kernel
  have hvalue : extractMethods t (.known .python) source = .ok [a, b] :=
    eq_ok_of_toOption (by decide +kernel)
  have hparse : t.parse "python" source = .ok root := by simp [t, Toolkit.withTree]
  obtain ⟨places, hsorted, -, hdocs⟩ :=
    own_documentation_iff (t := t) rfl rfl hparse hcaptures hvalue
  refine ⟨hcaptures, hvalue, places, hsorted, hdocs.imp ?_⟩
  rintro p m ⟨site, -, -, hdoc, -⟩ hown r hr
  rw [hdoc, hown, hr]
  rfl

end Scribe
