import Scribe.Proofs.Basic
import Scribe.Proofs.Source.Extraction
import Scribe.Proofs.Text.Slices

/-!
# Where methods stand

A method repeats the bytes of its node, and its lines are the rows of the node. If rows are told by
the line feeds of the source, its lines tell how many there are before the node and inside it. So
what is known about the ranges of nodes is known about methods. In an orderly
tree every node has its children inside it, one after the other. Then of any two nodes in preorder
the later one lies inside the earlier one or starts where that one has ended, and the same holds of
the lines and the source texts of methods.

## Main results

* `Node.every_iff`: what holds of all nodes of a tree holds of the root and below the children.
* `Node.pairwise_sites`: how the nodes of an orderly tree lie to each other.
* `extracted_faithfully`: what stands in a source where a method is found.
* `extracted_nested`: how the methods of an orderly tree lie to each other.
-/

namespace Scribe

namespace Range

/-- Whether a range lies inside another. -/
def IsInside (r outer : Range) : Prop := outer.start ≤ r.start ∧ r.stop ≤ outer.stop

instance (r outer : Range) : Decidable (r.IsInside outer) := inferInstanceAs (Decidable (_ ∧ _))

/-- Whether a range has ended where another one starts. -/
def Precedes (r next : Range) : Prop := r.stop ≤ next.start

instance (r next : Range) : Decidable (r.Precedes next) := inferInstanceAs (Decidable (_ ≤ _))

theorem IsInside.refl (r : Range) : r.IsInside r := ⟨Nat.le_refl _, Nat.le_refl _⟩

theorem IsInside.trans {a b c : Range} (hab : a.IsInside b) (hbc : b.IsInside c) : a.IsInside c :=
  ⟨Nat.le_trans hbc.1 hab.1, Nat.le_trans hab.2 hbc.2⟩

theorem Precedes.mono {a b a' b' : Range} (h : a.Precedes b) (ha : a'.IsInside a)
    (hb : b'.IsInside b) : a'.Precedes b' :=
  Nat.le_trans (Nat.le_trans ha.2 h) hb.1

/-- The bytes of a range inside another are part of its bytes. -/
theorem IsInside.bytes {r outer : Range} (h : r.IsInside outer) (source : Bytes) :
    r.bytes source <:+: outer.bytes source := by
  obtain ⟨hstart, hstop⟩ := h
  have hdrop : source.drop r.start = (source.drop outer.start).drop (r.start - outer.start) := by
    rw [List.drop_drop, Nat.add_sub_cancel' hstart]
  have htake : r.bytes source =
      ((outer.bytes source).drop (r.start - outer.start)).take (r.stop - r.start) := by
    rw [Range.bytes, Range.bytes, hdrop, List.drop_take, List.take_take]
    congr 1
    omega
  rw [htake]
  exact (List.take_prefix _ _).isInfix.trans (List.drop_suffix _ _).isInfix

end Range

theorem rowAt_le (source : Bytes) {a b : Nat} (h : a ≤ b) : rowAt source a ≤ rowAt source b :=
  (List.take_sublist_take_left h).count_le 10

/-- The line on which a range stops is further on by the line feeds in it. -/
theorem rowAt_stop (source : Bytes) {r : Range} (h : r.start ≤ r.stop) :
    rowAt source r.stop = rowAt source r.start + (r.bytes source).count 10 := by
  have htake : source.take r.stop = source.take r.start ++ r.bytes source := by
    rw [Range.bytes, ← List.take_add, Nat.add_sub_cancel' h]
  rw [rowAt, htake, List.count_append, rowAt]

namespace Node

/-- Whether a property holds of all nodes of a tree. -/
def Every (P : Node → Prop) (root : Node) : Prop := ∀ site ∈ root.sites, P site.node

instance {P : Node → Prop} [DecidablePred P] (root : Node) : Decidable (root.Every P) :=
  inferInstanceAs (Decidable (∀ site ∈ root.sites, _))

variable {P : Node → Prop} {n : Node}

/-- What stands before the root does not matter to the nodes of a tree. -/
theorem forall_mem_sitesAfter_iff {previous : Option Node} :
    (∀ site ∈ sitesAfter previous n, P site.node) ↔ n.Every P := by
  rw [Every, sites, sitesAfter_eq_cons, sitesAfter_eq_cons]
  simp only [List.forall_mem_cons]

theorem forall_mem_sitesOfList_iff {previous : Option Node} {siblings : List Node} :
    (∀ site ∈ sitesOfList previous siblings, P site.node) ↔ ∀ n ∈ siblings, n.Every P := by
  induction siblings generalizing previous with
  | nil => simp [sitesOfList]
  | cons n rest ih =>
    rw [sitesOfList, List.forall_mem_append, forall_mem_sitesAfter_iff, ih, List.forall_mem_cons]

/-- What holds of all nodes of a tree holds of the root and of all nodes below each child. -/
theorem every_iff : n.Every P ↔ P n ∧ ∀ child ∈ n.children, child.Every P := by
  rw [Every, sites, sitesAfter_eq_cons, List.forall_mem_cons, forall_mem_sitesOfList_iff]

/-- Whether a node starts and stops on the rows that the line feeds before its ends tell. -/
structure OnRows (source : Bytes) (n : Node) : Prop where
  start : n.startRow = rowAt source n.range.start
  stop : n.stopRow = rowAt source n.range.stop

instance (source : Bytes) : DecidablePred (OnRows source) := fun n =>
  decidable_of_iff (n.startRow = rowAt source n.range.start ∧
      n.stopRow = rowAt source n.range.stop)
    ⟨fun h => ⟨h.1, h.2⟩, fun h => ⟨h.start, h.stop⟩⟩

/-- A node whose children lie inside it in order. -/
structure Orderly (n : Node) : Prop where
  range : n.range.start ≤ n.range.stop
  inside : ∀ child ∈ n.children, child.range.IsInside n.range
  inOrder : n.children.Pairwise (·.range.Precedes ·.range)

instance : DecidablePred Orderly := fun n =>
  decidable_of_iff (n.range.start ≤ n.range.stop ∧
      (∀ child ∈ n.children, child.range.IsInside n.range) ∧
      n.children.Pairwise (·.range.Precedes ·.range))
    ⟨fun h => ⟨h.1, h.2.1, h.2.2⟩, fun h => ⟨h.range, h.inside, h.inOrder⟩⟩

/-- All nodes of an orderly tree lie inside its root. -/
theorem every_isInside (h : n.Every Orderly) : n.Every (·.range.IsInside n.range) := by
  induction n using induct with
  | node n ih =>
    obtain ⟨hn, hchildren⟩ := every_iff.mp h
    refine every_iff.mpr ⟨.refl n.range, fun child hchild site hsite => ?_⟩
    exact (ih child hchild (hchildren child hchild) site hsite).trans (hn.inside child hchild)

/-- Of two sites in preorder the later one lies inside the earlier one or after it. -/
def Site.Nested (a b : Site) : Prop :=
  b.node.range.IsInside a.node.range ∨ a.node.range.Precedes b.node.range

theorem pairwise_sitesOfList {previous : Option Node} {siblings : List Node}
    (horderly : ∀ n ∈ siblings, n.Every Orderly)
    (hinOrder : siblings.Pairwise (·.range.Precedes ·.range))
    (hbelow : ∀ n ∈ siblings, ∀ previous, (sitesAfter previous n).Pairwise Site.Nested) :
    (sitesOfList previous siblings).Pairwise Site.Nested := by
  induction siblings generalizing previous with
  | nil => exact .nil
  | cons n rest ih =>
    obtain ⟨hn, hrest⟩ := List.forall_mem_cons.mp horderly
    obtain ⟨hnext, hinOrder⟩ := List.pairwise_cons.mp hinOrder
    obtain ⟨hfirst, hbelow⟩ := List.forall_mem_cons.mp hbelow
    rw [sitesOfList, List.pairwise_append]
    refine ⟨hfirst previous, ih hrest hinOrder hbelow, fun a ha b hb => .inr ?_⟩
    -- The earlier site lies inside its sibling, and the later one inside a later sibling.
    have hinside := forall_mem_sitesAfter_iff.mpr (every_isInside hn) a ha
    have hafter : ∀ m ∈ rest, m.Every (n.range.Precedes ·.range) := fun m hm site hsite =>
      (hnext m hm).mono (.refl n.range) (every_isInside (hrest m hm) site hsite)
    exact (forall_mem_sitesOfList_iff.mpr hafter b hb).mono hinside (.refl b.node.range)

theorem pairwise_sitesAfter (h : n.Every Orderly) (previous : Option Node) :
    (sitesAfter previous n).Pairwise Site.Nested := by
  induction n using induct generalizing previous with
  | node n ih =>
    obtain ⟨hn, hchildren⟩ := every_iff.mp h
    obtain ⟨-, hinside⟩ := every_iff.mp (every_isInside h)
    rw [sitesAfter_eq_cons, List.pairwise_cons]
    refine ⟨fun site hsite => .inl ?_, ?_⟩
    · exact forall_mem_sitesOfList_iff.mpr hinside site hsite
    · exact pairwise_sitesOfList hchildren hn.inOrder fun child hchild =>
        ih child hchild (hchildren child hchild)

/-- The nodes of an orderly tree lie inside each other or after each other. -/
theorem pairwise_sites {root : Node} (h : root.Every Orderly) : root.sites.Pairwise Site.Nested :=
  pairwise_sitesAfter h none

end Node

/-! ## Methods -/

namespace Extractor

variable {x : Extractor} {source : Bytes} {site : Node.Site} {m : Method}

theorem mem_sites_of_mem {root : Node}
    (h : site ∈ (x.methodSites root).filter (x.hasName source)) : site ∈ root.sites :=
  List.mem_of_mem_filter (List.mem_of_mem_filter h)

theorem kind_of_mem {root : Node} (h : site ∈ (x.methodSites root).filter (x.hasName source)) :
    site.node.kind = x.rules.method := by
  simpa using (List.mem_filter.mp (List.mem_of_mem_filter h)).2

/-- The lines of a method are as many as the line feeds in its source text. -/
theorem Describes.endLine_eq (h : x.Describes source site m) (hrows : site.node.OnRows source)
    (hrange : site.node.range.start ≤ site.node.range.stop) :
    m.startLine + m.sourceCode.toList.count '\n' = m.endLine := by
  rw [← h.startLine, ← h.endLine, hrows.start, hrows.stop, ← Utf8.count_encode, ← h.sourceCode,
    rowAt_stop source hrange]

/-- How the source texts and lines of two methods lie if the node of the second is inside that of
the first. -/
theorem Describes.inside {site' : Node.Site} {m' : Method} (h : x.Describes source site m)
    (h' : x.Describes source site' m') (hrows : site.node.OnRows source)
    (hrows' : site'.node.OnRows source) (hinside : site'.node.range.IsInside site.node.range) :
    m.startLine ≤ m'.startLine ∧ m'.endLine ≤ m.endLine ∧
      m'.sourceCode.toList <:+: m.sourceCode.toList := by
  rw [← h.startLine, ← h.endLine, ← h'.startLine, ← h'.endLine, hrows.start, hrows.stop,
    hrows'.start, hrows'.stop]
  refine ⟨rowAt_le source hinside.1, rowAt_le source hinside.2, Utf8.infix_of_encode ?_⟩
  rw [← h.sourceCode, ← h'.sourceCode]
  exact hinside.bytes source

end Extractor

/-- Every method is that of a node: its source text is written as the bytes of the node, and it
starts and ends on the rows of the node. If the line feeds of the source tell the rows, it starts
after as many lines as there are before the node, and it ends as many lines further on as it has
line feeds. Its name and its documentation, if it has any, are written as the bytes that they were
read from. -/
theorem extracted_faithfully {x : Extractor} {t : Toolkit} {source : Bytes} {root : Node}
    {ms : List Method} (hparse : t.parse x.language.tag source = .ok root)
    (hranges : root.Every fun n => n.range.start ≤ n.range.stop)
    (hrows : root.Every (Node.OnRows source)) (hms : x.parse t source = .ok ms) :
    ∀ m ∈ ms, ∃ p site, root.siteAt? none p = some site ∧ site.node.kind = x.rules.method ∧
      Utf8.encode m.sourceCode = site.node.range.bytes source ∧
      m.startLine = site.node.startRow ∧ m.endLine = site.node.stopRow ∧
      m.startLine + m.sourceCode.toList.count '\n' = m.endLine ∧
      m.startLine = (source.take site.node.range.start).count 10 ∧
      (∃ child, x.nameOf site.node = some child ∧
        Utf8.encode m.name = child.range.bytes source) ∧
      ∀ doc, m.docComment = some doc →
        ∃ r, x.docOf site = some r ∧ Utf8.encode doc = r.bytes source := by
  intro m hm
  obtain ⟨site, hsite, hm⟩ := exists_of_forall₂ (Extractor.describes_of_parse hparse hms) hm
  have hmem := Extractor.mem_sites_of_mem hsite
  obtain ⟨p, -, hp⟩ := List.mem_filterMap.mp (root.sites_eq ▸ hmem)
  refine ⟨p, site, hp, Extractor.kind_of_mem hsite, hm.sourceCode.symm, hm.startLine.symm,
    hm.endLine.symm, hm.endLine_eq (hrows site hmem) (hranges site hmem),
    hm.startLine.symm.trans (hrows site hmem).start, ?_, fun doc hdoc => ?_⟩
  · obtain ⟨child, hchild, hbytes⟩ := Option.map_eq_some_iff.mp hm.name
    exact ⟨child, hchild, hbytes.symm⟩
  · have hbytes := hm.docComment
    rw [hdoc] at hbytes
    obtain ⟨r, hr, hbytes⟩ := Option.map_eq_some_iff.mp hbytes
    exact ⟨r, hr, hbytes.symm⟩

/-- The comment and the name have characters of two bytes each, and the function starts on the third
line and has two. -/
theorem commented_faithfully :
    let source := Utf8.encode "x\n# ü\ndef é():\n 1\n"
    let node := Node.ofSource source
    let root : Node := node "module" ⟨0, 20⟩ true []
      [node "expression_statement" ⟨0, 1⟩ true [] [], node "comment" ⟨2, 6⟩ true [] [],
        node "function_definition" ⟨7, 19⟩ true [] [node "identifier" ⟨11, 13⟩ true [] []]]
    let t := (Toolkit.fresh true).withTree source (.ok root)
    let rules : Rules :=
      ⟨"function_definition", "identifier", "comment", some Language.docstringQuery⟩
    let x : Extractor := ⟨.python, rules, true⟩
    let m : Method := ⟨"é", some "# ü", "def é():\n 1", 2, 3⟩
    Extractor.create t (.known .python) = .ok x ∧
      (root.Every fun n => n.range.start ≤ n.range.stop) ∧ root.Every (Node.OnRows source) ∧
      x.parse t source = .ok [m] ∧
      m.startLine + m.sourceCode.toList.count '\n' = m.endLine ∧
      ∃ r : Range, Utf8.encode m.sourceCode = r.bytes source ∧
        m.startLine = (source.take r.start).count 10 := by
  intro source node root t rules x m
  have hranges : root.Every fun n => n.range.start ≤ n.range.stop := by decide +kernel
  have hrows : root.Every (Node.OnRows source) := by decide +kernel
  have hvalue : x.parse t source = .ok [m] := eq_ok_of_toOption (by decide +kernel)
  have hparse : t.parse "python" source = .ok root := by simp [t, Toolkit.withTree]
  obtain ⟨p, site, -, -, hcode, -, -, hlines, hstart, -⟩ :=
    extracted_faithfully hparse hranges hrows hvalue m List.mem_cons_self
  exact ⟨rfl, hranges, hrows, hvalue, hlines, site.node.range, hcode, hstart⟩

/-- In an orderly tree whose rows are told by line feeds, no method ends before it starts, methods
are listed by where they start, and of any two the later one is inside the earlier one, as is its
source text, or it starts on the line where that one has ended or further on. -/
theorem extracted_nested {x : Extractor} {t : Toolkit} {source : Bytes} {root : Node}
    {ms : List Method} (hparse : t.parse x.language.tag source = .ok root)
    (horderly : root.Every Node.Orderly)
    (hrows : root.Every (Node.OnRows source)) (hms : x.parse t source = .ok ms) :
    (∀ m ∈ ms, m.startLine ≤ m.endLine) ∧
      ms.Pairwise fun m m' => m.startLine ≤ m'.startLine ∧
        (m'.endLine ≤ m.endLine ∧ m'.sourceCode.toList <:+: m.sourceCode.toList ∨
          m.endLine ≤ m'.startLine) := by
  have hdescribes := Extractor.describes_of_parse hparse hms
  have hlines : ∀ m ∈ ms, m.startLine ≤ m.endLine := by
    intro m hm
    obtain ⟨site, hsite, hm⟩ := exists_of_forall₂ hdescribes hm
    have hmem := Extractor.mem_sites_of_mem hsite
    rw [← hm.endLine_eq (hrows site hmem) (horderly site hmem).range]
    exact Nat.le_add_right _ _
  have hnested : ((x.methodSites root).filter (x.hasName source)).Pairwise Node.Site.Nested :=
    ((Node.pairwise_sites horderly).filter _).filter _
  have hmethods : ms.Pairwise fun m m' =>
      (m.startLine ≤ m'.startLine ∧ m'.endLine ≤ m.endLine ∧
        m'.sourceCode.toList <:+: m.sourceCode.toList) ∨ m.endLine ≤ m'.startLine := by
    have hon : ∀ site ∈ (x.methodSites root).filter (x.hasName source),
        site.node.OnRows source := fun site hsite => hrows site (Extractor.mem_sites_of_mem hsite)
    refine pairwise_of_forall₂ ((List.forall₂_and_left _ _).mpr ⟨hon, hdescribes⟩) hnested ?_
    rintro a m b m' ⟨hrowsA, ha⟩ ⟨hrowsB, hb⟩ (hinside | hprecedes)
    · exact .inl (ha.inside hb hrowsA hrowsB hinside)
    · rw [← ha.endLine, ← hb.startLine, hrowsA.stop, hrowsB.start]
      exact .inr (rowAt_le source hprecedes)
  refine ⟨hlines, hmethods.imp_of_mem ?_⟩
  rintro m m' hm - (⟨hstart, hinside⟩ | hafter)
  · exact ⟨hstart, .inl hinside⟩
  · exact ⟨Nat.le_trans (hlines m hm) hafter, .inr hafter⟩

/-- The second function is inside the first, whose name takes two bytes, and the third one comes
after both. -/
theorem inner_nested :
    let source := Utf8.encode "def é():\n def b(): 1\ndef c(): 2\n"
    let node := Node.ofSource source
    let function (range name : Range) (body : List Node) : Node :=
      node "function_definition" range true [] (node "identifier" name true [] [] :: body)
    let root : Node := node "module" ⟨0, 33⟩ true []
      [function ⟨0, 21⟩ ⟨4, 6⟩ [node "block" ⟨11, 21⟩ true [] [function ⟨11, 21⟩ ⟨15, 16⟩ []]],
        function ⟨22, 32⟩ ⟨26, 27⟩ []]
    let t := (Toolkit.fresh true).withTree source (.ok root)
    let rules : Rules :=
      ⟨"function_definition", "identifier", "comment", some Language.docstringQuery⟩
    let x : Extractor := ⟨.python, rules, true⟩
    let a : Method := ⟨"é", none, "def é():\n def b(): 1", 0, 1⟩
    let b : Method := ⟨"b", none, "def b(): 1", 1, 1⟩
    let c : Method := ⟨"c", none, "def c(): 2", 2, 2⟩
    Extractor.create t (.known .python) = .ok x ∧ root.Every Node.Orderly ∧
      root.Every (Node.OnRows source) ∧ x.parse t source = .ok [a, b, c] ∧
      ((b.endLine ≤ a.endLine ∧ b.sourceCode.toList <:+: a.sourceCode.toList) ∨
        a.endLine ≤ b.startLine) ∧
      ((c.endLine ≤ a.endLine ∧ c.sourceCode.toList <:+: a.sourceCode.toList) ∨
        a.endLine ≤ c.startLine) := by
  intro source node function root t rules x a b c
  have horderly : root.Every Node.Orderly := by decide +kernel
  have hrows : root.Every (Node.OnRows source) := by decide +kernel
  have hvalue : x.parse t source = .ok [a, b, c] := eq_ok_of_toOption (by decide +kernel)
  have hparse : t.parse "python" source = .ok root := by simp [t, Toolkit.withTree]
  obtain ⟨-, hpairs⟩ := extracted_nested hparse horderly hrows hvalue
  obtain ⟨hfirst, -⟩ := List.pairwise_cons.mp hpairs
  exact ⟨rfl, horderly, hrows, hvalue, (hfirst b (by simp)).2, (hfirst c (by simp)).2⟩

end Scribe
