import Mathlib.Data.List.Basic
import Scribe.Source.Node

/-!
# Places in a syntax tree

A place in a tree is the list of numbers of the children that lead to it, so two nodes that look the
same are still told apart. `Node.siteAt?` goes to a place, and `Node.places` lists all of them in
preorder, which is the lexicographic order of lists. `Node.sites` lists what is found there.

## Main results

* `Node.mem_places_iff`: the places of a tree are those that lead somewhere.
* `Node.pairwise_places`: they are listed in strictly increasing order.
* `Node.sites_eq`: the sites of a tree are what is found at its places.
* `Node.map_placesOf`: the same of the nodes of one kind.
-/

namespace Scribe.Node

/-- The nearest named node among siblings before number `i`. -/
def namedBefore (siblings : List Node) (i : Nat) : Option Node :=
  ((siblings.take i).filter (·.named)).getLast?

/-- What is found at a place of a tree, whose root has `previous` before it. -/
def siteAt? (n : Node) (previous : Option Node) : List Nat → Option Site
  | [] => some ⟨n, previous⟩
  | i :: rest => n.children[i]?.bind fun child => child.siteAt? (namedBefore n.children i) rest

mutual

/-- The places of a tree in preorder. -/
def places : Node → List (List Nat)
  | ⟨_, _, _, _, _, _, children⟩ => [] :: placesOfList 0 children

/-- The places below some siblings, the first of which has number `i`. -/
def placesOfList (i : Nat) : List Node → List (List Nat)
  | [] => []
  | n :: rest => (places n).map (i :: ·) ++ placesOfList (i + 1) rest

end

theorem places_eq (n : Node) : n.places = [] :: placesOfList 0 n.children := by
  cases n
  rw [places]

theorem sitesAfter_eq_cons (n : Node) (previous : Option Node) :
    sitesAfter previous n = ⟨n, previous⟩ :: sitesOfList none n.children := by
  cases n
  rw [sitesAfter]

/-- What holds of a node if it holds of all its children holds of every node. -/
@[elab_as_elim]
theorem induct {motive : Node → Prop}
    (node : ∀ n, (∀ child ∈ n.children, motive child) → motive n) (n : Node) : motive n :=
  node n fun child _ => induct node child
termination_by sizeOf n
decreasing_by
  rename_i hchild
  have hsize := List.sizeOf_lt_of_mem hchild
  cases n
  simp only [mk.sizeOf_spec]
  dsimp only at hsize
  omega

theorem mem_placesOfList_iff {i : Nat} {siblings : List Node} {p : List Nat} :
    p ∈ placesOfList i siblings ↔
      ∃ j n q, siblings[j]? = some n ∧ q ∈ n.places ∧ p = (i + j) :: q := by
  induction siblings generalizing i with
  | nil => simp [placesOfList]
  | cons n rest ih =>
    rw [placesOfList, List.mem_append, List.mem_map, ih]
    constructor
    · rintro (⟨q, hq, rfl⟩ | ⟨j, m, q, hm, hq, rfl⟩)
      · exact ⟨0, n, q, rfl, hq, rfl⟩
      · exact ⟨j + 1, m, q, by simpa using hm, hq, by rw [Nat.add_right_comm, Nat.add_assoc]⟩
    · rintro ⟨j, m, q, hm, hq, rfl⟩
      cases j with
      | zero =>
        obtain rfl : n = m := by simpa using hm
        exact .inl ⟨q, hq, rfl⟩
      | succ j =>
        exact .inr ⟨j, m, q, by simpa using hm, hq, by rw [Nat.add_right_comm, Nat.add_assoc]⟩

/-- The places of a tree are those where something is found. -/
theorem mem_places_iff {n : Node} {previous : Option Node} {p : List Nat} :
    p ∈ n.places ↔ (n.siteAt? previous p).isSome = true := by
  induction n using induct generalizing previous p with
  | node n ih =>
    cases p with
    | nil => simp [places_eq, siteAt?]
    | cons i rest =>
      rw [places_eq, List.mem_cons, mem_placesOfList_iff, siteAt?]
      cases hchild : n.children[i]? with
      | none => simp [hchild]
      | some child =>
        have hrest : rest ∈ child.places ↔
            (child.siteAt? (namedBefore n.children i) rest).isSome = true :=
          ih child (List.mem_of_getElem? hchild)
        simp [hchild, ← hrest]

theorem pairwise_placesOfList {siblings : List Node}
    (h : ∀ n ∈ siblings, n.places.Pairwise (· < ·)) (i : Nat) :
    (placesOfList i siblings).Pairwise (· < ·) := by
  induction siblings generalizing i with
  | nil => exact .nil
  | cons n rest ih =>
    rw [placesOfList, List.pairwise_append, List.pairwise_map]
    refine ⟨?_, ih (fun m hm => h m (List.mem_cons_of_mem _ hm)) (i + 1), ?_⟩
    · refine (h n List.mem_cons_self).imp ?_
      intro p q hpq
      exact List.cons_lt_cons_iff.mpr (.inr ⟨rfl, hpq⟩)
    · -- A place below an earlier sibling begins with a smaller number.
      intro p hp q hq
      obtain ⟨p, -, rfl⟩ := List.mem_map.mp hp
      obtain ⟨j, m, q, -, -, rfl⟩ := mem_placesOfList_iff.mp hq
      exact List.cons_lt_cons_iff.mpr (.inl (by omega))

/-- Places are listed in order, each once. -/
theorem pairwise_places (n : Node) : n.places.Pairwise (· < ·) := by
  induction n using induct with
  | node n ih =>
    rw [places_eq, List.pairwise_cons]
    refine ⟨?_, pairwise_placesOfList ih 0⟩
    intro p hp
    obtain ⟨j, m, q, -, -, rfl⟩ := mem_placesOfList_iff.mp hp
    exact List.nil_lt_cons _ _

/-! ## Sites -/

theorem namedBefore_succ {siblings : List Node} {i : Nat} {n : Node}
    (h : siblings[i]? = some n) :
    namedBefore siblings (i + 1) = if n.named then some n else namedBefore siblings i := by
  rw [namedBefore, List.take_add_one, h, Option.toList_some, List.filter_append]
  cases hnamed : n.named with
  | true => simp [hnamed]
  | false => simp [hnamed, namedBefore]

/-- What is found at a place below some siblings. -/
def siteAmong? (siblings : List Node) : List Nat → Option Site
  | [] => none
  | i :: rest => siblings[i]?.bind fun n => n.siteAt? (namedBefore siblings i) rest

/-- The sites of siblings are what is found below them. The induction is on the siblings that are
still to come. -/
theorem sitesOfList_eq (before rest : List Node)
    (h : ∀ n ∈ rest, ∀ previous, sitesAfter previous n = n.places.filterMap (n.siteAt? previous)) :
    sitesOfList (namedBefore (before ++ rest) before.length) rest =
      (placesOfList before.length rest).filterMap (siteAmong? (before ++ rest)) := by
  induction rest generalizing before with
  | nil => rfl
  | cons n rest ih =>
    have hn : (before ++ n :: rest)[before.length]? = some n := by simp
    have hrest := ih (before ++ [n]) fun m hm => h m (List.mem_cons_of_mem _ hm)
    rw [List.append_assoc, List.singleton_append, List.length_append, List.length_singleton,
      namedBefore_succ hn] at hrest
    have hfirst : siteAmong? (before ++ n :: rest) ∘ (before.length :: ·) =
        n.siteAt? (namedBefore (before ++ n :: rest) before.length) := by
      funext p
      simp [siteAmong?]
    rw [sitesOfList, placesOfList, hrest, h n List.mem_cons_self, List.filterMap_append,
      List.filterMap_map, hfirst]

theorem sitesAfter_eq (n : Node) (previous : Option Node) :
    sitesAfter previous n = n.places.filterMap (n.siteAt? previous) := by
  induction n using induct generalizing previous with
  | node n ih =>
    have hbelow := sitesOfList_eq [] n.children ih
    have hsame : (placesOfList 0 n.children).filterMap (siteAmong? n.children) =
        (placesOfList 0 n.children).filterMap (n.siteAt? previous) := by
      refine List.filterMap_congr ?_
      intro p hp
      obtain ⟨j, m, q, -, -, rfl⟩ := mem_placesOfList_iff.mp hp
      rfl
    have hroot : n.siteAt? previous [] = some ⟨n, previous⟩ := rfl
    rw [sitesAfter_eq_cons, places_eq, List.filterMap_cons_some hroot, ← hsame]
    exact congrArg _ hbelow

/-- The sites of a tree are what is found at its places. -/
theorem sites_eq (root : Node) : root.sites = root.places.filterMap (root.siteAt? none) :=
  root.sitesAfter_eq none

/-! ## Nodes of one kind -/

/-- The places of the nodes of a kind, in preorder. -/
def placesOf (root : Node) (kind : String) : List (List Nat) :=
  root.places.filter fun p => (root.siteAt? none p).any (·.node.kind = kind)

theorem mem_placesOf_iff {root : Node} {kind : String} {p : List Nat} :
    p ∈ root.placesOf kind ↔ ∃ site, root.siteAt? none p = some site ∧ site.node.kind = kind := by
  have hplaces : p ∈ root.places ↔ (root.siteAt? none p).isSome = true := mem_places_iff
  rw [placesOf, List.mem_filter, hplaces]
  cases root.siteAt? none p <;> simp

theorem pairwise_placesOf (root : Node) (kind : String) :
    (root.placesOf kind).Pairwise (· < ·) :=
  root.pairwise_places.filter _

theorem map_filter_any {α β : Type} (f : α → Option β) (q : β → Bool) (l : List α) :
    (l.filter fun a => (f a).any q).map f = ((l.filterMap f).filter q).map some := by
  induction l with
  | nil => rfl
  | cons a rest ih =>
    cases h : f a with
    | none => simpa [h] using ih
    | some b => cases hq : q b <;> simpa [h, hq] using ih

theorem map_placesOf (root : Node) (kind : String) :
    (root.placesOf kind).map (root.siteAt? none) =
      (root.sites.filter (·.node.kind = kind)).map some := by
  rw [placesOf, sites_eq, map_filter_any]

end Scribe.Node
