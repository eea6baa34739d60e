import Scribe.Text.Utf8

/-!
# Syntax trees

A node covers a range of the bytes of a source. `Node.sites` lists every node of a tree once,
parents before children and children in order, each with the named sibling before it.
-/

namespace Scribe

/-- A range of bytes: from `start` on, up to but not including `stop`. -/
structure Range where
  start : Nat
  stop : Nat
  deriving DecidableEq, Repr

/-- The bytes of a source in a range. -/
def Range.bytes (source : Bytes) (r : Range) : Bytes :=
  (source.drop r.start).take (r.stop - r.start)

/-- The text of a source in a range. -/
def Range.text (source : Bytes) (r : Range) : Except Utf8.Fault String :=
  Utf8.decodeText (r.bytes source)

/-- The number of line feeds before an offset. -/
def rowAt (source : Bytes) (offset : Nat) : Nat :=
  (source.take offset).count 10

/-- A node of a syntax tree. -/
structure Node where
  kind : String
  range : Range
  /-- The row on which the node starts. -/
  startRow : Nat
  /-- The row on which the node stops. -/
  stopRow : Nat
  /-- Whether the node stands for a rule of the grammar, and not for a fixed piece of text. -/
  named : Bool
  /-- Ranges that the documentation query captures in this node. -/
  captures : List Range
  children : List Node

namespace Node

instance : Inhabited Node := ⟨⟨"root", ⟨0, 0⟩, 0, 0, true, [], []⟩⟩

/-- A node over a range of a source, on the rows that the line feeds before its ends tell. -/
def ofSource (source : Bytes) (kind : String) (range : Range) (named : Bool) (captures : List Range)
    (children : List Node) : Node :=
  ⟨kind, range, rowAt source range.start, rowAt source range.stop, named, captures, children⟩

/-- The tree of a source about which nothing is known. -/
def blank (source : Bytes) : Node := ofSource source "root" ⟨0, source.length⟩ true [] []

/-- The text of a node. -/
def text (source : Bytes) (n : Node) : Except Utf8.Fault String :=
  n.range.text source

/-- A node in its place. -/
structure Site where
  node : Node
  /-- The nearest named sibling before the node. -/
  previous : Option Node

mutual

/-- All nodes of a tree in preorder, the root having `previous` before it. -/
def sitesAfter (previous : Option Node) : Node → List Site
  | n@⟨_, _, _, _, _, _, children⟩ => ⟨n, previous⟩ :: sitesOfList none children

/-- All nodes of siblings in preorder. -/
def sitesOfList (previous : Option Node) : List Node → List Site
  | [] => []
  | n :: rest =>
    sitesAfter previous n ++ sitesOfList (if n.named then some n else previous) rest

end

/-- All nodes of a tree in preorder. -/
def sites (root : Node) : List Site := sitesAfter none root

end Node

end Scribe
