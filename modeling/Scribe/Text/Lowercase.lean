import Scribe.Text.Basic
import Scribe.Text.CaseMapping

/-!
# Full lower-casing

Every character is replaced by its lower-case form. Two characters need more than a table of
single characters: the capital I with a dot becomes two characters, and the capital sigma has a
final form, written when a letter precedes it in its word and none follows. Halves of surrogate
pairs stay, and end a word.
-/

namespace Scribe.Text

def inRanges (ranges : List (Nat × Nat)) (c : Char) : Bool :=
  ranges.any fun r => r.1 ≤ c.toNat && c.toNat ≤ r.2

def isCased (c : Char) : Bool := inRanges casedRanges c

def isCaseIgnorable (c : Char) : Bool := inRanges caseIgnorableRanges c

/-- Whether the nearest symbol that is not skipped has case. -/
def startsCased (symbols : List Symbol) : Bool :=
  match symbols.dropWhile (·.satisfies isCaseIgnorable) with
  | [] => false
  | s :: _ => s.satisfies isCased

/-- The lower-case form of a character, its neighbours set aside. -/
def lowerChar (c : Char) : List Char :=
  if c.toNat < 0x80 then [c.toLower]
  else if c.toNat = 0x130 then ['i', Char.ofNat 0x307]
  else match lowerRuns.find? (·.contains c.toNat) with
    | some r => [Char.ofNat (r.apply c.toNat)]
    | none => [c]

/-- Lower-case form of the capital sigma between the symbols `before`, nearest first, and
`rest`. -/
def lowerSigma (before rest : List Symbol) : Char :=
  if startsCased before && !startsCased rest then Char.ofNat 0x3c2 else Char.ofNat 0x3c3

/-- Lower-case form of `rest`, where `before` holds the symbols in front of it, nearest first. -/
def lowerAfter (before : List Symbol) : List Symbol → List Symbol
  | [] => []
  | .char c :: rest =>
    let form := if c.toNat = 0x3a3 then [lowerSigma before rest] else lowerChar c
    form.map .char ++ lowerAfter (.char c :: before) rest
  | .half i :: rest => .half i :: lowerAfter (.half i :: before) rest

/-- Full lower-case form of a text. -/
def lower (t : Text) : Text := ⟨lowerAfter [] t.symbols⟩

end Scribe.Text
