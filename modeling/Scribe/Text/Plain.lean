import Scribe.Text.Lowercase
import Scribe.Text.Marks
import Scribe.Text.PlainForms

/-!
# Plain texts

Two names of a host are the same if their plain texts are. The plain text has every symbol in its
plain form, the marks on each letter in the order of their classes, and then every letter put
together with those marks that it has a code point with. Texts are lists of code points here.
-/

namespace Scribe.Text

/-- The first of the syllables that are put together from letters. -/
def firstSyllable : Nat := 0xac00

/-- The first letters of the three parts of a syllable. The last part may be missing, and its first
letter stands for that. -/
def firstLead : Nat := 0x1100

def firstVowel : Nat := 0x1161

def firstTail : Nat := 0x11a7

/-- How many letters there are for each part of a syllable. -/
def leads : Nat := 19

def vowels : Nat := 21

def tails : Nat := 28

/-- The letters of a syllable. -/
def syllableLetters (n : Nat) : List Nat :=
  let i := n - firstSyllable
  let tail := if i % tails = 0 then [] else [firstTail + i % tails]
  [firstLead + i / (vowels * tails), firstVowel + i / tails % vowels] ++ tail

/-- Whether a code point is among `count` from `first` on. -/
def isAmong (first count n : Nat) : Bool := first ≤ n && n < first + count

/-- The plain form of a code point that is in lower case. -/
def plainForm (n : Nat) : List Nat :=
  if isAmong firstSyllable (leads * vowels * tails) n then syllableLetters n
  else match plainRuns.find? fun r => r.1 ≤ n && n ≤ r.2.1 with
    | some (first, _, target) => [target + (n - first)]
    | none =>
      let table := ((plainTables.find? fun t => n ≤ t.1).map (·.2)).getD []
      ((table.find? (·.1 = n)).map (·.2)).getD [n]

/-- The lower-case form of a symbol, as code points. -/
def lowerCodes : Symbol → List Nat
  | .char c => (lowerChar c).map Char.toNat
  | .half i => [(Symbol.half i).code]

/-- The class of a code point, zero unless it is a mark. -/
def markClass (n : Nat) : Nat :=
  ((markClasses.find? fun r => r.1 ≤ n && n ≤ r.2.1).map (·.2.2)).getD 0

/-- Puts a code point at the end of a text that is given last first, save that a mark goes before
the marks of higher classes at the end. -/
def insertMark (n : Nat) : List Nat → List Nat
  | [] => [n]
  | m :: rest =>
    if markClass n = 0 || markClass m ≤ markClass n then n :: m :: rest
    else m :: insertMark n rest

/-- A text, last first, with its marks in order. -/
def orderedBackwards : List Nat → List Nat
  | [] => []
  | n :: before => insertMark n (orderedBackwards before)

/-- A text with its marks in order. -/
def orderMarks (ns : List Nat) : List Nat := (orderedBackwards ns.reverse).reverse

/-- The code point that stands for two. -/
def together? (a b : Nat) : Option Nat :=
  if isAmong firstLead leads a && isAmong firstVowel vowels b then
    some (firstSyllable + ((a - firstLead) * vowels + (b - firstVowel)) * tails)
  else if isAmong firstSyllable (leads * vowels * tails) a && (a - firstSyllable) % tails = 0
      && isAmong (firstTail + 1) (tails - 1) b then
    some (a + (b - firstTail))
  else (compositions.find? fun c => c.1 = a && c.2.1 = b).map (·.2.2)

/-- Puts a letter together with what follows it. The class of the last mark that was passed over is
`passed`; it bars marks of its own and lower classes, and the next letter. Gives the letter and what
is left. -/
def absorb (letter passed : Nat) : List Nat → Nat × List Nat
  | [] => (letter, [])
  | n :: rest =>
    let k := markClass n
    if passed ≠ 0 ∧ k = 0 then (letter, n :: rest)
    else if passed ≠ 0 ∧ k ≤ passed then
      let (whole, left) := absorb letter passed rest
      (whole, n :: left)
    else match together? letter n with
      | some whole => absorb whole passed rest
      | none =>
        if k = 0 then (letter, n :: rest)
        else
          let (whole, left) := absorb letter k rest
          (whole, n :: left)

theorem length_absorb_le (letter passed : Nat) (ns : List Nat) :
    (absorb letter passed ns).2.length ≤ ns.length := by
  induction ns generalizing letter passed with
  | nil => simp [absorb]
  | cons n rest ih =>
    simp only [absorb]
    split
    · simp
    · split
      · simpa using ih letter passed
      · split
        · exact Nat.le_succ_of_le (ih _ passed)
        · split
          · simp
          · simpa using ih letter (markClass n)

/-- A text with every letter put together with its marks. -/
def compose : List Nat → List Nat
  | [] => []
  | n :: rest => (absorb n 0 rest).1 :: compose (absorb n 0 rest).2
termination_by ns => ns.length
decreasing_by exact Nat.lt_succ_of_le (length_absorb_le n 0 rest)

/-- The plain text of some symbols. -/
def plainCodes (symbols : List Symbol) : List Nat :=
  compose (orderMarks ((symbols.flatMap lowerCodes).flatMap plainForm))

end Scribe.Text
