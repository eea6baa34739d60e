/-!
# Punycode

Names of hosts are ASCII. A label with other characters is written as its ASCII characters, a
hyphen, and digits that tell where which other character is put in, from the smallest character to
the largest. Each position is a difference to the one before, in digits of changing weight.
-/

namespace Scribe.Punycode

/-- The digits are the letters, then the decimal digits. -/
def digit (n : Nat) : Char :=
  if n < 26 then Char.ofNat (0x61 + n) else Char.ofNat (0x30 + (n - 26))

/-- The smallest value at which a digit is not the last one. -/
def threshold (weight bias : Nat) : Nat := max 1 (min 26 (weight - bias))

/-- The digits of a difference, from the weight `weight` on. The fuel bounds their number. -/
def digits : (fuel weight bias n : Nat) → List Char
  | 0, _, _, _ => []
  | fuel + 1, weight, bias, n =>
    let t := threshold weight bias
    if n < t then [digit n]
    else digit (t + (n - t) % (36 - t)) :: digits fuel (weight + 36) bias ((n - t) / (36 - t))

/-- The bias for a difference that has been scaled, `steps` counting the divisions. -/
def biasOf : (fuel steps n : Nat) → Nat
  | 0, steps, n => 36 * steps + 36 * n / (n + 38)
  | fuel + 1, steps, n =>
    if 455 < n then biasOf fuel (steps + 1) (n / 35) else 36 * steps + 36 * n / (n + 38)

/-- The bias after a difference, with `count` characters in place. -/
def nextBias (difference count : Nat) (first : Bool) : Nat :=
  let n := if first then difference / 700 else difference / 2
  biasOf n 0 (n + n / count)

/-- How far the writing of a label has come. -/
structure Progress where
  difference : Nat
  bias : Nat
  /-- How many characters are in place. -/
  count : Nat
  written : List Char

/-- Passes one character of the label while `code` is put in. -/
def pass (basic code : Nat) (p : Progress) (c : Char) : Progress :=
  if c.toNat < code then { p with difference := p.difference + 1 }
  else if c.toNat = code then
    ⟨0, nextBias p.difference (p.count + 1) (p.count = basic), p.count + 1,
      p.written ++ digits (p.difference + 1) 36 p.bias p.difference⟩
  else p

/-- Puts in all characters with some codes, in increasing order; `next` is one past the last code
that is in place. -/
def putIn (label : List Char) (basic : Nat) :
    (codes : List Nat) → (next : Nat) → Progress → Progress
  | [], _, p => p
  | code :: rest, next, p =>
    let start := { p with difference := p.difference + (code - next) * (p.count + 1) }
    let done := label.foldl (pass basic code) start
    putIn label basic rest (code + 1) { done with difference := done.difference + 1 }

/-- Puts a number into an increasing list, unless it is there. -/
def insertCode (n : Nat) : List Nat → List Nat
  | [] => [n]
  | m :: rest =>
    if n < m then n :: m :: rest
    else if n = m then m :: rest
    else m :: insertCode n rest

/-- A label in ASCII. -/
def encode (label : List Char) : List Char :=
  let basic := label.filter (·.toNat < 0x80)
  let others := (label.filter (0x80 ≤ ·.toNat)).foldr (fun c codes => insertCode c.toNat codes) []
  let p := putIn label basic.length others 0x80 ⟨0, 72, basic.length, []⟩
  if basic.isEmpty then p.written else basic ++ '-' :: p.written

end Scribe.Punycode
