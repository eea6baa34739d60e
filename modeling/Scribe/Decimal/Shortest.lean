import Scribe.Decimal.Binary64

/-!
# Shortest decimal text of a number

A finite number is written with the fewest significant digits that read back as the same number,
and of those with the digits nearest to it. Numbers from `10 ^ (-4)` up to `10 ^ 16` are written
positionally, all others with an exponent of at least two digits.
-/

namespace Scribe.Binary64

/-- A decimal `0.digits * 10 ^ point`. -/
structure Decimal where
  digits : List Char
  point : Int
  deriving DecidableEq, Repr

/-- Numerator and denominator of `m * 2 ^ e`. -/
def ratio (m : Nat) (e : Int) : Nat × Nat :=
  if 0 ≤ e then (m * Nat.pow 2 e.toNat, 1) else (m, Nat.pow 2 (-e).toNat)

/-- Numerator and denominator of `n * 10 ^ e`. -/
def decimalRatio (n : Nat) (e : Int) : Nat × Nat :=
  if 0 ≤ e then (n * Nat.pow 10 e.toNat, 1) else (n, Nat.pow 10 (-e).toNat)

def ratioLt (a b : Nat × Nat) : Bool := a.1 * b.2 < b.1 * a.2

def ratioLe (a b : Nat × Nat) : Bool := a.1 * b.2 ≤ b.1 * a.2

/-- The distance of two quotients. -/
def ratioDist (a b : Nat × Nat) : Nat × Nat :=
  ((a.1 * b.2 - b.1 * a.2) + (b.1 * a.2 - a.1 * b.2), a.2 * b.2)

/-- Whether `r` lies between the midpoints to the neighbours of `m * 2 ^ e`. The midpoints
themselves read back as this number when its mantissa is even. -/
def readsBack (m : Nat) (e : Int) (r : Nat × Nat) : Bool :=
  let high := ratio (2 * m + 1) (e - 1)
  let low :=
    if m = Nat.pow 2 52 && -1074 < e then ratio (4 * m - 1) (e - 2)
    else ratio (2 * m - 1) (e - 1)
  if m % 2 = 0 then ratioLe low r && ratioLe r high else ratioLt low r && ratioLt r high

/-- The power of ten just above a positive quotient: `10 ^ (magnitude - 1) ≤ num / den`. -/
def magnitude (num den : Nat) : Int :=
  let guess : Int := (Nat.toDigits 10 num).length - (Nat.toDigits 10 den).length
  if ratioLe (decimalRatio 1 guess) (num, den) then guess + 1 else guess

/-- The number written with `n` digits, if one of its two neighbours with that many digits reads
back as it. -/
def withDigits? (m : Nat) (e : Int) (n : Nat) : Option Decimal :=
  let v := ratio m e
  let point := magnitude v.1 v.2
  let grid : Int := point - n
  let below := let s := decimalRatio 1 (-grid); v.1 * s.1 / (v.2 * s.2)
  let value (c : Nat) := decimalRatio c grid
  let ok (c : Nat) := c != 0 && readsBack m e (value c)
  let pick : Option Nat :=
    match ok below, ok (below + 1) with
    | false, false => none
    | true, false => some below
    | false, true => some (below + 1)
    | true, true =>
      let down := ratioDist (value below) v
      let up := ratioDist (value (below + 1)) v
      if ratioLt down up then some below
      else if ratioLt up down then some (below + 1)
      else if below % 2 = 0 then some below else some (below + 1)
  pick.map fun c =>
    let digits := Nat.toDigits 10 c
    let kept := (digits.reverse.dropWhile (· = '0')).reverse
    ⟨kept, grid + digits.length⟩

/-- The fewest digits that read back as `m * 2 ^ e`. Seventeen always do. -/
def shortest (m : Nat) (e : Int) : Decimal :=
  ((List.range 17).findSome? fun n => withDigits? m e (n + 1)).getD ⟨['0'], 1⟩

def zeros (n : Nat) : List Char := List.replicate n '0'

/-- The text of a positive decimal. -/
def Decimal.text (d : Decimal) : List Char :=
  let size := d.digits.length
  if -4 < d.point && d.point ≤ 16 then
    if d.point ≤ 0 then '0' :: '.' :: zeros (-d.point).toNat ++ d.digits
    else if size ≤ d.point.toNat then d.digits ++ zeros (d.point.toNat - size) ++ ['.', '0']
    else d.digits.take d.point.toNat ++ '.' :: d.digits.drop d.point.toNat
  else
    let exponent := d.point - 1
    let power := Nat.toDigits 10 exponent.natAbs
    let lead := d.digits.take 1 ++ (if size ≤ 1 then [] else '.' :: d.digits.drop 1)
    lead ++ ['e', if exponent < 0 then '-' else '+'] ++ zeros (2 - power.length) ++ power

/-- Words for the numbers that have no digits. -/
structure Words where
  infinite : String
  notANumber : String

/-- The text of a number. -/
def text (words : Words) : Binary64 → String
  | finite negative m e =>
    let sign := if negative then "-" else ""
    if m = 0 then sign ++ "0.0" else sign ++ String.ofList (shortest m e).text
  | infinite negative => (if negative then "-" else "") ++ words.infinite
  | notANumber => words.notANumber

end Scribe.Binary64
