/-!
# Binary floating point

A number of the 64-bit binary format is a mantissa below `2 ^ 53` times a power of two, or an
infinity, or no number. `Binary64.ofDecimal` rounds a decimal to the nearest such number, a tie
going to the even mantissa.
-/

namespace Scribe

/-- A number of the 64-bit binary format. -/
inductive Binary64 where
  /-- The number `mantissa * 2 ^ exponent`, negated if `negative`. -/
  | finite (negative : Bool) (mantissa : Nat) (exponent : Int)
  | infinite (negative : Bool)
  | notANumber
  deriving DecidableEq, Repr

namespace Binary64

def isZero : Binary64 → Bool
  | finite _ m _ => m == 0
  | _ => false

def isFinite : Binary64 → Bool
  | finite _ _ _ => true
  | _ => false

/-- Whether the number is below zero. -/
def isNegative : Binary64 → Bool
  | finite negative m _ => negative && m != 0
  | infinite negative => negative
  | notANumber => false

/-- The quotient rounded to the nearest integer, a tie going to the even one. -/
def roundDiv (num den : Nat) : Nat :=
  let q := num / den
  let r := num % den
  if 2 * r < den then q
  else if den < 2 * r then q + 1
  else if q % 2 = 0 then q else q + 1

/-- Numerator and denominator of `num / den * 2 ^ (-shift)`. -/
def scaled (num den : Nat) (shift : Int) : Nat × Nat :=
  if 0 ≤ shift then (num, den * Nat.pow 2 shift.toNat) else (num * Nat.pow 2 (-shift).toNat, den)

/-- The positive number nearest to `num / den`. -/
def ofRatio (negative : Bool) (num den : Nat) : Binary64 :=
  let guess : Int := (num.log2 : Int) - den.log2 - 52
  let atGuess := scaled num den guess
  let exact := if atGuess.1 / atGuess.2 < Nat.pow 2 52 then guess - 1 else guess
  let exponent := max exact (-1074)
  let fine := scaled num den exponent
  let m := roundDiv fine.1 fine.2
  let (m, exponent) :=
    if m = Nat.pow 2 53 then (Nat.pow 2 52, exponent + 1) else (m, exponent)
  if 971 < exponent then infinite negative else finite negative m exponent

/-- The number nearest to `digits * 10 ^ exponent`. -/
def ofDecimal (negative : Bool) (digits : Nat) (exponent : Int) : Binary64 :=
  if digits = 0 then finite negative 0 0
  else if 400 < exponent then infinite negative
  else if exponent + (Nat.toDigits 10 digits).length < -400 then finite negative 0 0
  else if 0 ≤ exponent then ofRatio negative (digits * Nat.pow 10 exponent.toNat) 1
  else ofRatio negative digits (Nat.pow 10 (-exponent).toNat)

/-- The number nearest to the product with a positive integer. -/
def times (x : Binary64) (k : Nat) : Binary64 :=
  match x with
  | finite negative m e =>
    if m = 0 then finite negative 0 0
    else if 0 ≤ e then ofRatio negative (m * k * Nat.pow 2 e.toNat) 1
    else ofRatio negative (m * k) (Nat.pow 2 (-e).toNat)
  | other => other

/-- Whether the number is the integer `n`. -/
def equalsInt (x : Binary64) (n : Int) : Bool :=
  match x with
  | finite negative m e =>
    let signed : Int := if negative then -(m : Int) else m
    if 0 ≤ e then signed * Int.pow 2 e.toNat == n else signed == n * Int.pow 2 (-e).toNat
  | _ => false

end Binary64

end Scribe
