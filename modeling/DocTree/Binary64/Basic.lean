import DocTree.Text.Decimal

/-!
# Binary floating-point numbers of 64 bits

A finite number is a sign, a significand below `2 ^ 53` and a power of two.  Reading a decimal
number gives the nearest of them, and of two that are equally near the one with the even
significand.  All arithmetic is exact on natural numbers.
-/

namespace DocTree

/-- A binary floating-point number of 64 bits. -/
inductive Binary64
  /-- The significand times two to the power of the exponent, with a sign. -/
  | finite (negative : Bool) (significand : Nat) (exponent : Int)
  | infinite (negative : Bool)
  | nan
deriving DecidableEq, Repr, Inhabited

namespace Binary64

/-- A power of two. -/
def twoPow (n : Nat) : Nat :=
  Nat.pow 2 n

/-- A power of ten. -/
def tenPow (n : Nat) : Nat :=
  Nat.pow 10 n

/-- The first number that is no significand. -/
def significandLimit : Nat := twoPow 53

/-- The first significand that is not shorter than the others. -/
def normalStart : Nat := twoPow 52

/-- The quotient of two numbers, rounded to the nearest number; a tie goes to the even one. -/
def roundDiv (num den : Nat) : Nat :=
  let quotient := num / den
  let twice := 2 * (num % den)
  if twice < den || (twice == den && quotient % 2 == 0) then quotient else quotient + 1

/-- A fraction times a power of two, as a fraction. -/
def timesPower (num den : Nat) (exponent : Int) : Nat × Nat :=
  if 0 ≤ exponent then (num * twoPow exponent.toNat, den)
  else (num, den * twoPow (-exponent).toNat)

/-- The least exponent of a finite number. -/
def leastExponent : Int := -1074

/-- The greatest exponent of a finite number. -/
def greatestExponent : Int := 971

/-- The number with a sign that is nearest to a fraction. -/
def ofFraction (negative : Bool) (num den : Nat) : Binary64 :=
  if num == 0 then finite negative 0 leastExponent
  else
    let guess : Int := (num.log2 : Int) - den.log2 - 52
    let scaled := timesPower num den (-guess)
    let short := scaled.1 / scaled.2 < normalStart
    let exponent := max leastExponent (if short then guess - 1 else guess)
    let fraction := timesPower num den (-exponent)
    let significand := roundDiv fraction.1 fraction.2
    let rounded := if significand == significandLimit then (normalStart, exponent + 1)
      else (significand, exponent)
    if greatestExponent < rounded.2 then infinite negative
    else finite negative rounded.1 rounded.2

/-- The number that is nearest to a whole number times a power of ten. -/
def ofDecimal (negative : Bool) (digits : Nat) (power : Int) : Binary64 :=
  let size : Int := (Nat.toDigits 10 digits).length + power
  if digits == 0 || size < -330 then finite negative 0 leastExponent
  else if 310 < size then infinite negative
  else if 0 ≤ power then ofFraction negative (digits * tenPow power.toNat) 1
  else ofFraction negative digits (tenPow (-power).toNat)

/-- Whether a number differs from zero; what is no number does. -/
def isNonzero : Binary64 → Bool
  | finite _ significand _ => significand != 0
  | _ => true

/-- The nearest number of 64 bits without a sign.  A half goes away from zero, and what lies beyond
the range goes to its nearer end; what is no number goes to zero. -/
def toWord : Binary64 → Nat
  | finite false significand exponent =>
      let fraction := timesPower significand 1 exponent
      min (Text.wordLimit - 1) ((2 * fraction.1 + fraction.2) / (2 * fraction.2))
  | infinite false => Text.wordLimit - 1
  | _ => 0

end Binary64

end DocTree
