import DocTree.Binary64.Basic

/-!
# Shortest decimal texts of binary floating-point numbers

The text of a number has the fewest digits that read back as the number, and of the texts with so
few digits it is the nearest.  It is positional: no power of ten is ever written.
-/

namespace DocTree
namespace Binary64

/-- The reals that read as a number, as fractions of one denominator: the number itself, and the
ends of the interval.  The ends belong to it when the significand is even. -/
structure Interval where
  lower : Nat
  value : Nat
  upper : Nat
  denominator : Nat
  closed : Bool

/-- The interval of a finite number other than zero. -/
def interval (significand : Nat) (exponent : Int) : Interval :=
  let narrow := significand == normalStart && leastExponent < exponent
  let scaled := fun n => (timesPower n 1 (exponent - 2)).1
  { lower := scaled (4 * significand - if narrow then 1 else 2)
    value := scaled (4 * significand)
    upper := scaled (4 * significand + 2)
    denominator := (timesPower 1 1 (exponent - 2)).2
    closed := significand % 2 == 0 }

namespace Interval

/-- Whether a whole number times a power of ten lies in the interval. -/
def holds (i : Interval) (digits : Nat) (power : Int) : Bool :=
  let num := digits * tenPow power.toNat * i.denominator
  let scale := tenPow (-power).toNat
  if i.closed then i.lower * scale ≤ num && num ≤ i.upper * scale
  else i.lower * scale < num && num < i.upper * scale

/-- The point of a decimal grid that is nearest to the number among those in the interval: the grid
consists of the multiples of a power of ten, and its neighbours of the number are tried.  Of two
that are equally near the greater one is taken. -/
def onGrid? (i : Interval) (power : Int) : Option Nat :=
  let num := i.value * tenPow (-power).toNat
  let den := i.denominator * tenPow power.toNat
  let below := num / den
  let nearer := if 2 * (num % den) < den then below else below + 1
  let other := if nearer == below then below + 1 else below
  if i.holds nearer power then some nearer
  else if i.holds other power then some other
  else none

/-- The position of the first digit of the number: it lies below ten to this power, and no further
down than a tenth of that. -/
def position (i : Interval) : Int :=
  ((Nat.toDigits 10 (i.value * tenPow 330 / i.denominator)).length : Int) - 330

/-- The point on the coarsest grid that has one in the interval, from a number of digits on. -/
def coarsest (i : Interval) : Nat → Nat → Nat × Int
  | 0, count => ((i.onGrid? (i.position - count)).getD 0, i.position - count)
  | n + 1, count =>
      match i.onGrid? (i.position - count) with
      | some digits => (digits, i.position - count)
      | none => coarsest i n (count + 1)

/-- The fewest digits that read back, and the power of ten that they are multiplied by. -/
def shortest (i : Interval) : Nat × Int :=
  i.coarsest 16 1

end Interval

/-- A whole number times a power of ten in positional notation. -/
def positional (digits : Nat) (power : Int) : String :=
  let chars := Nat.toDigits 10 digits
  let zeros := (chars.reverse.takeWhile (· == '0')).length
  let dropped := min zeros (-power).toNat
  let kept := chars.take (chars.length - dropped)
  let places := (-power).toNat - dropped
  if places == 0 then String.ofList (kept ++ List.replicate power.toNat '0')
  else
    let padded := List.leftpad (places + 1) '0' kept
    let whole := padded.take (padded.length - places)
    String.ofList (whole ++ '.' :: padded.drop whole.length)

/-- Text of a number. -/
def text : Binary64 → String
  | nan => "NaN"
  | infinite negative => if negative then "-inf" else "inf"
  | finite negative significand exponent =>
      let shown :=
        if significand == 0 then "0"
        else
          let digits := (interval significand exponent).shortest
          positional digits.1 digits.2
      if negative then "-" ++ shown else shown

/-- Text of a number in which a finite one always has a point. -/
def pointedText (x : Binary64) : String :=
  match x with
  | finite _ _ _ => if x.text.contains '.' then x.text else x.text ++ ".0"
  | _ => x.text

end Binary64
end DocTree
