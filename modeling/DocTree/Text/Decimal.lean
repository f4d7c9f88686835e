/-!
# Decimal numbers

Reading accepts an optional plus sign and at least one ASCII digit, and refuses numbers of more than
64 bits.  Writing pads with zeros on the left.
-/

namespace DocTree
namespace Text

/-- The first number that 64 bits cannot hold. -/
def wordLimit : Nat := 18446744073709551616

/-- The first number that 64 bits with a sign cannot hold; its negative is the least that they
can. -/
def signedLimit : Int := 9223372036854775808

/-- The value of a digit. -/
def digitValue (c : Char) : Nat :=
  c.toNat - 48

/-- The number that a run of digits denotes. -/
def ofDigits (digits : List Char) : Nat :=
  digits.foldl (fun n c => 10 * n + digitValue c) 0

/-- Read a run of digits that is not empty. -/
def readDigits? (chars : List Char) : Option Nat :=
  if chars.isEmpty || !chars.all Char.isDigit then none
  else some (ofDigits chars)

/-- Read a number of at most 64 bits; a plus sign may stand before it. -/
def readWord? (s : String) : Option Nat :=
  let digits := match s.toList with
    | '+' :: rest => rest
    | chars => chars
  (readDigits? digits).filter (· < wordLimit)

/-- The digits of a number, padded with zeros on the left to a width. -/
def padded (width n : Nat) : String :=
  String.ofList (List.leftpad width '0' (Nat.toDigits 10 n))

end Text
end DocTree
