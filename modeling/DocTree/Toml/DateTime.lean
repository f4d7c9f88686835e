import DocTree.Toml.Scalar

/-!
# Dates and times of TOML

A date and a time may stand alone or together, and behind both the offset of the time zone may
stand.  In the normal form a capital T stands between them, the fraction of a second has at most
nine digits and does not end in a zero, and the zone without an offset is a capital Z.
-/

namespace DocTree
namespace Toml

/-- Read a number of exactly some digits that lies between two bounds. -/
def readFixed? (count low high : Nat) (chars : List Char) : Read Nat :=
  let digits := chars.take count
  let n := Text.ofDigits digits
  if digits.length == count && digits.all Char.isDigit && low ≤ n && n ≤ high then
    some (n, chars.drop count)
  else none

/-- The rest of a text behind a character. -/
def skipChar? (c : Char) (chars : List Char) : Option (List Char) :=
  match chars with
  | d :: rest => if c == d then some rest else none
  | [] => none

/-- Number of days in a month. -/
def daysIn (year month : Nat) : Nat :=
  if month == 2 then
    if year % 4 == 0 && (year % 100 != 0 || year % 400 == 0) then 29 else 28
  else if [4, 6, 9, 11].contains month then 30
  else 31

/-- Read a date: its normal form. -/
def readDate? (chars : List Char) : Option (String × List Char) := do
  let (year, rest) ← readFixed? 4 0 9999 chars
  let (month, rest) ← (skipChar? '-' rest).bind (readFixed? 2 1 12)
  let (day, rest) ← (skipChar? '-' rest).bind (readFixed? 2 1 (daysIn year month))
  return (Text.padded 4 year ++ "-" ++ Text.padded 2 month ++ "-" ++ Text.padded 2 day, rest)

/-- The normal form of the fraction of a second. -/
def fractionText (digits : List Char) : String :=
  let kept := ((digits.take 9).reverse.dropWhile (· == '0')).reverse
  if kept.isEmpty then "" else "." ++ String.ofList kept

/-- Read a time: its normal form. -/
def readTime? (chars : List Char) : Option (String × List Char) := do
  let (hour, rest) ← readFixed? 2 0 23 chars
  let (minute, rest) ← (skipChar? ':' rest).bind (readFixed? 2 0 59)
  let (second, rest) ← (skipChar? ':' rest).bind (readFixed? 2 0 60)
  let whole := Text.padded 2 hour ++ ":" ++ Text.padded 2 minute ++ ":" ++ Text.padded 2 second
  match rest with
  | '.' :: behind =>
      let digits := behind.takeWhile Char.isDigit
      if digits.isEmpty then none
      else return (whole ++ fractionText digits, behind.drop digits.length)
  | _ => return (whole, rest)

/-- Read the offset of a time zone: its normal form, which is empty when there is none. -/
def readOffset? (chars : List Char) : Option (String × List Char) :=
  match chars with
  | c :: rest =>
      if c == 'Z' || c == 'z' then some ("Z", rest)
      else if c == '+' || c == '-' then do
        let (hour, rest) ← readFixed? 2 0 23 rest
        let (minute, rest) ← (skipChar? ':' rest).bind (readFixed? 2 0 59)
        let sign := if c == '-' && (hour != 0 || minute != 0) then "-" else "+"
        return (sign ++ Text.padded 2 hour ++ ":" ++ Text.padded 2 minute, rest)
      else some ("", chars)
  | [] => some ("", [])

/-- Whether a date may go on with a time behind a character. -/
def isTimeMark (c : Char) : Bool :=
  c == 'T' || c == 't' || c == ' '

/-- Read a date, a time, or both: the normal form. -/
def readDateTime? (chars : List Char) : Read Item :=
  match readDate? chars with
  | none => (readTime? chars).map fun (time, rest) => (.dateTime time, rest)
  | some (date, behind) =>
      let time := match behind with
        | c :: rest => if isTimeMark c then readTime? rest else none
        | [] => none
      match time with
      | none => some (.dateTime date, behind)
      | some (time, rest) =>
          (readOffset? rest).map fun (zone, rest) => (.dateTime (date ++ "T" ++ time ++ zone), rest)

end Toml
end DocTree
