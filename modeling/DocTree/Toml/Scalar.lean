import DocTree.Toml.Basic
import DocTree.Text.Blank
import DocTree.Text.Hexadecimal

/-!
# Texts, keys and numbers of TOML

A reader takes a text and gives what it read together with the rest of the text, or nothing when the
text does not start with what it reads.
-/

namespace DocTree
namespace Toml

open Text (isGap hexValue isHexDigit ofHexDigits)

/-- What a reader gives: what it read, and the rest of the text. -/
abbrev Read (α : Type) := Option (α × List Char)

/-! ## Characters -/

/-- Whether a character may stand in a comment and, quotes and backslash apart, in a text. -/
def isPlain (c : Char) : Bool :=
  c == '\t' || (' ' ≤ c && c ≤ '~') || '\x7f' < c

/-- The rest of a text behind spaces and tabs. -/
def skipGap (chars : List Char) : List Char :=
  chars.dropWhile isGap

/-- The rest of a text behind the end of a line. -/
def lineEnd? : List Char → Option (List Char)
  | '\n' :: rest => some rest
  | '\r' :: '\n' :: rest => some rest
  | _ => none

/-- The rest of a text behind a comment, if it starts with one. -/
def skipComment (chars : List Char) : List Char :=
  match chars with
  | '#' :: rest => rest.dropWhile isPlain
  | _ => chars

/-- The rest of a text behind what may fill the rest of a line, and behind the end of the line. -/
def endOfLine? (chars : List Char) : Option (List Char) :=
  match skipComment (skipGap chars) with
  | [] => some []
  | rest => lineEnd? rest

/-! ## Texts -/

/-- The character that a number of hexadecimal digits at the front of a text denotes. -/
def readCodePoint? (count : Nat) (chars : List Char) : Read Char :=
  let digits := chars.take count
  let n := ofHexDigits digits
  if digits.length == count && digits.all isHexDigit && (n.isValidChar : Bool) then
    some (Char.ofNat n, chars.drop count)
  else none

/-- The character behind a backslash. -/
def readEscape? : List Char → Read Char
  | 'b' :: rest => some ('\x08', rest)
  | 't' :: rest => some ('\t', rest)
  | 'n' :: rest => some ('\n', rest)
  | 'f' :: rest => some ('\x0c', rest)
  | 'r' :: rest => some ('\r', rest)
  | '"' :: rest => some ('"', rest)
  | '\\' :: rest => some ('\\', rest)
  | 'u' :: rest => readCodePoint? 4 rest
  | 'U' :: rest => readCodePoint? 8 rest
  | _ => none

/-- Put a character before what a reader read. -/
def consRead (c : Char) (read : Read (List Char)) : Read (List Char) :=
  read.map fun parts => (c :: parts.1, parts.2)

/-- Read a text on one line behind its double quote; at most a number of characters is read. -/
def readBasic? : Nat → List Char → Read (List Char)
  | 0, _ => none
  | _, [] => none
  | _ + 1, '"' :: rest => some ([], rest)
  | n + 1, '\\' :: rest =>
      (readEscape? rest).bind fun (c, behind) => consRead c (readBasic? n behind)
  | n + 1, c :: rest => if isPlain c then consRead c (readBasic? n rest) else none

/-- Read a text on one line behind its single quote, where nothing is escaped. -/
def readLiteral? : List Char → Read (List Char)
  | [] => none
  | '\x27' :: rest => some ([], rest)
  | c :: rest => if isPlain c then consRead c (readLiteral? rest) else none

/-- Read the end of a text on several lines: three quotes, before which up to two more belong to the
text. -/
def readQuotes? (quote : Char) (chars : List Char) : Read (List Char) :=
  let count := (chars.takeWhile (· == quote)).length
  if count < 3 then none
  else
    let own := min 2 (count - 3)
    some (List.replicate own quote, chars.drop (own + 3))

/-- The rest of a text behind the line ends, spaces and tabs at its front. -/
def skipBlankLines : List Char → List Char
  | '\n' :: rest => skipBlankLines rest
  | '\r' :: '\n' :: rest => skipBlankLines rest
  | c :: rest => if isGap c then skipBlankLines rest else c :: rest
  | [] => []

/-- The rest of a text behind the end of a line and all line ends, spaces and tabs that follow,
where only spaces and tabs stand before. -/
def skipBreak? (chars : List Char) : Option (List Char) :=
  (lineEnd? (skipGap chars)).map skipBlankLines

/-- Read a text on several lines behind its three double quotes. -/
def readLongBasic? : Nat → List Char → Read (List Char)
  | 0, _ => none
  | n + 1, chars =>
      match readQuotes? '"' chars, chars with
      | some parts, _ => some parts
      | none, '\\' :: rest =>
          match skipBreak? rest with
          | some behind => readLongBasic? n behind
          | none =>
              (readEscape? rest).bind fun (c, behind) => consRead c (readLongBasic? n behind)
      | none, c :: rest =>
          match lineEnd? chars with
          | some behind => consRead '\n' (readLongBasic? n behind)
          | none => if isPlain c then consRead c (readLongBasic? n rest) else none
      | none, [] => none

/-- Read a text on several lines behind its three single quotes. -/
def readLongLiteral? : Nat → List Char → Read (List Char)
  | 0, _ => none
  | n + 1, chars =>
      match readQuotes? '\x27' chars, chars with
      | some parts, _ => some parts
      | none, c :: rest =>
          match lineEnd? chars with
          | some behind => consRead '\n' (readLongLiteral? n behind)
          | none => if isPlain c then consRead c (readLongLiteral? n rest) else none
      | none, [] => none

/-- A text behind the line end with which it may start. -/
def dropFirstBreak (chars : List Char) : List Char :=
  (lineEnd? chars).getD chars

/-- Read a text in quotes on one line. -/
def readShortText? : List Char → Read (List Char)
  | '"' :: rest => readBasic? (rest.length + 1) rest
  | '\x27' :: rest => readLiteral? rest
  | _ => none

/-- Read a text in quotes. -/
def readText? (chars : List Char) : Read (List Char) :=
  match chars with
  | '"' :: '"' :: '"' :: rest => readLongBasic? (rest.length + 1) (dropFirstBreak rest)
  | '\x27' :: '\x27' :: '\x27' :: rest => readLongLiteral? (rest.length + 1) (dropFirstBreak rest)
  | _ => readShortText? chars

/-! ## Keys -/

/-- Whether a character may stand in a key without quotes. -/
def isKeyChar (c : Char) : Bool :=
  c.isAlphanum || c == '_' || c == '-'

/-- Read one part of a key. -/
def readKey? (chars : List Char) : Read String :=
  match chars with
  | c :: _ =>
      if c == '"' || c == '\x27' then
        (readShortText? chars).map fun parts => (String.ofList parts.1, parts.2)
      else if isKeyChar c then
        some (String.ofList (chars.takeWhile isKeyChar), chars.dropWhile isKeyChar)
      else none
  | [] => none

/-- Read a key whose parts are joined by dots, at most a number of parts; spaces may stand around
each part. -/
def readPath? : Nat → List Char → Read (List String)
  | 0, _ => none
  | n + 1, chars =>
      (readKey? (skipGap chars)).bind fun (key, behind) =>
        match skipGap behind with
        | '.' :: rest => (readPath? n rest).map fun parts => (key :: parts.1, parts.2)
        | rest => some ([key], rest)

/-! ## Numbers -/

/-- Read digits; an underscore may stand between two of them.  The flag tells whether a digit stands
before the text. -/
def readDigits (isDigit : Char → Bool) (joined : Bool) : List Char → List Char × List Char
  | [] => ([], [])
  | '_' :: d :: rest =>
      if joined && isDigit d then
        let more := readDigits isDigit true rest
        (d :: more.1, more.2)
      else ([], '_' :: d :: rest)
  | c :: rest =>
      if isDigit c then
        let more := readDigits isDigit true rest
        (c :: more.1, more.2)
      else ([], c :: rest)

/-- Read at least one digit. -/
def readDigits? (isDigit : Char → Bool) (chars : List Char) : Read (List Char) :=
  let read := readDigits isDigit false chars
  if read.1.isEmpty then none else some read

/-- Read a sign: whether it is a minus sign. -/
def readSign : List Char → Bool × List Char
  | '+' :: rest => (false, rest)
  | '-' :: rest => (true, rest)
  | chars => (false, chars)

/-- Read a decimal number without needless zeros. -/
def readWhole? (chars : List Char) : Read (List Char) :=
  match chars with
  | '0' :: rest => some (['0'], rest)
  | _ => readDigits? Char.isDigit chars

/-- A whole number, if 64 bits hold it. -/
def integer? (n : Int) : Option Item :=
  if -Text.signedLimit ≤ n && n < Text.signedLimit then some (.integer (.ofInt n)) else none

/-- The number that digits of a base denote. -/
def ofBase (base : Nat) (digits : List Char) : Nat :=
  digits.foldl (fun n c => base * n + hexValue c) 0

/-- Read a whole number of a base behind its mark. -/
def readBased? (base : Nat) (isDigit : Char → Bool) (chars : List Char) : Read Item :=
  (readDigits? isDigit chars).bind fun (digits, rest) =>
    (integer? (ofBase base digits)).map fun item => (item, rest)

/-- Read a whole number. -/
def readInteger? (chars : List Char) : Read Item :=
  match chars with
  | '0' :: 'x' :: rest => readBased? 16 isHexDigit rest
  | '0' :: 'o' :: rest => readBased? 8 (fun c => '0' ≤ c && c ≤ '7') rest
  | '0' :: 'b' :: rest => readBased? 2 (fun c => c == '0' || c == '1') rest
  | _ =>
      let (negative, unsigned) := readSign chars
      (readWhole? unsigned).bind fun (digits, rest) =>
        let n : Int := Text.ofDigits digits
        (integer? (if negative then -n else n)).map fun item => (item, rest)

/-- Read the exponent of a number. -/
def readExponent? (chars : List Char) : Read Int :=
  match chars with
  | c :: rest =>
      if c == 'e' || c == 'E' then
        let (negative, unsigned) := readSign rest
        (readDigits? Char.isDigit unsigned).map fun (digits, behind) =>
          let n : Int := Text.ofDigits digits
          (if negative then -n else n, behind)
      else none
  | [] => none

/-- Read the digits behind a point. -/
def readFraction? : List Char → Read (List Char)
  | '.' :: rest => readDigits? Char.isDigit rest
  | _ => none

/-- Read a number with a point or an exponent; it must not be too great. -/
def readDecimal? (chars : List Char) : Read Item :=
  let (negative, unsigned) := readSign chars
  (readWhole? unsigned).bind fun (whole, behind) =>
    let item := fun (fraction : List Char) (power : Int) (rest : List Char) =>
      let x := Binary64.ofDecimal negative (Text.ofDigits (whole ++ fraction))
        (power - fraction.length)
      if x == .infinite false then none else some (Item.float x, rest)
    match readFraction? behind with
    | some (fraction, rest) =>
        match rest with
        | c :: _ =>
            if c == 'e' || c == 'E' then
              (readExponent? rest).bind fun (power, more) => item fraction power more
            else item fraction 0 rest
        | [] => item fraction 0 rest
    | none => (readExponent? behind).bind fun (power, rest) => item [] power rest

/-- Read one of the numbers that are named. -/
def readNamed? (chars : List Char) : Read Item :=
  let (negative, unsigned) := readSign chars
  match unsigned with
  | 'i' :: 'n' :: 'f' :: rest => some (.float (.infinite negative), rest)
  | 'n' :: 'a' :: 'n' :: rest => some (.float .nan, rest)
  | _ => none

/-- Read a number. -/
def readNumber? (chars : List Char) : Read Item :=
  readDecimal? chars <|> readNamed? chars <|> readInteger? chars

end Toml
end DocTree
