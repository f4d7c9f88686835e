import DocTree.Markdown.Chars
import DocTree.Markdown.EntityNames
import DocTree.Text.Hexadecimal

/-!
# Character references

A reference starts with an ampersand and ends with a semicolon.  Between them stands a number sign
and up to seven decimal digits, or a number sign, an x and up to seven hexadecimal digits, or a name
of the table.  A number that is no character, zero, and the number that follows those of the
surrogates stand for the replacement character.
-/

namespace DocTree
namespace Markdown

open Text (isHexDigit ofHexDigits)

/-- The character of a number in a reference. -/
def numbered (n : Nat) : Char :=
  if n == 0 || n == 0xE000 || !(n.isValidChar : Bool) then '\uFFFD' else Char.ofNat n

/-- The characters that an entry of the table stands for. -/
def entityChars (numbers : String) : List Char :=
  (numbers.splitOn "+").map fun digits => Char.ofNat (ofHexDigits digits.toList)

/-- Look a name up in one line of the table. -/
def lookupInLine (name line : String) : Option (List Char) :=
  (line.splitOn " ").findSome? fun entry =>
    match entry.splitOn ":" with
    | [key, numbers] => if key == name then some (entityChars numbers) else none
    | _ => none

/-- The characters of a named reference. -/
def named? (name : List Char) : Option (List Char) :=
  entityLines.findSome? (lookupInLine (String.ofList name))

/-- Longest number in a reference. -/
def digitLimit : Nat := 7

/-- Read a numeric reference: the digits behind its signs, and the text behind them. -/
def readNumber? (digits : List Char) (rest : List Char) (base : Nat) :
    Option (List Char × List Char) :=
  match rest with
  | ';' :: behind =>
      if digits.isEmpty || digits.length > digitLimit then none
      else
        let value := if base == 16 then ofHexDigits digits
          else digits.foldl (fun n c => 10 * n + (c.toNat - 48)) 0
        some ([numbered value], behind)
  | _ => none

/-- Read the reference behind an ampersand: the characters that it stands for, and the rest. -/
def readEntity? (chars : List Char) : Option (List Char × List Char) :=
  match chars with
  | '#' :: 'x' :: rest => readNumber? (rest.takeWhile isHexDigit) (rest.dropWhile isHexDigit) 16
  | '#' :: 'X' :: rest => readNumber? (rest.takeWhile isHexDigit) (rest.dropWhile isHexDigit) 16
  | '#' :: rest => readNumber? (rest.takeWhile Char.isDigit) (rest.dropWhile Char.isDigit) 10
  | _ =>
      let name := chars.takeWhile Char.isAlphanum
      match chars.dropWhile Char.isAlphanum with
      | ';' :: behind => (named? name).map fun value => (value, behind)
      | _ => none

/-- A text with its references replaced, where at most a number of characters is looked at. -/
def unescapeEntitiesFrom : Nat → List Char → List Char
  | 0, chars => chars
  | _ + 1, [] => []
  | n + 1, '&' :: rest =>
      match readEntity? rest with
      | some (value, behind) => value ++ unescapeEntitiesFrom n behind
      | none => '&' :: unescapeEntitiesFrom n rest
  | n + 1, c :: rest => c :: unescapeEntitiesFrom n rest

/-- A text with its references replaced. -/
def unescapeEntities (chars : List Char) : List Char :=
  unescapeEntitiesFrom chars.length chars

end Markdown
end DocTree
