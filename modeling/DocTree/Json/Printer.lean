import DocTree.Json.Basic

/-!
# Printing JSON over several lines

A nonempty array or object has one item to a line, indented by two spaces for each level; an empty
one is written as its two brackets.  A colon is followed by one space.

In a string, the quote, the backslash and the control characters below U+0020 are escaped: five of
them by a letter, the others by four hexadecimal digits in lower case.  Every other character
stands for itself.
-/

namespace DocTree
namespace Json

/-- The hexadecimal digit of a number below 16, in lower case. -/
def hexDigit (n : Nat) : Char :=
  if n < 10 then Char.ofNat (48 + n) else Char.ofNat (87 + n)

/-- A character as it stands inside a string. -/
def escape (c : Char) : List Char :=
  if c == '"' then ['\\', '"']
  else if c == '\\' then ['\\', '\\']
  else if c.toNat == 8 then ['\\', 'b']
  else if c.toNat == 9 then ['\\', 't']
  else if c.toNat == 10 then ['\\', 'n']
  else if c.toNat == 12 then ['\\', 'f']
  else if c.toNat == 13 then ['\\', 'r']
  else if c.toNat < 32 then
    ['\\', 'u', '0', '0', hexDigit (c.toNat / 16), hexDigit (c.toNat % 16)]
  else [c]

/-- A string between quotes. -/
def writeString (s : String) : List Char :=
  '"' :: (s.toList.flatMap escape ++ ['"'])

/-- A line break and the indentation of a level. -/
def newline (level : Nat) : List Char :=
  '\n' :: List.replicate (2 * level) ' '

/-- Items after the first one, each behind a comma and a line break. -/
def writeMore (level : Nat) : List (List Char) → List Char
  | [] => []
  | item :: items => ',' :: (newline level ++ item ++ writeMore level items)

/-- Items between brackets, one to a line, where the brackets stand at a level. -/
def writeBracketed (opening closing : Char) (level : Nat) : List (List Char) → List Char
  | [] => [opening, closing]
  | item :: items =>
      opening :: (newline (level + 1) ++ item ++ writeMore (level + 1) items ++
        newline level ++ [closing])

mutual

/-- A value at an indentation level. -/
def write (level : Nat) : Json → List Char
  | .null => ['n', 'u', 'l', 'l']
  | .bool true => ['t', 'r', 'u', 'e']
  | .bool false => ['f', 'a', 'l', 's', 'e']
  | .number n => Nat.toDigits 10 n
  | .string s => writeString s
  | .array items => writeBracketed '[' ']' level (writeItems (level + 1) items)
  | .object members => writeBracketed '\x7b' '\x7d' level (writeMembers (level + 1) members)

/-- The items of an array. -/
def writeItems (level : Nat) : List Json → List (List Char)
  | [] => []
  | item :: items => write level item :: writeItems level items

/-- The members of an object. -/
def writeMembers (level : Nat) : List (String × Json) → List (List Char)
  | [] => []
  | m :: members => writeMember level m :: writeMembers level members

/-- A member: its key, a colon, a space, its value. -/
def writeMember (level : Nat) : String × Json → List Char
  | (key, value) => writeString key ++ ':' :: ' ' :: write level value

end

/-- The text of a value, starting at the left margin. -/
def pretty (value : Json) : String :=
  String.ofList (write 0 value)

end Json
end DocTree
