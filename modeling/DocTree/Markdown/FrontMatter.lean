import DocTree.Text.Split

/-!
# Front matter

Front matter stands between two lines that hold the delimiter and nothing else, of which the first
is the first line of the document; there is a line between them, even if it is blank.  One blank
line behind it belongs to it.

**Line ends.**  The second line is the first one that ends with a carriage return and a line feed.
Where there is none, it is the first one that ends with a line feed; a line without an end is none.
-/

namespace DocTree
namespace Markdown

open Text (after? splitAt?)

/-- The character that may mark the start of a file. -/
def byteOrderMark : Char := '\uFEFF'

/-- A text without the mark at the start of a file. -/
def dropMark (chars : List Char) : List Char :=
  match chars with
  | c :: rest => if c == byteOrderMark then rest else chars
  | [] => []

/-- The rest of a text behind a line end. -/
def afterLineEnd? : List Char → Option (List Char)
  | '\n' :: rest => some rest
  | '\r' :: '\n' :: rest => some rest
  | _ => none

/-- The text behind the line that closes front matter, in the text behind the line that opens it. -/
def afterClosing? (delimiter : List Char) (inner : List Char) : Option (List Char) :=
  let closing := fun ending => (splitAt? ('\n' :: delimiter ++ ending) inner).map Prod.snd
  (closing ['\r', '\n']).or (closing ['\n'])

/-- The text behind front matter, if the text starts with it. -/
def afterFrontMatter? (delimiter : List Char) (chars : List Char) : Option (List Char) := do
  let inner ← (after? delimiter (dropMark chars)).bind afterLineEnd?
  let rest ← afterClosing? delimiter inner
  return (afterLineEnd? rest).getD rest

end Markdown
end DocTree
