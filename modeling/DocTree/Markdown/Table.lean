import DocTree.Ast.Basic
import DocTree.Markdown.Chars

/-!
# Rows of tables

A row is a line that is cut into cells at its vertical bars; one bar may stand at either end.  A bar
behind a backslash belongs to its cell, and the space behind a bar belongs to no cell.  The second
row of a table is made of hyphens, and colons there align the columns.
-/

namespace DocTree
namespace Markdown

/-- Whether a character may stand between a bar and the content of a cell. -/
def isCellSpace (c : Char) : Bool :=
  c == ' ' || c == '\t' || c.toNat == 11 || c.toNat == 12

/-- Cut a text at its bars; the flag tells whether a backslash stands before the text. -/
def splitBars (escaped : Bool) : List Char → List (List Char)
  | [] => [[]]
  | c :: rest =>
      match c == '|' && !escaped, splitBars (c == '\\') rest with
      | true, parts => [] :: parts
      | false, part :: parts => (c :: part) :: parts
      | false, [] => [[c]]

/-- A text in which bars stand without the backslash before them. -/
def unescapeBars : List Char → List Char
  | '\\' :: '|' :: rest => '|' :: unescapeBars rest
  | c :: rest => c :: unescapeBars rest
  | [] => []

/-- The content of a cell. -/
def cellText (cell : List Char) : List Char :=
  trimBoth (unescapeBars cell)

/-- The parts of a line around its bars.  Nothing stands before a bar at the front, or behind one at
the end. -/
def rowParts (line : List Char) : List (List Char) :=
  match splitBars false line with
  | [] => []
  | first :: others =>
      let behind := others.map fun part => part.dropWhile isCellSpace
      let parts := if behind.getLast? == some [] then behind.dropLast else behind
      if first.isEmpty then parts else first :: parts

/-- The cells of a line, which are at least one. -/
def rowCells? (line : List Char) : Option (List (List Char)) :=
  let cells := (rowParts line).map cellText
  if cells.isEmpty then none else some cells

/-- Whether a part of a line is made of hyphens, perhaps with a colon at either end. -/
def isRule (part : List Char) : Bool :=
  let cell := (part.dropWhile isCellSpace).reverse.dropWhile isCellSpace
  let behindColon := if cell.head? == some ':' then cell.tail else cell
  let hyphens :=
    if behindColon.getLast? == some ':' then behindColon.dropLast else behindColon
  !hyphens.isEmpty && hyphens.all (· == '-')

/-- Alignment of a column with a given cell in the second row. -/
def alignmentOf (cell : List Char) : Markup.Alignment :=
  match cell.head? == some ':', cell.getLast? == some ':' with
  | true, true => .center
  | true, false => .left
  | false, true => .right
  | false, false => .none

/-- The alignments that the second row of a table gives. -/
def delimiterRow? (line : List Char) : Option (List Markup.Alignment) :=
  let parts := rowParts line
  if parts.isEmpty || !parts.all isRule then none
  else some (parts.map fun part => alignmentOf (cellText part))

end Markdown
end DocTree
