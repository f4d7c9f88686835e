import DocTree.Markdown.Chars

/-!
# Columns of a line

A line is read from its front, and its indentation is measured in columns: a tab reaches to the next
multiple of four.  A block may take a part of a tab; the rest of it then is spaces where the line
becomes content.
-/

namespace DocTree
namespace Markdown

open Text (isGap)

/-- A place in a line. -/
structure Cursor where
  /-- What stands behind the place; a tab stays there until all of it is taken. -/
  rest : List Char
  column : Nat
  /-- Whether the place is within a tab. -/
  inTab : Bool
deriving Repr

/-- Number of columns that a tab takes at a column. -/
def tabWidth (column : Nat) : Nat :=
  4 - column % 4

/-- Width of the indentation that starts at a column. -/
def indentFrom (column : Nat) : List Char → Nat
  | ' ' :: rest => indentFrom (column + 1) rest + 1
  | '\t' :: rest => indentFrom (column + tabWidth column) rest + tabWidth column
  | _ => 0

namespace Cursor

/-- The front of a line. -/
def ofLine (line : List Char) : Cursor :=
  ⟨line, 0, false⟩

/-- What stands behind the place as content, where spaces are left of a tab that a block shares. -/
def content (c : Cursor) : List Char :=
  if c.inTab then List.replicate (tabWidth c.column) ' ' ++ c.rest.tail else c.rest

/-- Width of the indentation. -/
def indent (c : Cursor) : Nat :=
  indentFrom c.column c.rest

/-- What stands behind the indentation. -/
def text (c : Cursor) : List Char :=
  c.rest.dropWhile isGap

/-- Number of characters of the indentation. -/
def indentLength (c : Cursor) : Nat :=
  c.rest.length - c.text.length

/-- Whether nothing stands behind the indentation. -/
def isBlank (c : Cursor) : Bool :=
  c.text.isEmpty

/-- Whether the indentation makes a line code. -/
def isDeep (c : Cursor) : Bool :=
  4 ≤ c.indent

/-- The place behind the indentation. -/
def toText (c : Cursor) : Cursor :=
  ⟨c.text, c.column + c.indent, false⟩

/-- The place a number of columns further. -/
def skip (c : Cursor) : Nat → Cursor
  | 0 => c
  | n + 1 =>
      let next := c.skip n
      match next.rest with
      | [] => next
      | '\t' :: rest =>
          if tabWidth next.column == 1 then ⟨rest, next.column + 1, false⟩
          else ⟨next.rest, next.column + 1, true⟩
      | _ :: rest => ⟨rest, next.column + 1, false⟩

/-- The place behind one column of indentation, if there is any. -/
def skipIndent (c : Cursor) : Cursor :=
  if 0 < c.indent then c.skip 1 else c

/-- The place behind a number of characters that stand behind the indentation. -/
def skipMarker (c : Cursor) (n : Nat) : Cursor :=
  ⟨c.text.drop n, c.toText.column + n, false⟩

end Cursor

end Markdown
end DocTree
