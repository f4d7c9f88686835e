import DocTree.Markup.Basic

/-!
# Node counts of a parsed document

Every node counts once.  The items of a list, the rows of a table (the head row among them) and
the cells of a row are nodes as well.
-/

namespace DocTree
namespace Markup

mutual

/-- Nodes of an inline, itself included. -/
def Inline.nodeCount : Inline → Nat
  | .text _ => 1
  | .strong children => 1 + Inline.nodeCountAll children
  | .emphasis children => 1 + Inline.nodeCountAll children
  | .strikethrough children => 1 + Inline.nodeCountAll children
  | .code _ => 1
  | .link _ _ children => 1 + Inline.nodeCountAll children
  | .image _ _ children => 1 + Inline.nodeCountAll children
  | .other _ _ => 1

/-- Nodes of a run of inlines. -/
def Inline.nodeCountAll : List Inline → Nat
  | [] => 0
  | x :: xs => Inline.nodeCount x + Inline.nodeCountAll xs

end

/-- Nodes of a row of cells, each cell counting for itself and for its inlines. -/
def cellsNodeCount : List Cell → Nat
  | [] => 0
  | cell :: cells => 1 + Inline.nodeCountAll cell + cellsNodeCount cells

/-- Nodes of rows, each row counting for itself and for its cells. -/
def rowsNodeCount : List (List Cell) → Nat
  | [] => 0
  | row :: rows => 1 + cellsNodeCount row + rowsNodeCount rows

/-- Nodes strictly below a table: its rows, the head row among them, and their cells. -/
def Table.innerCount (table : Table) : Nat :=
  rowsNodeCount (table.head :: table.rows)

mutual

/-- Nodes of a block, itself included. -/
def Block.nodeCount : Block → Nat
  | .heading _ content => 1 + Inline.nodeCountAll content
  | .paragraph content => 1 + Inline.nodeCountAll content
  | .codeBlock _ _ => 1
  | .list _ items => 1 + Block.nodeCountItems items
  | .blockQuote children => 1 + Block.nodeCountAll children
  | .table t => 1 + t.innerCount
  | .other _ children => 1 + Block.nodeCountAll children

/-- Nodes of a run of blocks. -/
def Block.nodeCountAll : List Block → Nat
  | [] => 0
  | b :: bs => Block.nodeCount b + Block.nodeCountAll bs

/-- Nodes of the items of a list, each item counting for itself and for its blocks. -/
def Block.nodeCountItems : List (List Block) → Nat
  | [] => 0
  | item :: items => 1 + Block.nodeCountAll item + Block.nodeCountItems items

end

/-- Nodes of a document, the document node included. -/
def Document.nodeCount (doc : Document) : Nat :=
  1 + Block.nodeCountAll doc.children

end Markup
end DocTree
