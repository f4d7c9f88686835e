import DocTree.Ast.Basic
import DocTree.Markup.PlainText

/-!
# From syntax trees to parsed documents

Each syntax node is lowered by its position.  In block position the six kinds of blocks keep their
parts, and any other kind becomes an `other` block with its children lowered as blocks.  In inline
position the seven kinds of inlines keep their parts, and any other kind becomes an `other` inline
that carries the plain text of its children; line breaks and inline HTML carry their own text.

Every child of a list is an item, and every child of a table is a row, whatever its kind.
-/

namespace DocTree
namespace Ast

open Markup (Block Inline Cell)

/-- A text that is absent when it is empty. -/
def nonEmpty? (s : String) : Option String :=
  if s.isEmpty then none else some s

mutual

/-- A node in inline position. -/
def Node.inline : Node → Inline
  | .mk kind children =>
      match kind with
      | .text s => .text s
      | .strong => .strong (Node.inlines children)
      | .emph => .emphasis (Node.inlines children)
      | .strikethrough => .strikethrough (Node.inlines children)
      | .code literal => .code literal
      | .link url title => .link (nonEmpty? url) (nonEmpty? title) (Node.inlines children)
      | .image url title => .image (nonEmpty? url) (nonEmpty? title) (Node.inlines children)
      | .softBreak => .other kind.name " "
      | .lineBreak => .other kind.name "\n"
      | .htmlInline html => .other kind.name html
      | other => .other other.name (Markup.Inline.plainTextAll (Node.inlines children))

/-- A run of nodes in inline position. -/
def Node.inlines : List Node → List Inline
  | [] => []
  | node :: nodes => Node.inline node :: Node.inlines nodes

end

/-- A child of a table row as a cell. -/
def Node.cell (node : Node) : Cell :=
  Node.inlines node.children

/-- Whether a node is the header row of a table. -/
def Node.isHeaderRow (node : Node) : Bool :=
  node.kind == .tableRow true

/-- A child of a table as a row of cells. -/
def Node.row (node : Node) : List Cell :=
  node.children.map Node.cell

/-- A table made of its rows.  The last header row is its head. -/
def tableOf (alignments : List Markup.Alignment) (rows : List Node) : Markup.Table where
  alignments := alignments
  head := (((rows.filter Node.isHeaderRow).getLast?).map Node.row).getD []
  rows := (rows.filter fun row => !row.isHeaderRow).map Node.row

mutual

/-- A node in block position. -/
def Node.block : Node → Block
  | .mk kind children =>
      match kind with
      | .heading level => .heading level (Node.inlines children)
      | .paragraph => .paragraph (Node.inlines children)
      | .codeBlock info literal => .codeBlock info literal
      | .list ordered => .list ordered (Node.items children)
      | .blockQuote => .blockQuote (Node.blocks children)
      | .table alignments => .table (tableOf alignments children)
      | other => .other other.name (Node.blocks children)

/-- A child of a list as an item: its children in block position. -/
def Node.item : Node → List Block
  | .mk _ children => Node.blocks children

/-- A run of nodes in block position. -/
def Node.blocks : List Node → List Block
  | [] => []
  | node :: nodes => Node.block node :: Node.blocks nodes

/-- The children of a list as items. -/
def Node.items : List Node → List (List Block)
  | [] => []
  | node :: nodes => Node.item node :: Node.items nodes

end

/-- The parsed document below a node, whatever the kind of the node. -/
def Node.lower (root : Node) : Markup.Document :=
  ⟨Node.blocks root.children⟩

end Ast
end DocTree
