import DocTree.Markup.Count
import Mathlib.Data.List.Basic

/-!
# The outline of a parsed document

An `Outline` is a tree of one kind of node, in which everything that a parsed document counts is a
node in its place: the document, its blocks, the items of a list, the rows of a table with the head
row first, the cells of a row, and the inlines.  A node carries what is its own (`Part`), so an
outline tells of a document what it holds and in what order.

The nodes of the outline are the nodes that a document counts (`size_documentOutline`).
-/

namespace DocTree
namespace Markup

/-- What a node of an outline is, with the data of its own. -/
inductive Part
  | document
  | heading (level : Nat)
  | paragraph
  | codeBlock (info literal : String)
  | list (ordered : Bool)
  | blockQuote
  | table (alignments : List Alignment)
  | otherBlock (name : String)
  | item
  | row
  | cell
  | text (s : String)
  | strong
  | emphasis
  | strikethrough
  | code (literal : String)
  | link (destination title : Option String)
  | image (source title : Option String)
  | otherInline (name text : String)
deriving DecidableEq, Repr

/-- A node of an outline and the nodes below it in order. -/
inductive Outline
  | mk (part : Part) (below : List Outline)

section Size

mutual

/-- Number of nodes of an outline. -/
def Outline.size : Outline → Nat
  | .mk _ below => 1 + Outline.sizeAll below

def Outline.sizeAll : List Outline → Nat
  | [] => 0
  | o :: os => o.size + Outline.sizeAll os

end

end Size

section Outlines

mutual

/-- The outline of an inline. -/
def Inline.outline : Inline → Outline
  | .text s => .mk (.text s) []
  | .strong children => .mk .strong (Inline.outlines children)
  | .emphasis children => .mk .emphasis (Inline.outlines children)
  | .strikethrough children => .mk .strikethrough (Inline.outlines children)
  | .code literal => .mk (.code literal) []
  | .link destination title children => .mk (.link destination title) (Inline.outlines children)
  | .image source title children => .mk (.image source title) (Inline.outlines children)
  | .other name s => .mk (.otherInline name s) []

def Inline.outlines : List Inline → List Outline
  | [] => []
  | x :: xs => x.outline :: Inline.outlines xs

end

def cellOutline (cell : Cell) : Outline :=
  .mk .cell (Inline.outlines cell)

def rowOutline (row : List Cell) : Outline :=
  .mk .row (row.map cellOutline)

/-- The outlines of the rows of a table, the head row first. -/
def Table.outlines (table : Table) : List Outline :=
  (table.head :: table.rows).map rowOutline

mutual

/-- The outline of a block. -/
def Block.outline : Block → Outline
  | .heading level content => .mk (.heading level) (Inline.outlines content)
  | .paragraph content => .mk .paragraph (Inline.outlines content)
  | .codeBlock info literal => .mk (.codeBlock info literal) []
  | .list ordered items => .mk (.list ordered) (Block.itemOutlines items)
  | .blockQuote children => .mk .blockQuote (Block.outlines children)
  | .table t => .mk (.table t.alignments) t.outlines
  | .other name children => .mk (.otherBlock name) (Block.outlines children)

def Block.outlines : List Block → List Outline
  | [] => []
  | b :: bs => b.outline :: Block.outlines bs

def Block.itemOutlines : List (List Block) → List Outline
  | [] => []
  | item :: items => .mk .item (Block.outlines item) :: Block.itemOutlines items

end

/-- The outline of a document. -/
def Document.outline (doc : Document) : Outline :=
  .mk .document (Block.outlines doc.children)

end Outlines

section Counting

mutual

theorem size_inlineOutline :
    ∀ source : Inline, source.outline.size = source.nodeCount
  | .text _ => rfl
  | .strong children => congrArg (1 + ·) (size_inlineOutlines children)
  | .emphasis children => congrArg (1 + ·) (size_inlineOutlines children)
  | .strikethrough children => congrArg (1 + ·) (size_inlineOutlines children)
  | .code _ => rfl
  | .link _ _ children => congrArg (1 + ·) (size_inlineOutlines children)
  | .image _ _ children => congrArg (1 + ·) (size_inlineOutlines children)
  | .other _ _ => rfl

theorem size_inlineOutlines :
    ∀ content : List Inline,
      Outline.sizeAll (Inline.outlines content) = Inline.nodeCountAll content
  | [] => rfl
  | x :: xs => by
      rw [Inline.outlines, Outline.sizeAll, Inline.nodeCountAll, size_inlineOutline x,
        size_inlineOutlines xs]

end

theorem size_cellOutlines (cells : List Cell) :
    Outline.sizeAll (cells.map cellOutline) = cellsNodeCount cells := by
  induction cells with
  | nil =>
      rfl
  | cons cell cells ih =>
      rw [List.map_cons, Outline.sizeAll, cellsNodeCount, ih, cellOutline, Outline.size,
        size_inlineOutlines]

theorem size_rowOutlines (rows : List (List Cell)) :
    Outline.sizeAll (rows.map rowOutline) = rowsNodeCount rows := by
  induction rows with
  | nil =>
      rfl
  | cons row rows ih =>
      rw [List.map_cons, Outline.sizeAll, rowsNodeCount, ih, rowOutline, Outline.size,
        size_cellOutlines]

mutual

theorem size_blockOutline :
    ∀ source : Block, source.outline.size = source.nodeCount
  | .heading _ content => congrArg (1 + ·) (size_inlineOutlines content)
  | .paragraph content => congrArg (1 + ·) (size_inlineOutlines content)
  | .codeBlock _ _ => rfl
  | .list _ items => congrArg (1 + ·) (size_itemOutlines items)
  | .blockQuote children => congrArg (1 + ·) (size_blockOutlines children)
  | .table t => congrArg (1 + ·) (size_rowOutlines (t.head :: t.rows))
  | .other _ children => congrArg (1 + ·) (size_blockOutlines children)

theorem size_blockOutlines :
    ∀ source : List Block,
      Outline.sizeAll (Block.outlines source) = Block.nodeCountAll source
  | [] => rfl
  | b :: bs => by
      rw [Block.outlines, Outline.sizeAll, Block.nodeCountAll, size_blockOutline b,
        size_blockOutlines bs]

theorem size_itemOutlines :
    ∀ items : List (List Block),
      Outline.sizeAll (Block.itemOutlines items) = Block.nodeCountItems items
  | [] => rfl
  | item :: items => by
      rw [Block.itemOutlines, Outline.sizeAll, Block.nodeCountItems, Outline.size,
        size_blockOutlines item, size_itemOutlines items]

end

/-- The outline of a document has the nodes that the document counts. -/
theorem size_documentOutline (doc : Document) :
    doc.outline.size = doc.nodeCount := by
  rw [Document.outline, Outline.size, size_blockOutlines, Document.nodeCount]

end Counting

end Markup
end DocTree
