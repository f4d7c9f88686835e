/-!
# The parsed document

A parsed document is a forest of blocks over runs of inlines.  Both types are closed: they name
exactly the kinds that the tree builders tell apart.  Every other kind is kept in an `other` node
that carries the name of the kind, so that nothing disappears before the builders have seen it.

**Blocks.**  `Block` has headings, paragraphs, code blocks, lists, block quotes and tables.  A list
is given by its items, and an item is a run of blocks.

**Inlines.**  `Inline` has text, strong, emphasis, strikethrough, code, links and images.  A cell of
a table is a run of inlines.
-/

namespace DocTree
namespace Markup

/-- Column alignment declared in the delimiter row of a table. -/
inductive Alignment
  | none
  | left
  | center
  | right
deriving DecidableEq, Repr

/-- An inline node of a parsed document. -/
inductive Inline
  | text (text : String)
  | strong (children : List Inline)
  | emphasis (children : List Inline)
  | strikethrough (children : List Inline)
  | code (literal : String)
  | link (destination title : Option String) (children : List Inline)
  | image (source title : Option String) (children : List Inline)
  /-- A kind without a counterpart, reduced to its name and its plain text. -/
  | other (name text : String)
deriving Inhabited, Repr

/-- A table cell is a run of inlines. -/
abbrev Cell := List Inline

/-- A table: one head row and the body rows, which may have any lengths. -/
structure Table where
  alignments : List Alignment
  head : List Cell
  rows : List (List Cell)
deriving Inhabited, Repr

/-- A block node of a parsed document. -/
inductive Block
  | heading (level : Nat) (content : List Inline)
  | paragraph (content : List Inline)
  | codeBlock (info literal : String)
  | list (ordered : Bool) (items : List (List Block))
  | blockQuote (children : List Block)
  | table (table : Table)
  /-- A kind without a counterpart, with the blocks below it. -/
  | other (name : String) (children : List Block)
deriving Inhabited, Repr

/-- The blocks of a document in their order. -/
structure Document where
  children : List Block
deriving Inhabited, Repr

namespace Inline

/-- Name of the kind of an inline, as diagnostics give it. -/
def kindName : Inline → String
  | text _ => "text"
  | strong _ => "strong"
  | emphasis _ => "emph"
  | strikethrough _ => "strikethrough"
  | code _ => "code"
  | link _ _ _ => "link"
  | image _ _ _ => "image"
  | other name _ => name

end Inline

namespace Block

/-- Name of the kind of a block, as diagnostics give it. -/
def kindName : Block → String
  | heading _ _ => "heading"
  | paragraph _ => "paragraph"
  | codeBlock _ _ => "code_block"
  | list _ _ => "list"
  | blockQuote _ => "block_quote"
  | table _ => "table"
  | other name _ => name

end Block

end Markup
end DocTree
