import DocTree.Build.CodeTrim
import DocTree.Build.Diagnostic
import DocTree.Markup.PlainText
import DocTree.Tree.Walk

/-!
# What a tree keeps of a document, and what it loses

Two readings of a parsed document, both in document order and neither with a context or an id.

**Contents.**  `Content` is what a node of the semantic tree says apart from its id and its
children.  `documentContents` lists the contents that a tree of the document has to show on a walk.

**Losses.**  `documentLosses` lists the diagnostics that a build of the document has to report.  A
container without a node comes before the losses below it.  Nothing is lost in a heading or inside
another inline, and a dropped child of an item stands for everything below it.

Both readings treat a block in two ways: as a block of the document, and as a direct child of an
item of a list, where only paragraphs and lists are kept.
-/

namespace DocTree
namespace Build

open DocTree.Tree (NodeKind NodeRef ListType Style)

section Content

/-- The kind of a node together with its own fields. -/
inductive Content
  | root
  | heading (level : Nat) (text : String)
  | paragraph
  | span (style : Style) (text : String)
  | link (text : String) (destination : Option String)
  | image (text : String) (source : Option String)
  | codeBlock (language : Option String) (code : String)
  | list (type : ListType)
  | listItem
  | table (alignments : List Markup.Alignment)
  | blockQuote
deriving DecidableEq, Repr

/-- The kind of the nodes with a content. -/
def Content.kind : Content → NodeKind
  | root => .root
  | heading _ _ => .heading
  | paragraph => .paragraph
  | span style _ => style.kind
  | link _ _ => .link
  | image _ _ => .image
  | codeBlock _ _ => .codeBlock
  | list _ => .list
  | listItem => .listItem
  | table _ => .table
  | blockQuote => .blockQuote

/-- The content of an inline node. -/
def inlineContent : Tree.Inline → Content
  | .span style _ text => .span style text
  | .link _ text destination => .link text destination
  | .image _ text source => .image text source

/-- The content of a block node. -/
def blockContent : Tree.Block → Content
  | .heading _ level text => .heading level text
  | .paragraph _ => .paragraph
  | .codeBlock _ language code => .codeBlock language code
  | .list node => .list node.type
  | .table node => .table node.alignments
  | .blockQuote _ _ => .blockQuote

/-- The content of a node met on a walk. -/
def nodeContent : NodeRef → Content
  | .root _ => .root
  | .block node => blockContent node
  | .paragraph _ => .paragraph
  | .inline node => inlineContent node
  | .list node => .list node.type
  | .item _ _ _ => .listItem

/-- The content of a node knows the kind of the node. -/
@[simp] theorem nodeContent_kind (node : NodeRef) :
    (nodeContent node).kind = node.kind := by
  cases node with
  | block node => cases node <;> rfl
  | inline node => cases node <;> rfl
  | root _ | paragraph _ | list _ | item _ _ _ => rfl

end Content

section Contents

/-- What becomes of a direct member of a paragraph or of a cell.  Whatever is nested in it
collapses to plain text; a strikethrough shows the plain text between its delimiters. -/
def inlineContent? : Markup.Inline → Option Content
  | .text s => some (.span .text s)
  | .strong children => some (.span .strong (Markup.Inline.plainTextAll children))
  | .emphasis children => some (.span .italic (Markup.Inline.plainTextAll children))
  | .strikethrough children => some (.span .strikethrough (Markup.Inline.plainTextAll children))
  | .code literal => some (.span .inlineCode literal)
  | .link destination _ children => some (.link (Markup.Inline.plainTextAll children) destination)
  | .image source title children =>
      some (.image (title.getD (Markup.Inline.plainTextAll children)) source)
  | .other _ _ => none

/-- The contents of a run of inlines. -/
def inlinesContents (content : List Markup.Inline) : List Content :=
  content.filterMap inlineContent?

/-- A paragraph and its inlines. -/
def paragraphContents (content : List Markup.Inline) : List Content :=
  .paragraph :: inlinesContents content

/-- The cells of a table, each of them a paragraph: the head row, then the body row by row. -/
def tableContents (source : Markup.Table) : List Content :=
  (source.head ++ source.rows.flatten).flatMap paragraphContents

/-- The content of a list node. -/
def listContent (ordered : Bool) : Content :=
  .list (if ordered then .ordered else .unordered)

mutual

/-- The contents of a direct child of an item. -/
def childContents : Markup.Block → List Content
  | .paragraph content => .listItem :: paragraphContents content
  | .list ordered items => listContent ordered :: itemsContents items
  | _ => []

/-- The contents of the children of one item. -/
def itemContents : List Markup.Block → List Content
  | [] => []
  | child :: children => childContents child ++ itemContents children

/-- The contents of the items of a list. -/
def itemsContents : List (List Markup.Block) → List Content
  | [] => []
  | item :: items => itemContents item ++ itemsContents items

end

mutual

/-- The contents of a block, with code trimmed in a mode. -/
def blockContents (mode : CodeTrim) : Markup.Block → List Content
  | .heading level content => [.heading level (Markup.Inline.plainTextAll content)]
  | .paragraph content => paragraphContents content
  | .codeBlock info literal =>
      [.codeBlock (if info = "" then none else some info) (trimCode mode literal)]
  | .list ordered items => listContent ordered :: itemsContents items
  | .blockQuote children => .blockQuote :: blocksContents mode children
  | .table source => .table source.alignments :: tableContents source
  | .other _ children => blocksContents mode children

/-- The contents of a run of blocks. -/
def blocksContents (mode : CodeTrim) : List Markup.Block → List Content
  | [] => []
  | b :: bs => blockContents mode b ++ blocksContents mode bs

end

/-- What a tree of a document shows on a walk. -/
def documentContents (mode : CodeTrim) (doc : Markup.Document) : List Content :=
  .root :: blocksContents mode doc.children

end Contents

section Losses

/-- The loss of a direct member of a paragraph or of a cell. -/
def inlineLoss? : Markup.Inline → Option Diagnostic
  | .other name _ => some (.inlineDrop name)
  | _ => none

/-- The losses of a paragraph or of a cell. -/
def inlinesLosses (content : List Markup.Inline) : List Diagnostic :=
  content.filterMap inlineLoss?

/-- The losses of the cells of a table. -/
def tableLosses (source : Markup.Table) : List Diagnostic :=
  (source.head ++ source.rows.flatten).flatMap inlinesLosses

mutual

/-- The losses of a direct child of an item of a list at a depth. -/
def childLosses : Markup.Block → Nat → List Diagnostic
  | .paragraph content, _ => inlinesLosses content
  | .list _ items, depth => itemsLosses items (depth + 1)
  | other, depth => [.listChildDrop other.kindName depth]

/-- The losses of the children of one item. -/
def itemLosses : List Markup.Block → Nat → List Diagnostic
  | [], _ => []
  | child :: children, depth => childLosses child depth ++ itemLosses children depth

/-- The losses of the items of a list at a depth. -/
def itemsLosses : List (List Markup.Block) → Nat → List Diagnostic
  | [], _ => []
  | item :: items, depth => itemLosses item depth ++ itemsLosses items depth

end

mutual

/-- The losses of a block of the document. -/
def blockLosses : Markup.Block → List Diagnostic
  | .heading _ _ => []
  | .paragraph content => inlinesLosses content
  | .codeBlock _ _ => []
  | .list _ items => itemsLosses items 0
  | .blockQuote children => blocksLosses children
  | .table source => tableLosses source
  | .other name children => .blockFallthrough name :: blocksLosses children

/-- The losses of a run of blocks. -/
def blocksLosses : List Markup.Block → List Diagnostic
  | [] => []
  | b :: bs => blockLosses b ++ blocksLosses bs

end

/-- What a build of a document has to report. -/
def documentLosses (doc : Markup.Document) : List Diagnostic :=
  blocksLosses doc.children

end Losses

end Build
end DocTree
