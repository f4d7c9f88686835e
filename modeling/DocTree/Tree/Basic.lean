import DocTree.Markup.Basic

/-!
# The semantic tree

The semantic tree is what presentation code walks.  Every node has an identity (`NodeId`) and a
kind (`NodeKind`); ids are handed out in construction order from zero, so they are keys inside the
tree that was built with them.

Lists need three mutually dependent shapes.  A `ListNode` holds entries; an entry is an item, which
leads with a paragraph and may own sublists, or a sublist that stands beside the items.

A table keeps three views: the header paragraphs, the body row by row, and the flat sequence of
body cells, which may be filtered on its own.
-/

namespace DocTree
namespace Tree

/-- Identity of a node within one built tree. -/
structure NodeId where
  index : Nat
deriving DecidableEq, Repr, Inhabited

/-- An id is shown as its index behind a number sign. -/
def NodeId.display (id : NodeId) : String :=
  "#" ++ toString id.index

/-- Kind of a semantic node. -/
inductive NodeKind
  | root
  | heading
  | paragraph
  | text
  | strong
  | italic
  | inlineCode
  | strikethrough
  | link
  | image
  | codeBlock
  | list
  | listItem
  | table
  | blockQuote
deriving DecidableEq, Repr

/-- Name of a kind. -/
def NodeKind.name : NodeKind → String
  | root => "Root"
  | heading => "Heading"
  | paragraph => "Paragraph"
  | text => "Text"
  | strong => "Strong"
  | italic => "Italic"
  | inlineCode => "InlineCode"
  | strikethrough => "Strikethrough"
  | link => "Link"
  | image => "Image"
  | codeBlock => "CodeBlock"
  | list => "List"
  | listItem => "ListItem"
  | table => "Table"
  | blockQuote => "BlockQuote"

/-- All kinds, in the order of their declaration. -/
def NodeKind.all : List NodeKind :=
  [root, heading, paragraph, text, strong, italic, inlineCode, strikethrough, link, image,
    codeBlock, list, listItem, table, blockQuote]

/-- The kind with a given name. -/
def NodeKind.ofName? (name : String) : Option NodeKind :=
  NodeKind.all.find? fun kind => kind.name == name

/-- What a span of text is set in. -/
inductive Style
  | text
  | strong
  | italic
  | inlineCode
  | strikethrough
deriving DecidableEq, Repr

/-- The node kind of a span. -/
def Style.kind : Style → NodeKind
  | text => .text
  | strong => .strong
  | italic => .italic
  | inlineCode => .inlineCode
  | strikethrough => .strikethrough

/-- An inline node. -/
inductive Inline
  | span (style : Style) (id : NodeId) (text : String)
  | link (id : NodeId) (text : String) (destination : Option String)
  /-- The text of an image is its title, or its alternative text when it has no title. -/
  | image (id : NodeId) (text : String) (source : Option String)
deriving DecidableEq, Repr

/-- A paragraph of inline nodes. -/
structure Paragraph where
  id : NodeId
  children : List Inline
deriving DecidableEq, Repr

/-- Numbering of a list. -/
inductive ListType
  | ordered
  | unordered
deriving DecidableEq, Repr

mutual

/-- A list at a nesting depth, which is 0 for a list that stands in no other list. -/
inductive ListNode
  | mk (id : NodeId) (type : ListType) (depth : Nat) (entries : List ListEntry)

/-- A child of a list. -/
inductive ListEntry
  /-- An item with the paragraph that leads it and the sublists that it owns. -/
  | item (id : NodeId) (paragraph : Paragraph) (sublists : List ListNode)
  /-- A list that stands beside the items. -/
  | sublist (list : ListNode)

end

/-- A table with its header, its body row by row, and the flat sequence of its body cells. -/
structure Table where
  id : NodeId
  alignments : List Markup.Alignment
  headers : List Paragraph
  body : List (List Paragraph)
  cells : List Paragraph
deriving DecidableEq, Repr

/-- A block node. -/
inductive Block
  /-- A heading, whose inline markup is flattened into its text. -/
  | heading (id : NodeId) (level : Nat) (text : String)
  | paragraph (paragraph : Paragraph)
  | codeBlock (id : NodeId) (language : Option String) (code : String)
  | list (list : ListNode)
  | table (table : Table)
  | blockQuote (id : NodeId) (children : List Block)

/-- The top of a tree. -/
structure Root where
  id : NodeId
  children : List Block

/-- Identity and kind, which every node has. -/
class Node (α : Type) where
  id : α → NodeId
  kind : α → NodeKind

namespace Inline

/-- The text carried by an inline. -/
def text : Inline → String
  | span _ _ text => text
  | link _ text _ => text
  | image _ text _ => text

/-- Identity of an inline. -/
def id : Inline → NodeId
  | span _ id _ => id
  | link id _ _ => id
  | image id _ _ => id

/-- Kind of an inline; a span has the kind of its style. -/
def kind : Inline → NodeKind
  | span style _ _ => style.kind
  | link _ _ _ => .link
  | image _ _ _ => .image

end Inline

/-- The texts of the inlines of a paragraph, one after the other. -/
def Paragraph.text (paragraph : Paragraph) : String :=
  String.join (paragraph.children.map Inline.text)

namespace ListNode

/-- Identity of a list. -/
def id : ListNode → NodeId
  | mk id _ _ _ => id

/-- Numbering of a list. -/
def type : ListNode → ListType
  | mk _ type _ _ => type

/-- Nesting depth of a list. -/
def depth : ListNode → Nat
  | mk _ _ depth _ => depth

/-- Items and sublists of a list in their order. -/
def entries : ListNode → List ListEntry
  | mk _ _ _ entries => entries

end ListNode

namespace ListEntry

/-- Identity of the item or of the sublist. -/
def id : ListEntry → NodeId
  | item id _ _ => id
  | sublist list => list.id

/-- Kind of an entry. -/
def kind : ListEntry → NodeKind
  | item _ _ _ => .listItem
  | sublist _ => .list

/-- Whether an entry is an item. -/
def isItem : ListEntry → Bool
  | item _ _ _ => true
  | sublist _ => false

end ListEntry

/-- The entries of a list that are items. -/
def ListNode.items (list : ListNode) : List ListEntry :=
  list.entries.filter ListEntry.isItem

/-- Number of body cells across all rows. -/
def Table.cellCount (table : Table) : Nat :=
  (table.body.map List.length).foldr (· + ·) 0

namespace Block

/-- Identity of a block. -/
def id : Block → NodeId
  | heading id _ _ => id
  | paragraph p => p.id
  | codeBlock id _ _ => id
  | list l => l.id
  | table t => t.id
  | blockQuote id _ => id

/-- Kind of a block. -/
def kind : Block → NodeKind
  | heading _ _ _ => .heading
  | paragraph _ => .paragraph
  | codeBlock _ _ _ => .codeBlock
  | list _ => .list
  | table _ => .table
  | blockQuote _ _ => .blockQuote

end Block

instance : Node Inline := ⟨Inline.id, Inline.kind⟩

instance : Node Paragraph := ⟨Paragraph.id, fun _ => .paragraph⟩

instance : Node ListNode := ⟨ListNode.id, fun _ => .list⟩

instance : Node ListEntry := ⟨ListEntry.id, ListEntry.kind⟩

instance : Node Block := ⟨Block.id, Block.kind⟩

end Tree
end DocTree
