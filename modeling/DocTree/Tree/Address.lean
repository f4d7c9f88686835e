import DocTree.Tree.Children
import DocTree.Tree.Walk

/-!
# Addresses in a tree, and edits at an address

An address is a path of steps from the root.  `Root.focus?` finds the node at an address;
`Root.edit?` puts a tree back together after an edit of the children of that node.

The cells of a table are reached by their place in the flat sequence and are read-only, because
the body holds them as well; nothing lies below them.  The flat sequence itself is the sequence of
children of the table and may be edited; the body stays as it is.
-/

namespace DocTree
namespace Tree

/-- One step down from a node. -/
inductive Step
  /-- To the child at a place: a block, an inline, an entry of a list, a sublist of an item, or a
  cell of the flat sequence of a table. -/
  | child (index : Nat)
  /-- To a header paragraph of a table. -/
  | header (index : Nat)
  /-- To the paragraph that leads an item. -/
  | paragraph
deriving DecidableEq, Repr

/-- A change of a sequence of children. -/
inductive Edit
  | removeFirst (kind : NodeKind)
  | removeAll (kind : NodeKind)
  | clear
  | reverse
deriving DecidableEq, Repr

/-- The sequence of children after an edit. -/
def Edit.apply {α : Type} [Node α] (edit : Edit) (children : List α) : List α :=
  match edit with
  | removeFirst kind => (Children.removeFirst kind children).2
  | removeAll kind => (Children.removeAll kind children).2
  | clear => []
  | reverse => children.reverse

/-- The node at an address. -/
inductive Focus
  | root (root : Root)
  | block (block : Block)
  | inline (inline : Inline)
  | entry (entry : ListEntry)
  | sublist (list : ListNode)
  | paragraph (paragraph : Paragraph)
  | cell (paragraph : Paragraph)

namespace Focus

/-- Identity of the node. -/
def id : Focus → NodeId
  | root r => r.id
  | block b => b.id
  | inline i => i.id
  | entry e => e.id
  | sublist l => l.id
  | paragraph p => p.id
  | cell p => p.id

/-- Kind of the node. -/
def kind : Focus → NodeKind
  | root _ => .root
  | block b => b.kind
  | inline i => i.kind
  | entry e => e.kind
  | sublist _ => .list
  | paragraph _ => .paragraph
  | cell _ => .paragraph

instance : Node Focus := ⟨Focus.id, Focus.kind⟩

/-- The list that a node is, if it is one. -/
def list? : Focus → Option ListNode
  | block (.list l) => some l
  | entry (.sublist l) => some l
  | sublist l => some l
  | _ => none

/-- The table that a node is, if it is one. -/
def table? : Focus → Option Table
  | block (.table t) => some t
  | _ => none

/-- The text of a paragraph, a cell or an inline. -/
def text? : Focus → Option String
  | block (.paragraph p) => some p.text
  | inline i => some i.text
  | paragraph p => some p.text
  | cell p => some p.text
  | _ => none

/-- The sequence of children of a node that has one. -/
def children? : Focus → Option (List Focus)
  | root r => some (r.children.map block)
  | block (.paragraph p) => some (p.children.map inline)
  | block (.list l) => some (l.entries.map entry)
  | block (.table t) => some (t.cells.map cell)
  | block (.blockQuote _ bs) => some (bs.map block)
  | block (.heading _ _ _) => none
  | block (.codeBlock _ _ _) => none
  | inline _ => none
  | entry (.item _ _ ls) => some (ls.map sublist)
  | entry (.sublist l) => some (l.entries.map entry)
  | sublist l => some (l.entries.map entry)
  | paragraph p => some (p.children.map inline)
  | cell _ => none

/-- The node one step down. -/
def step? (focus : Focus) : Step → Option Focus
  | .child index => focus.children?.bind fun children => children[index]?
  | .header index => focus.table?.bind fun t => (t.headers[index]?).map paragraph
  | .paragraph =>
      match focus with
      | entry (.item _ p _) => some (paragraph p)
      | _ => none

end Focus

/-- The node at an address. -/
def Root.focus? (root : Root) (address : List Step) : Option Focus :=
  address.foldlM Focus.step? (Focus.root root)

/-- Replace the element at a place, if there is one and its replacement exists. -/
def replaceAt? {α : Type} (xs : List α) (index : Nat) (f : α → Option α) : Option (List α) :=
  (xs[index]?).bind fun x => (f x).map (xs.set index)

/-- Edit the children of a paragraph; the address has to end at the paragraph itself. -/
def Paragraph.edit? (edit : Edit) : List Step → Paragraph → Option Paragraph
  | [], p => some { p with children := edit.apply p.children }
  | _ :: _, _ => none

mutual

/-- Edit below a list. -/
def ListNode.edit? (edit : Edit) : List Step → ListNode → Option ListNode
  | [], .mk id type depth entries => some (.mk id type depth (edit.apply entries))
  | .child index :: address, .mk id type depth entries =>
      (replaceAt? entries index (ListEntry.edit? edit address)).map (.mk id type depth)
  | _ :: _, _ => none

/-- Edit below an entry of a list. -/
def ListEntry.edit? (edit : Edit) : List Step → ListEntry → Option ListEntry
  | address, .sublist list => (ListNode.edit? edit address list).map .sublist
  | [], .item id paragraph sublists => some (.item id paragraph (edit.apply sublists))
  | .child index :: address, .item id paragraph sublists =>
      (replaceAt? sublists index (ListNode.edit? edit address)).map (.item id paragraph)
  | .paragraph :: address, .item id paragraph sublists =>
      (paragraph.edit? edit address).map fun p => .item id p sublists
  | .header _ :: _, .item _ _ _ => none

end

/-- Edit below a table. -/
def Table.edit? (edit : Edit) : List Step → Table → Option Table
  | [], t => some { t with cells := edit.apply t.cells }
  | .header index :: address, t =>
      (replaceAt? t.headers index (Paragraph.edit? edit address)).map fun headers =>
        { t with headers := headers }
  | _ :: _, _ => none

/-- Edit below a block. -/
def Block.edit? (edit : Edit) : List Step → Block → Option Block
  | address, .paragraph p => (p.edit? edit address).map .paragraph
  | address, .list l => (l.edit? edit address).map .list
  | address, .table t => (t.edit? edit address).map .table
  | [], .blockQuote id children => some (.blockQuote id (edit.apply children))
  | .child index :: address, .blockQuote id children =>
      (replaceAt? children index (Block.edit? edit address)).map (.blockQuote id)
  | _, _ => none

/-- Edit the children of the node at an address; absent when no node with children is there. -/
def Root.edit? (edit : Edit) (root : Root) : List Step → Option Root
  | [] => some { root with children := edit.apply root.children }
  | .child index :: address =>
      (replaceAt? root.children index (Block.edit? edit address)).map fun children =>
        { root with children := children }
  | _ :: _ => none

end Tree
end DocTree
