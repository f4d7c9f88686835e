import DocTree.Tree.Basic

/-!
# Walking a tree in document order

`Root.walk` lists every node of a tree once, parents before children.  Table cells are met through
the body, not through the flat sequence of cells.  The paragraph that leads an item is a node of
its own, met right after its item.
-/

namespace DocTree
namespace Tree

/-- A node met on a walk, together with the role in which it was met. -/
inductive NodeRef
  | root (root : Root)
  | block (block : Block)
  | paragraph (paragraph : Paragraph)
  | inline (inline : Inline)
  | list (list : ListNode)
  | item (id : NodeId) (paragraph : Paragraph) (sublists : List ListNode)

namespace NodeRef

/-- Identity of the node met. -/
def id : NodeRef → NodeId
  | root node => node.id
  | block node => node.id
  | paragraph node => node.id
  | inline node => node.id
  | list node => node.id
  | item id _ _ => id

/-- Kind of the node met. -/
def kind : NodeRef → NodeKind
  | root _ => .root
  | block node => node.kind
  | paragraph _ => .paragraph
  | inline node => node.kind
  | list _ => .list
  | item _ _ _ => .listItem

/-- Name of the role. -/
def roleName : NodeRef → String
  | root _ => "Root"
  | block _ => "Block"
  | paragraph _ => "Paragraph"
  | inline _ => "Inline"
  | list _ => "List"
  | item _ _ _ => "ListItem"

end NodeRef

/-- The inlines of a paragraph. -/
def Paragraph.walkInlines (paragraph : Paragraph) : List NodeRef :=
  paragraph.children.map NodeRef.inline

/-- A paragraph met as a node of its own, and its inlines. -/
def Paragraph.walk (paragraph : Paragraph) : List NodeRef :=
  .paragraph paragraph :: paragraph.walkInlines

mutual

/-- What lies below a list. -/
def ListNode.walkBelow : ListNode → List NodeRef
  | .mk _ _ _ entries => ListEntry.walkAll entries

/-- An entry and what lies below it. -/
def ListEntry.walk : ListEntry → List NodeRef
  | .item id paragraph sublists =>
      .item id paragraph sublists :: (paragraph.walk ++ ListNode.walkAll sublists)
  | .sublist list => .list list :: ListNode.walkBelow list

/-- The entries of a list one after the other. -/
def ListEntry.walkAll : List ListEntry → List NodeRef
  | [] => []
  | entry :: entries => ListEntry.walk entry ++ ListEntry.walkAll entries

/-- The sublists of an item one after the other. -/
def ListNode.walkAll : List ListNode → List NodeRef
  | [] => []
  | list :: lists => .list list :: (ListNode.walkBelow list ++ ListNode.walkAll lists)

end

@[simp] theorem ListEntry.walkAll_append (entries entries' : List ListEntry) :
    ListEntry.walkAll (entries ++ entries') =
      ListEntry.walkAll entries ++ ListEntry.walkAll entries' := by
  induction entries with
  | nil =>
      rfl
  | cons entry entries ih =>
      simp [ListEntry.walkAll, ih]

@[simp] theorem ListNode.walkAll_append (lists lists' : List ListNode) :
    ListNode.walkAll (lists ++ lists') = ListNode.walkAll lists ++ ListNode.walkAll lists' := by
  induction lists with
  | nil =>
      rfl
  | cons list lists ih =>
      simp [ListNode.walkAll, ih]

/-- The header paragraphs of a table, then its body cells row by row. -/
def Table.walkBelow (table : Table) : List NodeRef :=
  table.headers.flatMap Paragraph.walk ++ table.body.flatten.flatMap Paragraph.walk

mutual

/-- A block and what lies below it. -/
def Block.walk : Block → List NodeRef
  | .heading id level text => [.block (.heading id level text)]
  | .paragraph p => .block (.paragraph p) :: p.walkInlines
  | .codeBlock id language code => [.block (.codeBlock id language code)]
  | .list l => .block (.list l) :: l.walkBelow
  | .table t => .block (.table t) :: t.walkBelow
  | .blockQuote id children => .block (.blockQuote id children) :: Block.walkAll children

/-- A run of blocks one after the other. -/
def Block.walkAll : List Block → List NodeRef
  | [] => []
  | b :: bs => Block.walk b ++ Block.walkAll bs

end

@[simp] theorem Block.walkAll_append (blocks blocks' : List Block) :
    Block.walkAll (blocks ++ blocks') = Block.walkAll blocks ++ Block.walkAll blocks' := by
  induction blocks with
  | nil =>
      rfl
  | cons block blocks ih =>
      simp [Block.walkAll, ih]

@[simp] theorem Block.walkAll_singleton (block : Block) :
    Block.walkAll [block] = block.walk := by
  simp [Block.walkAll]

/-- Every node of a tree, parents before children, in document order. -/
def Root.walk (root : Root) : List NodeRef :=
  .root root :: Block.walkAll root.children

end Tree
end DocTree
