import DocTree.Proofs.Ast.PlainText
import DocTree.Proofs.Markup.Outline

/-!
# What lowering keeps of a syntax tree

A syntax node means what its place makes of it (`Place`): below a list every child is an item, below
a table every child is a row, and so on down to the inlines.  In inline place seven kinds keep what
is below them, and any other kind hides it.

The outline of a syntax tree leaves out what is hidden and nothing else (`size_treeOutline`).  If
the tree is such as a grammar produces (`Regular`), the outline of the lowered tree is the same one
(`outline_tree`): every node that is not hidden is kept, with its data, below the same node and in
the same order among its siblings.
-/

namespace DocTree
namespace Ast

open Markup (Part Outline)

section Kinds

/-- Whether a kind is one of the six that are handled in block place. -/
def Kind.isBlock : Kind → Bool
  | heading _ | paragraph | codeBlock _ _ | list _ | blockQuote | table _ => true
  | _ => false

/-- Whether a kind is one of the seven that are handled in inline place. -/
def Kind.isInline : Kind → Bool
  | text _ | strong | emph | strikethrough | code _ | link _ _ | image _ _ => true
  | _ => false

def blockNames : List String :=
  ["heading", "paragraph", "code_block", "list", "block_quote", "table"]

def inlineNames : List String :=
  ["text", "strong", "emph", "strikethrough", "code", "link", "image"]

theorem isBlock_iff_name (kind : Kind) :
    kind.isBlock = true ↔ kind.name ∈ blockNames := by
  cases kind <;> simp [Kind.isBlock, Kind.name, blockNames]

theorem isInline_iff_name (kind : Kind) :
    kind.isInline = true ↔ kind.name ∈ inlineNames := by
  cases kind <;> simp [Kind.isInline, Kind.name, inlineNames]

theorem kindName_block (node : Node) :
    node.block.kindName = node.kind.name := by
  obtain ⟨kind, children⟩ := node
  cases kind <;> simp only [Node.block, Markup.Block.kindName, Kind.name, Node.kind]

theorem kindName_inline (node : Node) :
    node.inline.kindName = node.kind.name := by
  obtain ⟨kind, children⟩ := node
  cases kind <;> simp only [Node.inline, Markup.Inline.kindName, Kind.name, Node.kind]

theorem block_of_not_isBlock
    {kind : Kind}
    (h : kind.isBlock = false)
    (children : List Node) :
    Node.block (.mk kind children) = .other kind.name (Node.blocks children) := by
  cases kind <;> simp [Kind.isBlock] at h <;> simp only [Node.block]

theorem inline_of_not_isInline
    {kind : Kind}
    (h : kind.isInline = false)
    (children : List Node) :
    Node.inline (.mk kind children) = .other kind.name (Node.plainText (.mk kind children)) := by
  cases kind <;> simp [Kind.isInline] at h <;>
    simp only [Node.inline, Node.plainText, plainText_inlines]

/-- A node that has no counterpart in block place has none of the names handled there. -/
theorem name_notMem_of_block_other
    {node : Node}
    {name : String}
    {children : List Markup.Block}
    (h : node.block = .other name children) :
    name ∉ blockNames := by
  have hname : node.kind.name = name := by
    rw [← kindName_block, h, Markup.Block.kindName]
  rw [← hname, ← isBlock_iff_name]
  intro hblock
  obtain ⟨kind, below⟩ := node
  cases kind <;> simp [Node.kind, Kind.isBlock, Node.block] at hblock h

theorem name_notMem_of_inline_other
    {node : Node}
    {name text : String}
    (h : node.inline = .other name text) :
    name ∉ inlineNames := by
  have hname : node.kind.name = name := by
    rw [← kindName_inline, h, Markup.Inline.kindName]
  rw [← hname, ← isInline_iff_name]
  intro hinline
  obtain ⟨kind, below⟩ := node
  cases kind <;> simp [Node.kind, Kind.isInline, Node.inline] at hinline h

end Kinds

section Places

/-- The places of a syntax tree in which a node is lowered in a way of its own. -/
inductive Place
  | block
  | item
  | row
  | cell
  | inline
deriving DecidableEq, Repr

/-- The place of the children of a node of a kind. -/
def Place.below : Place → Kind → Place
  | block, .heading _ => inline
  | block, .paragraph => inline
  | block, .list _ => item
  | block, .table _ => row
  | block, _ => block
  | item, _ => block
  | row, _ => cell
  | cell, _ => inline
  | inline, _ => inline

/-- Whether a node of a kind hides what is below it. -/
def Place.hides : Place → Kind → Bool
  | inline, kind => !kind.isInline
  | _, _ => false

/-- What a grammar promises of the children of a node: a table starts with its only header row, and
there is nothing below a code block, a text or a piece of code. -/
def Place.Promises : Place → Kind → List Node → Prop
  | block, .table _, header :: rows =>
      header.isHeaderRow = true ∧ ∀ row ∈ rows, row.isHeaderRow = false
  | block, .table _, [] => False
  | block, .codeBlock _ _, children => children = []
  | inline, .text _, children => children = []
  | inline, .code _, children => children = []
  | _, _, _ => True

mutual

/-- Whether the promises are kept at a node in a place and everywhere below it, as far as it is not
hidden. -/
def Node.Regular (place : Place) : Node → Prop
  | .mk kind children =>
      place.Promises kind children ∧
        (place.hides kind = true ∨ Node.AllRegular (place.below kind) children)

def Node.AllRegular (place : Place) : List Node → Prop
  | [] => True
  | node :: nodes => node.Regular place ∧ Node.AllRegular place nodes

end

end Places

section Counts

mutual

/-- Nodes of a syntax tree. -/
def Node.size : Node → Nat
  | .mk _ children => 1 + Node.sizeAll children

def Node.sizeAll : List Node → Nat
  | [] => 0
  | node :: nodes => node.size + Node.sizeAll nodes

end

mutual

/-- Nodes strictly below a node in inline place that hides them. -/
def Node.hidden (place : Place) : Node → Nat
  | .mk kind children =>
      if place.hides kind then Node.sizeAll children
      else Node.hiddenAll (place.below kind) children

def Node.hiddenAll (place : Place) : List Node → Nat
  | [] => 0
  | node :: nodes => node.hidden place + Node.hiddenAll place nodes

end

end Counts

section Outlines

/-- What a node is in a place. -/
def Place.part (place : Place) (node : Node) : Part :=
  match place, node.kind with
  | block, .heading level => .heading level
  | block, .paragraph => .paragraph
  | block, .codeBlock info literal => .codeBlock info literal
  | block, .list ordered => .list ordered
  | block, .blockQuote => .blockQuote
  | block, .table alignments => .table alignments
  | block, kind => .otherBlock kind.name
  | item, _ => .item
  | row, _ => .row
  | cell, _ => .cell
  | inline, .text s => .text s
  | inline, .strong => .strong
  | inline, .emph => .emphasis
  | inline, .strikethrough => .strikethrough
  | inline, .code literal => .code literal
  | inline, .link url title => .link (nonEmpty? url) (nonEmpty? title)
  | inline, .image url title => .image (nonEmpty? url) (nonEmpty? title)
  | inline, kind => .otherInline kind.name node.plainText

mutual

/-- The outline of a node in a place, without what is hidden. -/
def Node.outline (place : Place) : Node → Outline
  | .mk kind children =>
      .mk (place.part (.mk kind children))
        (if place.hides kind then [] else Node.outlines (place.below kind) children)

def Node.outlines (place : Place) : List Node → List Outline
  | [] => []
  | node :: nodes => node.outline place :: Node.outlines place nodes

end

/-- The outline of a whole tree: its root is the document, whatever its kind. -/
def Node.treeOutline (root : Node) : Outline :=
  .mk .document (Node.outlines .block root.children)

mutual

/-- A node of a tree is in the outline or hidden. -/
theorem size_outline (place : Place) :
    ∀ node : Node, (node.outline place).size + node.hidden place = node.size
  | .mk kind children => by
      have hbelow := size_outlines (place.below kind) children
      rw [Node.outline, Outline.size, Node.hidden, Node.size]
      split
      · rw [Outline.sizeAll]
      · omega

theorem size_outlines (place : Place) :
    ∀ nodes : List Node,
      Outline.sizeAll (Node.outlines place nodes) + Node.hiddenAll place nodes =
        Node.sizeAll nodes
  | [] => rfl
  | node :: nodes => by
      have hnode := size_outline place node
      have hnodes := size_outlines place nodes
      rw [Node.outlines, Outline.sizeAll, Node.hiddenAll, Node.sizeAll]
      omega

end

theorem size_treeOutline (root : Node) :
    root.treeOutline.size + Node.hiddenAll .block root.children = root.size := by
  obtain ⟨kind, children⟩ := root
  have hbelow := size_outlines .block children
  rw [Node.treeOutline, Outline.size, Node.size, Node.children, ← hbelow, Nat.add_assoc]

end Outlines

section Lowering

theorem part_of_not_isBlock
    {kind : Kind}
    (h : kind.isBlock = false)
    (children : List Node) :
    Place.part .block (.mk kind children) = .otherBlock kind.name := by
  cases kind <;> simp [Kind.isBlock] at h <;> rfl

theorem part_of_not_isInline
    {kind : Kind}
    (h : kind.isInline = false)
    (children : List Node) :
    Place.part .inline (.mk kind children) =
      .otherInline kind.name (Node.plainText (.mk kind children)) := by
  cases kind <;> simp [Kind.isInline] at h <;> rfl

theorem below_block_of_not_isBlock
    {kind : Kind}
    (h : kind.isBlock = false) :
    Place.below .block kind = .block := by
  cases kind <;> simp [Kind.isBlock] at h <;> rfl

mutual

theorem outline_inline :
    ∀ node : Node, node.Regular .inline → node.inline.outline = node.outline .inline
  | .mk kind children => by
      rintro ⟨hpromise, hbelow⟩
      cases hkind : kind.isInline with
      | false =>
          have hhides : Place.hides .inline kind = true := by simp [Place.hides, hkind]
          rw [inline_of_not_isInline hkind, Node.outline, if_pos hhides,
            part_of_not_isInline hkind, Markup.Inline.outline]
      | true =>
          have hhides : Place.hides .inline kind = false := by simp [Place.hides, hkind]
          have hinlines := outline_inlines children
            (hbelow.resolve_left (Bool.eq_false_iff.mp hhides))
          rw [Node.outline, if_neg (Bool.eq_false_iff.mp hhides)]
          cases kind
          case text | code =>
            rw [show children = [] from hpromise]
            rfl
          case strong | emph | strikethrough | link | image =>
            exact congrArg (Outline.mk _) hinlines
          all_goals contradiction

theorem outline_inlines :
    ∀ nodes : List Node, Node.AllRegular .inline nodes →
      Markup.Inline.outlines (Node.inlines nodes) = Node.outlines .inline nodes
  | [], _ => rfl
  | node :: nodes, h => by
      rw [Node.inlines, Markup.Inline.outlines, Node.outlines, outline_inline node h.1,
        outline_inlines nodes h.2]

end

theorem outline_cell
    {node : Node}
    (h : node.Regular .cell) :
    Markup.cellOutline node.cell = node.outline .cell := by
  obtain ⟨kind, children⟩ := node
  have hbelow := h.2.resolve_left Bool.false_ne_true
  exact congrArg (Outline.mk _) (outline_inlines children hbelow)

theorem outline_cells
    {nodes : List Node}
    (h : Node.AllRegular .cell nodes) :
    (nodes.map Node.cell).map Markup.cellOutline = Node.outlines .cell nodes := by
  induction nodes with
  | nil =>
      rfl
  | cons node nodes ih =>
      rw [List.map_cons, List.map_cons, Node.outlines, outline_cell h.1, ih h.2]

theorem outline_row
    {node : Node}
    (h : node.Regular .row) :
    Markup.rowOutline node.row = node.outline .row := by
  obtain ⟨kind, children⟩ := node
  have hbelow := h.2.resolve_left Bool.false_ne_true
  exact congrArg (Outline.mk _) (outline_cells hbelow)

theorem outline_rows
    {nodes : List Node}
    (h : Node.AllRegular .row nodes) :
    (nodes.map Node.row).map Markup.rowOutline = Node.outlines .row nodes := by
  induction nodes with
  | nil =>
      rfl
  | cons node nodes ih =>
      rw [List.map_cons, List.map_cons, Node.outlines, outline_row h.1, ih h.2]

/-- A table that starts with its only header row has its rows in their order. -/
theorem tableOf_header
    (alignments : List Markup.Alignment)
    {header : Node}
    {rows : List Node}
    (hheader : header.isHeaderRow = true)
    (hrows : ∀ row ∈ rows, row.isHeaderRow = false) :
    tableOf alignments (header :: rows) = ⟨alignments, header.row, rows.map Node.row⟩ := by
  have hhead : (header :: rows).filter Node.isHeaderRow = [header] := by
    rw [List.filter_cons_of_pos hheader, List.filter_eq_nil_iff.mpr]
    intro row hrow
    simp [hrows row hrow]
  have hbody : ((header :: rows).filter fun row => !row.isHeaderRow) = rows := by
    rw [List.filter_cons_of_neg (by simp [hheader]), List.filter_eq_self]
    intro row hrow
    simp [hrows row hrow]
  rw [tableOf, hhead, hbody]
  rfl

theorem outline_table
    (alignments : List Markup.Alignment)
    {children : List Node}
    (hpromise : Place.Promises .block (.table alignments) children)
    (hbelow : Node.AllRegular .row children) :
    (tableOf alignments children).outlines = Node.outlines .row children := by
  cases children with
  | nil =>
      exact hpromise.elim
  | cons header rows =>
      rw [tableOf_header alignments hpromise.1 hpromise.2, Markup.Table.outlines,
        ← outline_rows hbelow]
      rfl

mutual

theorem outline_block :
    ∀ node : Node, node.Regular .block → node.block.outline = node.outline .block
  | .mk kind children => by
      rintro ⟨hpromise, hbelow⟩
      have hregular := hbelow.resolve_left Bool.false_ne_true
      cases hkind : kind.isBlock with
      | false =>
          rw [below_block_of_not_isBlock hkind] at hregular
          rw [block_of_not_isBlock hkind, Markup.Block.outline, outline_blocks children hregular,
            Node.outline, part_of_not_isBlock hkind, below_block_of_not_isBlock hkind]
          rfl
      | true =>
          cases kind
          case heading | paragraph =>
            exact congrArg (Outline.mk _) (outline_inlines children hregular)
          case codeBlock =>
            rw [show children = [] from hpromise]
            rfl
          case list =>
            exact congrArg (Outline.mk _) (outline_items children hregular)
          case blockQuote =>
            exact congrArg (Outline.mk _) (outline_blocks children hregular)
          case table alignments =>
            exact congrArg (Outline.mk _) (outline_table alignments hpromise hregular)
          all_goals contradiction

theorem outline_blocks :
    ∀ nodes : List Node, Node.AllRegular .block nodes →
      Markup.Block.outlines (Node.blocks nodes) = Node.outlines .block nodes
  | [], _ => rfl
  | node :: nodes, h => by
      rw [Node.blocks, Markup.Block.outlines, Node.outlines, outline_block node h.1,
        outline_blocks nodes h.2]

theorem outline_item :
    ∀ node : Node, node.Regular .item →
      Outline.mk .item (Markup.Block.outlines node.item) = node.outline .item
  | .mk _ children => by
      rintro ⟨_, hbelow⟩
      have hregular := hbelow.resolve_left Bool.false_ne_true
      exact congrArg (Outline.mk _) (outline_blocks children hregular)

theorem outline_items :
    ∀ nodes : List Node, Node.AllRegular .item nodes →
      Markup.Block.itemOutlines (Node.items nodes) = Node.outlines .item nodes
  | [], _ => rfl
  | node :: nodes, h => by
      rw [Node.items, Markup.Block.itemOutlines, Node.outlines, outline_item node h.1,
        outline_items nodes h.2]

end

/-- Lowering a regular tree keeps its outline. -/
theorem outline_tree
    {root : Node}
    (h : Node.AllRegular .block root.children) :
    root.lower.outline = root.treeOutline :=
  congrArg (Outline.mk _) (outline_blocks root.children h)

/-- Lowering keeps every node of a regular tree that is not hidden, below the same node and in the
same order among its siblings.  A lowered node has the name of the kind that it had, and a node
without a counterpart never has the name of a kind that is handled in its place; this needs no
promise. -/
theorem lower_keeps_nodes (root : Node) :
    (Node.AllRegular .block root.children →
      root.lower.outline = root.treeOutline ∧
      root.lower.nodeCount + Node.hiddenAll .block root.children = root.size) ∧
    (∀ node : Node,
      node.block.kindName = node.kind.name ∧ node.inline.kindName = node.kind.name) ∧
    (∀ (node : Node) name children,
      node.block = .other name children → ∀ kind : Kind, kind.isBlock = true → kind.name ≠ name) ∧
    (∀ (node : Node) name text,
      node.inline = .other name text → ∀ kind : Kind, kind.isInline = true → kind.name ≠ name) := by
  refine ⟨?_, fun node => ⟨kindName_block node, kindName_inline node⟩, ?_, ?_⟩
  · intro hregular
    have houtline := outline_tree hregular
    refine ⟨houtline, ?_⟩
    rw [← Markup.size_documentOutline, houtline, size_treeOutline]
  · rintro node name children hother kind hkind rfl
    exact name_notMem_of_block_other hother ((isBlock_iff_name kind).mp hkind)
  · rintro node name text hother kind hkind rfl
    exact name_notMem_of_inline_other hother ((isInline_iff_name kind).mp hkind)

/-- A table and a list with a task item; what stands in the superscript of a cell is hidden. -/
theorem lower_keeps_nodes_superscript :
    let header : Node := .mk (.tableRow true) [.mk .tableCell [.text "a"]]
    let row : Node := .mk (.tableRow false) [.mk .tableCell [.mk .superscript [.text "b"]]]
    let root : Node := .mk .document
      [.mk (.table [.left]) [header, row],
        .mk (.list true) [.mk .taskItem [.leaf (.codeBlock "" "c"), .leaf .thematicBreak]]]
    Node.AllRegular .block root.children ∧
      root.lower.outline = root.treeOutline ∧
      root.lower.nodeCount + 1 = root.size := by
  intro header row root
  have hregular : Node.AllRegular .block root.children := by
    simp [root, header, row, Node.children, Node.AllRegular, Node.Regular, Place.Promises,
      Place.hides, Place.below, Node.leaf, Node.text, Node.isHeaderRow, Node.kind, Kind.isInline]
  obtain ⟨houtline, hcount⟩ := (lower_keeps_nodes root).1 hregular
  exact ⟨hregular, houtline, hcount⟩

end Lowering

end Ast
end DocTree
