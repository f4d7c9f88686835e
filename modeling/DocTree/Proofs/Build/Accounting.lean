import DocTree.Markup.Count
import DocTree.Proofs.Build.Account
import Mathlib.Data.List.Basic

/-!
# Where the nodes of a document go

A node of a parsed document becomes a node of the tree, is reported as a loss, or is absorbed.  What
is absorbed has no node and no report: the items of a list and the rows of a table, whatever stands
inside a heading or inside another inline, and whatever stands below a dropped child of an item.  On
the other side, the item of a paragraph is a node of the tree without one in the document.

The two sides balance for every kind of block (`Balanced`).  They are read off the document alone:
the contents that a walk shows and the losses that a build reports are listed in document order
(`nodeContent_walk_build`, `diagnostics_build`), so one recursion over the document adds up
all four counts.
-/

namespace DocTree

namespace Markup

/-- Nodes strictly below an inline. -/
def Inline.innerCount : Inline → Nat
  | .text _ => 0
  | .strong children => Inline.nodeCountAll children
  | .emphasis children => Inline.nodeCountAll children
  | .strikethrough children => Inline.nodeCountAll children
  | .code _ => 0
  | .link _ _ children => Inline.nodeCountAll children
  | .image _ _ children => Inline.nodeCountAll children
  | .other _ _ => 0

theorem Inline.nodeCount_eq (source : Inline) :
    source.nodeCount = 1 + source.innerCount := by
  cases source <;> rfl

/-- Nodes strictly below a block. -/
def Block.innerCount : Block → Nat
  | .heading _ content => Inline.nodeCountAll content
  | .paragraph content => Inline.nodeCountAll content
  | .codeBlock _ _ => 0
  | .list _ items => Block.nodeCountItems items
  | .blockQuote children => Block.nodeCountAll children
  | .table t => t.innerCount
  | .other _ children => Block.nodeCountAll children

theorem Block.nodeCount_eq (source : Block) :
    source.nodeCount = 1 + source.innerCount := by
  cases source <;> rfl

theorem cellsNodeCount_append (cells cells' : List Cell) :
    cellsNodeCount (cells ++ cells') = cellsNodeCount cells + cellsNodeCount cells' := by
  induction cells with
  | nil =>
      simp [cellsNodeCount]
  | cons cell cells ih =>
      simp only [List.cons_append, cellsNodeCount, ih]
      omega

theorem rowsNodeCount_eq (rows : List (List Cell)) :
    rowsNodeCount rows = rows.length + cellsNodeCount rows.flatten := by
  induction rows with
  | nil =>
      rfl
  | cons row rows ih =>
      simp only [rowsNodeCount, List.flatten_cons, cellsNodeCount_append, List.length_cons, ih]
      omega

end Markup

namespace Build

open DocTree.Markup (cellsNodeCount)

section Absorbed

/-- Inlines strictly below the members of a paragraph or of a cell. -/
def inlinesAbsorbed : List Markup.Inline → Nat
  | [] => 0
  | source :: content => source.innerCount + inlinesAbsorbed content

def cellsAbsorbed : List Markup.Cell → Nat
  | [] => 0
  | cell :: cells => inlinesAbsorbed cell + cellsAbsorbed cells

/-- The rows of a table, the head row among them, and the inlines below the members of its cells. -/
def tableAbsorbed (source : Markup.Table) : Nat :=
  1 + source.rows.length + cellsAbsorbed (source.head ++ source.rows.flatten)

mutual

/-- What is absorbed of a direct child of an item: all that is below it, if it is dropped. -/
def childAbsorbed : Markup.Block → Nat
  | .paragraph content => inlinesAbsorbed content
  | .list _ items => itemsAbsorbed items
  | dropped => dropped.innerCount

def itemAbsorbed : List Markup.Block → Nat
  | [] => 0
  | child :: children => childAbsorbed child + itemAbsorbed children

/-- What is absorbed of the items of a list, and the items themselves. -/
def itemsAbsorbed : List (List Markup.Block) → Nat
  | [] => 0
  | item :: items => 1 + itemAbsorbed item + itemsAbsorbed items

end

mutual

/-- What is absorbed of a block of the document. -/
def blockAbsorbed : Markup.Block → Nat
  | .heading _ content => Markup.Inline.nodeCountAll content
  | .paragraph content => inlinesAbsorbed content
  | .codeBlock _ _ => 0
  | .list _ items => itemsAbsorbed items
  | .blockQuote children => blocksAbsorbed children
  | .table source => tableAbsorbed source
  | .other _ children => blocksAbsorbed children

def blocksAbsorbed : List Markup.Block → Nat
  | [] => 0
  | b :: bs => blockAbsorbed b + blocksAbsorbed bs

end

/-- The nodes of a document that are absorbed. -/
def absorbed (doc : Markup.Document) : Nat :=
  blocksAbsorbed doc.children

end Absorbed

section ItemParagraphs

mutual

/-- Paragraphs directly under items, in a direct child of an item. -/
def childParagraphs : Markup.Block → Nat
  | .paragraph _ => 1
  | .list _ items => itemsParagraphs items
  | _ => 0

def itemParagraphs : List Markup.Block → Nat
  | [] => 0
  | child :: children => childParagraphs child + itemParagraphs children

def itemsParagraphs : List (List Markup.Block) → Nat
  | [] => 0
  | item :: items => itemParagraphs item + itemsParagraphs items

end

mutual

/-- Paragraphs directly under items, in a block of the document. -/
def blockParagraphs : Markup.Block → Nat
  | .list _ items => itemsParagraphs items
  | .blockQuote children => blocksParagraphs children
  | .other _ children => blocksParagraphs children
  | _ => 0

def blocksParagraphs : List Markup.Block → Nat
  | [] => 0
  | b :: bs => blockParagraphs b + blocksParagraphs bs

end

/-- The paragraphs directly under the items of the lists of a document that are built. -/
def leadParagraphs (doc : Markup.Document) : Nat :=
  blocksParagraphs doc.children

end ItemParagraphs

/-- Number of items among contents. -/
def itemCount (contents : List Content) : Nat :=
  contents.countP fun content => content.kind = .listItem

@[simp] theorem itemCount_append (contents contents' : List Content) :
    itemCount (contents ++ contents') = itemCount contents + itemCount contents' := by
  rw [itemCount, List.countP_append]
  rfl

/-- A part of a document with a number of nodes and of paragraphs that lead items, against what a
tree shows of it, what is reported and what is absorbed. -/
structure Balanced
    (nodes paragraphs : Nat)
    (contents : List Content)
    (losses : List Diagnostic)
    (absorbed : Nat) : Prop where
  items : itemCount contents = paragraphs
  total : nodes + paragraphs = contents.length + losses.length + absorbed
  /-- No more items come to the tree than the part has nodes. -/
  bound : paragraphs ≤ nodes

namespace Balanced

theorem nil : Balanced 0 0 [] [] 0 :=
  ⟨rfl, rfl, Nat.le_refl 0⟩

theorem append
    {nodes nodes' paragraphs paragraphs' absorbed absorbed' : Nat}
    {contents contents' : List Content}
    {losses losses' : List Diagnostic}
    (h : Balanced nodes paragraphs contents losses absorbed)
    (h' : Balanced nodes' paragraphs' contents' losses' absorbed') :
    Balanced (nodes + nodes') (paragraphs + paragraphs') (contents ++ contents')
      (losses ++ losses') (absorbed + absorbed') where
  items := by
    rw [itemCount_append, h.items, h'.items]
  total := by
    have htotal := h.total
    have htotal' := h'.total
    simp only [List.length_append]
    omega
  bound := Nat.add_le_add h.bound h'.bound

/-- Nodes of the document that are absorbed. -/
theorem absorb (count : Nat) : Balanced count 0 [] [] count :=
  ⟨rfl, by simp, Nat.zero_le count⟩

/-- A node that is shown in the tree, before the rest of its part. -/
theorem cons
    {nodes paragraphs absorbed : Nat}
    {contents : List Content}
    {losses : List Diagnostic}
    {content : Content}
    (hkind : content.kind ≠ .listItem)
    (h : Balanced nodes paragraphs contents losses absorbed) :
    Balanced (1 + nodes) paragraphs (content :: contents) losses absorbed where
  items := by
    have hitems := h.items
    simpa [itemCount, hkind] using hitems
  total := by
    have htotal := h.total
    rw [List.length_cons]
    omega
  bound := by
    have hbound := h.bound
    omega

/-- A node that is reported, before the rest of its part. -/
theorem lose
    {nodes paragraphs absorbed : Nat}
    {contents : List Content}
    {losses : List Diagnostic}
    (loss : Diagnostic)
    (h : Balanced nodes paragraphs contents losses absorbed) :
    Balanced (1 + nodes) paragraphs contents (loss :: losses) absorbed where
  items := h.items
  total := by
    have htotal := h.total
    rw [List.length_cons]
    omega
  bound := by
    have hbound := h.bound
    omega

/-- An item of the tree that a paragraph leads. -/
theorem lead
    {nodes absorbed : Nat}
    {contents : List Content}
    {losses : List Diagnostic}
    (h : Balanced nodes 0 contents losses absorbed)
    (hpos : 1 ≤ nodes) :
    Balanced nodes 1 (.listItem :: contents) losses absorbed where
  items := by
    have hitems := h.items
    simpa [itemCount, Content.kind] using hitems
  total := by
    have htotal := h.total
    rw [List.length_cons]
    omega
  bound := hpos

end Balanced

section Inlines

theorem balanced_inline (source : Markup.Inline) :
    Balanced source.nodeCount 0 (inlineContent? source).toList (inlineLoss? source).toList
      source.innerCount := by
  have hbelow := Balanced.absorb source.innerCount
  rw [Markup.Inline.nodeCount_eq]
  cases source with
  | other name s =>
      exact hbelow.lose (.inlineDrop name)
  | text _ | strong _ | emphasis _ | strikethrough _ | code _ | link _ _ _ | image _ _ _ =>
      exact hbelow.cons (by simp [Content.kind, Tree.Style.kind])

theorem balanced_inlines (content : List Markup.Inline) :
    Balanced (Markup.Inline.nodeCountAll content) 0 (inlinesContents content)
      (inlinesLosses content) (inlinesAbsorbed content) := by
  induction content with
  | nil =>
      exact Balanced.nil
  | cons source content ih =>
      have hfirst := balanced_inline source
      simpa only [Markup.Inline.nodeCountAll, inlinesContents, inlinesLosses, inlinesAbsorbed,
        List.filterMap_eq_flatMap_toList, List.flatMap_cons] using hfirst.append ih

theorem balanced_paragraph (content : List Markup.Inline) :
    Balanced (1 + Markup.Inline.nodeCountAll content) 0 (paragraphContents content)
      (inlinesLosses content) (inlinesAbsorbed content) :=
  (balanced_inlines content).cons (by decide)

/-- Cells are paragraphs of the tree. -/
theorem balanced_cells (cells : List Markup.Cell) :
    Balanced (cellsNodeCount cells) 0 (cells.flatMap paragraphContents)
      (cells.flatMap inlinesLosses) (cellsAbsorbed cells) := by
  induction cells with
  | nil =>
      exact Balanced.nil
  | cons cell cells ih =>
      have hfirst := balanced_paragraph cell
      simpa only [cellsNodeCount, cellsAbsorbed, List.flatMap_cons] using hfirst.append ih

/-- Rows are absorbed, the head row among them. -/
theorem balanced_table (source : Markup.Table) :
    Balanced source.innerCount 0 (tableContents source) (tableLosses source)
      (tableAbsorbed source) := by
  have hrows := Balanced.absorb (1 + source.rows.length)
  have hcells := balanced_cells (source.head ++ source.rows.flatten)
  -- The document counts a table row by row, and a walk meets its cells all in one line.
  have hcount : source.innerCount =
      1 + source.rows.length + cellsNodeCount (source.head ++ source.rows.flatten) := by
    rw [Markup.Table.innerCount, Markup.rowsNodeCount_eq, List.flatten_cons, List.length_cons]
    omega
  rw [hcount]
  exact hrows.append hcells

end Inlines

section Lists

theorem listContent_ne (ordered : Bool) :
    (listContent ordered).kind ≠ .listItem := by
  simp [listContent, Content.kind]

/-- A dropped child of an item is reported, and all that is below it is absorbed. -/
theorem balanced_drop (child : Markup.Block) (depth : Nat) :
    Balanced child.nodeCount 0 [] [.listChildDrop child.kindName depth] child.innerCount := by
  rw [Markup.Block.nodeCount_eq]
  exact (Balanced.absorb child.innerCount).lose _

mutual

theorem balanced_child :
    ∀ (child : Markup.Block) (depth : Nat),
      Balanced child.nodeCount (childParagraphs child) (childContents child)
        (childLosses child depth) (childAbsorbed child)
  | .paragraph content, _ => (balanced_paragraph content).lead (Nat.le_add_right 1 _)
  | .list ordered items, depth => (balanced_items items (depth + 1)).cons (listContent_ne ordered)
  | .heading level content, depth => balanced_drop (.heading level content) depth
  | .codeBlock info literal, depth => balanced_drop (.codeBlock info literal) depth
  | .blockQuote children, depth => balanced_drop (.blockQuote children) depth
  | .table source, depth => balanced_drop (.table source) depth
  | .other name children, depth => balanced_drop (.other name children) depth

theorem balanced_item :
    ∀ (children : List Markup.Block) (depth : Nat),
      Balanced (Markup.Block.nodeCountAll children) (itemParagraphs children)
        (itemContents children) (itemLosses children depth) (itemAbsorbed children)
  | [], _ => Balanced.nil
  | child :: children, depth => (balanced_child child depth).append (balanced_item children depth)

/-- The items themselves are absorbed. -/
theorem balanced_items :
    ∀ (items : List (List Markup.Block)) (depth : Nat),
      Balanced (Markup.Block.nodeCountItems items) (itemsParagraphs items)
        (itemsContents items) (itemsLosses items depth) (itemsAbsorbed items)
  | [], _ => Balanced.nil
  | item :: items, depth => by
      have hitem := (Balanced.absorb 1).append (balanced_item item depth)
      have hrest := balanced_items items depth
      rw [Nat.zero_add] at hitem
      exact hitem.append hrest

end

end Lists

section Blocks

mutual

theorem balanced_block (mode : CodeTrim) :
    ∀ source : Markup.Block,
      Balanced source.nodeCount (blockParagraphs source) (blockContents mode source)
        (blockLosses source) (blockAbsorbed source)
  | .heading level content => (Balanced.absorb _).cons (by simp [Content.kind])
  | .paragraph content => balanced_paragraph content
  | .codeBlock info literal => Balanced.nil.cons (by simp [Content.kind])
  | .list ordered items => (balanced_items items 0).cons (listContent_ne ordered)
  | .blockQuote children => (balanced_blocks mode children).cons (by decide)
  | .table source => (balanced_table source).cons (by simp [Content.kind])
  | .other name children => (balanced_blocks mode children).lose (.blockFallthrough name)

theorem balanced_blocks (mode : CodeTrim) :
    ∀ source : List Markup.Block,
      Balanced (Markup.Block.nodeCountAll source) (blocksParagraphs source)
        (blocksContents mode source) (blocksLosses source) (blocksAbsorbed source)
  | [] => Balanced.nil
  | b :: bs => (balanced_block mode b).append (balanced_blocks mode bs)

end

theorem balanced_document (doc : Markup.Document) (mode : CodeTrim) :
    Balanced doc.nodeCount (leadParagraphs doc) (documentContents mode doc)
      (documentLosses doc) (absorbed doc) :=
  (balanced_blocks mode doc.children).cons (by decide)

end Blocks

/-- Number of items among the nodes of a tree. -/
def itemNodes (root : Tree.Root) : Nat :=
  root.walk.countP fun node => node.kind = .listItem

/-- The items of a tree are counted among the contents that its walk shows. -/
theorem itemNodes_eq (root : Tree.Root) :
    itemNodes root = itemCount (root.walk.map nodeContent) := by
  simp [itemNodes, itemCount, List.countP_map, Function.comp_def]

/-- **Node accounting.**  The nodes of a document and the items of its tree are, together, as many
as the nodes met on a walk, the diagnostics and the absorbed nodes.  The items are the paragraphs
directly under items of the document.  So a walk meets at most twice the nodes of the document. -/
theorem walk_build_accounting (doc : Markup.Document) (options : Options) :
    doc.nodeCount + itemNodes (build doc options).root =
        (build doc options).root.walk.length + (build doc options).diagnostics.length +
          absorbed doc ∧
      itemNodes (build doc options).root = leadParagraphs doc ∧
      (build doc options).root.walk.length ≤ 2 * doc.nodeCount := by
  have hbalance := balanced_document doc options.codeTrim
  have hcontents := nodeContent_walk_build doc options
  have hitems : itemNodes (build doc options).root = leadParagraphs doc := by
    rw [itemNodes_eq, hcontents, hbalance.items]
  have hwalk : (build doc options).root.walk.length =
      (documentContents options.codeTrim doc).length := by
    rw [← hcontents, List.length_map]
  have htotal := hbalance.total
  have hbound := hbalance.bound
  rw [hitems, hwalk, diagnostics_build]
  refine ⟨htotal, rfl, ?_⟩
  -- A walk meets no more than the nodes and the items, and there are no more items than nodes.
  omega

end Build
end DocTree
