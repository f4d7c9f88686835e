import DocTree.Proofs.Build.Account
import Mathlib.Data.List.Basic

/-!
# Documents without unrepresentable nodes

`Markup.Document.clean` takes out of a document what a tree has no node for.  A container of another
kind is replaced by its children, an inline of another kind is removed where it is a direct member
of a paragraph or of a cell, and a child of an item is removed if it is neither a paragraph nor a
list.

**Same tree.**  The build of a document and the build of the cleaned document run in step.  Their
contexts differ only in what was reported and logged (`Alike`), and no builder reads that.  A node
that is taken out moves the first run on by reports alone: it takes no id, and it leaves the item
that is held back as it is (`listChild_clean`).

**No losses.**  A cleaned document has no losses, and a document without losses is clean.
-/

namespace DocTree

namespace Markup

/-- Whether the kind of an inline is one of those with a node. -/
def Inline.isKept : Inline → Bool
  | .other _ _ => false
  | _ => true

/-- A run of inlines without the members of other kinds.  What is nested in a member stays. -/
def cleanInlines (content : List Inline) : List Inline :=
  content.filter Inline.isKept

def Table.clean (table : Table) : Table where
  alignments := table.alignments
  head := table.head.map cleanInlines
  rows := table.rows.map fun row => row.map cleanInlines

mutual

/-- What is left of a direct child of an item. -/
def Block.cleanChild : Block → Option Block
  | .paragraph content => some (.paragraph (cleanInlines content))
  | .list ordered items => some (.list ordered (Block.cleanItems items))
  | _ => none

def Block.cleanItem : List Block → List Block
  | [] => []
  | child :: children => (Block.cleanChild child).toList ++ Block.cleanItem children

def Block.cleanItems : List (List Block) → List (List Block)
  | [] => []
  | item :: items => Block.cleanItem item :: Block.cleanItems items

end

mutual

/-- What is left of a block of the document: the clean block, or the clean children of a container
of another kind. -/
def Block.clean : Block → List Block
  | .heading level content => [.heading level content]
  | .paragraph content => [.paragraph (cleanInlines content)]
  | .codeBlock info literal => [.codeBlock info literal]
  | .list ordered items => [.list ordered (Block.cleanItems items)]
  | .blockQuote children => [.blockQuote (Block.cleanAll children)]
  | .table t => [.table t.clean]
  | .other _ children => Block.cleanAll children

def Block.cleanAll : List Block → List Block
  | [] => []
  | b :: bs => Block.clean b ++ Block.cleanAll bs

end

/-- A document without the nodes that a tree cannot represent. -/
def Document.clean (doc : Document) : Document :=
  ⟨Block.cleanAll doc.children⟩

end Markup

namespace Build

open DocTree.Markup (cleanInlines)
open DocTree.Tree (ListNode)

/-- Two contexts that a builder cannot tell apart. -/
structure Alike (cx cx' : Context) : Prop where
  issued : cx'.issued = cx.issued
  options : cx'.options = cx.options

namespace Alike

variable {cx cx' : Context}

theorem nextId (h : Alike cx cx') : cx'.nextId = cx.nextId := by
  rw [Context.nextId, Context.nextId, h.issued]

theorem issue (h : Alike cx cx') : Alike cx.issue cx'.issue :=
  ⟨congrArg (· + 1) h.issued, h.options⟩

/-- Log records count for nothing, also where only one of the two runs writes them. -/
theorem record
    (h : Alike cx cx')
    (level : LogLevel)
    (message message' : String) :
    Alike (cx.record level message) (cx'.record level message') :=
  ⟨h.issued, h.options⟩

/-- A report in the first run counts for nothing. -/
theorem report
    (h : Alike cx cx')
    (loss : Diagnostic) :
    Alike (cx.report loss) cx' :=
  ⟨h.issued, h.options⟩

end Alike

/-- Two runs with the same result that leave contexts a builder cannot tell apart. -/
def SameRun {α : Type} (run run' : α × Context) : Prop :=
  run'.1 = run.1 ∧ Alike run.2 run'.2

/-- The results of two such runs may be used in the same way. -/
theorem SameRun.map
    {α β : Type}
    {run run' : α × Context}
    (f : α → β)
    (h : SameRun run run') :
    SameRun (f run.1, run.2) (f run'.1, run'.2) :=
  ⟨congrArg f h.1, h.2⟩

section Inlines

/-- An inline without a node is removed, and its run reports only. -/
theorem inline_of_not_isKept
    {source : Markup.Inline}
    (h : source.isKept = false)
    (cx : Context) :
    inline source cx = (none, cx.report (.inlineDrop source.kindName)) := by
  cases source with
  | other name s =>
      rfl
  | text _ | strong _ | emphasis _ | strikethrough _ | code _ | link _ _ _ | image _ _ _ =>
      simp [Markup.Inline.isKept] at h

theorem inline_of_isKept
    {source : Markup.Inline}
    (h : source.isKept = true)
    {cx cx' : Context}
    (hcx : Alike cx cx') :
    SameRun (inline source cx) (inline source cx') := by
  cases hnode : inlineNode? cx.nextId source with
  | none =>
      cases source <;> simp [inlineNode?, Markup.Inline.isKept] at hnode h
  | some node =>
      simp only [inline, hcx.nextId, hnode]
      exact ⟨rfl, hcx.issue⟩

theorem inlines_clean
    (content : List Markup.Inline)
    {cx cx' : Context}
    (hcx : Alike cx cx') :
    SameRun (inlines content cx) (inlines (cleanInlines content) cx') := by
  induction content generalizing cx cx' with
  | nil =>
      exact ⟨rfl, hcx⟩
  | cons source content ih =>
      cases hkept : source.isKept with
      | true =>
          obtain ⟨hnode, hnext⟩ := inline_of_isKept hkept hcx
          obtain ⟨hnodes, hlast⟩ := ih hnext
          rw [cleanInlines, List.filter_cons_of_pos hkept]
          refine ⟨?_, hlast⟩
          rw [inlines, inlines, hnode, ← cleanInlines, hnodes]
      | false =>
          have hnot : ¬source.isKept = true := by simp [hkept]
          rw [cleanInlines, List.filter_cons_of_neg hnot, ← cleanInlines, inlines,
            inline_of_not_isKept hkept]
          exact ih (hcx.report _)

theorem paragraph_clean
    (content : List Markup.Inline)
    {cx cx' : Context}
    (hcx : Alike cx cx') :
    SameRun (paragraph content cx) (paragraph (cleanInlines content) cx') := by
  obtain ⟨hnodes, hlast⟩ := inlines_clean content hcx.issue
  refine ⟨?_, hlast⟩
  rw [paragraph, paragraph, hcx.nextId, hnodes]

end Inlines

section Tables

theorem paragraphs_clean
    (cells : List Markup.Cell)
    {cx cx' : Context}
    (hcx : Alike cx cx') :
    SameRun (paragraphs cells cx) (paragraphs (cells.map cleanInlines) cx') := by
  induction cells generalizing cx cx' with
  | nil =>
      exact ⟨rfl, hcx⟩
  | cons cell cells ih =>
      obtain ⟨hnode, hnext⟩ := paragraph_clean cell hcx
      obtain ⟨hnodes, hlast⟩ := ih hnext
      refine ⟨?_, hlast⟩
      rw [List.map_cons, paragraphs, paragraphs, hnode, hnodes]

theorem rows_clean
    (source : List (List Markup.Cell))
    {cx cx' : Context}
    (hcx : Alike cx cx') :
    SameRun (rows source cx) (rows (source.map fun row => row.map cleanInlines) cx') := by
  induction source generalizing cx cx' with
  | nil =>
      exact ⟨rfl, hcx⟩
  | cons cells source ih =>
      obtain ⟨hnode, hnext⟩ := paragraphs_clean cells hcx
      obtain ⟨hnodes, hlast⟩ := ih hnext
      refine ⟨?_, hlast⟩
      rw [List.map_cons, rows, rows, hnode, hnodes]

theorem table_clean
    (source : Markup.Table)
    {cx cx' : Context}
    (hcx : Alike cx cx') :
    SameRun (table source cx) (table source.clean cx') := by
  obtain ⟨hheaders, hnext⟩ := paragraphs_clean source.head hcx.issue
  obtain ⟨hbody, hlast⟩ := rows_clean source.rows hnext
  rw [table_eq_tableByRows, table_eq_tableByRows]
  refine ⟨?_, hlast⟩
  simp only [tableByRows, Markup.Table.clean, hcx.nextId, hheaders, hbody]

end Tables

section Lists

/-- Two steps that push and hold the same and leave contexts a builder cannot tell apart. -/
structure SameStep (step step' : ListStep) : Prop where
  pushed : step'.pushed = step.pushed
  held : step'.held = step.held
  context : Alike step.context step'.context

theorem placeSublist_alike
    (sublist : ListNode)
    (held : Option HeldItem)
    {cx cx' : Context}
    (hcx : Alike cx cx') :
    SameStep (placeSublist sublist held cx) (placeSublist sublist held cx') := by
  unfold placeSublist
  rw [hcx.options]
  split
  · exact ⟨rfl, rfl, hcx⟩
  · exact ⟨rfl, rfl, hcx⟩

/-- The step through a child that may have been removed. -/
def keptChild : Option Markup.Block → Nat → Option HeldItem → Context → ListStep
  | none, _, held, cx => ⟨[], held, cx⟩
  | some child, depth, held, cx => listChild child depth held cx

theorem itemEntries_kept
    (child : Option Markup.Block)
    (children : List Markup.Block)
    (depth : Nat)
    (held : Option HeldItem)
    (cx : Context) :
    itemEntries (child.toList ++ children) depth held cx =
      let step := keptChild child depth held cx
      let rest := itemEntries children depth step.held step.context
      (step.pushed ++ rest.1, rest.2) := by
  cases child <;> rfl

mutual

/-- The step through one child and the step through what is left of it. -/
theorem listChild_clean :
    ∀ (child : Markup.Block) (depth : Nat) (held : Option HeldItem) {cx cx' : Context},
      Alike cx cx' →
        SameStep (listChild child depth held cx) (keptChild child.cleanChild depth held cx')
  | .paragraph content, depth, held, cx, cx', hcx => by
      obtain ⟨hlead, hlast⟩ := paragraph_clean content hcx.issue
      simp only [Markup.Block.cleanChild, keptChild, listChild]
      refine ⟨rfl, ?_, hlast⟩
      simp only [hcx.nextId, hlead]
  | .list ordered items, depth, held, cx, cx', hcx => by
      obtain ⟨hentries, hlast⟩ := listItems_clean items (depth + 1) hcx.issue
      simp only [Markup.Block.cleanChild, keptChild, listChild, hcx.nextId, hentries]
      exact placeSublist_alike _ held hlast
  -- The other kinds are removed.  Without the child nothing is pushed and the held item stays.
  | .heading level content, depth, held, cx, cx', hcx => ⟨rfl, rfl, hcx.report _⟩
  | .codeBlock info literal, depth, held, cx, cx', hcx => ⟨rfl, rfl, hcx.report _⟩
  | .blockQuote children, depth, held, cx, cx', hcx => ⟨rfl, rfl, hcx.report _⟩
  | .table source, depth, held, cx, cx', hcx => ⟨rfl, rfl, hcx.report _⟩
  | .other name children, depth, held, cx, cx', hcx => ⟨rfl, rfl, hcx.report _⟩

/-- The runs through the rest of a source item, from the same held item on. -/
theorem itemEntries_clean :
    ∀ (children : List Markup.Block) (depth : Nat) (held : Option HeldItem) {cx cx' : Context},
      Alike cx cx' →
        SameRun (itemEntries children depth held cx)
          (itemEntries (Markup.Block.cleanItem children) depth held cx')
  | [], depth, held, cx, cx', hcx => by
      rw [Markup.Block.cleanItem, itemEntries, itemEntries]
      exact ⟨rfl, hcx⟩
  | child :: children, depth, held, cx, cx', hcx => by
      have hstep := listChild_clean child depth held hcx
      obtain ⟨hentries, hlast⟩ :=
        itemEntries_clean children depth (listChild child depth held cx).held hstep.context
      rw [Markup.Block.cleanItem, itemEntries_kept, itemEntries]
      simp only [hstep.pushed, hstep.held]
      refine ⟨?_, hlast⟩
      rw [hentries]

theorem listItems_clean :
    ∀ (items : List (List Markup.Block)) (depth : Nat) {cx cx' : Context},
      Alike cx cx' →
        SameRun (listItems items depth cx)
          (listItems (Markup.Block.cleanItems items) depth cx')
  | [], depth, cx, cx', hcx => ⟨rfl, hcx⟩
  | item :: items, depth, cx, cx', hcx => by
      obtain ⟨hfirst, hnext⟩ := itemEntries_clean item depth none hcx
      obtain ⟨hrest, hlast⟩ := listItems_clean items depth hnext
      refine ⟨?_, hlast⟩
      rw [Markup.Block.cleanItems, listItems, listItems, hfirst, hrest]

end

theorem list_clean
    (ordered : Bool)
    (items : List (List Markup.Block))
    (depth : Nat)
    {cx cx' : Context}
    (hcx : Alike cx cx') :
    SameRun (list ordered items depth cx)
      (list ordered (Markup.Block.cleanItems items) depth cx') := by
  obtain ⟨hentries, hlast⟩ := listItems_clean items depth hcx.issue
  refine ⟨?_, hlast⟩
  rw [list, list, hcx.nextId, hentries]

end Lists

section Blocks

theorem blocks_singleton (source : Markup.Block) (cx : Context) :
    blocks [source] cx = block source cx := by
  simp [blocks]

mutual

/-- The runs of a block and of what is left of it. -/
theorem block_clean :
    ∀ (source : Markup.Block) {cx cx' : Context},
      Alike cx cx' → SameRun (block source cx) (blocks source.clean cx')
  | .heading level content, cx, cx', hcx => by
      have htraced := hcx.record .trace "building heading" "building heading"
      rw [Markup.Block.clean, blocks_singleton, block, block]
      refine ⟨?_, htraced.issue⟩
      rw [htraced.nextId]
  | .paragraph content, cx, cx', hcx => by
      have htraced := hcx.record .trace "building paragraph" "building paragraph"
      rw [Markup.Block.clean, blocks_singleton, block, block]
      exact (paragraph_clean content htraced).map fun node => [Tree.Block.paragraph node]
  | .codeBlock info literal, cx, cx', hcx => by
      have htraced := hcx.record .trace "building code_block" "building code_block"
      rw [Markup.Block.clean, blocks_singleton, block, block]
      refine ⟨?_, htraced.issue⟩
      rw [htraced.nextId, htraced.options]
  | .list ordered items, cx, cx', hcx => by
      have htraced := hcx.record .trace "building list" "building list"
      rw [Markup.Block.clean, blocks_singleton, block, block]
      exact (list_clean ordered items 0 htraced).map fun node => [Tree.Block.list node]
  | .blockQuote children, cx, cx', hcx => by
      have htraced := hcx.record .trace "building block_quote" "building block_quote"
      have hchildren := blocks_clean children htraced.issue
      rw [Markup.Block.clean, blocks_singleton, block, block, htraced.nextId]
      exact hchildren.map fun nodes => [Tree.Block.blockQuote _ nodes]
  | .table source, cx, cx', hcx => by
      have htraced := hcx.record .trace "building table" "building table"
      rw [Markup.Block.clean, blocks_singleton, block, block]
      exact (table_clean source htraced).map fun node => [Tree.Block.table node]
  | .other name children, cx, cx', hcx => by
      -- The container has gone from the second run, which writes neither record nor report.
      have hleft : Alike (cx.record .trace ("building " ++ name)) cx' := ⟨hcx.issued, hcx.options⟩
      rw [Markup.Block.clean, block]
      exact blocks_clean children (hleft.report (.blockFallthrough name))

theorem blocks_clean :
    ∀ (source : List Markup.Block) {cx cx' : Context},
      Alike cx cx' → SameRun (blocks source cx) (blocks (Markup.Block.cleanAll source) cx')
  | [], cx, cx', hcx => ⟨rfl, hcx⟩
  | b :: bs, cx, cx', hcx => by
      obtain ⟨hfirst, hnext⟩ := block_clean b hcx
      obtain ⟨hrest, hlast⟩ := blocks_clean bs hnext
      rw [Markup.Block.cleanAll, blocks_append, blocks]
      exact ⟨by rw [hfirst, hrest], hlast⟩

end

end Blocks

section Losses

/-- An inline has a node exactly if it is not lost. -/
theorem isKept_iff (source : Markup.Inline) :
    source.isKept = true ↔ inlineLoss? source = none := by
  cases source <;> simp [Markup.Inline.isKept, inlineLoss?]

theorem inlinesLosses_clean (content : List Markup.Inline) :
    inlinesLosses (cleanInlines content) = [] := by
  rw [inlinesLosses, List.filterMap_eq_nil_iff]
  intro source hsource
  rw [← isKept_iff]
  exact (List.mem_filter.mp hsource).2

theorem cleanInlines_of_losses
    {content : List Markup.Inline}
    (h : inlinesLosses content = []) :
    cleanInlines content = content := by
  rw [inlinesLosses, List.filterMap_eq_nil_iff] at h
  rw [cleanInlines, List.filter_eq_self]
  intro source hsource
  exact (isKept_iff source).mpr (h source hsource)

/-- The cells of a clean table are the cells of the table, cleaned one by one. -/
theorem cells_clean (source : Markup.Table) :
    source.clean.head ++ source.clean.rows.flatten =
      (source.head ++ source.rows.flatten).map cleanInlines := by
  simp only [Markup.Table.clean, List.map_append, List.map_flatten]

theorem tableLosses_clean (source : Markup.Table) :
    tableLosses source.clean = [] := by
  rw [tableLosses, cells_clean, List.flatMap_eq_nil_iff]
  intro cell hcell
  obtain ⟨origin, _, rfl⟩ := List.mem_map.mp hcell
  exact inlinesLosses_clean origin

theorem map_cleanInlines_of_losses
    {cells : List Markup.Cell}
    (h : ∀ cell ∈ cells, inlinesLosses cell = []) :
    cells.map cleanInlines = cells := by
  conv_rhs => rw [← List.map_id cells]
  apply List.map_congr_left
  intro cell hcell
  exact cleanInlines_of_losses (h cell hcell)

theorem tableClean_of_losses
    {source : Markup.Table}
    (h : tableLosses source = []) :
    source.clean = source := by
  rw [tableLosses, List.flatMap_eq_nil_iff] at h
  have hhead : source.head.map cleanInlines = source.head := by
    apply map_cleanInlines_of_losses
    intro cell hcell
    exact h cell (List.mem_append_left _ hcell)
  have hrows : (source.rows.map fun row => row.map cleanInlines) = source.rows := by
    conv_rhs => rw [← List.map_id source.rows]
    apply List.map_congr_left
    intro row hrow
    apply map_cleanInlines_of_losses
    intro cell hcell
    exact h cell (List.mem_append_right _ (List.mem_flatten_of_mem hrow hcell))
  rw [Markup.Table.clean, hhead, hrows]

theorem itemLosses_append
    (children children' : List Markup.Block)
    (depth : Nat) :
    itemLosses (children ++ children') depth =
      itemLosses children depth ++ itemLosses children' depth := by
  induction children with
  | nil =>
      rfl
  | cons child children ih =>
      simp only [List.cons_append, itemLosses, ih, List.append_assoc]

theorem blocksLosses_append (source source' : List Markup.Block) :
    blocksLosses (source ++ source') = blocksLosses source ++ blocksLosses source' := by
  induction source with
  | nil =>
      rfl
  | cons b bs ih =>
      simp only [List.cons_append, blocksLosses, ih, List.append_assoc]

mutual

/-- What is left of a child of an item has no losses. -/
theorem childLosses_clean :
    ∀ (child : Markup.Block) (depth : Nat), itemLosses child.cleanChild.toList depth = []
  | .paragraph content, depth => by
      simp [Markup.Block.cleanChild, itemLosses, childLosses, inlinesLosses_clean]
  | .list ordered items, depth => by
      simp [Markup.Block.cleanChild, itemLosses, childLosses, itemsLosses_clean items]
  | .heading _ _, _ => rfl
  | .codeBlock _ _, _ => rfl
  | .blockQuote _, _ => rfl
  | .table _, _ => rfl
  | .other _ _, _ => rfl

theorem itemLosses_clean :
    ∀ (children : List Markup.Block) (depth : Nat),
      itemLosses (Markup.Block.cleanItem children) depth = []
  | [], _ => rfl
  | child :: children, depth => by
      rw [Markup.Block.cleanItem, itemLosses_append, childLosses_clean child,
        itemLosses_clean children, List.append_nil]

theorem itemsLosses_clean :
    ∀ (items : List (List Markup.Block)) (depth : Nat),
      itemsLosses (Markup.Block.cleanItems items) depth = []
  | [], _ => rfl
  | item :: items, depth => by
      rw [Markup.Block.cleanItems, itemsLosses, itemLosses_clean item,
        itemsLosses_clean items, List.append_nil]

end

mutual

theorem blockLosses_clean :
    ∀ source : Markup.Block, blocksLosses source.clean = []
  | .heading _ _ => rfl
  | .paragraph content => by
      simp [Markup.Block.clean, blocksLosses, blockLosses, inlinesLosses_clean]
  | .codeBlock _ _ => rfl
  | .list ordered items => by
      simp [Markup.Block.clean, blocksLosses, blockLosses, itemsLosses_clean]
  | .blockQuote children => by
      simp [Markup.Block.clean, blocksLosses, blockLosses, blocksLosses_clean children]
  | .table source => by
      simp [Markup.Block.clean, blocksLosses, blockLosses, tableLosses_clean]
  | .other name children => blocksLosses_clean children

theorem blocksLosses_clean :
    ∀ source : List Markup.Block, blocksLosses (Markup.Block.cleanAll source) = []
  | [] => rfl
  | b :: bs => by
      rw [Markup.Block.cleanAll, blocksLosses_append, blockLosses_clean b,
        blocksLosses_clean bs, List.append_nil]

end

mutual

/-- A child of an item without losses is clean. -/
theorem cleanChild_of_losses :
    ∀ (child : Markup.Block) (depth : Nat),
      childLosses child depth = [] → child.cleanChild = some child
  | .paragraph content, _, h => by
      rw [Markup.Block.cleanChild, cleanInlines_of_losses h]
  | .list ordered items, depth, h => by
      rw [Markup.Block.cleanChild, cleanItems_of_losses items (depth + 1) h]
  | .heading _ _, _, h => nomatch h
  | .codeBlock _ _, _, h => nomatch h
  | .blockQuote _, _, h => nomatch h
  | .table _, _, h => nomatch h
  | .other _ _, _, h => nomatch h

theorem cleanItem_of_losses :
    ∀ (children : List Markup.Block) (depth : Nat),
      itemLosses children depth = [] → Markup.Block.cleanItem children = children
  | [], _, _ => rfl
  | child :: children, depth, h => by
      obtain ⟨hchild, hchildren⟩ := List.append_eq_nil_iff.mp h
      rw [Markup.Block.cleanItem, cleanChild_of_losses child depth hchild,
        cleanItem_of_losses children depth hchildren]
      rfl

theorem cleanItems_of_losses :
    ∀ (items : List (List Markup.Block)) (depth : Nat),
      itemsLosses items depth = [] → Markup.Block.cleanItems items = items
  | [], _, _ => rfl
  | item :: items, depth, h => by
      obtain ⟨hitem, hitems⟩ := List.append_eq_nil_iff.mp h
      rw [Markup.Block.cleanItems, cleanItem_of_losses item depth hitem,
        cleanItems_of_losses items depth hitems]

end

mutual

/-- A block without losses is clean. -/
theorem clean_of_losses :
    ∀ source : Markup.Block, blockLosses source = [] → source.clean = [source]
  | .heading _ _, _ => rfl
  | .paragraph content, h => by
      rw [Markup.Block.clean, cleanInlines_of_losses h]
  | .codeBlock _ _, _ => rfl
  | .list ordered items, h => by
      rw [Markup.Block.clean, cleanItems_of_losses items 0 h]
  | .blockQuote children, h => by
      rw [Markup.Block.clean, cleanAll_of_losses children h]
  | .table source, h => by
      rw [Markup.Block.clean, tableClean_of_losses h]
  | .other _ _, h => nomatch h

theorem cleanAll_of_losses :
    ∀ source : List Markup.Block,
      blocksLosses source = [] → Markup.Block.cleanAll source = source
  | [], _ => rfl
  | b :: bs, h => by
      obtain ⟨hfirst, hrest⟩ := List.append_eq_nil_iff.mp h
      rw [Markup.Block.cleanAll, clean_of_losses b hfirst, cleanAll_of_losses bs hrest]
      rfl

end

/-- A document is clean exactly if it has no losses. -/
theorem documentLosses_eq_nil_iff (doc : Markup.Document) :
    documentLosses doc = [] ↔ doc.clean = doc := by
  constructor
  · intro h
    rw [Markup.Document.clean, cleanAll_of_losses doc.children h]
  · intro h
    rw [← h]
    exact blocksLosses_clean doc.children

end Losses

/-- **Unrepresentable nodes.**  They leave no trace in the tree: the cleaned document has the same
tree, ids included, and the build of it reports nothing.  A build reports nothing exactly if its
document is clean. -/
theorem build_clean (doc : Markup.Document) (options : Options) :
    (build doc.clean options).root = (build doc options).root ∧
      (build doc.clean options).diagnostics = [] ∧
      ((build doc options).diagnostics = [] ↔ doc.clean = doc) := by
  refine ⟨?_, ?_, ?_⟩
  · have hstart : Alike (Context.new options).issue (Context.new options).issue := ⟨rfl, rfl⟩
    obtain ⟨hchildren, _⟩ := blocks_clean doc.children hstart
    simp only [build, buildRoot, Markup.Document.clean, hchildren]
  · rw [diagnostics_build]
    exact blocksLosses_clean doc.children
  · rw [diagnostics_build]
    exact documentLosses_eq_nil_iff doc

-- A container gives way to its children, and the list keeps the sublist of its only item.
example :
    (Markup.Document.clean ⟨[.other "footnote" [.paragraph [.text "a", .other "softbreak" " "]],
        .list false [[.paragraph [], .codeBlock "" "x", .list true [[.heading 1 []]]]]]⟩) =
      ⟨[.paragraph [.text "a"], .list false [[.paragraph [], .list true [[]]]]]⟩ := by
  rfl

end Build
end DocTree
