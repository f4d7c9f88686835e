import DocTree.Markup.Count
import DocTree.Proofs.Build.Account
import Mathlib.Data.List.Basic

/-!
# How deep lists stand

A list that is a block stands at depth 0, in quotes and other containers too.  A list directly in
another one, whether beside its items or under them, stands one level deeper.  So a depth counts
lists of the source that stand in one another (`Markup.Block.nesting`), and of those there are fewer
than nodes: no depth outgrows the document.

`Leveled` says this of a node met on a walk, and for the flattened layout that an item owns no
lists.  The proof keeps it for the entries that were pushed and for the item that is held back, at
every step through the children of a source item (`leveled_listChild`).
-/

namespace DocTree

namespace Markup

mutual

/-- How many lists stand in one another in a block, at most. -/
def Block.nesting : Block → Nat
  | .heading _ _ => 0
  | .paragraph _ => 0
  | .codeBlock _ _ => 0
  | .list _ items => 1 + Block.nestingItems items
  | .blockQuote children => Block.nestingAll children
  | .table _ => 0
  | .other _ children => Block.nestingAll children

/-- How many lists stand in one another in a run of blocks, at most. -/
def Block.nestingAll : List Block → Nat
  | [] => 0
  | b :: bs => max (Block.nesting b) (Block.nestingAll bs)

/-- How many lists stand in one another in the items of a list, at most. -/
def Block.nestingItems : List (List Block) → Nat
  | [] => 0
  | item :: items => max (Block.nestingAll item) (Block.nestingItems items)

end

/-- How many lists stand in one another in a document, at most. -/
def Document.nesting (doc : Document) : Nat :=
  Block.nestingAll doc.children

mutual

theorem Block.nesting_le_nodeCount :
    ∀ source : Block, source.nesting ≤ source.nodeCount
  | .heading _ _ => Nat.zero_le _
  | .paragraph _ => Nat.zero_le _
  | .codeBlock _ _ => Nat.zero_le _
  | .table _ => Nat.zero_le _
  | .list _ items => by
      have hitems := Block.nestingItems_le_nodeCountItems items
      simp only [Block.nesting, Block.nodeCount]
      omega
  | .blockQuote children => by
      have hchildren := Block.nestingAll_le_nodeCountAll children
      simp only [Block.nesting, Block.nodeCount]
      omega
  | .other _ children => by
      have hchildren := Block.nestingAll_le_nodeCountAll children
      simp only [Block.nesting, Block.nodeCount]
      omega

theorem Block.nestingAll_le_nodeCountAll :
    ∀ source : List Block, Block.nestingAll source ≤ Block.nodeCountAll source
  | [] => Nat.zero_le _
  | b :: bs => by
      have hfirst := Block.nesting_le_nodeCount b
      have hrest := Block.nestingAll_le_nodeCountAll bs
      simp only [Block.nestingAll, Block.nodeCountAll]
      omega

theorem Block.nestingItems_le_nodeCountItems :
    ∀ items : List (List Block), Block.nestingItems items ≤ Block.nodeCountItems items
  | [] => Nat.zero_le _
  | item :: items => by
      have hfirst := Block.nestingAll_le_nodeCountAll item
      have hrest := Block.nestingItems_le_nodeCountItems items
      simp only [Block.nestingItems, Block.nodeCountItems]
      omega

end

/-- The document node itself is no list. -/
theorem Document.nesting_lt_nodeCount (doc : Document) :
    doc.nesting < doc.nodeCount := by
  have hchildren := Block.nestingAll_le_nodeCountAll doc.children
  simp only [Document.nesting, Document.nodeCount]
  omega

end Markup

namespace Tree

/-- The lists directly in an entry: those that an item owns, or the list beside the items. -/
def ListEntry.lists : ListEntry → List ListNode
  | .item _ _ sublists => sublists
  | .sublist list => [list]

/-- The lists directly in a list, beside its items and under them. -/
def ListNode.lists (node : ListNode) : List ListNode :=
  node.entries.flatMap ListEntry.lists

theorem ListEntry.mem_walkAll {node : NodeRef} {entries : List ListEntry} :
    node ∈ ListEntry.walkAll entries ↔ ∃ entry ∈ entries, node ∈ entry.walk := by
  induction entries with
  | nil =>
      simp [ListEntry.walkAll]
  | cons entry entries ih =>
      simp [ListEntry.walkAll, ih]

end Tree

namespace Build

open DocTree.Tree (NodeRef ListNode ListEntry)

section Leveled

/-- A list whose sublists stand one level deeper, at a depth that leaves room for one more below a
bound. -/
structure ListLeveled (bound : Nat) (node : ListNode) : Prop where
  below : ∀ sub ∈ node.lists, sub.depth = node.depth + 1
  bounded : node.depth + 1 ≤ bound

/-- What a layout and a bound on the depths say of a node that a walk meets. -/
def Leveled (layout : ListLayout) (bound : Nat) : NodeRef → Prop
  | .block (.list node) => node.depth = 0 ∧ ListLeveled bound node
  | .list node => ListLeveled bound node
  | .item _ _ sublists => layout = .flattened → sublists = []
  | _ => True

/-- An entry of a list at a depth: the lists directly in it stand one level deeper, and every node
in it is leveled. -/
structure EntryLeveled
    (layout : ListLayout)
    (bound depth : Nat)
    (entry : ListEntry) : Prop where
  lists : ∀ sub ∈ entry.lists, sub.depth = depth + 1
  nodes : ∀ node ∈ entry.walk, Leveled layout bound node

variable {layout : ListLayout} {bound depth : Nat}

theorem leveled_of_mem_inlines
    {paragraph : Tree.Paragraph}
    {node : NodeRef}
    (hmem : node ∈ paragraph.walkInlines) :
    Leveled layout bound node := by
  obtain ⟨source, _, rfl⟩ := List.mem_map.mp hmem
  trivial

theorem leveled_of_mem_paragraph
    {paragraph : Tree.Paragraph}
    {node : NodeRef}
    (hmem : node ∈ paragraph.walk) :
    Leveled layout bound node := by
  rcases List.mem_cons.mp hmem with rfl | hmem
  · trivial
  · exact leveled_of_mem_inlines hmem

/-- An item that owns nothing yet. -/
theorem entryLeveled_item (id : Tree.NodeId) (paragraph : Tree.Paragraph) :
    EntryLeveled layout bound depth (.item id paragraph []) where
  lists := by
    intro sub hsub
    cases hsub
  nodes := by
    intro node hmem
    simp only [ListEntry.walk, ListNode.walkAll, List.append_nil, List.mem_cons] at hmem
    rcases hmem with rfl | hmem
    · exact fun _ => rfl
    · exact leveled_of_mem_paragraph hmem

/-- With a layout that nests lists, an item may take one more. -/
theorem EntryLeveled.adopt
    {id : Tree.NodeId}
    {paragraph : Tree.Paragraph}
    {sublists : List ListNode}
    {sublist : ListNode}
    (h : EntryLeveled .nested bound depth (.item id paragraph sublists))
    (hsublist : EntryLeveled .nested bound depth (.sublist sublist)) :
    EntryLeveled .nested bound depth (.item id paragraph (sublists ++ [sublist])) where
  lists := by
    intro sub hsub
    rcases List.mem_append.mp hsub with hsub | hsub
    · exact h.lists sub hsub
    · exact hsublist.lists sub hsub
  nodes := by
    intro node hmem
    have howned := h.nodes node
    have hadded := hsublist.nodes node
    simp only [ListEntry.walk, ListNode.walkAll_append, ListNode.walkAll, List.append_nil,
      List.mem_cons, List.mem_append] at hmem howned hadded
    rcases hmem with rfl | hmem | hmem | hmem
    · intro hlayout
      cases hlayout
    · exact howned (Or.inr (Or.inl hmem))
    · exact howned (Or.inr (Or.inr hmem))
    · exact hadded hmem

/-- A list of leveled entries is leveled, and so is everything below it. -/
theorem leveled_of_entries
    (id : Tree.NodeId)
    (type : Tree.ListType)
    {entries : List ListEntry}
    (hentries : ∀ entry ∈ entries, EntryLeveled layout bound depth entry)
    (hbound : depth + 1 ≤ bound) :
    ListLeveled bound (.mk id type depth entries) ∧
      ∀ node ∈ (ListNode.mk id type depth entries).walkBelow, Leveled layout bound node := by
  refine ⟨⟨?_, hbound⟩, ?_⟩
  · intro sub hsub
    obtain ⟨entry, hentry, hsub⟩ := List.mem_flatMap.mp hsub
    exact (hentries entry hentry).lists sub hsub
  · intro node hmem
    rw [ListNode.walkBelow] at hmem
    obtain ⟨entry, hentry, hmem⟩ := ListEntry.mem_walkAll.mp hmem
    exact (hentries entry hentry).nodes node hmem

/-- A leveled list as an entry of a list above it. -/
theorem entryLeveled_sublist
    {sublist : ListNode}
    (hdepth : sublist.depth = depth + 1)
    (hsublist : ListLeveled bound sublist ∧
      ∀ node ∈ sublist.walkBelow, Leveled layout bound node) :
    EntryLeveled layout bound depth (.sublist sublist) where
  lists := List.forall_mem_singleton.mpr hdepth
  nodes := List.forall_mem_cons.mpr hsublist

end Leveled

section Lists

variable {layout : ListLayout} {bound : Nat}

/-- Wherever a sublist is placed, the entries stay leveled. -/
theorem leveled_placeSublist
    {sublist : ListNode}
    {held : Option HeldItem}
    {cx : Context}
    {depth : Nat}
    (hlayout : cx.options.listLayout = layout)
    (hheld : ∀ entry ∈ flush held, EntryLeveled layout bound depth entry)
    (hsublist : EntryLeveled layout bound depth (.sublist sublist)) :
    ∀ entry ∈ (placeSublist sublist held cx).entries, EntryLeveled layout bound depth entry := by
  unfold placeSublist
  split
  · rename_i owner hnested
    rw [hlayout] at hnested
    subst hnested
    have howner := List.forall_mem_singleton.mp hheld
    exact List.forall_mem_singleton.mpr (howner.adopt hsublist)
  · simp only [ListStep.entries, flush, List.append_nil]
    exact List.forall_mem_append.mpr ⟨hheld, List.forall_mem_singleton.mpr hsublist⟩

mutual

/-- A step through one child keeps the entries leveled, with the item that is held back. -/
theorem leveled_listChild :
    ∀ (child : Markup.Block) (depth : Nat) (held : Option HeldItem) (cx : Context),
      cx.options.listLayout = layout → depth + 1 + child.nesting ≤ bound →
        (∀ entry ∈ flush held, EntryLeveled layout bound depth entry) →
          ∀ entry ∈ (listChild child depth held cx).entries,
            EntryLeveled layout bound depth entry
  | .paragraph content, depth, held, cx, _, _, hheld => by
      have hitem : EntryLeveled layout bound depth
          (.item cx.nextId (paragraph content cx.issue).1 []) :=
        entryLeveled_item _ _
      exact List.forall_mem_append.mpr ⟨hheld, List.forall_mem_singleton.mpr hitem⟩
  | .list ordered items, depth, held, cx, hlayout, hdepth, hheld => by
      rw [Markup.Block.nesting] at hdepth
      have hentries := leveled_listItems items (depth + 1) cx.issue hlayout (by omega)
      have hsublist := leveled_of_entries cx.nextId (listType ordered) hentries (by omega)
      rw [listChild_list]
      apply leveled_placeSublist _ hheld (entryLeveled_sublist rfl hsublist)
      rw [options_list, hlayout]
  | .heading _ _, _, _, _, _, _, hheld
  | .codeBlock _ _, _, _, _, _, _, hheld
  | .blockQuote _, _, _, _, _, _, hheld
  | .table _, _, _, _, _, _, hheld
  | .other _ _, _, _, _, _, _, hheld => by
      simpa only [listChild, ListStep.entries, List.nil_append] using hheld

theorem leveled_itemEntries :
    ∀ (children : List Markup.Block) (depth : Nat) (held : Option HeldItem) (cx : Context),
      cx.options.listLayout = layout → depth + 1 + Markup.Block.nestingAll children ≤ bound →
        (∀ entry ∈ flush held, EntryLeveled layout bound depth entry) →
          ∀ entry ∈ (itemEntries children depth held cx).1,
            EntryLeveled layout bound depth entry
  | [], _, _, _, _, _, hheld => hheld
  | child :: children, depth, held, cx, hlayout, hdepth, hheld => by
      rw [Markup.Block.nestingAll] at hdepth
      obtain ⟨hpushed, hheld'⟩ := List.forall_mem_append.mp
        (leveled_listChild child depth held cx hlayout (by omega) hheld)
      have hrest := leveled_itemEntries children depth (listChild child depth held cx).held
        (listChild child depth held cx).context (by rw [options_listChild, hlayout]) (by omega)
        hheld'
      exact List.forall_mem_append.mpr ⟨hpushed, hrest⟩

theorem leveled_listItems :
    ∀ (items : List (List Markup.Block)) (depth : Nat) (cx : Context),
      cx.options.listLayout = layout → depth + 1 + Markup.Block.nestingItems items ≤ bound →
        ∀ entry ∈ (listItems items depth cx).1, EntryLeveled layout bound depth entry
  | [], _, _, _, _ => List.forall_mem_nil _
  | item :: items, depth, cx, hlayout, hdepth => by
      rw [Markup.Block.nestingItems] at hdepth
      have hfirst := leveled_itemEntries item depth none cx hlayout (by omega)
        (List.forall_mem_nil _)
      have hrest := leveled_listItems items depth (itemEntries item depth none cx).2
        (by rw [options_itemEntries, hlayout]) (by omega)
      exact List.forall_mem_append.mpr ⟨hfirst, hrest⟩

end

/-- A list at a depth, and everything below it, for a bound that leaves room for the lists that
stand in one another in the source. -/
theorem leveled_list
    (ordered : Bool)
    (items : List (List Markup.Block))
    (depth : Nat)
    (cx : Context)
    (hlayout : cx.options.listLayout = layout)
    (hdepth : depth + (Markup.Block.list ordered items).nesting ≤ bound) :
    ListLeveled bound (list ordered items depth cx).1 ∧
      ∀ node ∈ (list ordered items depth cx).1.walkBelow, Leveled layout bound node := by
  rw [Markup.Block.nesting] at hdepth
  have hroom : depth + 1 + Markup.Block.nestingItems items ≤ bound := by
    omega
  have hentries := leveled_listItems items depth cx.issue hlayout hroom
  exact leveled_of_entries cx.nextId (listType ordered) hentries (by omega)

end Lists

section Blocks

variable {layout : ListLayout} {bound : Nat}

theorem leveled_of_mem_table
    {table : Tree.Table}
    {node : NodeRef}
    (hmem : node ∈ table.walkBelow) :
    Leveled layout bound node := by
  rw [Tree.Table.walkBelow, ← List.flatMap_append] at hmem
  obtain ⟨paragraph, _, hmem⟩ := List.mem_flatMap.mp hmem
  exact leveled_of_mem_paragraph hmem

mutual

theorem leveled_block :
    ∀ (source : Markup.Block) (cx : Context),
      cx.options.listLayout = layout → source.nesting ≤ bound →
        ∀ node ∈ Tree.Block.walkAll (block source cx).1, Leveled layout bound node
  | .heading level content, cx, _, _ => by
      rw [block, Tree.Block.walkAll_singleton]
      exact List.forall_mem_singleton.mpr trivial
  | .paragraph content, cx, _, _ => by
      rw [block, Tree.Block.walkAll_singleton]
      exact List.forall_mem_cons.mpr ⟨trivial, fun _ => leveled_of_mem_inlines⟩
  | .codeBlock info literal, cx, _, _ => by
      rw [block, Tree.Block.walkAll_singleton]
      exact List.forall_mem_singleton.mpr trivial
  | .list ordered items, cx, hlayout, hnesting => by
      rw [← Nat.zero_add (Markup.Block.list ordered items).nesting] at hnesting
      obtain ⟨hnode, hbelow⟩ := leveled_list ordered items 0
        (cx.record .trace "building list") hlayout hnesting
      rw [block, Tree.Block.walkAll_singleton]
      exact List.forall_mem_cons.mpr ⟨⟨rfl, hnode⟩, hbelow⟩
  | .blockQuote children, cx, hlayout, hnesting => by
      have hbelow := leveled_blocks children (cx.record .trace "building block_quote").issue
        hlayout hnesting
      rw [block, Tree.Block.walkAll_singleton]
      exact List.forall_mem_cons.mpr ⟨trivial, hbelow⟩
  | .table source, cx, _, _ => by
      rw [block, Tree.Block.walkAll_singleton]
      exact List.forall_mem_cons.mpr ⟨trivial, fun _ => leveled_of_mem_table⟩
  | .other name children, cx, hlayout, hnesting => by
      rw [block]
      exact leveled_blocks children _ hlayout hnesting

theorem leveled_blocks :
    ∀ (source : List Markup.Block) (cx : Context),
      cx.options.listLayout = layout → Markup.Block.nestingAll source ≤ bound →
        ∀ node ∈ Tree.Block.walkAll (blocks source cx).1, Leveled layout bound node
  | [], cx, _, _ => List.forall_mem_nil _
  | b :: bs, cx, hlayout, hnesting => by
      rw [Markup.Block.nestingAll] at hnesting
      have hfirst := leveled_block b cx hlayout (by omega)
      have hrest := leveled_blocks bs (block b cx).2
        (by rw [(account_block b cx).options, hlayout]) (by omega)
      rw [blocks, Tree.Block.walkAll_append]
      exact List.forall_mem_append.mpr ⟨hfirst, hrest⟩

end

/-- **Depths.**  On a walk of a built tree, a list that is a block stands at depth 0, the lists in a
list stand one level deeper, and in the flattened layout no item owns a list.  Every depth is below
the number of lists that stand in one another in the source, which is below its number of nodes; so
the next depth is in range wherever that number is.  A list that is built at any depth is leveled in
the same way from there on. -/
theorem built_lists_leveled :
    (∀ (doc : Markup.Document) (options : Options),
      (∀ node ∈ (build doc options).root.walk, Leveled options.listLayout doc.nesting node) ∧
        doc.nesting < doc.nodeCount) ∧
      ∀ (ordered : Bool) (items : List (List Markup.Block)) (depth : Nat) (cx : Context),
        let built := (list ordered items depth cx).1
        built.depth = depth ∧
          ∀ node ∈ .list built :: built.walkBelow,
            Leveled cx.options.listLayout
              (depth + (Markup.Block.list ordered items).nesting) node := by
  constructor
  · intro doc options
    refine ⟨?_, doc.nesting_lt_nodeCount⟩
    have hbelow := leveled_blocks doc.children (Context.new options).issue rfl (Nat.le_refl _)
    exact List.forall_mem_cons.mpr ⟨trivial, hbelow⟩
  · intro ordered items depth cx built
    have hleveled := leveled_list ordered items depth cx rfl (Nat.le_refl _)
    exact ⟨rfl, List.forall_mem_cons.mpr hleveled⟩

/-- Three lists stand in one another in a quote; the middle one is met below the outer one. -/
theorem built_lists_leveled_quote :
    let doc : Markup.Document :=
      ⟨[.blockQuote [.list false [[.paragraph [], .list true [[.list false []]]]]]]⟩
    let middle : ListNode := .mk ⟨5⟩ .ordered 1 [.sublist (.mk ⟨6⟩ .unordered 2 [])]
    .list middle ∈ (build doc {}).root.walk ∧ doc.nesting = 3 ∧ doc.nodeCount = 8 ∧
      ListLeveled 3 middle := by
  intro doc middle
  have hmem : .list middle ∈ (build doc {}).root.walk := by
    exact List.mem_of_getElem? (i := 5) rfl
  have hleveled := (built_lists_leveled.1 doc {}).1 (.list middle) hmem
  exact ⟨hmem, rfl, rfl, hleveled⟩

end Blocks

end Build
end DocTree
