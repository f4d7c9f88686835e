import DocTree.Tree.Walk
import Mathlib.Data.List.Basic

/-!
# The lineages of a tree

A walk lists the nodes of a tree, but not what they stand under.  A `Lineage` is a node met on the
walk together with its ancestors, the nearest one first.  Nodes are shown bare here, without their
children, so a lineage says of a node what is its own: its role, its id, its fields and its place
below the others.

The lineages of a tree come in the order of the walk, and every ancestor in a lineage is a node
that the walk meets (`Descends`).
-/

namespace DocTree
namespace Tree

section Bare

/-- A node without its children.  The body of a table is kept. -/
def NodeRef.bare : NodeRef → NodeRef
  | .root r => .root { r with children := [] }
  | .block (.heading id level text) => .block (.heading id level text)
  | .block (.paragraph p) => .block (.paragraph { p with children := [] })
  | .block (.codeBlock id language code) => .block (.codeBlock id language code)
  | .block (.list l) => .block (.list (.mk l.id l.type l.depth []))
  | .block (.table t) => .block (.table { t with headers := [], cells := [] })
  | .block (.blockQuote id _) => .block (.blockQuote id [])
  | .paragraph p => .paragraph { p with children := [] }
  | .inline i => .inline i
  | .list l => .list (.mk l.id l.type l.depth [])
  | .item id p _ => .item id { p with children := [] } []

@[simp] theorem NodeRef.bare_id (node : NodeRef) :
    node.bare.id = node.id := by
  unfold NodeRef.bare
  split <;> rfl

end Bare

section Lineages

/-- A node and its ancestors, the nearest one first. -/
structure Lineage where
  node : NodeRef
  ancestors : List NodeRef

/-- The node and its ancestors in one line. -/
def Lineage.line (lineage : Lineage) : List NodeRef :=
  lineage.node :: lineage.ancestors

def Inline.lineages (above : List NodeRef) (i : Inline) : List Lineage :=
  [⟨.inline i, above⟩]

def Paragraph.inlineLineages (above : List NodeRef) (paragraph : Paragraph) : List Lineage :=
  paragraph.children.flatMap (Inline.lineages above)

def Paragraph.lineages (above : List NodeRef) (paragraph : Paragraph) : List Lineage :=
  let node := (NodeRef.paragraph paragraph).bare
  ⟨node, above⟩ :: paragraph.inlineLineages (node :: above)

mutual

/-- The lineages below a list, given the list and its ancestors. -/
def ListNode.lineagesBelow (above : List NodeRef) : ListNode → List Lineage
  | .mk _ _ _ entries => ListEntry.lineagesAll above entries

def ListEntry.lineages (above : List NodeRef) : ListEntry → List Lineage
  | .item id paragraph sublists =>
      let node := (NodeRef.item id paragraph sublists).bare
      ⟨node, above⟩ ::
        (paragraph.lineages (node :: above) ++ ListNode.lineagesAll (node :: above) sublists)
  | .sublist list =>
      let node := (NodeRef.list list).bare
      ⟨node, above⟩ :: ListNode.lineagesBelow (node :: above) list

def ListEntry.lineagesAll (above : List NodeRef) : List ListEntry → List Lineage
  | [] => []
  | entry :: entries =>
      ListEntry.lineages above entry ++ ListEntry.lineagesAll above entries

def ListNode.lineagesAll (above : List NodeRef) : List ListNode → List Lineage
  | [] => []
  | list :: lists =>
      let node := (NodeRef.list list).bare
      ⟨node, above⟩ ::
        (ListNode.lineagesBelow (node :: above) list ++ ListNode.lineagesAll above lists)

end

/-- The lineages of a list as a node of its own. -/
def ListNode.lineages (above : List NodeRef) (list : ListNode) : List Lineage :=
  let node := (NodeRef.list list).bare
  ⟨node, above⟩ :: list.lineagesBelow (node :: above)

def Table.lineagesBelow (above : List NodeRef) (table : Table) : List Lineage :=
  table.headers.flatMap (Paragraph.lineages above) ++
    table.body.flatten.flatMap (Paragraph.lineages above)

mutual

def Block.lineagesBelow (above : List NodeRef) : Block → List Lineage
  | .heading _ _ _ => []
  | .paragraph p => p.inlineLineages above
  | .codeBlock _ _ _ => []
  | .list l => l.lineagesBelow above
  | .table t => t.lineagesBelow above
  | .blockQuote _ children => Block.lineagesAll above children

def Block.lineagesAll (above : List NodeRef) : List Block → List Lineage
  | [] => []
  | b :: bs =>
      let node := (NodeRef.block b).bare
      ⟨node, above⟩ ::
        (Block.lineagesBelow (node :: above) b ++ Block.lineagesAll above bs)

end

def Block.lineages (above : List NodeRef) (block : Block) : List Lineage :=
  let node := (NodeRef.block block).bare
  ⟨node, above⟩ :: block.lineagesBelow (node :: above)

/-- The lineages of a tree, in the order of the walk. -/
def Root.lineages (root : Root) : List Lineage :=
  let node := (NodeRef.root root).bare
  ⟨node, []⟩ :: Block.lineagesAll [node] root.children

theorem ListEntry.lineagesAll_eq (above : List NodeRef) (entries : List ListEntry) :
    ListEntry.lineagesAll above entries = entries.flatMap (ListEntry.lineages above) := by
  induction entries with
  | nil =>
      rfl
  | cons entry entries ih =>
      rw [ListEntry.lineagesAll, ih, List.flatMap_cons]

theorem ListNode.lineagesAll_eq (above : List NodeRef) (lists : List ListNode) :
    ListNode.lineagesAll above lists = lists.flatMap (ListNode.lineages above) := by
  induction lists with
  | nil =>
      rfl
  | cons list lists ih =>
      rw [ListNode.lineagesAll, ih, List.flatMap_cons, ListNode.lineages, List.cons_append]

theorem Block.lineagesAll_eq (above : List NodeRef) (blocks : List Block) :
    Block.lineagesAll above blocks = blocks.flatMap (Block.lineages above) := by
  induction blocks with
  | nil =>
      rfl
  | cons b bs ih =>
      rw [Block.lineagesAll, ih, List.flatMap_cons, Block.lineages, List.cons_append]

end Lineages

section Walk

variable (above : List NodeRef)

theorem Paragraph.map_node_inlineLineages (p : Paragraph) :
    (p.inlineLineages above).map Lineage.node = p.walkInlines.map NodeRef.bare := by
  rw [Paragraph.inlineLineages, Paragraph.walkInlines, List.map_flatMap, List.map_map,
    List.map_eq_flatMap]
  rfl

theorem Paragraph.map_node_lineages (p : Paragraph) :
    (p.lineages above).map Lineage.node = p.walk.map NodeRef.bare := by
  simp only [Paragraph.lineages, Paragraph.walk, List.map_cons, map_node_inlineLineages]

theorem map_node_paragraphs (ps : List Paragraph) :
    (ps.flatMap (Paragraph.lineages above)).map Lineage.node =
      (ps.flatMap Paragraph.walk).map NodeRef.bare := by
  simp only [List.map_flatMap, Paragraph.map_node_lineages]

mutual

theorem ListNode.map_node_lineagesBelow (above : List NodeRef) :
    (list : ListNode) →
      (list.lineagesBelow above).map Lineage.node = list.walkBelow.map NodeRef.bare
  | .mk _ _ _ entries => by
      rw [ListNode.lineagesBelow, ListNode.walkBelow]
      exact ListEntry.map_node_lineagesAll above entries

theorem ListEntry.map_node_lineages (above : List NodeRef) :
    (entry : ListEntry) →
      (entry.lineages above).map Lineage.node = entry.walk.map NodeRef.bare
  | .item id p lists => by
      have hlists := ListNode.map_node_lineagesAll
        ((NodeRef.item id p lists).bare :: above) lists
      simp only [ListEntry.lineages, ListEntry.walk, List.map_cons, List.map_append,
        Paragraph.map_node_lineages, hlists]
  | .sublist l => by
      have hlist := ListNode.map_node_lineagesBelow ((NodeRef.list l).bare :: above) l
      simp only [ListEntry.lineages, ListEntry.walk, List.map_cons, hlist]

theorem ListEntry.map_node_lineagesAll (above : List NodeRef) :
    (entries : List ListEntry) →
      (ListEntry.lineagesAll above entries).map Lineage.node =
        (ListEntry.walkAll entries).map NodeRef.bare
  | [] => by
      rfl
  | entry :: entries => by
      have hentry := ListEntry.map_node_lineages above entry
      have hentries := ListEntry.map_node_lineagesAll above entries
      simp only [ListEntry.lineagesAll, ListEntry.walkAll, List.map_append, hentry, hentries]

theorem ListNode.map_node_lineagesAll (above : List NodeRef) :
    (lists : List ListNode) →
      (ListNode.lineagesAll above lists).map Lineage.node =
        (ListNode.walkAll lists).map NodeRef.bare
  | [] => by
      rfl
  | l :: ls => by
      have hlist := ListNode.map_node_lineagesBelow ((NodeRef.list l).bare :: above) l
      have hlists := ListNode.map_node_lineagesAll above ls
      simp only [ListNode.lineagesAll, ListNode.walkAll, List.map_cons, List.map_append,
        hlist, hlists]

end

theorem Block.walk_eq_cons (b : Block) :
    b.walk = .block b :: b.walk.tail := by
  cases b <;> rfl

mutual

theorem Block.map_node_lineagesBelow (above : List NodeRef) :
    (b : Block) → (b.lineagesBelow above).map Lineage.node = b.walk.tail.map NodeRef.bare
  | .heading _ _ _ => by
      rfl
  | .paragraph p => by
      exact Paragraph.map_node_inlineLineages above p
  | .codeBlock _ _ _ => by
      rfl
  | .list l => by
      exact ListNode.map_node_lineagesBelow above l
  | .table t => by
      simp only [Block.lineagesBelow, Table.lineagesBelow, Block.walk, Table.walkBelow,
        List.tail_cons, List.map_append, map_node_paragraphs]
  | .blockQuote _ children => by
      exact Block.map_node_lineagesAll above children

theorem Block.map_node_lineagesAll (above : List NodeRef) :
    (bs : List Block) →
      (Block.lineagesAll above bs).map Lineage.node = (Block.walkAll bs).map NodeRef.bare
  | [] => by
      rfl
  | b :: bs => by
      have hbelow := Block.map_node_lineagesBelow ((NodeRef.block b).bare :: above) b
      have hrest := Block.map_node_lineagesAll above bs
      rw [Block.walkAll, Block.walk_eq_cons b]
      simp only [Block.lineagesAll, List.map_cons, List.map_append, List.cons_append,
        hbelow, hrest]

end

/-- The lineages of a tree are about the nodes met on the walk, in their order. -/
theorem Root.map_node_lineages (root : Root) :
    root.lineages.map Lineage.node = root.walk.map NodeRef.bare := by
  simp only [Root.lineages, Root.walk, List.map_cons, Block.map_node_lineagesAll]

theorem Root.map_id_lineages (root : Root) :
    root.lineages.map (fun lineage => lineage.node.id) = root.walk.map NodeRef.id := by
  have hnodes := congrArg (List.map NodeRef.id) root.map_node_lineages
  rw [List.map_map, List.map_map] at hnodes
  calc
    root.lineages.map (fun lineage => lineage.node.id)
        = root.walk.map (NodeRef.id ∘ NodeRef.bare) := hnodes
    _ = root.walk.map NodeRef.id := by
      apply List.map_congr_left
      intro node _
      exact node.bare_id

end Walk

section Descends

/-- The lineages lie below the nodes `above`, and what they have between is among their nodes. -/
def Descends (above : List NodeRef) (lineages : List Lineage) : Prop :=
  ∀ lineage ∈ lineages, ∃ between,
    lineage.ancestors = between ++ above ∧
      ∀ node ∈ between, node ∈ lineages.map Lineage.node

namespace Descends

variable {above : List NodeRef}

theorem nil : Descends above [] := by
  intro lineage hmem
  cases hmem

theorem append
    {front back : List Lineage}
    (hfront : Descends above front)
    (hback : Descends above back) :
    Descends above (front ++ back) := by
  intro lineage hmem
  rw [List.map_append]
  rcases List.mem_append.mp hmem with hmem | hmem
  · obtain ⟨between, heq, hbetween⟩ := hfront lineage hmem
    exact ⟨between, heq, fun node h => List.mem_append_left _ (hbetween node h)⟩
  · obtain ⟨between, heq, hbetween⟩ := hback lineage hmem
    exact ⟨between, heq, fun node h => List.mem_append_right _ (hbetween node h)⟩

theorem flatMap
    {α : Type} {xs : List α} {view : α → List Lineage}
    (hview : ∀ x ∈ xs, Descends above (view x)) :
    Descends above (xs.flatMap view) := by
  induction xs with
  | nil =>
      exact nil
  | cons x xs ih =>
      rw [List.flatMap_cons]
      apply append
      · exact hview x List.mem_cons_self
      · exact ih fun y hy => hview y (List.mem_cons_of_mem x hy)

/-- A node and what lies below it. -/
theorem cons
    {node : NodeRef} {below : List Lineage}
    (hbelow : Descends (node :: above) below) :
    Descends above (⟨node, above⟩ :: below) := by
  intro lineage hmem
  rw [List.map_cons]
  rcases List.mem_cons.mp hmem with rfl | hmem
  · exact ⟨[], rfl, fun _ h => nomatch h⟩
  · obtain ⟨between, heq, hbetween⟩ := hbelow lineage hmem
    refine ⟨between ++ [node], by simp [heq], ?_⟩
    intro n hn
    rcases List.mem_append.mp hn with hn | hn
    · exact List.mem_cons_of_mem _ (hbetween n hn)
    · rw [List.mem_singleton.mp hn]
      exact List.mem_cons_self

end Descends

/-- The lineages are those of one node with an id, and of what lies below it. -/
def Sprouts (above : List NodeRef) (id : NodeId) (lineages : List Lineage) : Prop :=
  ∃ node below, lineages = ⟨node, above⟩ :: below ∧ node.id = id ∧ Descends (node :: above) below

theorem Sprouts.descends
    {above : List NodeRef} {id : NodeId} {lineages : List Lineage}
    (h : Sprouts above id lineages) :
    Descends above lineages := by
  obtain ⟨node, below, rfl, -, hbelow⟩ := h
  exact hbelow.cons

theorem Inline.sprouts (above : List NodeRef) (i : Inline) :
    Sprouts above i.id (i.lineages above) :=
  ⟨.inline i, [], rfl, rfl, Descends.nil⟩

theorem Paragraph.descends_inlines (above : List NodeRef) (p : Paragraph) :
    Descends above (p.inlineLineages above) :=
  Descends.flatMap fun i _ => (i.sprouts above).descends

theorem Paragraph.descends (above : List NodeRef) (p : Paragraph) :
    Descends above (p.lineages above) :=
  (p.descends_inlines _).cons

theorem descends_paragraphs (above : List NodeRef) (ps : List Paragraph) :
    Descends above (ps.flatMap (Paragraph.lineages above)) :=
  Descends.flatMap fun p _ => p.descends above

mutual

theorem ListNode.descends_below (above : List NodeRef) :
    (list : ListNode) → Descends above (list.lineagesBelow above)
  | .mk _ _ _ entries => by
      rw [ListNode.lineagesBelow]
      exact ListEntry.descends_all above entries

theorem ListEntry.sprouts (above : List NodeRef) :
    (entry : ListEntry) → Sprouts above entry.id (entry.lineages above)
  | .item id p lists => by
      have hlists := ListNode.descends_all ((NodeRef.item id p lists).bare :: above) lists
      exact ⟨_, _, by rw [ListEntry.lineages], rfl, (p.descends _).append hlists⟩
  | .sublist list => by
      have hlist := ListNode.descends_below ((NodeRef.list list).bare :: above) list
      exact ⟨_, _, by rw [ListEntry.lineages], rfl, hlist⟩

theorem ListEntry.descends_all (above : List NodeRef) :
    (entries : List ListEntry) → Descends above (ListEntry.lineagesAll above entries)
  | [] => by
      exact Descends.nil
  | entry :: entries => by
      rw [ListEntry.lineagesAll]
      exact (ListEntry.sprouts above entry).descends.append
        (ListEntry.descends_all above entries)

theorem ListNode.descends_all (above : List NodeRef) :
    (lists : List ListNode) → Descends above (ListNode.lineagesAll above lists)
  | [] => by
      exact Descends.nil
  | list :: lists => by
      have hlist := ListNode.descends_below ((NodeRef.list list).bare :: above) list
      rw [ListNode.lineagesAll]
      exact hlist.cons.append (ListNode.descends_all above lists)

end

theorem ListNode.sprouts (above : List NodeRef) (list : ListNode) :
    Sprouts above list.id (list.lineages above) :=
  ⟨_, _, rfl, rfl, list.descends_below _⟩

mutual

theorem Block.descends_below (above : List NodeRef) :
    (b : Block) → Descends above (b.lineagesBelow above)
  | .heading _ _ _ => by
      exact Descends.nil
  | .paragraph p => by
      exact p.descends_inlines above
  | .codeBlock _ _ _ => by
      exact Descends.nil
  | .list l => by
      exact l.descends_below above
  | .table t => by
      exact (descends_paragraphs above t.headers).append
        (descends_paragraphs above t.body.flatten)
  | .blockQuote _ children => by
      exact Block.descends_all above children

theorem Block.descends_all (above : List NodeRef) :
    (bs : List Block) → Descends above (Block.lineagesAll above bs)
  | [] => by
      exact Descends.nil
  | b :: bs => by
      have hblock := Block.descends_below ((NodeRef.block b).bare :: above) b
      rw [Block.lineagesAll]
      exact hblock.cons.append (Block.descends_all above bs)

end

theorem Block.sprouts (above : List NodeRef) (b : Block) :
    Sprouts above b.id (b.lineages above) :=
  ⟨_, _, rfl, (NodeRef.block b).bare_id, b.descends_below _⟩

end Descends

end Tree
end DocTree
