import DocTree.Format.Treeviz
import DocTree.Proofs.Tree.Pruning

/-!
# Sequences of removals

A `Cut` is a removal at an address.  `Root.cutAll?` makes cuts one after the other, each in the tree
that the one before has left; `Root.cutIds` collects what they take out of the walk.

What the lineages of a tree do not show is followed here besides: the flat cells of its tables, and
the lines of its visualization, which no change of flat cells reaches.
-/

namespace DocTree
namespace Tree

section Tables

/-- A table after some edits: its headers may have changed and its flat cells become fewer. -/
structure Table.Thins (before after : Table) : Prop where
  id : after.id = before.id
  alignments : after.alignments = before.alignments
  body : after.body = before.body
  cells : after.cells.Sublist before.cells

theorem Table.Thins.refl (t : Table) : t.Thins t :=
  ⟨rfl, rfl, rfl, List.Sublist.refl t.cells⟩

theorem Table.Thins.trans
    {t t' t'' : Table}
    (h : t.Thins t')
    (h' : t'.Thins t'') :
    t.Thins t'' where
  id := h'.id.trans h.id
  alignments := h'.alignments.trans h.alignments
  body := h'.body.trans h.body
  cells := h'.cells.trans h.cells

/-- Every table met afterwards has been met before. -/
def TablesThin (before after : List NodeRef) : Prop :=
  ∀ table, .block (.table table) ∈ after →
    ∃ source, .block (.table source) ∈ before ∧ source.Thins table

theorem TablesThin.refl (nodes : List NodeRef) : TablesThin nodes nodes :=
  fun table hmem => ⟨table, hmem, Table.Thins.refl table⟩

theorem TablesThin.trans
    {nodes nodes' nodes'' : List NodeRef}
    (h : TablesThin nodes nodes')
    (h' : TablesThin nodes' nodes'') :
    TablesThin nodes nodes'' := by
  intro table hmem
  obtain ⟨middle, hmiddle, hthin'⟩ := h' table hmem
  obtain ⟨source, hsource, hthin⟩ := h middle hmiddle
  exact ⟨source, hsource, hthin.trans hthin'⟩

theorem Paragraph.block_notMem_walk (b : Block) (p : Paragraph) :
    NodeRef.block b ∉ p.walk := by
  simp [Paragraph.walk, Paragraph.walkInlines]

mutual

theorem ListNode.block_notMem_walkBelow (b : Block) :
    (l : ListNode) → NodeRef.block b ∉ l.walkBelow
  | .mk _ _ _ entries => by
      rw [ListNode.walkBelow]
      exact ListEntry.block_notMem_walkAll b entries

theorem ListEntry.block_notMem_walk (b : Block) :
    (entry : ListEntry) → NodeRef.block b ∉ entry.walk
  | .item _ p lists => by
      have hlists := ListNode.block_notMem_walkAll b lists
      simp [ListEntry.walk, p.block_notMem_walk b, hlists]
  | .sublist l => by
      simp [ListEntry.walk, l.block_notMem_walkBelow b]

theorem ListEntry.block_notMem_walkAll (b : Block) :
    (entries : List ListEntry) → NodeRef.block b ∉ ListEntry.walkAll entries
  | [] => by
      exact List.not_mem_nil
  | entry :: entries => by
      have hentries := ListEntry.block_notMem_walkAll b entries
      simp [ListEntry.walkAll, entry.block_notMem_walk b, hentries]

theorem ListNode.block_notMem_walkAll (b : Block) :
    (lists : List ListNode) → NodeRef.block b ∉ ListNode.walkAll lists
  | [] => by
      exact List.not_mem_nil
  | l :: lists => by
      have hlists := ListNode.block_notMem_walkAll b lists
      simp [ListNode.walkAll, l.block_notMem_walkBelow b, hlists]

end

theorem Block.mem_walkAll {node : NodeRef} {bs : List Block} :
    node ∈ Block.walkAll bs ↔ ∃ b ∈ bs, node ∈ b.walk := by
  induction bs with
  | nil =>
      simp [Block.walkAll]
  | cons b bs ih =>
      simp [Block.walkAll, ih]

/-- Where the tables of a block are. -/
theorem Block.table_mem_walk {t : Table} {b : Block} :
    .block (.table t) ∈ b.walk ↔
      b = .table t ∨ ∃ id bs, b = .blockQuote id bs ∧ .block (.table t) ∈ Block.walkAll bs := by
  cases b with
  | paragraph p =>
      simp [Block.walk, Paragraph.walkInlines]
  | list l =>
      simp [Block.walk, l.block_notMem_walkBelow]
  | table t' =>
      simp [Block.walk, Table.walkBelow, Paragraph.block_notMem_walk, eq_comm]
  | _ =>
      simp [Block.walk]

theorem replaceAt?_some
    {α : Type} {xs ys : List α} {index : Nat} {f : α → Option α}
    (h : replaceAt? xs index f = some ys) :
    ∃ x y, xs[index]? = some x ∧ f x = some y ∧ ys = xs.set index y := by
  obtain ⟨x, hx, hset⟩ := Option.bind_eq_some_iff.mp h
  obtain ⟨y, hy, rfl⟩ := Option.map_eq_some_iff.mp hset
  exact ⟨x, y, hx, hy, rfl⟩

/-- A replaced block among its siblings. -/
theorem TablesThin.set
    {bs : List Block} {index : Nat} {b b' : Block}
    (hb : bs[index]? = some b)
    (h : TablesThin b.walk b'.walk) :
    TablesThin (Block.walkAll bs) (Block.walkAll (bs.set index b')) := by
  intro table hmem
  obtain ⟨other, hother, hwalk⟩ := Block.mem_walkAll.mp hmem
  rcases List.mem_or_eq_of_mem_set hother with hother | rfl
  · exact ⟨table, Block.mem_walkAll.mpr ⟨other, hother, hwalk⟩, Table.Thins.refl table⟩
  · obtain ⟨source, hsource, hthin⟩ := h table hwalk
    exact ⟨source, Block.mem_walkAll.mpr ⟨b, List.mem_of_getElem? hb, hsource⟩, hthin⟩

/-- Fewer blocks. -/
theorem TablesThin.sublist
    {bs bs' : List Block}
    (h : bs'.Sublist bs) :
    TablesThin (Block.walkAll bs) (Block.walkAll bs') := by
  intro table hmem
  obtain ⟨b, hb, hmem⟩ := Block.mem_walkAll.mp hmem
  exact ⟨table, Block.mem_walkAll.mpr ⟨b, h.subset hb, hmem⟩, Table.Thins.refl table⟩

variable {removal : Removal}

theorem Table.thins_of_edit?
    {address : List Step} {t t' : Table}
    (h : t.edit? removal.edit address = some t') :
    t.Thins t' := by
  match address with
  | [] =>
      cases h
      exact ⟨rfl, rfl, rfl, removal.apply_sublist t.cells⟩
  | .header index :: address =>
      obtain ⟨headers, -, rfl⟩ := Option.map_eq_some_iff.mp h
      exact ⟨rfl, rfl, rfl, List.Sublist.refl t.cells⟩
  | .child index :: address =>
      cases h
  | .paragraph :: address =>
      cases h

theorem TablesThin.quote
    {id : NodeId} {bs bs' : List Block}
    (h : TablesThin (Block.walkAll bs) (Block.walkAll bs')) :
    TablesThin (Block.blockQuote id bs).walk (Block.blockQuote id bs').walk := by
  intro table hmem
  obtain ⟨source, hsource, hthin⟩ := h table (by simpa [Block.walk] using hmem)
  exact ⟨source, List.mem_cons_of_mem _ hsource, hthin⟩

theorem Block.tablesThin_of_edit? :
    (address : List Step) → {b b' : Block} →
      b.edit? removal.edit address = some b' → TablesThin b.walk b'.walk
  | address, .paragraph p, b', h => by
      rw [Block.edit?] at h
      obtain ⟨q, -, rfl⟩ := Option.map_eq_some_iff.mp h
      intro table hmem
      simp [Block.table_mem_walk] at hmem
  | address, .list l, b', h => by
      rw [Block.edit?] at h
      obtain ⟨l', -, rfl⟩ := Option.map_eq_some_iff.mp h
      intro table hmem
      simp [Block.table_mem_walk] at hmem
  | address, .table t, b', h => by
      rw [Block.edit?] at h
      obtain ⟨t', ht, rfl⟩ := Option.map_eq_some_iff.mp h
      intro table hmem
      have heq : t' = table := by simpa [Block.table_mem_walk] using hmem
      subst heq
      exact ⟨t, List.mem_cons_self, Table.thins_of_edit? ht⟩
  | address, .heading _ _ _, b', h => by
      cases address <;> cases h
  | address, .codeBlock _ _ _, b', h => by
      cases address <;> cases h
  | [], .blockQuote id bs, b', h => by
      cases h
      exact (TablesThin.sublist (removal.apply_sublist bs)).quote
  | .child index :: address, .blockQuote id bs, b', h => by
      rw [Block.edit?] at h
      obtain ⟨bs', hbs, rfl⟩ := Option.map_eq_some_iff.mp h
      obtain ⟨b, c, hb, hc, rfl⟩ := replaceAt?_some hbs
      exact (TablesThin.set hb (Block.tablesThin_of_edit? address hc)).quote
  | .header _ :: address, .blockQuote _ _, b', h => by
      cases h
  | .paragraph :: address, .blockQuote _ _, b', h => by
      cases h

theorem Root.table_mem_walk {t : Table} {root : Root} :
    .block (.table t) ∈ root.walk ↔ .block (.table t) ∈ Block.walkAll root.children := by
  simp [Root.walk]

theorem Root.tablesThin_of_edit?
    {address : List Step} {root root' : Root}
    (h : root.edit? removal.edit address = some root') :
    TablesThin root.walk root'.walk := by
  have hchildren : TablesThin (Block.walkAll root.children) (Block.walkAll root'.children) := by
    match address with
    | [] =>
        cases h
        exact TablesThin.sublist (removal.apply_sublist root.children)
    | .child index :: address =>
        obtain ⟨bs, hbs, rfl⟩ := Option.map_eq_some_iff.mp h
        obtain ⟨b, c, hb, hc, rfl⟩ := replaceAt?_some hbs
        exact TablesThin.set hb (Block.tablesThin_of_edit? address hc)
    | .header _ :: address =>
        cases h
    | .paragraph :: address =>
        cases h
  intro table hmem
  obtain ⟨source, hsource, hthin⟩ := hchildren table (Root.table_mem_walk.mp hmem)
  exact ⟨source, Root.table_mem_walk.mpr hsource, hthin⟩

end Tables

section Drawings

open DocTree.Format (Drawing)

theorem ofBlocks_set
    {bs : List Block} {index : Nat} {b b' : Block}
    (hb : bs[index]? = some b)
    (h : Drawing.ofBlock b' = Drawing.ofBlock b) :
    Drawing.ofBlocks (bs.set index b') = Drawing.ofBlocks bs := by
  induction bs generalizing index with
  | nil =>
      rfl
  | cons c bs ih =>
      cases index with
      | zero =>
          cases hb
          rw [List.set_cons_zero, Drawing.ofBlocks, Drawing.ofBlocks, h]
      | succ index =>
          rw [List.set_cons_succ, Drawing.ofBlocks, Drawing.ofBlocks, ih hb]

/-- An edit of the flat cells of a table is not drawn. -/
theorem Block.ofBlock_edit?
    {edit : Edit} {address : List Step} {b b' : Block} {t : Table}
    (hfocus : (Focus.block b).below? address = some (.block (.table t)))
    (h : b.edit? edit address = some b') :
    Drawing.ofBlock b' = Drawing.ofBlock b := by
  induction address generalizing b b' with
  | nil =>
      cases hfocus
      cases h
      rfl
  | cons step address ih =>
      rw [Focus.below?_cons] at hfocus
      obtain ⟨next, hnext, hrest⟩ := Option.bind_eq_some_iff.mp hfocus
      obtain ⟨index, bs, c, rfl, hc, rfl, ⟨id, heq⟩ | ⟨id, heq⟩⟩ :=
        Focus.step?_outer hnext (Focus.outer_of_below? hrest rfl)
      · cases heq
        rw [Block.edit?] at h
        obtain ⟨bs', hbs, rfl⟩ := Option.map_eq_some_iff.mp h
        obtain ⟨x, y, hx, hy, rfl⟩ := replaceAt?_some hbs
        cases hc.symm.trans hx
        rw [Drawing.ofBlock, Drawing.ofBlock, List.length_set, ofBlocks_set hc (ih hrest hy)]
      · cases heq

/-- An edit of the flat cells of a table changes no line of the visualization. -/
theorem Root.treeviz_edit?
    {edit : Edit} {address : List Step} {root root' : Root} {t : Table}
    (hfocus : root.focus? address = some (.block (.table t)))
    (h : root.edit? edit address = some root')
    (params : Format.Params) :
    Format.treeviz params root' = Format.treeviz params root := by
  cases address with
  | nil =>
      cases hfocus
  | cons step address =>
      rw [Root.focus?_eq, Focus.below?_cons] at hfocus
      obtain ⟨next, hnext, hrest⟩ := Option.bind_eq_some_iff.mp hfocus
      obtain ⟨index, bs, b, rfl, hb, rfl, ⟨id, heq⟩ | ⟨id, heq⟩⟩ :=
        Focus.step?_outer hnext (Focus.outer_of_below? hrest rfl)
      · cases heq
      · cases heq
        obtain ⟨bs', hbs, rfl⟩ := Option.map_eq_some_iff.mp h
        obtain ⟨x, y, hx, hy, rfl⟩ := replaceAt?_some hbs
        cases hb.symm.trans hx
        simp only [Format.treeviz, Format.Treeviz.text, Format.Treeviz.rootLine, List.length_set,
          ofBlocks_set hb (Block.ofBlock_edit? hrest hy)]

end Drawings

section Runs

/-- A removal at an address. -/
structure Cut where
  address : List Step
  removal : Removal
deriving DecidableEq, Repr

/-- The tree after a cut; absent when no node with children is at the address. -/
def Root.cut? (root : Root) (cut : Cut) : Option Root :=
  root.edit? cut.removal.edit cut.address

/-- The tree after some cuts, each of them made in the tree that the one before has left. -/
def Root.cutAll? (root : Root) (cuts : List Cut) : Option Root :=
  cuts.foldlM Root.cut? root

/-- The ids of the nodes that some cuts take out of the walk. -/
def Root.cutIds (root : Root) : List Cut → List NodeId
  | [] => []
  | cut :: cuts =>
      (root.takenAt? cut.removal cut.address).getD [] ++
        ((root.cut? cut).map fun next => next.cutIds cuts).getD []

theorem Root.cutAll?_cons {root last : Root} {cut : Cut} {cuts : List Cut} :
    root.cutAll? (cut :: cuts) = some last ↔
      ∃ next, root.cut? cut = some next ∧ next.cutAll? cuts = some last := by
  rw [Root.cutAll?, List.foldlM_cons]
  exact Option.bind_eq_some_iff

theorem Root.cutIds_cons
    {root next : Root} {cut : Cut} {gone : List NodeId}
    (htaken : root.takenAt? cut.removal cut.address = some gone)
    (hcut : root.cut? cut = some next)
    (cuts : List Cut) :
    root.cutIds (cut :: cuts) = gone ++ next.cutIds cuts := by
  rw [Root.cutIds, htaken, hcut]
  rfl

/-- A cut is made exactly where a node with children is. -/
theorem Root.cut?_isSome (root : Root) (cut : Cut) :
    (root.cut? cut).isSome = ((root.focus? cut.address).bind Focus.children?).isSome := by
  have hfollows := (Root.follows cut.removal cut.address root).isSome
  rw [Option.isSome_map] at hfollows
  rw [Root.cut?, ← hfollows, Root.takenAt?]
  cases root.focus? cut.address with
  | none =>
      rfl
  | some focus =>
      rw [Option.bind_some, Option.bind_some, Focus.taken?, Option.isSome_map]

/-- One cut drops the lineages with a node in them that it takes out. -/
theorem Root.lineages_of_cut?
    {root next : Root} {cut : Cut}
    (hnodup : (metIds root.lineages).Nodup)
    (hcut : root.cut? cut = some next) :
    ∃ gone, root.takenAt? cut.removal cut.address = some gone ∧
      next.lineages = root.lineages.filter (Lineage.spared gone) := by
  have hfollows := Root.follows cut.removal cut.address root
  rw [Root.cut?] at hcut
  rw [hcut, Option.map_some] at hfollows
  obtain ⟨gone, htaken, hprunes⟩ := hfollows.exists_prunes
  exact ⟨gone, htaken, hprunes.spared hnodup fun _ hmem => nomatch hmem⟩

theorem nodup_metIds_filter
    {lineages : List Lineage} (p : Lineage → Bool)
    (hnodup : (metIds lineages).Nodup) :
    (metIds (lineages.filter p)).Nodup :=
  hnodup.sublist (List.filter_sublist.map _)

theorem Root.lineages_of_cutAll?
    {root last : Root} {cuts : List Cut}
    (hnodup : (metIds root.lineages).Nodup)
    (hcuts : root.cutAll? cuts = some last) :
    last.lineages = root.lineages.filter (Lineage.spared (root.cutIds cuts)) := by
  induction cuts generalizing root with
  | nil =>
      cases hcuts
      symm
      rw [List.filter_eq_self]
      intro lineage _
      exact lineage.spared_nil
  | cons cut cuts ih =>
      obtain ⟨next, hcut, hrest⟩ := Root.cutAll?_cons.mp hcuts
      obtain ⟨gone, htaken, hnext⟩ := Root.lineages_of_cut? hnodup hcut
      -- What is left still has distinct ids, so the rest of the cuts prunes it in turn.
      have hnodup' : (metIds next.lineages).Nodup := by
        rw [hnext]
        exact nodup_metIds_filter _ hnodup
      rw [ih hnodup' hrest, hnext, List.filter_filter, Root.cutIds_cons htaken hcut]
      apply List.filter_congr
      intro lineage _
      rw [Lineage.spared_append, Bool.and_comm]

theorem Root.tablesThin_of_cutAll?
    {root last : Root} {cuts : List Cut}
    (hcuts : root.cutAll? cuts = some last) :
    TablesThin root.walk last.walk := by
  induction cuts generalizing root with
  | nil =>
      cases hcuts
      exact TablesThin.refl last.walk
  | cons cut cuts ih =>
      obtain ⟨next, hcut, hrest⟩ := Root.cutAll?_cons.mp hcuts
      exact (Root.tablesThin_of_edit? hcut).trans (ih hrest)

/-- A cut among the flat cells of a table is seen neither on a walk nor in the visualization. -/
theorem Root.cut?_flat
    {root : Root} {cut : Cut} {t : Table}
    (hnodup : (metIds root.lineages).Nodup)
    (hfocus : root.focus? cut.address = some (.block (.table t))) :
    ∃ next, root.cut? cut = some next ∧ next.lineages = root.lineages ∧
      ∀ params, Format.treeviz params next = Format.treeviz params root := by
  have hsome : (root.cut? cut).isSome := by
    rw [Root.cut?_isSome, hfocus]
    rfl
  obtain ⟨next, hcut⟩ := Option.isSome_iff_exists.mp hsome
  obtain ⟨gone, htaken, hnext⟩ := Root.lineages_of_cut? hnodup hcut
  have hgone : gone = [] := by
    rw [Root.takenAt?, hfocus] at htaken
    exact (Option.some.inj htaken).symm
  refine ⟨next, hcut, ?_, Root.treeviz_edit? hfocus hcut⟩
  rw [hnext, hgone, List.filter_eq_self]
  intro lineage _
  exact lineage.spared_nil

end Runs

section Reshaped

/-- What is left of a tree after cuts that took some nodes out of its walk. -/
structure Root.Reshaped (root last : Root) (gone : List NodeId) : Prop where
  /-- A node is left if neither it nor an ancestor was taken out, and keeps its ancestors. -/
  lineages : last.lineages = root.lineages.filter (Lineage.spared gone)
  walk : (last.walk.map NodeRef.bare).Sublist (root.walk.map NodeRef.bare)
  increasing : (last.walk.map fun node => node.id.index).Pairwise (· < ·)
  tables : ∀ table, .block (.table table) ∈ last.walk →
    table.cells.Sublist table.body.flatten ∧
      ∃ source, .block (.table source) ∈ root.walk ∧ source.Thins table
  reachable : ∀ node ∈ last.walk, (Focus.root last).Reaches node
  /-- The children of every node that has some may be cut again. -/
  cuttable : ∀ cut,
    (last.cut? cut).isSome = ((last.focus? cut.address).bind Focus.children?).isSome
  /-- A cut among flat cells is not seen. -/
  flat : ∀ cut table, last.focus? cut.address = some (.block (.table table)) →
    ∃ next, last.cut? cut = some next ∧
      next.walk.map NodeRef.bare = last.walk.map NodeRef.bare ∧
      next.lineages = last.lineages ∧
      ∀ params, Format.treeviz params next = Format.treeviz params last

theorem Root.nodup_metIds
    {root : Root}
    (hincreasing : (root.walk.map fun node => node.id.index).Pairwise (· < ·)) :
    (metIds root.lineages).Nodup := by
  rw [metIds, Root.map_id_lineages]
  rw [List.pairwise_map] at hincreasing
  rw [List.Nodup, List.pairwise_map]
  apply hincreasing.imp
  intro node node' hlt heq
  rw [heq] at hlt
  exact Nat.lt_irrefl _ hlt

/-- Cuts reshape every tree with increasing ids whose tables hold no other flat cells than those of
their bodies. -/
theorem Root.reshaped_of_cutAll?
    {root last : Root} {cuts : List Cut}
    (hincreasing : (root.walk.map fun node => node.id.index).Pairwise (· < ·))
    (hcells : ∀ table, .block (.table table) ∈ root.walk →
      table.cells.Sublist table.body.flatten)
    (hcuts : root.cutAll? cuts = some last) :
    root.Reshaped last (root.cutIds cuts) := by
  have hlineages := Root.lineages_of_cutAll? (Root.nodup_metIds hincreasing) hcuts
  have hwalk : (last.walk.map NodeRef.bare).Sublist (root.walk.map NodeRef.bare) := by
    rw [← Root.map_node_lineages, ← Root.map_node_lineages, hlineages]
    exact List.filter_sublist.map _
  have hlast : (last.walk.map fun node => node.id.index).Pairwise (· < ·) := by
    have hbare : ∀ tree : Root,
        (tree.walk.map NodeRef.bare).map (fun node => node.id.index) =
          tree.walk.map fun node => node.id.index := by
      intro tree
      simp only [List.map_map, Function.comp_def, NodeRef.bare_id]
    rw [← hbare] at hincreasing ⊢
    exact hincreasing.sublist (hwalk.map _)
  refine ⟨hlineages, hwalk, hlast, ?_, fun _ => Root.reaches, last.cut?_isSome, ?_⟩
  · intro table hmem
    obtain ⟨source, hsource, hthin⟩ := Root.tablesThin_of_cutAll? hcuts table hmem
    refine ⟨?_, source, hsource, hthin⟩
    rw [hthin.body]
    exact hthin.cells.trans (hcells source hsource)
  · intro cut table hfocus
    obtain ⟨next, hcut, hsame, htreeviz⟩ := Root.cut?_flat (Root.nodup_metIds hlast) hfocus
    refine ⟨next, hcut, ?_, hsame, htreeviz⟩
    rw [← Root.map_node_lineages, ← Root.map_node_lineages, hsame]

end Reshaped

end Tree
end DocTree
