import DocTree.Proofs.Build.Account
import DocTree.Proofs.Tree.Cutting

/-!
# Reshaping a built tree

A built tree has increasing ids, and the flat cells of its tables are the cells of their bodies.
Both are what cuts need, so any cuts of a built tree leave a part of it in its order and change
nothing else (`reshape_build`).
-/

namespace DocTree
namespace Build

open DocTree.Tree (NodeRef NodeId Cut Root)

section Tables

/-- The tables among some nodes hold the cells of their bodies as flat cells. -/
def FlatCells (nodes : List NodeRef) : Prop :=
  ∀ table, .block (.table table) ∈ nodes → table.cells = table.body.flatten

theorem FlatCells.append
    {bs bs' : List Tree.Block}
    (h : FlatCells (Tree.Block.walkAll bs))
    (h' : FlatCells (Tree.Block.walkAll bs')) :
    FlatCells (Tree.Block.walkAll (bs ++ bs')) := by
  intro table hmem
  rw [Tree.Block.walkAll_append] at hmem
  rcases List.mem_append.mp hmem with hmem | hmem
  · exact h table hmem
  · exact h' table hmem

mutual

theorem flatCells_block :
    (source : Markup.Block) → (cx : Context) →
      FlatCells (Tree.Block.walkAll (block source cx).1)
  | .heading _ _, cx => by
      intro table hmem
      simp [block, Tree.Block.table_mem_walk] at hmem
  | .paragraph _, cx => by
      intro table hmem
      simp [block, Tree.Block.table_mem_walk] at hmem
  | .codeBlock _ _, cx => by
      intro table hmem
      simp [block, Tree.Block.table_mem_walk] at hmem
  | .list _ _, cx => by
      intro table hmem
      simp [block, Tree.Block.table_mem_walk] at hmem
  | .blockQuote children, cx => by
      intro table hmem
      rw [block, Tree.Block.walkAll_singleton, Tree.Block.table_mem_walk] at hmem
      rcases hmem with heq | ⟨id, bs, heq, hmem⟩
      · cases heq
      · cases heq
        exact flatCells_blocks children _ table hmem
  | .table source, cx => by
      intro table hmem
      rw [block, Tree.Block.walkAll_singleton, Tree.Block.table_mem_walk] at hmem
      rcases hmem with heq | ⟨id, bs, heq, hmem⟩
      · cases heq
        exact cells_table source _
      · cases heq
  | .other name children, cx => by
      rw [block]
      exact flatCells_blocks children _

theorem flatCells_blocks :
    (source : List Markup.Block) → (cx : Context) →
      FlatCells (Tree.Block.walkAll (blocks source cx).1)
  | [], cx => by
      intro table hmem
      cases hmem
  | b :: bs, cx => by
      rw [blocks]
      exact (flatCells_block b cx).append (flatCells_blocks bs _)

end

theorem flatCells_build (doc : Markup.Document) (options : Options) :
    FlatCells (build doc options).root.walk := by
  intro table hmem
  exact flatCells_blocks doc.children _ table (Root.table_mem_walk.mp hmem)

end Tables

section Reshaping

theorem increasing_walk_build (doc : Markup.Document) (options : Options) :
    ((build doc options).root.walk.map fun node => node.id.index).Pairwise (· < ·) := by
  rw [index_walk_build]
  exact List.pairwise_lt_range

/-- **Reshaping.**  Cuts of a built tree leave a part of it in the order of its walk.  A node is
gone exactly if it or an ancestor of it was taken out; every other node keeps its role, its id, its
fields and its ancestors.  The ids stay increasing, a table keeps its body, of which its flat cells
stay a part, and a cut among flat cells is not seen. -/
theorem reshape_build
    (doc : Markup.Document) (options : Options) (cuts : List Cut) (last : Root)
    (hcuts : (build doc options).root.cutAll? cuts = some last) :
    (build doc options).root.Reshaped last ((build doc options).root.cutIds cuts) := by
  apply Root.reshaped_of_cutAll? (increasing_walk_build doc options) _ hcuts
  intro table hmem
  rw [flatCells_build doc options table hmem]

/-- The first paragraph of a quote and the flat cells of a table are taken out. -/
theorem reshape_build_quote_table :
    let doc : Markup.Document :=
      ⟨[.blockQuote [.heading 2 [.text "a"], .paragraph [.code "b"], .paragraph []],
        .table ⟨[.left], [[.text "c"]], [[[.text "d"]]]⟩]⟩
    let cuts : List Cut := [⟨[.child 0], .first .paragraph⟩, ⟨[.child 1], .clear⟩]
    let last : Root :=
      ⟨⟨0⟩, [.blockQuote ⟨1⟩ [.heading ⟨2⟩ 2 "a", .paragraph ⟨⟨5⟩, []⟩],
        .table ⟨⟨6⟩, [.left], [⟨⟨7⟩, [.span .text ⟨8⟩ "c"]⟩],
          [[⟨⟨9⟩, [.span .text ⟨10⟩ "d"]⟩]], []⟩]⟩
    (build doc {}).root.cutAll? cuts = some last ∧
      (build doc {}).root.cutIds cuts = [⟨3⟩] ∧
        (build doc {}).root.Reshaped last ((build doc {}).root.cutIds cuts) := by
  intro doc cuts last
  have hcuts : (build doc {}).root.cutAll? cuts = some last := by
    rfl
  have hgone : (build doc {}).root.cutIds cuts = [⟨3⟩] := by
    rfl
  exact ⟨hcuts, hgone, reshape_build doc {} cuts last hcuts⟩

end Reshaping

end Build
end DocTree
