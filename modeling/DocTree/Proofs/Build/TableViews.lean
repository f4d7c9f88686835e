import DocTree.Proofs.Build.History
import Mathlib.Algebra.GroupWithZero.Nat
import Mathlib.Data.List.Basic

/-!
# The views of a table

A table is built from one run of paragraphs: the cells of the head row first, then the cells of the
body row by row.  The paragraph of a cell is what the builder gives in the context that the cells
before it leave (`afterCells`), so its place in the source says which one it is.

The body has two views, which one loop fills.  They hold the same paragraphs in the same order,
since the loop gives the table that is built row by row (`table_eq_tableByRows`).
-/

namespace DocTree
namespace Build

open DocTree.Tree (NodeId NodeRef)

section Runs

/-- The context that is left once the paragraphs of some cells have been built in it. -/
def afterCells (cells : List Markup.Cell) (cx : Context) : Context :=
  cells.foldl (fun cx cell => (paragraph cell cx).2) cx

theorem afterCells_append (cells cells' : List Markup.Cell) (cx : Context) :
    afterCells (cells ++ cells') cx = afterCells cells' (afterCells cells cx) :=
  List.foldl_append

theorem context_paragraphs (cells : List Markup.Cell) (cx : Context) :
    (paragraphs cells cx).2 = afterCells cells cx := by
  induction cells generalizing cx with
  | nil =>
      rfl
  | cons cell cells ih =>
      rw [paragraphs, ih]
      rfl

theorem context_rows (source : List (List Markup.Cell)) (cx : Context) :
    (rows source cx).2 = afterCells source.flatten cx := by
  induction source generalizing cx with
  | nil =>
      rfl
  | cons row source ih =>
      rw [rows, ih, context_paragraphs, List.flatten_cons, afterCells_append]

/-- The paragraph of each cell is built in the context that the cells before it leave. -/
theorem paragraphs_eq_mapIdx (cells : List Markup.Cell) (cx : Context) :
    (paragraphs cells cx).1 =
      cells.mapIdx fun k cell => (paragraph cell (afterCells (cells.take k) cx)).1 := by
  induction cells generalizing cx with
  | nil =>
      rfl
  | cons cell cells ih =>
      rw [paragraphs, ih, List.mapIdx_cons]
      rfl

/-- The same for the cells of several rows; the rows before come first. -/
theorem rows_eq_mapIdx (source : List (List Markup.Cell)) (cx : Context) :
    (rows source cx).1 =
      source.mapIdx fun r row => row.mapIdx fun c cell =>
        (paragraph cell (afterCells ((source.take r).flatten ++ row.take c) cx)).1 := by
  induction source generalizing cx with
  | nil =>
      rfl
  | cons row source ih =>
      rw [rows, ih, List.mapIdx_cons, context_paragraphs, paragraphs_eq_mapIdx]
      simp only [List.take_zero, List.flatten_nil, List.nil_append, List.take_succ_cons,
        List.flatten_cons, List.append_assoc, afterCells_append]

end Runs

section Views

/-- The paragraphs themselves stand in their order among the nodes that a walk of them meets. -/
theorem paragraphs_sublist_walk (nodes : List Tree.Paragraph) :
    (nodes.map NodeRef.paragraph).Sublist (nodes.flatMap Tree.Paragraph.walk) := by
  induction nodes with
  | nil =>
      exact List.Sublist.refl []
  | cons node nodes ih =>
      rw [List.map_cons, List.flatMap_cons, Tree.Paragraph.walk, List.cons_append]
      exact (ih.trans (List.sublist_append_right _ _)).cons_cons _

/-- The ids of a table, of its headers and of the cells of its body increase in this order. -/
theorem increasing_table_ids (source : Markup.Table) (cx : Context) :
    let built := (table source cx).1
    ((built.id :: (built.headers ++ built.cells).map Tree.Paragraph.id).map
      NodeId.index).Pairwise (· < ·) := by
  intro built
  have hnumbered := (advance_run (.call (.table source)) cx).numbered
  have hwalk : (((NodeRef.block (.table built) :: built.walkBelow).map NodeRef.id).map
      NodeId.index).Pairwise (· < ·) := by
    have hids : (Action.run (.call (.table source)) cx).1 =
        (NodeRef.block (.table built) :: built.walkBelow).map NodeRef.id := by
      rfl
    rw [← hids, hnumbered]
    exact List.pairwise_lt_range'
  have hbelow : ((built.headers ++ built.cells).map NodeRef.paragraph).Sublist
      built.walkBelow := by
    rw [cells_table, Tree.Table.walkBelow, ← List.flatMap_append]
    exact paragraphs_sublist_walk _
  have hsublist :=
    ((hbelow.cons_cons (NodeRef.block (.table built))).map NodeRef.id).map NodeId.index
  have hpairwise := hwalk.sublist hsublist
  rw [List.map_cons, List.map_map] at hpairwise
  exact hpairwise

/-- **Views of a table.**  Each header and each cell of the body is the paragraph that is built for
its cell of the source, one after the other: the head row first, then the body row by row, as many
rows and as many cells in each as the source has.  The flat cells, which the loop pushes beside
them, are the rows of the body one behind the other.  The alignments stay, and the ids increase from
the table over its headers to its cells. -/
theorem table_views_agree (source : Markup.Table) (cx : Context) :
    let built := (table source cx).1
    built.headers =
        source.head.mapIdx (fun k cell =>
          (paragraph cell (afterCells (source.head.take k) cx.issue)).1) ∧
      built.body =
        source.rows.mapIdx (fun r row => row.mapIdx fun c cell =>
          (paragraph cell (afterCells
            (source.head ++ ((source.rows.take r).flatten ++ row.take c)) cx.issue)).1) ∧
      (table source cx).2 = afterCells (source.head ++ source.rows.flatten) cx.issue ∧
      built.cells = built.body.flatten ∧
      built.cells.length = built.cellCount ∧
      built.cellCount = (built.body.map List.length).sum ∧
      table source cx = tableByRows source cx ∧
      built.alignments = source.alignments ∧
      built.id = cx.nextId ∧
      ((built.id :: (built.headers ++ built.cells).map Tree.Paragraph.id).map
        NodeId.index).Pairwise (· < ·) := by
  intro built
  -- The body is built in the context that the head row leaves.
  have hbody : built.body = (rows source.rows (afterCells source.head cx.issue)).1 := by
    rw [← context_paragraphs]
    exact congrArg (fun run => run.1.body) (table_eq_tableByRows source cx)
  have hlast : (table source cx).2 = (rows source.rows (afterCells source.head cx.issue)).2 := by
    rw [← context_paragraphs]
    exact congrArg Prod.snd (table_eq_tableByRows source cx)
  have hcells : built.cells = built.body.flatten := cells_table source cx
  have hcount : built.cells.length = built.cellCount := by
    rw [hcells, List.length_flatten]
    rfl
  refine ⟨paragraphs_eq_mapIdx source.head cx.issue, ?_, ?_, hcells, hcount, rfl,
    table_eq_tableByRows source cx, rfl, rfl, increasing_table_ids source cx⟩
  · rw [hbody, rows_eq_mapIdx]
    simp only [afterCells_append]
  · rw [hlast, context_rows, afterCells_append]

-- An empty row stays empty, and a cell whose inlines are all dropped keeps its place.
example :
    let built := (table ⟨[], [[.text "h"]], [[[.text "a"]], [], [[.other "math" "x"], []]]⟩
      (Context.new {})).1
    built.body.map List.length = [1, 0, 2] ∧
      built.cells.map (fun cell => cell.id.index) = [3, 5, 6] := by
  decide

end Views

end Build
end DocTree
