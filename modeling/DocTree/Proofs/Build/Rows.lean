import DocTree.Build.Tables

/-!
# Tables row by row

`table` fills both views of a body in one loop.  `tableByRows` builds the rows of the body one after
the other instead, and puts them one behind the other for the flat cells.

After any cells the loop has pushed the same run of paragraphs to the open row and to the flat cells
(`fillRow_eq`), whatever the lengths of the rows, so both give the same table
(`table_eq_tableByRows`).
-/

namespace DocTree
namespace Build

/-- Build the rows of a table body. -/
def rows : List (List Markup.Cell) → Context → List (List Tree.Paragraph) × Context
  | [], cx => ([], cx)
  | cells :: more, cx =>
      let first := paragraphs cells cx
      let rest := rows more first.2
      (first.1 :: rest.1, rest.2)

/-- A table whose flat cells are the rows of its body, one behind the other. -/
def tableByRows (source : Markup.Table) (cx : Context) : Tree.Table × Context :=
  let headers := paragraphs source.head cx.issue
  let body := rows source.rows headers.2
  ({ id := cx.nextId
     alignments := source.alignments
     headers := headers.1
     body := body.1
     cells := body.1.flatten }, body.2)

theorem fillRow_eq
    (row cells : List Tree.Paragraph)
    (source : List Markup.Cell)
    (cx : Context) :
    fillRow row cells source cx =
      ((row ++ (paragraphs source cx).1, cells ++ (paragraphs source cx).1),
        (paragraphs source cx).2) := by
  induction source generalizing row cells cx with
  | nil =>
      simp only [fillRow, paragraphs, List.append_nil]
  | cons cell source ih =>
      simp only [fillRow, paragraphs, ih, List.append_assoc, List.singleton_append]

theorem fillRows_eq
    (views : Views)
    (source : List (List Markup.Cell))
    (cx : Context) :
    fillRows views source cx =
      (⟨views.rows ++ (rows source cx).1, views.cells ++ (rows source cx).1.flatten⟩,
        (rows source cx).2) := by
  induction source generalizing views cx with
  | nil =>
      simp only [fillRows, rows, List.append_nil, List.flatten_nil]
  | cons row source ih =>
      simp only [fillRows, rows, fillRow_eq, ih, List.nil_append, List.append_assoc,
        List.singleton_append, List.flatten_cons]

theorem table_eq_tableByRows (source : Markup.Table) (cx : Context) :
    table source cx = tableByRows source cx := by
  simp only [table, tableByRows, fillRows_eq, List.nil_append]

/-- The flat cells of a table that was built are the rows of its body, one behind the other. -/
theorem cells_table (source : Markup.Table) (cx : Context) :
    (table source cx).1.cells = (table source cx).1.body.flatten := by
  rw [table_eq_tableByRows]
  rfl

end Build
end DocTree
