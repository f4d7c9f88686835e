import DocTree.Build.Inlines

/-!
# Building tables

Header cells become paragraphs in column order, then body cells row by row.  One loop fills two
views of the body: a paragraph goes to the end of the row that is open and to the end of the flat
cells.
-/

namespace DocTree
namespace Build

/-- The views of a body while it is filled: the rows that are complete, and the cells so far. -/
structure Views where
  rows : List (List Tree.Paragraph)
  cells : List Tree.Paragraph

/-- Fill a row, which is open: the paragraph of each cell goes to the end of it and to the end of
the flat cells. -/
def fillRow (row cells : List Tree.Paragraph) :
    List Markup.Cell → Context → (List Tree.Paragraph × List Tree.Paragraph) × Context
  | [], cx => ((row, cells), cx)
  | cell :: more, cx =>
      let built := paragraph cell cx
      fillRow (row ++ [built.1]) (cells ++ [built.1]) more built.2

/-- Fill the views of a body, row by row. -/
def fillRows (views : Views) : List (List Markup.Cell) → Context → Views × Context
  | [], cx => (views, cx)
  | row :: more, cx =>
      let filled := fillRow [] views.cells row cx
      fillRows ⟨views.rows ++ [filled.1.1], filled.1.2⟩ more filled.2

/-- Build a table. -/
def table (source : Markup.Table) (cx : Context) : Tree.Table × Context :=
  let headers := paragraphs source.head cx.issue
  let filled := fillRows ⟨[], []⟩ source.rows headers.2
  ({ id := cx.nextId
     alignments := source.alignments
     headers := headers.1
     body := filled.1.rows
     cells := filled.1.cells }, filled.2)

end Build
end DocTree
