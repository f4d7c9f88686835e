import DocTree.Build.Context
import DocTree.Markup.PlainText

/-!
# Building inlines and paragraphs

Seven inline kinds have a node.  Text, strong, emphasis, code and strikethrough become spans that
carry their plain text, so whatever is nested in them collapses to text.  Links and images keep
their target.  Every other kind is dropped and reported.
-/

namespace DocTree
namespace Build

open DocTree.Tree (NodeId)

/-- Drop one character from the front of a text if it is the given one. -/
def dropLeading (c : Char) : List Char → List Char
  | [] => []
  | x :: xs => if x == c then xs else x :: xs

/-- Strip one strikethrough delimiter from the front and one from the end of what remains. -/
def stripDelimiters (raw : String) : String :=
  let inner := dropLeading Markup.strikethroughDelimiter raw.toList
  String.ofList (dropLeading Markup.strikethroughDelimiter inner.reverse).reverse

/-- Stripping the plain text of a strikethrough gives back the plain text between its delimiters. -/
theorem stripDelimiters_plainText (children : List Markup.Inline) :
    stripDelimiters (Markup.Inline.strikethrough children).plainText =
      Markup.Inline.plainTextAll children := by
  simp [stripDelimiters, Markup.Inline.plainText, dropLeading]

/-- The node of an inline under a given id, if its kind has a node. -/
def inlineNode? (id : NodeId) (source : Markup.Inline) : Option Tree.Inline :=
  match source with
  | .text s => some (.span .text id s)
  | .strong _ => some (.span .strong id source.plainText)
  | .emphasis _ => some (.span .italic id source.plainText)
  | .strikethrough _ => some (.span .strikethrough id (stripDelimiters source.plainText))
  | .code literal => some (.span .inlineCode id literal)
  | .link destination _ _ => some (.link id source.plainText destination)
  | .image imageSource title _ => some (.image id (title.getD source.plainText) imageSource)
  | .other _ _ => none

/-- Build one inline; the result is absent when its kind is dropped. -/
def inline (source : Markup.Inline) (cx : Context) : Option Tree.Inline × Context :=
  match inlineNode? cx.nextId source with
  | some node => (some node, cx.issue)
  | none => (none, cx.report (.inlineDrop source.kindName))

/-- Build a run of inlines. -/
def inlines : List Markup.Inline → Context → List Tree.Inline × Context
  | [], cx => ([], cx)
  | x :: xs, cx =>
      let first := inline x cx
      let rest := inlines xs first.2
      (first.1.toList ++ rest.1, rest.2)

/-- Build a paragraph around a run of inlines. -/
def paragraph (content : List Markup.Inline) (cx : Context) : Tree.Paragraph × Context :=
  let children := inlines content cx.issue
  (⟨cx.nextId, children.1⟩, children.2)

/-- Build one paragraph for each cell of a row. -/
def paragraphs : List Markup.Cell → Context → List Tree.Paragraph × Context
  | [], cx => ([], cx)
  | cell :: cells, cx =>
      let first := paragraph cell cx
      let rest := paragraphs cells first.2
      (first.1 :: rest.1, rest.2)

end Build
end DocTree
