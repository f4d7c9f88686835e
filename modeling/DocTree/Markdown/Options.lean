/-!
# Options of the grammar

Five extensions can be switched on and off, and a document may start with front matter between two
lines that hold a delimiter.
-/

namespace DocTree
namespace Markdown

/-- What the grammar recognizes beyond its core. -/
structure Options where
  table : Bool := true
  strikethrough : Bool := true
  autolink : Bool := true
  tasklist : Bool := false
  superscript : Bool := false
  /-- The line that opens and closes front matter; absent when there is none to be found. -/
  frontMatterDelimiter : Option String := some "---"
deriving DecidableEq, Repr

end Markdown
end DocTree
