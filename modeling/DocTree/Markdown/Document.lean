import DocTree.Markdown.FrontMatter
import DocTree.Markdown.Lines
import DocTree.Markdown.TextNodes

/-!
# Documents

A document is read in two steps.  The lines give the blocks and the definitions, and then the texts
of the blocks are read, which may refer to any definition.  A null character stands for the
replacement character, and a mark at the start of the file or behind the front matter is not part of
the text.
-/

namespace DocTree
namespace Markdown

open Ast (Node)

/-- A text with every null character replaced. -/
def withoutNull (chars : List Char) : List Char :=
  chars.map fun c => if c == '\x00' then '\uFFFD' else c

/-- Split a text into the node of its front matter, if it has any, and what is to be read. -/
def splitFrontMatter (options : Options) (chars : List Char) : List Node × List Char :=
  match options.frontMatterDelimiter.bind fun d => afterFrontMatter? d.toList chars with
  | some rest => ([.leaf .frontMatter], dropMark rest)
  | none => ([], dropMark chars)

/-- Number of bytes that the references of a text may bring into the document: as many as the text
has, but no fewer than a hundred thousand. -/
def referenceBudget (chars : List Char) : Nat :=
  max 100000 (String.ofList chars).utf8ByteSize

/-- Finish the text nodes of a tree. -/
def finishTexts (options : Options) (root : Node) : Node :=
  let joined := root.joinTexts
  let marked := if options.tasklist then joined.markTasks else joined
  if options.autolink then marked.linkMailboxes else marked

/-- The syntax tree of a text. -/
def parse (options : Options) (source : String) : Node :=
  let parts := splitFrontMatter options source.toList
  let blocks := readBlocks options (withoutNull parts.2)
  let drafts := blocks.drafts
  let scope := ⟨options, (blocks.keep 0).references, referenceBudget parts.2⟩
  finishTexts options (.mk .document (parts.1 ++ (Draft.nodes scope 0 drafts).1))

end Markdown
end DocTree
