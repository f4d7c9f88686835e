import DocTree.Markdown.BlockStart
import DocTree.Markdown.Draft
import DocTree.Markdown.Table

/-!
# Open blocks

While a document is read line by line, some blocks are open: holders, each inside the one before it,
and at the inner end perhaps a leaf, which takes lines.  A block that is closed becomes a draft and
is added to the innermost holder that is still open.

**Definitions.**  When a paragraph is closed, the definitions at its front are taken off; a
paragraph of definitions only leaves no draft.
-/

namespace DocTree
namespace Markdown

/-- Kind of an open block that holds blocks. -/
inductive HolderKind
  | quote
  | list (marker : Marker)
  /-- An item, and the indentation of what belongs to it. -/
  | item (width : Nat)
deriving DecidableEq, Repr

/-- An open block that holds blocks; those that are closed have the newest first. -/
structure Holder where
  kind : HolderKind
  closed : List Draft

/-- An open block that takes lines; the lines have the newest first. -/
inductive Leaf
  /-- A paragraph, and whether a line of it has been tried as the second row of a table. -/
  | paragraph (lines : List (List Char)) (tried : Bool)
  | fenced (fence : Fence) (info : List Char) (lines : List (List Char))
  | indented (lines : List (List Char))
  | html (ending : HtmlEnd)
  /-- A table; its rows have the newest first. -/
  | table (alignments : List Markup.Alignment) (rows : List Draft)

/-- The blocks of a document of which some lines have been read. -/
structure OpenBlocks where
  leaf : Option Leaf
  /-- The open holders, innermost first. -/
  holders : List Holder
  /-- The blocks at the top that are closed, newest first. -/
  closed : List Draft
  references : References

/-! ## Leaves as drafts -/

/-- Lines, which have the newest first, as a text where each ends with a line end. -/
def joinLines (lines : List (List Char)) : List Char :=
  (lines.reverse.map fun line => line ++ ['\n']).flatten

/-- The info string of fenced code as it is meant. -/
def cleanInfo (info : List Char) : String :=
  String.ofList (unescape (trimBoth (unescapeEntities info)))

/-- The lines of indented code, which have the newest first, without the blank ones at its end. -/
def dropBlankLines (lines : List (List Char)) : List (List Char) :=
  lines.dropWhile fun line => line.all Text.isGap

/-- A row of a table; the cells that lack are empty, and those that are too many are dropped. -/
def rowOf (header : Bool) (width : Nat) (cells : List (List Char)) : Draft :=
  let filled := (cells ++ List.replicate (width - cells.length) []).take width
  .ofKind (.tableRow header) (filled.map fun cell => .mk .tableCell cell [])

namespace Leaf

/-- Close a leaf: its draft, if it leaves one, and the references with its definitions. -/
def close (references : References) : Leaf → Option Draft × References
  | paragraph lines _ =>
      let taken := takeDefinitions references (joinLines lines)
      (if taken.2.all isSpace then none else some (.mk .paragraph taken.2 []), taken.1)
  | fenced _ info lines =>
      (some (.ofKind (.codeBlock (cleanInfo info) (String.ofList (joinLines lines))) []),
        references)
  | indented lines =>
      (some (.ofKind (.codeBlock "" (String.ofList (joinLines (dropBlankLines lines)))) []),
        references)
  | html _ => (some (.ofKind .htmlBlock []), references)
  | table alignments rows => (some (.ofKind (.table alignments) rows.reverse), references)

end Leaf

namespace OpenBlocks

/-- Nothing has been read. -/
def start : OpenBlocks where
  leaf := none
  holders := []
  closed := []
  references := []

/-! ## Closing -/

/-- Add a closed block to the innermost holder. -/
def append (b : OpenBlocks) (draft : Draft) : OpenBlocks :=
  match b.holders with
  | [] => { b with closed := draft :: b.closed }
  | holder :: outer =>
      { b with holders := { holder with closed := draft :: holder.closed } :: outer }

/-- Close the leaf. -/
def closeLeaf (b : OpenBlocks) : OpenBlocks :=
  match b.leaf with
  | none => b
  | some leaf =>
      let closed := leaf.close b.references
      let rest := { b with leaf := none, references := closed.2 }
      closed.1.elim rest rest.append

/-- The draft of a holder that is closed. -/
def draftOf (holder : Holder) : Draft :=
  let kind := match holder.kind with
    | .quote => Ast.Kind.blockQuote
    | .list marker => .list marker.ordered
    | .item _ => .item
  .ofKind kind holder.closed.reverse

/-- Close a number of holders, which hold no leaf. -/
def closeHolders (b : OpenBlocks) : Nat → OpenBlocks
  | 0 => b
  | n + 1 =>
      match b.holders with
      | [] => b
      | holder :: outer =>
          closeHolders (({ b with holders := outer } : OpenBlocks).append (draftOf holder)) n

/-- Close the leaf, and all but a number of holders. -/
def keep (b : OpenBlocks) (n : Nat) : OpenBlocks :=
  b.closeLeaf.closeHolders (b.holders.length - n)

/-- The drafts of a document that has been read. -/
def drafts (b : OpenBlocks) : List Draft :=
  (b.keep 0).closed.reverse

/-! ## Opening -/

/-- Close the innermost holder if it is a list, which holds nothing but items. -/
def leaveList (b : OpenBlocks) : OpenBlocks :=
  match b.holders with
  | ⟨.list _, _⟩ :: _ => b.closeHolders 1
  | _ => b

/-- Open a holder. -/
def hold (b : OpenBlocks) (kind : HolderKind) : OpenBlocks :=
  { b with holders := ⟨kind, []⟩ :: b.holders }

/-- Open an item, in the innermost list if it has the same marker, else in a list of its own. -/
def holdItem (b : OpenBlocks) (marker : Marker) (width : Nat) : OpenBlocks :=
  match b.holders with
  | ⟨.list own, _⟩ :: _ =>
      if own == marker then b.hold (.item width)
      else (b.leaveList.hold (.list marker)).hold (.item width)
  | _ => (b.hold (.list marker)).hold (.item width)

/-- Open a leaf. -/
def openLeaf (b : OpenBlocks) (leaf : Leaf) : OpenBlocks :=
  { b.leaveList with leaf := some leaf }

end OpenBlocks

end Markdown
end DocTree
