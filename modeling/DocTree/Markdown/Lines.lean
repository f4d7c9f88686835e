import DocTree.Markdown.OpenBlocks

/-!
# Reading a document line by line

A line first passes the open blocks from the outermost inwards, and each takes its share of the
front of the line as long as the line belongs to it.  What is left may start new blocks.  Blocks to
which the line does not belong are closed, with one exception: a paragraph takes a line that starts
no block, even when the holders around the paragraph do not.
-/

namespace DocTree
namespace Markdown

/-! ## Lines of a text -/

/-- The lines of a text.  A line ends with a line feed, a carriage return, or both. -/
def splitLines : List Char → List (List Char)
  | [] => []
  | '\r' :: '\n' :: rest => [] :: splitLines rest
  | c :: rest =>
      if c == '\n' || c == '\r' then [] :: splitLines rest
      else
        match splitLines rest with
        | line :: lines => (c :: line) :: lines
        | [] => [[c]]

/-! ## Blocks that go on -/

/-- The place of a line behind what a holder takes of it, if the line belongs to the holder.  A
blank line belongs to an item that holds something. -/
def Holder.continue? (holder : Holder) (holds : Bool) (line : Cursor) : Option Cursor :=
  match holder.kind with
  | .quote =>
      if line.indent ≤ 3 && line.text.head? == some '>' then
        some (line.skipMarker 1).skipIndent
      else none
  | .list _ => some line
  | .item width =>
      if width ≤ line.indent then some (line.skip width)
      else if line.isBlank && holds then some line.toText
      else none

/-- Number of holders, outermost first, to which a line belongs, and the place behind what they take
of it.  The flag tells whether a leaf is open. -/
def passHolders (leafOpen : Bool) (line : Cursor) : List Holder → Nat × Cursor
  | [] => (0, line)
  | holder :: inner =>
      match holder.continue? (!holder.closed.isEmpty || !inner.isEmpty || leafOpen) line with
      | some behind =>
          let passed := passHolders leafOpen behind inner
          (passed.1 + 1, passed.2)
      | none => (0, line)

/-- The place behind at most a number of columns of indentation. -/
def Cursor.skipIndentUpTo (line : Cursor) (n : Nat) : Cursor :=
  line.skip (min n line.indent)

namespace OpenBlocks

/-! ## Blocks that start -/

/-- Close a leaf of HTML if a line ends it. -/
def endHtml (b : OpenBlocks) (line : List Char) : OpenBlocks :=
  match b.leaf with
  | some (.html ending) => if htmlEndsIn ending line then b.closeLeaf else b
  | _ => b

/-- Start a block, and the blocks inside it that start in the same line.  The first number bounds
the blocks, the second one counts those before. -/
def place (b : OpenBlocks) : Nat → Nat → BlockStart → OpenBlocks
  | 0, _, _ => b
  | n + 1, depth, block =>
      let goOn := fun (b : OpenBlocks) (behind : Cursor) =>
        match blockStart? ⟨false, false, depth + 2⟩ behind with
        | some inner => place b n (depth + 1) inner
        | none => if behind.isBlank then b else b.openLeaf (.paragraph [behind.text] false)
      match block with
      | .quote behind => goOn (b.leaveList.hold .quote) behind
      | .item marker width behind => goOn (b.holdItem marker width) behind
      | .heading level text => b.leaveList.append (.mk (.heading level) text [])
      | .fence fence info => b.openLeaf (.fenced fence info [])
      | .html ending text => (b.openLeaf (.html ending)).endHtml text
      | .thematicBreak => b.leaveList.append (.ofKind .thematicBreak [])
      | .code behind => b.openLeaf (.indented [behind.content])
      | .underline _ => b

/-- Start a block in a line behind a number of holders. -/
def begin (b : OpenBlocks) (line : Cursor) (kept : Nat) (block : BlockStart) : OpenBlocks :=
  place (b.keep kept) (line.rest.length + 1) 0 block

/-! ## Lines of a leaf -/

/-- Make the paragraph above a line a heading, unless it consists of definitions only. -/
def underlined (b : OpenBlocks) (line : Cursor) (lines : List (List Char)) (tried : Bool)
    (level : Nat) : OpenBlocks :=
  let taken := takeDefinitions b.references (joinLines lines)
  let b := { b with references := taken.1 }
  if taken.2.all isSpace then { b with leaf := some (.paragraph [line.text] tried) }
  else ({ b with leaf := none } : OpenBlocks).append (.mk (.heading level) taken.2 [])

/-- Make the last line of a paragraph the first row of a table whose second row is given. -/
def openTable? (b : OpenBlocks) (lines : List (List Char)) (alignments : List Markup.Alignment) :
    Option OpenBlocks :=
  match lines with
  | [] => none
  | last :: earlier =>
      (rowCells? last).bind fun cells =>
        if cells.length == alignments.length then
          let before := unescapeBars (joinLines earlier)
          let b := if earlier.isEmpty then b else b.append (.mk .paragraph before [])
          some { b with leaf := some (.table alignments [rowOf true cells.length cells]) }
        else none

/-- Add a line to the paragraph above it. -/
def continueParagraph (b : OpenBlocks) (options : Options) (line : Cursor)
    (lines : List (List Char)) (tried : Bool) : OpenBlocks :=
  let added := fun tried => { b with leaf := some (.paragraph (line.text :: lines) tried) }
  if !options.table || line.isDeep || tried then added tried
  else
    match delimiterRow? line.text with
    | some alignments => (b.openTable? lines alignments).getD (added true)
    | none => added false

/-- Add a line that belongs to no leaf, behind a number of holders to which it belongs. -/
def addFresh (b : OpenBlocks) (line : Cursor) (kept : Nat) : OpenBlocks :=
  let lazy? := match b.leaf with
    | some (.paragraph lines tried) => some (lines, tried)
    | _ => none
  match blockStart? ⟨false, lazy?.isSome, 1⟩ line with
  | some block => b.begin line kept block
  | none =>
      if line.isBlank then b.keep kept
      else
        match lazy? with
        | some (lines, tried) => { b with leaf := some (.paragraph (line.content :: lines) tried) }
        | none => (b.keep kept).openLeaf (.paragraph [line.text] false)

/-- Add a line that belongs to all open holders to a leaf, if it belongs to it. -/
def addToLeaf? (b : OpenBlocks) (options : Options) (line : Cursor) (leaf : Leaf) :
    Option OpenBlocks :=
  match leaf with
  | .fenced fence info lines =>
      if fence.isClosedBy line then some b.closeLeaf
      else
        let own := (line.skipIndentUpTo fence.indent).content
        some { b with leaf := some (.fenced fence info (own :: lines)) }
  | .indented lines =>
      if line.isDeep then some { b with leaf := some (.indented ((line.skip 4).content :: lines)) }
      else if line.isBlank then some { b with leaf := some (.indented ([] :: lines)) }
      else none
  | .html ending =>
      if ending == .blankLine && line.isBlank then none else some (b.endHtml line.text)
  | .paragraph lines tried =>
      if line.isBlank then none
      else
        match blockStart? ⟨true, true, 1⟩ line with
        | some (.underline level) => some (b.underlined line lines tried level)
        | some block => some (b.begin line b.holders.length block)
        | none => some (b.continueParagraph options line lines tried)
  | .table alignments rows =>
      (rowCells? line.text).map fun cells =>
        match blockStart? ⟨false, false, 1⟩ line with
        | some block => b.begin line b.holders.length block
        | none =>
            let row := rowOf false alignments.length cells
            { b with leaf := some (.table alignments (row :: rows)) }

/-- Add a line. -/
def addLine (options : Options) (b : OpenBlocks) (line : List Char) : OpenBlocks :=
  let passed := passHolders b.leaf.isSome (.ofLine line) b.holders.reverse
  let leaf := if passed.1 == b.holders.length then b.leaf else none
  (leaf.bind (b.addToLeaf? options passed.2)).getD (b.addFresh passed.2 passed.1)

end OpenBlocks

/-- The blocks of a text that has been read. -/
def readBlocks (options : Options) (chars : List Char) : OpenBlocks :=
  (splitLines chars).foldl (OpenBlocks.addLine options) .start

end Markdown
end DocTree
