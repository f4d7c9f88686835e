import DocTree.Format.Icon
import DocTree.Tree.Basic

/-!
# Drawings of a tree

A drawing is the forest of nodes that a tree visualization shows, each with its id, its icon and its
full label.  The paragraph that leads an item is not drawn: the item shows its text and has its
inlines.  A table shows its header and its rows, which are no nodes and have no id.
-/

namespace DocTree
namespace Format

open DocTree.Tree (NodeId ListNode ListEntry ListType Paragraph)

/-- A drawn node and the nodes drawn below it. -/
inductive Drawing
  | mk (id : Option NodeId) (icon label : String) (children : List Drawing)

/-- Number of lines of a text; the break at its end starts no line. -/
def lineCount (text : String) : Nat :=
  let chars := text.toList
  chars.count '\n' + if chars.getLast?.all (· == '\n') then 0 else 1

/-- A label with a target behind an arrow, if there is a target. -/
def withTarget (text arrow : String) : Option String → String
  | some target => text ++ " " ++ arrow ++ " " ++ target
  | none => text

/-- Label of an inline. -/
def inlineLabel : Tree.Inline → String
  | .span _ _ text => text
  | .link _ text destination => withTarget text "→" destination
  | .image _ text source => withTarget text "←" source

/-- Name of a numbering in a label. -/
def listTypeLabel : ListType → String
  | .ordered => "ordered"
  | .unordered => "unordered"

/-- Label of a list. -/
def listLabel (type : ListType) (depth entries : Nat) : String :=
  listTypeLabel type ++ ", depth " ++ toString depth ++ " (" ++ toString entries ++ " entries)"

namespace Drawing

/-- The drawing of an inline. -/
def ofInline (inline : Tree.Inline) : Drawing :=
  mk (some inline.id) (icon inline.kind.name) (inlineLabel inline) []

/-- The drawing of a paragraph. -/
def ofParagraph (paragraph : Paragraph) : Drawing :=
  mk (some paragraph.id) (icon "Paragraph") paragraph.text (paragraph.children.map ofInline)

mutual

/-- The drawing of a list. -/
def ofList : ListNode → Drawing
  | .mk id type depth entries =>
      mk (some id) (icon "List") (listLabel type depth entries.length) (ofEntries entries)

/-- The drawing of an entry of a list. -/
def ofEntry : ListEntry → Drawing
  | .item id paragraph sublists =>
      mk (some id) (icon "ListItem") paragraph.text
        (paragraph.children.map ofInline ++ ofLists sublists)
  | .sublist list => ofList list

/-- The drawings of the entries of a list. -/
def ofEntries : List ListEntry → List Drawing
  | [] => []
  | entry :: entries => ofEntry entry :: ofEntries entries

/-- The drawings of the sublists of an item. -/
def ofLists : List ListNode → List Drawing
  | [] => []
  | list :: lists => ofList list :: ofLists lists

end

/-- The drawing of a table row. -/
def ofRow (label : String) (cells : List Paragraph) : Drawing :=
  mk none (icon "TableRow") label (cells.map ofParagraph)

/-- The drawings of the body rows of a table, numbered from a number on. -/
def ofRows (number : Nat) : List (List Paragraph) → List Drawing
  | [] => []
  | cells :: rows => ofRow ("row " ++ toString number) cells :: ofRows (number + 1) rows

/-- The drawing of a table. -/
def ofTable (table : Tree.Table) : Drawing :=
  mk (some table.id) (icon "Table")
    (toString table.headers.length ++ " columns, " ++ toString table.body.length ++ " rows")
    (ofRow "header" table.headers :: ofRows 1 table.body)

mutual

/-- The drawing of a block. -/
def ofBlock : Tree.Block → Drawing
  | .heading id level text =>
      mk (some id) (icon "Heading") ("h" ++ toString level ++ " " ++ text) []
  | .paragraph p => ofParagraph p
  | .codeBlock id language code =>
      mk (some id) (icon "CodeBlock")
        (language.getD "plain" ++ " (" ++ toString (lineCount code) ++ " lines)") []
  | .list l => ofList l
  | .table t => ofTable t
  | .blockQuote id children =>
      mk (some id) (icon "BlockQuote") (toString children.length ++ " blocks") (ofBlocks children)

/-- The drawings of a run of blocks. -/
def ofBlocks : List Tree.Block → List Drawing
  | [] => []
  | b :: bs => ofBlock b :: ofBlocks bs

end

end Drawing

end Format
end DocTree
