import DocTree.Json.Basic
import DocTree.Markup.ToJson
import DocTree.Tree.Basic

/-!
# Semantic trees as JSON

Where a sequence may hold nodes of several kinds, each node is an object whose first member, `kind`,
names its kind.  Where the kind is fixed (the paragraph of an item, the sublists of an item, the
cells of a table) the object has the members of the node alone.  An id is its index.
-/

namespace DocTree
namespace Tree

/-- The member that holds an id. -/
def NodeId.member (id : NodeId) : String × Json :=
  ("id", .number id.index)

/-- Members put under the name of a kind. -/
def tagged (kind : String) (members : List (String × Json)) : Json :=
  .object (("kind", .string kind) :: members)

/-- Name of a numbering. -/
def ListType.name : ListType → String
  | .ordered => "Ordered"
  | .unordered => "Unordered"

/-- An inline as JSON. -/
def Inline.json : Inline → Json
  | .span style id s => tagged style.kind.name [id.member, ("text", .string s)]
  | .link id s destination =>
      tagged "Link" [id.member, ("text", .string s), ("destination", .ofOption destination)]
  | .image id s source =>
      tagged "Image" [id.member, ("text", .string s), ("source", .ofOption source)]

/-- The members of a paragraph. -/
def Paragraph.members (paragraph : Paragraph) : List (String × Json) :=
  [paragraph.id.member, ("children", .array (paragraph.children.map Inline.json))]

/-- A paragraph as JSON. -/
def Paragraph.json (paragraph : Paragraph) : Json :=
  .object paragraph.members

mutual

/-- The members of a list. -/
def ListNode.members : ListNode → List (String × Json)
  | .mk id type depth entries =>
      [id.member, ("list_type", .string type.name), ("depth", .number depth),
        ("children", .array (ListEntry.jsonAll entries))]

/-- The members of the node that an entry is. -/
def ListEntry.members : ListEntry → List (String × Json)
  | .item id paragraph sublists =>
      [id.member, ("paragraph", paragraph.json), ("children", .array (ListNode.jsonAll sublists))]
  | .sublist list => ListNode.members list

/-- The entries of a list, each under its kind. -/
def ListEntry.jsonAll : List ListEntry → List Json
  | [] => []
  | entry :: entries =>
      tagged (if entry.isItem then "Item" else "List") (ListEntry.members entry) ::
        ListEntry.jsonAll entries

/-- The sublists of an item. -/
def ListNode.jsonAll : List ListNode → List Json
  | [] => []
  | list :: lists => .object (ListNode.members list) :: ListNode.jsonAll lists

end

/-- An entry as JSON. -/
def ListEntry.json (entry : ListEntry) : Json :=
  tagged (if entry.isItem then "Item" else "List") entry.members

/-- The members of a table. -/
def Table.members (table : Table) : List (String × Json) :=
  [table.id.member, ("alignments", Markup.Alignment.listJson table.alignments),
    ("headers", .array (table.headers.map Paragraph.json)),
    ("body", .array (table.body.map fun row => .array (row.map Paragraph.json))),
    ("children", .array (table.cells.map Paragraph.json))]

mutual

/-- The members of the node that a block is. -/
def Block.members : Block → List (String × Json)
  | .heading id level s => [id.member, ("level", .number level), ("text", .string s)]
  | .paragraph p => p.members
  | .codeBlock id language code =>
      [id.member, ("language", .ofOption language), ("code", .string code)]
  | .list l => l.members
  | .table t => t.members
  | .blockQuote id children => [id.member, ("children", .array (Block.jsonAll children))]

/-- The items of a run of blocks, each under its kind. -/
def Block.jsonAll : List Block → List Json
  | [] => []
  | b :: bs => tagged b.kind.name (Block.members b) :: Block.jsonAll bs

end

/-- A block as JSON. -/
def Block.json (block : Block) : Json :=
  tagged block.kind.name block.members

/-- The members of a root. -/
def Root.json (root : Root) : Json :=
  .object [root.id.member, ("children", .array (Block.jsonAll root.children))]

end Tree
end DocTree
