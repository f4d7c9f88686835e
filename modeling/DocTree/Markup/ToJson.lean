import DocTree.Json.Basic
import DocTree.Markup.Basic

/-!
# Parsed documents as JSON

A block or an inline is an object whose first member, `kind`, names its kind; the other members are
its parts.  Items and cells are objects of their own without a kind.
-/

namespace DocTree
namespace Markup

/-- Name of an alignment. -/
def Alignment.name : Alignment → String
  | .none => "None"
  | .left => "Left"
  | .center => "Center"
  | .right => "Right"

/-- The list of alignments of a table. -/
def Alignment.listJson (alignments : List Alignment) : Json :=
  .array (alignments.map fun alignment => .string alignment.name)

mutual

/-- An inline as JSON. -/
def Inline.json : Inline → Json
  | .text s => .object [("kind", .string "Text"), ("text", .string s)]
  | .strong children =>
      .object [("kind", .string "Strong"), ("children", .array (Inline.jsonAll children))]
  | .emphasis children =>
      .object [("kind", .string "Emphasis"), ("children", .array (Inline.jsonAll children))]
  | .strikethrough children =>
      .object [("kind", .string "Strikethrough"), ("children", .array (Inline.jsonAll children))]
  | .code literal => .object [("kind", .string "Code"), ("literal", .string literal)]
  | .link destination title children =>
      .object [("kind", .string "Link"), ("destination", .ofOption destination),
        ("title", .ofOption title), ("children", .array (Inline.jsonAll children))]
  | .image source title children =>
      .object [("kind", .string "Image"), ("source", .ofOption source),
        ("title", .ofOption title), ("children", .array (Inline.jsonAll children))]
  | .other name s =>
      .object [("kind", .string "Other"), ("name", .string name), ("text", .string s)]

/-- The items of a run of inlines. -/
def Inline.jsonAll : List Inline → List Json
  | [] => []
  | x :: xs => Inline.json x :: Inline.jsonAll xs

end

/-- A cell as JSON. -/
def cellJson (cell : Cell) : Json :=
  .object [("content", .array (Inline.jsonAll cell))]

/-- The members of a table. -/
def Table.members (table : Table) : List (String × Json) :=
  [("alignments", Alignment.listJson table.alignments),
    ("head", .array (table.head.map cellJson)),
    ("rows", .array (table.rows.map fun row => .array (row.map cellJson)))]

mutual

/-- A block as JSON. -/
def Block.json : Block → Json
  | .heading level content =>
      .object [("kind", .string "Heading"), ("level", .number level),
        ("content", .array (Inline.jsonAll content))]
  | .paragraph content =>
      .object [("kind", .string "Paragraph"), ("content", .array (Inline.jsonAll content))]
  | .codeBlock info literal =>
      .object [("kind", .string "CodeBlock"), ("info", .string info), ("literal", .string literal)]
  | .list ordered items =>
      .object [("kind", .string "List"), ("ordered", .bool ordered),
        ("items", .array (Block.jsonItems items))]
  | .blockQuote children =>
      .object [("kind", .string "BlockQuote"), ("children", .array (Block.jsonAll children))]
  | .table t => .object (("kind", .string "Table") :: t.members)
  | .other name children =>
      .object [("kind", .string "Other"), ("name", .string name),
        ("children", .array (Block.jsonAll children))]

/-- The items of a run of blocks. -/
def Block.jsonAll : List Block → List Json
  | [] => []
  | b :: bs => Block.json b :: Block.jsonAll bs

/-- The items of a list, each an object with its blocks. -/
def Block.jsonItems : List (List Block) → List Json
  | [] => []
  | item :: items =>
      .object [("children", .array (Block.jsonAll item))] :: Block.jsonItems items

end

/-- A document as JSON. -/
def Document.json (doc : Document) : Json :=
  .object [("children", .array (Block.jsonAll doc.children))]

end Markup
end DocTree
