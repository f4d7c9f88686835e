import DocTree.Inspect.Transform
import DocTree.Proofs.Json.Members
import DocTree.Proofs.Json.Reading

/-!
# Decoding parsed documents

A parsed document is recovered from its JSON text.  The decoders follow the shape that is written:
a block or an inline is told by its member `kind`, the parts of a list or of a table stand next to
it, and items and cells are objects without a kind.

**Result.**
* `read_documentJson`: the text of a document gives back the document, so two documents have the
  same text exactly if they are equal.
-/

namespace DocTree
namespace Markup

section Decoders

def Alignment.ofName? (name : String) : Option Alignment :=
  if name = "None" then some .none
  else if name = "Left" then some .left
  else if name = "Center" then some .center
  else if name = "Right" then some .right
  else none

def Alignment.ofJson? : Json → Option Alignment
  | .string name => Alignment.ofName? name
  | _ => none

mutual

def Inline.ofJson? : Json → Option Inline
  | .object members => do
      let kind ← Json.member? Json.asText? "kind" members
      if kind = "Text" then return .text (← Json.member? Json.asText? "text" members)
      else if kind = "Strong" then return .strong (← Inline.below? members)
      else if kind = "Emphasis" then return .emphasis (← Inline.below? members)
      else if kind = "Strikethrough" then return .strikethrough (← Inline.below? members)
      else if kind = "Code" then return .code (← Json.member? Json.asText? "literal" members)
      else if kind = "Link" then
        return .link (← Json.member? Json.asOptionalText? "destination" members)
          (← Json.member? Json.asOptionalText? "title" members) (← Inline.below? members)
      else if kind = "Image" then
        return .image (← Json.member? Json.asOptionalText? "source" members)
          (← Json.member? Json.asOptionalText? "title" members) (← Inline.below? members)
      else if kind = "Other" then
        return .other (← Json.member? Json.asText? "name" members)
          (← Json.member? Json.asText? "text" members)
      else none
  | _ => none

/-- The inlines below an inline. -/
def Inline.below? : List (String × Json) → Option (List Inline)
  | [] => none
  | (key, value) :: members =>
      if key = "children" then Inline.run? value else Inline.below? members

def Inline.run? : Json → Option (List Inline)
  | .array items => Inline.all? items
  | _ => none

def Inline.all? : List Json → Option (List Inline)
  | [] => some []
  | item :: items => do
      return (← Inline.ofJson? item) :: (← Inline.all? items)

end

/-- The inlines of a heading, a paragraph or a cell. -/
def content? (members : List (String × Json)) : Option (List Inline) :=
  Json.member? Inline.run? "content" members

def cellOfJson? : Json → Option Cell
  | .object members => content? members
  | _ => none

def Table.ofMembers? (members : List (String × Json)) : Option Table := do
  return {
    alignments := ← Json.member? (Json.asArray? Alignment.ofJson?) "alignments" members
    head := ← Json.member? (Json.asArray? cellOfJson?) "head" members
    rows := ← Json.member? (Json.asArray? (Json.asArray? cellOfJson?)) "rows" members }

mutual

def Block.ofJson? : Json → Option Block
  | .object members => do
      let kind ← Json.member? Json.asText? "kind" members
      if kind = "Heading" then
        return .heading (← Json.member? Json.asNumber? "level" members) (← content? members)
      else if kind = "Paragraph" then return .paragraph (← content? members)
      else if kind = "CodeBlock" then
        return .codeBlock (← Json.member? Json.asText? "info" members)
          (← Json.member? Json.asText? "literal" members)
      else if kind = "List" then
        return .list (← Json.member? Json.asBool? "ordered" members) (← Block.itemsIn? members)
      else if kind = "BlockQuote" then return .blockQuote (← Block.below? members)
      else if kind = "Table" then return .table (← Table.ofMembers? members)
      else if kind = "Other" then
        return .other (← Json.member? Json.asText? "name" members) (← Block.below? members)
      else none
  | _ => none

/-- The blocks below a block or below an item. -/
def Block.below? : List (String × Json) → Option (List Block)
  | [] => none
  | (key, value) :: members =>
      if key = "children" then Block.run? value else Block.below? members

def Block.run? : Json → Option (List Block)
  | .array items => Block.all? items
  | _ => none

def Block.all? : List Json → Option (List Block)
  | [] => some []
  | item :: items => do
      return (← Block.ofJson? item) :: (← Block.all? items)

/-- The items of a list. -/
def Block.itemsIn? : List (String × Json) → Option (List (List Block))
  | [] => none
  | (key, value) :: members =>
      if key = "items" then Block.itemRun? value else Block.itemsIn? members

def Block.itemRun? : Json → Option (List (List Block))
  | .array items => Block.allItems? items
  | _ => none

def Block.allItems? : List Json → Option (List (List Block))
  | [] => some []
  | item :: items => do
      return (← Block.item? item) :: (← Block.allItems? items)

def Block.item? : Json → Option (List Block)
  | .object members => Block.below? members
  | _ => none

end

def Document.ofJson? : Json → Option Document
  | .object members => (Block.below? members).map Document.mk
  | _ => none

/-- Read a document from its JSON text. -/
def Document.read (text : String) : Option Document :=
  (Json.read text).bind Document.ofJson?

end Decoders

section Inverses

theorem Alignment.ofJson?_name (alignment : Alignment) :
    Alignment.ofJson? (.string alignment.name) = some alignment := by
  cases alignment <;> rfl

mutual

theorem Inline.ofJson?_json :
    ∀ x : Inline, Inline.ofJson? x.json = some x
  | .text _ => rfl
  | .strong xs => by
      have hbelow := Inline.run?_jsonAll xs
      simp [Inline.json, Inline.ofJson?, Json.asText?, Inline.below?, hbelow]
  | .emphasis xs => by
      have hbelow := Inline.run?_jsonAll xs
      simp [Inline.json, Inline.ofJson?, Json.asText?, Inline.below?, hbelow]
  | .strikethrough xs => by
      have hbelow := Inline.run?_jsonAll xs
      simp [Inline.json, Inline.ofJson?, Json.asText?, Inline.below?, hbelow]
  | .code _ => rfl
  | .link _ _ xs => by
      have hbelow := Inline.run?_jsonAll xs
      simp [Inline.json, Inline.ofJson?, Json.asText?, Inline.below?, hbelow]
  | .image _ _ xs => by
      have hbelow := Inline.run?_jsonAll xs
      simp [Inline.json, Inline.ofJson?, Json.asText?, Inline.below?, hbelow]
  | .other _ _ => rfl

theorem Inline.run?_jsonAll :
    ∀ xs : List Inline, Inline.run? (.array (Inline.jsonAll xs)) = some xs
  | [] => rfl
  | x :: xs => by
      have hfirst := Inline.ofJson?_json x
      have hrest := Inline.run?_jsonAll xs
      rw [Inline.run?] at hrest
      simp [Inline.jsonAll, Inline.run?, Inline.all?, hfirst, hrest]

end

theorem cellOfJson?_cellJson (cell : Cell) :
    cellOfJson? (cellJson cell) = some cell := by
  have hcontent := Inline.run?_jsonAll cell
  simp [cellJson, cellOfJson?, content?, hcontent]

theorem Table.ofMembers?_members (table : Table) :
    Table.ofMembers? table.members = some table := by
  have halignments := Json.asArray?_map Alignment.ofJson?_name table.alignments
  have hhead := Json.asArray?_map cellOfJson?_cellJson table.head
  have hrows := Json.asArray?_map (Json.asArray?_map cellOfJson?_cellJson) table.rows
  simp [Table.members, Table.ofMembers?, Alignment.listJson, halignments, hhead, hrows]

mutual

theorem Block.ofJson?_json :
    ∀ b : Block, Block.ofJson? b.json = some b
  | .heading _ content => by
      have hcontent := Inline.run?_jsonAll content
      simp [Block.json, Block.ofJson?, Json.asText?, Json.asNumber?, content?, hcontent]
  | .paragraph content => by
      have hcontent := Inline.run?_jsonAll content
      simp [Block.json, Block.ofJson?, Json.asText?, content?, hcontent]
  | .codeBlock _ _ => rfl
  | .list _ items => by
      have hitems := Block.itemRun?_jsonItems items
      simp [Block.json, Block.ofJson?, Json.asText?, Json.asBool?, Block.itemsIn?, hitems]
  | .blockQuote children => by
      have hbelow := Block.run?_jsonAll children
      simp [Block.json, Block.ofJson?, Json.asText?, Block.below?, hbelow]
  | .table t => by
      -- The kind stands before the members of the table, none of which has its key.
      have htable : Table.ofMembers? (("kind", .string "Table") :: t.members) = some t := by
        rw [← Table.ofMembers?_members t]
        simp [Table.ofMembers?]
      simp [Block.json, Block.ofJson?, Json.asText?, htable]
  | .other _ children => by
      have hbelow := Block.run?_jsonAll children
      simp [Block.json, Block.ofJson?, Json.asText?, Block.below?, hbelow]

theorem Block.run?_jsonAll :
    ∀ bs : List Block, Block.run? (.array (Block.jsonAll bs)) = some bs
  | [] => rfl
  | b :: bs => by
      have hfirst := Block.ofJson?_json b
      have hrest := Block.run?_jsonAll bs
      rw [Block.run?] at hrest
      simp [Block.jsonAll, Block.run?, Block.all?, hfirst, hrest]

theorem Block.itemRun?_jsonItems :
    ∀ items : List (List Block),
      Block.itemRun? (.array (Block.jsonItems items)) = some items
  | [] => rfl
  | item :: items => by
      have hfirst := Block.run?_jsonAll item
      have hrest := Block.itemRun?_jsonItems items
      rw [Block.itemRun?] at hrest
      simp [Block.jsonItems, Block.itemRun?, Block.allItems?, Block.item?, Block.below?, hfirst,
        hrest]

end

theorem Document.ofJson?_json (doc : Document) :
    Document.ofJson? doc.json = some doc := by
  have hbelow := Block.run?_jsonAll doc.children
  simp [Document.json, Document.ofJson?, Block.below?, hbelow]

theorem Document.read_pretty (doc : Document) :
    Document.read doc.json.pretty = some doc := by
  rw [Document.read, Json.read_pretty, Option.bind_some, Document.ofJson?_json]

end Inverses

open Inspect (Transform) in
/-- **Round trip of a document.**  Showing a parsed document as JSON always succeeds.  The text
gives back the document, so two documents have the same text exactly if they are equal. -/
theorem read_documentJson
    (params : Format.Params)
    (options : Build.Options)
    (doc : Document) :
    ∃ text,
      Transform.documentJson.output params options doc = .ok text ∧
      Document.read text = some doc ∧
      ∀ doc' : Document,
        Transform.documentJson.output params options doc' = .ok text ↔ doc' = doc := by
  refine ⟨doc.json.pretty, rfl, Document.read_pretty doc, ?_⟩
  intro doc'
  have htext := Json.text_eq_iff Document.ofJson?_json doc' doc
  constructor
  · intro h
    exact htext.mp (Except.ok.inj h)
  · rintro rfl
    rfl

end Markup
end DocTree
