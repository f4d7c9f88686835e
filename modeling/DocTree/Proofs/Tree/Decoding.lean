import DocTree.Format.Basic
import DocTree.Proofs.Markup.Decoding

/-!
# Decoding conversions

A conversion is recovered from its JSON text.  Where nodes of several kinds may stand, the member
`kind` tells them apart; the paragraph and the sublists of an item and the cells of a table are
objects without a kind.  A diagnostic is told by its member `policy`, and the member `kind` next to
it is a name that may be any text.

The tree may be any tree: the flat cells of a table are decoded on their own, so they come back
even where they differ from the body.

**Result.**
* `read_jsonFormat`: the text of a conversion gives back the conversion, so two conversions have the
  same text exactly if they are equal.
-/

namespace DocTree
namespace Tree

section Leaves

def NodeId.of? (members : List (String × Json)) : Option NodeId :=
  (Json.member? Json.asNumber? "id" members).map NodeId.mk

def Style.ofName? (name : String) : Option Style :=
  if name = "Text" then some .text
  else if name = "Strong" then some .strong
  else if name = "Italic" then some .italic
  else if name = "InlineCode" then some .inlineCode
  else if name = "Strikethrough" then some .strikethrough
  else none

def ListType.ofJson? : Json → Option ListType
  | .string name =>
      if name = "Ordered" then some .ordered
      else if name = "Unordered" then some .unordered
      else none
  | _ => none

def Inline.ofJson? : Json → Option Inline
  | .object members => do
      let kind ← Json.member? Json.asText? "kind" members
      let id ← NodeId.of? members
      let text ← Json.member? Json.asText? "text" members
      if kind = "Link" then
        return .link id text (← Json.member? Json.asOptionalText? "destination" members)
      else if kind = "Image" then
        return .image id text (← Json.member? Json.asOptionalText? "source" members)
      else return .span (← Style.ofName? kind) id text
  | _ => none

def Paragraph.ofMembers? (members : List (String × Json)) : Option Paragraph := do
  return {
    id := ← NodeId.of? members
    children := ← Json.member? (Json.asArray? Inline.ofJson?) "children" members }

def Paragraph.ofJson? : Json → Option Paragraph
  | .object members => Paragraph.ofMembers? members
  | _ => none

def Table.ofMembers? (members : List (String × Json)) : Option Table := do
  return {
    id := ← NodeId.of? members
    alignments := ←
      Json.member? (Json.asArray? Markup.Alignment.ofJson?) "alignments" members
    headers := ← Json.member? (Json.asArray? Paragraph.ofJson?) "headers" members
    body := ← Json.member? (Json.asArray? (Json.asArray? Paragraph.ofJson?)) "body" members
    cells := ← Json.member? (Json.asArray? Paragraph.ofJson?) "children" members }

end Leaves

section Decoders

/-- A list with given entries. -/
def ListNode.ofMembers?
    (members : List (String × Json))
    (entries : List ListEntry) : Option ListNode := do
  return .mk (← NodeId.of? members) (← Json.member? ListType.ofJson? "list_type" members)
    (← Json.member? Json.asNumber? "depth" members) entries

mutual

def ListEntry.ofJson? : Json → Option ListEntry
  | .object members => do
      let kind ← Json.member? Json.asText? "kind" members
      if kind = "Item" then
        return .item (← NodeId.of? members)
          (← Json.member? Paragraph.ofJson? "paragraph" members) (← ListNode.below? members)
      else if kind = "List" then
        return .sublist (← ListNode.ofMembers? members (← ListEntry.below? members))
      else none
  | _ => none

/-- The entries below a list. -/
def ListEntry.below? : List (String × Json) → Option (List ListEntry)
  | [] => none
  | (key, value) :: members =>
      if key = "children" then ListEntry.run? value else ListEntry.below? members

def ListEntry.run? : Json → Option (List ListEntry)
  | .array items => ListEntry.all? items
  | _ => none

def ListEntry.all? : List Json → Option (List ListEntry)
  | [] => some []
  | item :: items => do
      return (← ListEntry.ofJson? item) :: (← ListEntry.all? items)

def ListNode.ofJson? : Json → Option ListNode
  | .object members => do
      ListNode.ofMembers? members (← ListEntry.below? members)
  | _ => none

/-- The sublists below an item. -/
def ListNode.below? : List (String × Json) → Option (List ListNode)
  | [] => none
  | (key, value) :: members =>
      if key = "children" then ListNode.run? value else ListNode.below? members

def ListNode.run? : Json → Option (List ListNode)
  | .array items => ListNode.all? items
  | _ => none

def ListNode.all? : List Json → Option (List ListNode)
  | [] => some []
  | item :: items => do
      return (← ListNode.ofJson? item) :: (← ListNode.all? items)

end

mutual

def Block.ofJson? : Json → Option Block
  | .object members => do
      let kind ← Json.member? Json.asText? "kind" members
      if kind = "Heading" then
        return .heading (← NodeId.of? members) (← Json.member? Json.asNumber? "level" members)
          (← Json.member? Json.asText? "text" members)
      else if kind = "Paragraph" then return .paragraph (← Paragraph.ofMembers? members)
      else if kind = "CodeBlock" then
        return .codeBlock (← NodeId.of? members)
          (← Json.member? Json.asOptionalText? "language" members)
          (← Json.member? Json.asText? "code" members)
      else if kind = "List" then
        return .list (← ListNode.ofMembers? members (← ListEntry.below? members))
      else if kind = "Table" then return .table (← Table.ofMembers? members)
      else if kind = "BlockQuote" then
        return .blockQuote (← NodeId.of? members) (← Block.below? members)
      else none
  | _ => none

/-- The blocks below a block quote or the root. -/
def Block.below? : List (String × Json) → Option (List Block)
  | [] => none
  | (key, value) :: members =>
      if key = "children" then Block.run? value else Block.below? members

def Block.run? : Json → Option (List Block)
  | .array items => Block.all? items
  | _ => none

def Block.all? : List Json → Option (List Block)
  | [] => some []
  | item :: items => do
      return (← Block.ofJson? item) :: (← Block.all? items)

end

def Root.ofJson? : Json → Option Root
  | .object members => do
      return { id := ← NodeId.of? members, children := ← Block.below? members }
  | _ => none

end Decoders

section Inverses

@[simp] theorem NodeId.of?_self
    (id : NodeId)
    (members : List (String × Json)) :
    NodeId.of? (("id", .number id.index) :: members) = some id := by
  simp [NodeId.of?, Json.asNumber?]

@[simp] theorem NodeId.of?_of_ne
    {key : String}
    (h : "id" ≠ key)
    (value : Json)
    (members : List (String × Json)) :
    NodeId.of? ((key, value) :: members) = NodeId.of? members := by
  rw [NodeId.of?, Json.member?_of_ne _ h, NodeId.of?]

theorem Inline.ofJson?_json (inline : Inline) :
    Inline.ofJson? inline.json = some inline := by
  cases inline with
  | span style id s =>
      cases style <;> rfl
  | link id s destination =>
      cases destination <;> rfl
  | image id s source =>
      cases source <;> rfl

theorem Paragraph.ofJson?_json (paragraph : Paragraph) :
    Paragraph.ofJson? paragraph.json = some paragraph := by
  have hchildren := Json.asArray?_map Inline.ofJson?_json paragraph.children
  simp [Paragraph.json, Paragraph.members, Paragraph.ofJson?, Paragraph.ofMembers?,
    NodeId.member, hchildren]

theorem ListType.ofJson?_name (type : ListType) :
    ListType.ofJson? (.string type.name) = some type := by
  cases type <;> rfl

mutual

theorem ListEntry.ofJson?_json :
    ∀ entry : ListEntry, ListEntry.ofJson? entry.json = some entry
  | .item _ paragraph sublists => by
      have hlead := Paragraph.ofJson?_json paragraph
      have hbelow := ListNode.run?_jsonAll sublists
      simp [ListEntry.json, ListEntry.isItem, ListEntry.members, tagged, ListEntry.ofJson?,
        Json.asText?, NodeId.member, ListNode.below?, hlead, hbelow]
  | .sublist (.mk _ type _ entries) => by
      have htype := ListType.ofJson?_name type
      have hbelow := ListEntry.run?_jsonAll entries
      simp [ListEntry.json, ListEntry.isItem, ListEntry.members, ListNode.members, tagged,
        ListEntry.ofJson?, ListNode.ofMembers?, Json.asText?, Json.asNumber?, NodeId.member,
        ListEntry.below?, htype, hbelow]

theorem ListEntry.run?_jsonAll :
    ∀ entries : List ListEntry,
      ListEntry.run? (.array (ListEntry.jsonAll entries)) = some entries
  | [] => rfl
  | entry :: entries => by
      have hfirst := ListEntry.ofJson?_json entry
      have hrest := ListEntry.run?_jsonAll entries
      rw [ListEntry.run?] at hrest
      rw [ListEntry.json] at hfirst
      simp [ListEntry.jsonAll, ListEntry.run?, ListEntry.all?, hfirst, hrest]

theorem ListNode.run?_jsonAll :
    ∀ lists : List ListNode, ListNode.run? (.array (ListNode.jsonAll lists)) = some lists
  | [] => rfl
  | .mk _ type _ entries :: lists => by
      have htype := ListType.ofJson?_name type
      have hbelow := ListEntry.run?_jsonAll entries
      have hrest := ListNode.run?_jsonAll lists
      rw [ListNode.run?] at hrest
      simp [ListNode.jsonAll, ListNode.members, ListNode.run?, ListNode.all?, ListNode.ofJson?,
        ListNode.ofMembers?, Json.asNumber?, NodeId.member, ListEntry.below?, htype, hbelow, hrest]

end

mutual

theorem Block.ofJson?_json :
    ∀ b : Block, Block.ofJson? b.json = some b
  | .heading _ _ _ => rfl
  | .paragraph p => by
      have hchildren := Json.asArray?_map Inline.ofJson?_json p.children
      simp [Block.json, Block.kind, NodeKind.name, Block.members, Paragraph.members, tagged,
        Block.ofJson?, Paragraph.ofMembers?, Json.asText?, NodeId.member, hchildren]
  | .codeBlock _ language _ => by
      cases language <;> rfl
  | .list (.mk _ type _ entries) => by
      have htype := ListType.ofJson?_name type
      have hbelow := ListEntry.run?_jsonAll entries
      simp [Block.json, Block.kind, NodeKind.name, Block.members, ListNode.members, tagged,
        Block.ofJson?, ListNode.ofMembers?, Json.asText?, Json.asNumber?, NodeId.member,
        ListEntry.below?, htype, hbelow]
  | .table t => by
      have halignments := Json.asArray?_map Markup.Alignment.ofJson?_name t.alignments
      have hheaders := Json.asArray?_map Paragraph.ofJson?_json t.headers
      have hbody := Json.asArray?_map (Json.asArray?_map Paragraph.ofJson?_json) t.body
      have hcells := Json.asArray?_map Paragraph.ofJson?_json t.cells
      simp [Block.json, Block.kind, NodeKind.name, Block.members, Table.members, tagged,
        Block.ofJson?, Table.ofMembers?, Json.asText?, NodeId.member, Markup.Alignment.listJson,
        halignments, hheaders, hbody, hcells]
  | .blockQuote _ children => by
      have hbelow := Block.run?_jsonAll children
      simp [Block.json, Block.kind, NodeKind.name, Block.members, tagged, Block.ofJson?,
        Json.asText?, NodeId.member, Block.below?, hbelow]

theorem Block.run?_jsonAll :
    ∀ bs : List Block, Block.run? (.array (Block.jsonAll bs)) = some bs
  | [] => rfl
  | b :: bs => by
      have hfirst := Block.ofJson?_json b
      have hrest := Block.run?_jsonAll bs
      rw [Block.run?] at hrest
      rw [Block.json] at hfirst
      simp [Block.jsonAll, Block.run?, Block.all?, hfirst, hrest]

end

theorem Root.ofJson?_json (root : Root) :
    Root.ofJson? root.json = some root := by
  have hbelow := Block.run?_jsonAll root.children
  simp [Root.json, Root.ofJson?, NodeId.member, Block.below?, hbelow]

end Inverses

end Tree

namespace Build

open Format (jsonFormat)

section Conversions

def Diagnostic.ofJson? : Json → Option Diagnostic
  | .object members => do
      let policy ← Json.member? Json.asText? "policy" members
      let kind ← Json.member? Json.asText? "kind" members
      if policy = "BlockFallthrough" then return .blockFallthrough kind
      else if policy = "InlineDrop" then return .inlineDrop kind
      else if policy = "ListChildDrop" then
        return .listChildDrop kind (← Json.member? Json.asNumber? "depth" members)
      else none
  | _ => none

def Conversion.ofJson? : Json → Option Conversion
  | .object members => do
      return {
        root := ← Json.member? Tree.Root.ofJson? "root" members
        diagnostics := ← Json.member? (Json.asArray? Diagnostic.ofJson?) "diagnostics" members }
  | _ => none

/-- Read a conversion from its JSON text. -/
def Conversion.read (text : String) : Option Conversion :=
  (Json.read text).bind Conversion.ofJson?

theorem Diagnostic.ofJson?_json (diagnostic : Diagnostic) :
    Diagnostic.ofJson? diagnostic.json = some diagnostic := by
  cases diagnostic <;> rfl

theorem Conversion.ofJson?_json (conversion : Conversion) :
    Conversion.ofJson? conversion.json = some conversion := by
  have hroot := Tree.Root.ofJson?_json conversion.root
  have hdiagnostics := Json.asArray?_map Diagnostic.ofJson?_json conversion.diagnostics
  simp [Conversion.json, Conversion.ofJson?, hroot, hdiagnostics]

theorem Conversion.read_dump (conversion : Conversion) :
    Conversion.read (Format.dump conversion) = some conversion := by
  rw [Conversion.read, Format.dump, Json.read_pretty, Option.bind_some, Conversion.ofJson?_json]

end Conversions

/-- **Round trip of a conversion.**  The JSON format serializes every conversion.  The text gives
back the conversion, so two conversions have the same text exactly if they are equal. -/
theorem read_jsonFormat (conversion : Conversion) :
    ∃ text,
      jsonFormat.serialize conversion = .ok text ∧
      Conversion.read text = some conversion ∧
      ∀ conversion' : Conversion,
        jsonFormat.serialize conversion' = .ok text ↔ conversion' = conversion := by
  refine ⟨Format.dump conversion, rfl, Conversion.read_dump conversion, ?_⟩
  intro conversion'
  have htext := Json.text_eq_iff Conversion.ofJson?_json conversion' conversion
  constructor
  · intro h
    exact htext.mp (Except.ok.inj h)
  · rintro rfl
    rfl

end Build
end DocTree
