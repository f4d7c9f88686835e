import DocTree.Markup.Basic

/-!
# Syntax trees of Markdown

A syntax tree is what a Markdown grammar produces: uniform nodes, each of a kind, with children.
The kinds cover the whole grammar with its extensions; most of them have no counterpart in a parsed
document.  A node of any kind may have any children.
-/

namespace DocTree
namespace Ast

/-- Kind of a syntax node, with the data that later stages read. -/
inductive Kind
  | document
  | frontMatter
  | blockQuote
  | multilineBlockQuote
  | list (ordered : Bool)
  | item
  | taskItem
  | descriptionList
  | descriptionItem
  | descriptionTerm
  | descriptionDetails
  | codeBlock (info literal : String)
  | htmlBlock
  | paragraph
  | heading (level : Nat)
  | thematicBreak
  | footnoteDefinition
  | table (alignments : List Markup.Alignment)
  | tableRow (header : Bool)
  | tableCell
  | text (text : String)
  | softBreak
  | lineBreak
  | code (literal : String)
  | htmlInline (html : String)
  | emph
  | strong
  | strikethrough
  | superscript
  | link (url title : String)
  | image (url title : String)
  | footnoteReference
  | math
  | wikiLink
  | underline
  | spoiler
  | escaped
  | escapedTag
  | shortCode
deriving DecidableEq, Repr, Inhabited

/-- Name of a kind. -/
def Kind.name : Kind → String
  | document => "document"
  | frontMatter => "frontmatter"
  | blockQuote => "block_quote"
  | multilineBlockQuote => "multiline_block_quote"
  | list _ => "list"
  | item => "item"
  | taskItem => "taskitem"
  | descriptionList => "description_list"
  | descriptionItem => "description_item"
  | descriptionTerm => "description_term"
  | descriptionDetails => "description_details"
  | codeBlock _ _ => "code_block"
  | htmlBlock => "html_block"
  | paragraph => "paragraph"
  | heading _ => "heading"
  | thematicBreak => "thematic_break"
  | footnoteDefinition => "footnote_definition"
  | table _ => "table"
  | tableRow _ => "table_row"
  | tableCell => "table_cell"
  | text _ => "text"
  | softBreak => "softbreak"
  | lineBreak => "linebreak"
  | code _ => "code"
  | htmlInline _ => "html_inline"
  | emph => "emph"
  | strong => "strong"
  | strikethrough => "strikethrough"
  | superscript => "superscript"
  | link _ _ => "link"
  | image _ _ => "image"
  | footnoteReference => "footnote_reference"
  | math => "math"
  | wikiLink => "wikilink"
  | underline => "underline"
  | spoiler => "spoiler"
  | escaped => "escaped"
  | escapedTag => "escaped_tag"
  | shortCode => "shortcode"

/-- A syntax node and its children in order. -/
inductive Node
  | mk (kind : Kind) (children : List Node)
deriving Repr, Inhabited

namespace Node

/-- Kind of a node. -/
def kind : Node → Kind
  | mk kind _ => kind

/-- Children of a node. -/
def children : Node → List Node
  | mk _ children => children

/-- A node without children. -/
def leaf (kind : Kind) : Node :=
  mk kind []

/-- A run of text. -/
def text (s : String) : Node :=
  leaf (.text s)

end Node

end Ast
end DocTree
