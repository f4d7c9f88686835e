/-!
# Icons

Each kind of node is drawn with one character of its own; a name that is no kind has a circle.  The
rows of a table are drawn too, although they are no nodes.
-/

namespace DocTree
namespace Format

/-- Icons by name of kind. -/
def icons : List (String × String) :=
  [("Root", "⧉"), ("Heading", "§"), ("Paragraph", "¶"), ("Text", "◦"), ("Strong", "𝐁"),
   ("Italic", "𝐼"), ("InlineCode", "ƒ"), ("Strikethrough", "∼"), ("Link", "⊕"), ("Image", "▣"),
   ("CodeBlock", "𝒱"), ("List", "☰"), ("ListItem", "•"), ("Table", "▦"), ("TableRow", "▭"),
   ("BlockQuote", "❝")]

/-- The icon of a kind, given by name. -/
def icon (name : String) : String :=
  (icons.lookup name).getD "○"

end Format
end DocTree
