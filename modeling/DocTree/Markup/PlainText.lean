import DocTree.Markup.Basic

/-!
# Plain text of inlines

The plain text of an inline is its content without markup.  Links and images contribute the text
of their children; a strikethrough keeps one delimiter on each side, because its plain text is the
raw text of the span.
-/

namespace DocTree
namespace Markup

/-- The character that delimits a strikethrough in plain text. -/
def strikethroughDelimiter : Char := '~'

mutual

/-- Plain text of one inline. -/
def Inline.plainText : Inline → String
  | .text s => s
  | .strong children => Inline.plainTextAll children
  | .emphasis children => Inline.plainTextAll children
  | .strikethrough children =>
      strikethroughDelimiter.toString ++ Inline.plainTextAll children ++
        strikethroughDelimiter.toString
  | .code literal => literal
  | .link _ _ children => Inline.plainTextAll children
  | .image _ _ children => Inline.plainTextAll children
  | .other _ s => s

/-- Plain text of a run of inlines: the texts one after the other. -/
def Inline.plainTextAll : List Inline → String
  | [] => ""
  | x :: xs => Inline.plainText x ++ Inline.plainTextAll xs

end

end Markup
end DocTree
