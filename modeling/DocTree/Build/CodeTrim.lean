import DocTree.Build.Options
import DocTree.Text.Blank

/-!
# Trimming the tail of a code block

The reference mode counts the trailing spaces and removes one character more.  The code that a
Markdown grammar hands over ends in a newline, and then that newline is all that goes.
-/

namespace DocTree
namespace Build

/-- Length of the run of spaces that ends a text. -/
def trailingSpaces (chars : List Char) : Nat :=
  (chars.reverse.takeWhile (· == ' ')).length

/-- A text without its trailing spaces and without the character before them. -/
def dropSpacesAndOne (chars : List Char) : List Char :=
  chars.take (chars.length - (trailingSpaces chars + 1))

/-- Trim the tail of a code block's content. -/
def trimCode (mode : CodeTrim) (code : String) : String :=
  match mode with
  | .reference => String.ofList (dropSpacesAndOne code.toList)
  | .trailingWhitespace => String.ofList (Text.trimEnd code.toList)

end Build
end DocTree
