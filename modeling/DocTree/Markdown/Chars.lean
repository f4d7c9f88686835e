import DocTree.Text.Blank

/-!
# Character classes of the grammar

The grammar classifies ASCII characters only; every other character is ordinary.  Texts are lists of
characters here, because the grammar reads them from front to back.
-/

namespace DocTree
namespace Markdown

/-- A space, a tab, or a character of a line end.  These stand around texts and are trimmed. -/
def isSpace (c : Char) : Bool :=
  c == ' ' || c == '\t' || c == '\n' || c == '\r'

/-- One of the six ASCII characters that separate the parts of a tag or of a link. -/
def isSeparator (c : Char) : Bool :=
  c == ' ' || (9 ≤ c.toNat && c.toNat ≤ 13)

/-- A control character. -/
def isControl (c : Char) : Bool :=
  c.toNat < 32 || c.toNat == 127

/-- An ASCII punctuation character, which a backslash may escape. -/
def isEscapable (c : Char) : Bool :=
  (33 ≤ c.toNat && c.toNat ≤ 47) || (58 ≤ c.toNat && c.toNat ≤ 64) ||
    (91 ≤ c.toNat && c.toNat ≤ 96) || (123 ≤ c.toNat && c.toNat ≤ 126)

/-- A text without the separators at its front. -/
def skipSeparators (chars : List Char) : List Char :=
  chars.dropWhile isSeparator

/-- A text without the spaces at its front. -/
def trimLeft (chars : List Char) : List Char :=
  chars.dropWhile isSpace

/-- A text without the spaces at its end. -/
def trimRight (chars : List Char) : List Char :=
  (chars.reverse.dropWhile isSpace).reverse

/-- A text without the spaces at either end. -/
def trimBoth (chars : List Char) : List Char :=
  trimRight (trimLeft chars)

/-- What was read of a text when a given rest is left. -/
def readPart (whole rest : List Char) : List Char :=
  whole.take (whole.length - rest.length)

/-- A text with every backslash before a punctuation character left out. -/
def unescape : List Char → List Char
  | '\\' :: c :: rest =>
      if isEscapable c then c :: unescape rest else '\\' :: unescape (c :: rest)
  | c :: rest => c :: unescape rest
  | [] => []

end Markdown
end DocTree
