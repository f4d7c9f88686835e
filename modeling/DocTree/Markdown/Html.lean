import DocTree.Markdown.Chars
import DocTree.Text.Split

/-!
# HTML in a document

Tags, comments, instructions and declarations are recognized by their outer form only.  A scanner
reads behind the angle bracket that opens the construct and gives the rest of the text behind it.

**Unclosed constructs.**  A comment, character data, a declaration or an instruction that the text
does not close is no HTML, and the text is not searched for the end of another such construct.  An
unclosed comment stands against every construct with an exclamation mark.

A block of HTML starts in one of seven ways, and the way decides where it ends.
-/

namespace DocTree
namespace Markdown

open Text (after? isGap splitAt?)

/-- Read the name of a tag. -/
def tagName? : List Char → Option (List Char)
  | c :: rest =>
      if c.isAlpha then some (rest.dropWhile fun c => c.isAlphanum || c == '-') else none
  | [] => none

/-- Read the value of an attribute. -/
def attributeValue? : List Char → Option (List Char)
  | '"' :: rest => (splitAt? ['"'] rest).map Prod.snd
  | '\x27' :: rest => (splitAt? ['\x27'] rest).map Prod.snd
  | chars =>
      let delimiters := ['"', '\x27', '=', '<', '>', '\x60']
      let plain := fun c : Char => !isSeparator c && !delimiters.contains c
      if (chars.takeWhile plain).isEmpty then none else some (chars.dropWhile plain)

/-- Read an attribute behind the space before it; its value is optional. -/
def attribute? : List Char → Option (List Char)
  | c :: rest =>
      if c.isAlpha || c == '_' || c == ':' then
        let behindName :=
          rest.dropWhile fun c => c.isAlphanum || c == '_' || c == ':' || c == '.' || c == '-'
        match skipSeparators behindName with
        | '=' :: value => some ((attributeValue? (skipSeparators value)).getD behindName)
        | _ => some behindName
      else none
  | [] => none

/-- Read attributes and the end of an open tag; at most a number of attributes is read. -/
def tagEnd? : Nat → List Char → Option (List Char)
  | 0, _ => none
  | n + 1, chars =>
      match skipSeparators chars with
      | '>' :: rest => some rest
      | '/' :: '>' :: rest => some rest
      | next =>
          if next.length < chars.length then (attribute? next).bind (tagEnd? n) else none

/-- Read an open tag behind its angle bracket. -/
def openTag? (chars : List Char) : Option (List Char) :=
  (tagName? chars).bind (tagEnd? (chars.length + 1))

/-- Read a closing tag behind its angle bracket. -/
def closingTag? : List Char → Option (List Char)
  | '/' :: rest =>
      match (tagName? rest).map skipSeparators with
      | some ('>' :: behind) => some behind
      | _ => none
  | _ => none

/-- Read up to a closing angle bracket with a doubled character before it.  A doubled character goes
together with the one behind it, so a third one does not count as the second. -/
def behindDoubled? (mark : Char) : List Char → Option (List Char)
  | [] => none
  | c :: rest =>
      if c != mark then behindDoubled? mark rest
      else
        match rest with
        | [] => none
        | d :: more =>
            if d != mark then behindDoubled? mark more
            else
              match more with
              | [] => none
              | e :: behind => if e == '>' then some behind else behindDoubled? mark behind

/-- Read up to a question mark and a closing angle bracket; a question mark goes together with the
character behind it. -/
def behindInstruction? : List Char → Option (List Char)
  | [] => none
  | '?' :: '>' :: behind => some behind
  | '?' :: _ :: rest => behindInstruction? rest
  | _ :: rest => behindInstruction? rest

/-- A construct whose end may be missing. -/
inductive Construct
  | comment
  | characterData
  | declaration
  | instruction
deriving DecidableEq, Repr

/-- What stands behind an angle bracket. -/
inductive InlineHtml
  /-- A construct of HTML, and the text behind it. -/
  | complete (behind : List Char)
  /-- A construct that the text does not close. -/
  | unclosed (construct : Construct)
  /-- No HTML. -/
  | absent

/-- The result for a construct whose end has been looked for. -/
def InlineHtml.ofEnd (construct : Construct) (found : Option (List Char)) : InlineHtml :=
  found.elim (.unclosed construct) .complete

/-- Read behind an angle bracket, in a text in which some constructs were found unclosed. -/
def inlineHtml (given : List Construct) (chars : List Char) : InlineHtml :=
  match chars with
  | '!' :: rest =>
      if given.contains .comment then .absent
      else
        match rest with
        | '-' :: '-' :: '>' :: behind => .complete behind
        | '-' :: '-' :: '-' :: '>' :: behind => .complete behind
        | '-' :: '-' :: inner => .ofEnd .comment (behindDoubled? '-' inner)
        | '[' :: inner =>
            match after? "CDATA[".toList inner with
            | some data =>
                if given.contains .characterData then .absent
                else .ofEnd .characterData (behindDoubled? ']' data)
            | none => .absent
        | c :: inner =>
            if !c.isAlpha || given.contains .declaration then .absent
            else .ofEnd .declaration ((splitAt? ['>'] inner).map Prod.snd)
        | [] => .absent
  | '?' :: inner =>
      if given.contains .instruction then .absent
      else .ofEnd .instruction (behindInstruction? inner)
  | _ => ((closingTag? chars).or (openTag? chars)).elim .absent .complete

/-- How a block of HTML ends. -/
inductive HtmlEnd
  /-- With the line that closes one of the elements with raw content. -/
  | rawElement
  /-- With the line that holds a text. -/
  | mark (text : String)
  /-- Before the next blank line. -/
  | blankLine
deriving DecidableEq, Repr

/-- Elements with raw content. -/
def rawElements : List String :=
  ["script", "pre", "textarea", "style"]

/-- Elements that stand as blocks. -/
def blockElements : List String :=
  ["address", "article", "aside", "base", "basefont", "blockquote", "body", "caption", "center",
   "col", "colgroup", "dd", "details", "dialog", "dir", "div", "dl", "dt", "fieldset", "figcaption",
   "figure", "footer", "form", "frame", "frameset", "h1", "h2", "h3", "h4", "h5", "h6", "head",
   "header", "hr", "html", "iframe", "legend", "li", "link", "main", "menu", "menuitem", "nav",
   "noframes", "ol", "optgroup", "option", "p", "param", "search", "section", "summary", "table",
   "tbody", "td", "tfoot", "th", "thead", "title", "tr", "track", "ul"]

/-- The letters and digits at the front of a text, in lower case. -/
def leadingName (chars : List Char) : String :=
  String.ofList ((chars.takeWhile Char.isAlphanum).map Char.toLower)

/-- Whether a text ends or goes on with a separator or a closing angle bracket. -/
def endsName : List Char → Bool
  | [] => true
  | c :: _ => isSeparator c || c == '>'

/-- Whether the text behind an angle bracket names a block element in a tag. -/
def startsBlockElement (chars : List Char) : Bool :=
  let inner := match chars with
    | '/' :: rest => rest
    | _ => chars
  let behind := inner.dropWhile Char.isAlphanum
  blockElements.contains (leadingName inner) &&
    (endsName behind || (after? "/>".toList behind).isSome)

/-- How the block of HTML that starts with a line ends, if one starts there.  A complete tag of
another element on a line of its own starts one too, but not inside a paragraph. -/
def htmlStart? (inParagraph : Bool) (line : List Char) : Option HtmlEnd :=
  match line with
  | '<' :: rest =>
      if rawElements.contains (leadingName rest) && endsName (rest.dropWhile Char.isAlphanum) then
        some .rawElement
      else if (after? "!--".toList rest).isSome then some (.mark "-->")
      else if (after? "?".toList rest).isSome then some (.mark "?>")
      else if (after? "![cdata[".toList (rest.map Char.toLower)).isSome then some (.mark "]]>")
      else if (match rest with | '!' :: c :: _ => c.isAlpha | _ => false) then some (.mark ">")
      else if startsBlockElement rest then some .blankLine
      else if inParagraph then none
      else
        match (closingTag? rest).or (openTag? rest) with
        | some behind =>
            if behind.all fun c => isGap c || c == '\x0c' then some .blankLine else none
        | none => none
  | _ => none

/-- Whether a line ends a block of HTML, the line being part of the block. -/
def htmlEndsIn (ending : HtmlEnd) (line : List Char) : Bool :=
  match ending with
  | .rawElement =>
      rawElements.any fun name =>
        (splitAt? ("</" ++ name ++ ">").toList (line.map Char.toLower)).isSome
  | .mark text => (splitAt? text.toList line).isSome
  | .blankLine => false

end Markdown
end DocTree
