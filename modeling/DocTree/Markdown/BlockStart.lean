import DocTree.Markdown.Cursor
import DocTree.Markdown.Html

/-!
# How blocks start

Each line may start blocks, one inside the other.  `blockStart?` tells which block starts at a place
of a line.  The order of the tests is that of `BlockStart`: the first construct that fits is taken.

A line that is indented by four columns starts nothing but indented code, and not even that where a
paragraph could go on.
-/

namespace DocTree
namespace Markdown

open Text (isGap)

/-- What the items of one list have in common. -/
structure Marker where
  ordered : Bool
  /-- The bullet, or the character behind the number. -/
  mark : Char
deriving DecidableEq, Repr

/-- The line that opens fenced code. -/
structure Fence where
  mark : Char
  length : Nat
  /-- Number of characters before the fence, as many columns of which the lines of the code may have
  too. -/
  indent : Nat
deriving DecidableEq, Repr

/-- A block that starts in a line. -/
inductive BlockStart
  /-- A quotation, and the place behind its mark. -/
  | quote (behind : Cursor)
  | heading (level : Nat) (text : List Char)
  | fence (fence : Fence) (info : List Char)
  /-- HTML, and its first line, which may end it. -/
  | html (ending : HtmlEnd) (text : List Char)
  /-- The line below a paragraph that makes it a heading. -/
  | underline (level : Nat)
  | thematicBreak
  /-- An item, the indentation of what belongs to it, and the place where its content starts. -/
  | item (marker : Marker) (width : Nat) (behind : Cursor)
  /-- Indented code, and the place behind the indentation. -/
  | code (behind : Cursor)
deriving Repr

/-- What surrounds the place where a block may start. -/
structure Surroundings where
  /-- Whether the place is in a paragraph that goes on. -/
  inParagraph : Bool
  /-- Whether a paragraph is open that the line could still belong to. -/
  mayContinue : Bool
  /-- Number of blocks that may start in the line before and with this one. -/
  depth : Nat

/-! ## Headings, fences and breaks -/

/-- A heading's text without the number signs that close it. -/
def chopClosing (text : List Char) : List Char :=
  let shown := trimRight text
  let signs := (shown.reverse.takeWhile (· == '#')).length
  let before := shown.take (shown.length - signs)
  if signs == 0 then shown
  else
    match before.getLast? with
    | none => []
    | some c => if isGap c then trimRight before else shown

/-- Read a heading that starts with number signs. -/
def numberSignHeading? (text : List Char) : Option BlockStart :=
  let signs := (text.takeWhile (· == '#')).length
  let rest := text.drop signs
  let separated := match rest with
    | [] => true
    | c :: _ => isGap c
  if 1 ≤ signs && signs ≤ 6 && separated then
    some (.heading signs (chopClosing (rest.dropWhile isGap)))
  else none

/-- Read the line that opens fenced code. -/
def fenceStart? (indent : Nat) (text : List Char) : Option BlockStart :=
  match text with
  | [] => none
  | c :: _ =>
      let length := (text.takeWhile (· == c)).length
      let info := text.drop length
      if (c == '~' || (c == '\x60' && !info.contains '\x60')) && 3 ≤ length then
        some (.fence ⟨c, length, indent⟩ info)
      else none

/-- Whether a line closes fenced code. -/
def Fence.isClosedBy (fence : Fence) (line : Cursor) : Bool :=
  let length := (line.text.takeWhile (· == fence.mark)).length
  line.indent ≤ 3 && 3 ≤ length && fence.length ≤ length && (line.text.drop length).all isGap

/-- Read the line that makes the paragraph above it a heading. -/
def underline? (text : List Char) : Option BlockStart :=
  let level := fun (mark : Char) => (text.dropWhile (· == mark)).all isGap
  match text with
  | '=' :: _ => if level '=' then some (.underline 1) else none
  | '-' :: _ => if level '-' then some (.underline 2) else none
  | _ => none

/-- Whether a line is a thematic break. -/
def isThematicBreak (text : List Char) : Bool :=
  match text with
  | [] => false
  | c :: _ =>
      ['*', '-', '_'].contains c && 3 ≤ text.count c && text.all fun d => d == c || isGap d

/-! ## Items -/

/-- Read the marker of an item: the marker, its number if it has one, and its length. -/
def marker? (text : List Char) : Option (Marker × Option Nat × Nat) :=
  match text with
  | [] => none
  | c :: _ =>
      if c == '*' || c == '-' || c == '+' then some (⟨false, c⟩, none, 1)
      else
        let digits := (text.takeWhile Char.isDigit).take 9
        match digits.isEmpty, text.drop digits.length with
        | false, d :: _ =>
            if d == '.' || d == ')' then
              let number := digits.foldl (fun n digit => 10 * n + (digit.toNat - 48)) 0
              some (⟨true, d⟩, some number, digits.length + 1)
            else none
        | _, _ => none

/-- Read the start of an item.  In a paragraph an item must not be empty, and a numbered one must
have the number one. -/
def itemStart? (inParagraph : Bool) (line : Cursor) : Option BlockStart :=
  (marker? line.text).bind fun (marker, number, length) =>
    let behind := line.skipMarker length
    let separated := match behind.rest with
      | [] => true
      | c :: _ => isSpace c
    let interrupts := !behind.isBlank && number.getD 1 == 1
    if !separated || (inParagraph && !interrupts) then none
    else if behind.isBlank || behind.indent == 0 || 5 ≤ behind.indent then
      some (.item marker (line.indent + length + 1) behind.skipIndent)
    else
      some (.item marker (line.indent + length + behind.indent) (behind.skip behind.indent))

/-! ## All starts -/

/-- Number of blocks in a line from which on none is an item. -/
def depthLimit : Nat := 100

/-- The block that starts at a place of a line that is not indented. -/
def shallowStart? (around : Surroundings) (line : Cursor) : Option BlockStart :=
  let text := line.text
  let quote := if text.head? == some '>' then
      some (.quote (line.skipMarker 1).skipIndent)
    else none
  quote <|> numberSignHeading? text <|> fenceStart? line.indentLength text <|>
    (htmlStart? around.inParagraph text).map (.html · text) <|>
    (if around.inParagraph then underline? text else none) <|>
    (if isThematicBreak text then some .thematicBreak else none) <|>
    (if around.depth < depthLimit then itemStart? around.inParagraph line else none)

/-- The block that starts at a place of a line. -/
def blockStart? (around : Surroundings) (line : Cursor) : Option BlockStart :=
  if !line.isDeep then shallowStart? around line
  else if around.mayContinue || line.isBlank then none
  else some (.code (line.skip 4))

end Markdown
end DocTree
