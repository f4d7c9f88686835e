import DocTree.Markdown.Autolink
import DocTree.Markdown.CodeSpan
import DocTree.Markdown.Emphasis
import DocTree.Markdown.Html
import DocTree.Markdown.Options

/-!
# The text of a paragraph

A text is cut into pieces from front to back.  A square bracket that opens is kept aside with the
pieces before it, until a bracket closes it: then the pieces between become the children of a link
or an image if a target follows, and else the bracket turns out to be text.

**Links hold no links.**  Once a link is closed, the brackets that opened before it open no links.

**References cost.**  What a label refers to is copied to each place that refers to it.  All copies
together are limited, so that a short text does not become a long document.

The pieces that are left at the end are resolved into nodes.
-/

namespace DocTree
namespace Markdown

open Text (isGap)
open Ast (Node)

/-- What the reading of a text depends on. -/
structure Scope where
  options : Options
  references : References
  /-- Number of bytes that all references together may bring into the document. -/
  budget : Nat

/-- A square bracket that is open. -/
structure Bracket where
  image : Bool
  /-- Whether another bracket opened behind this one. -/
  followed : Bool
  /-- The text behind the bracket. -/
  behind : List Char
  /-- The pieces before the bracket, newest first. -/
  before : List Piece

/-- What has been read of a text. -/
structure Reading where
  /-- The pieces behind the innermost open bracket, newest first. -/
  pieces : List Piece
  /-- The open brackets, innermost first. -/
  brackets : List Bracket
  /-- Whether the open brackets open no links any more. -/
  linksClosed : Bool
  /-- Whether the last bracket was one that opens. -/
  inBrackets : Bool
  /-- The constructs of HTML that were found unclosed. -/
  unclosed : List Construct
  /-- What the searches for the ends of code have seen. -/
  ticksSeen : TicksSeen
  /-- Number of bytes that references have brought into the document so far. -/
  spent : Nat

namespace Reading

/-- Nothing has been read of a text, before which references have brought a number of bytes. -/
def start (spent : Nat) : Reading where
  pieces := []
  brackets := []
  linksClosed := false
  inBrackets := false
  unclosed := []
  ticksSeen := .start
  spent := spent

/-- Add a piece. -/
def add (r : Reading) (piece : Piece) : Reading :=
  { r with pieces := piece :: r.pieces }

/-- Add text. -/
def addText (r : Reading) (s : String) : Reading :=
  r.add (.text s)

/-- Whether the last piece is a hard break. -/
def isBehindBreak (r : Reading) : Bool :=
  match r.pieces with
  | .node node :: _ => node.kind == .lineBreak
  | _ => false

/-- Add a link that shows a text. -/
def addLink (r : Reading) (url shown : String) : Reading :=
  r.add (.node (.mk (.link url "") [Node.text shown]))

/-- Take a text off the end of the last piece. -/
def dropLast (r : Reading) (n : Nat) : Reading :=
  match r.pieces with
  | .text s :: more =>
      let kept := s.toList.take (s.length - n)
      { r with pieces := if kept.isEmpty then more else .text (String.ofList kept) :: more }
  | _ => r

/-- Open a bracket before a text. -/
def openBracket (r : Reading) (image : Bool) (behind : List Char) : Reading :=
  let outer := match r.brackets with
    | [] => []
    | bracket :: more => { bracket with followed := true } :: more
  { r with
    pieces := []
    brackets := ⟨image, false, behind, r.pieces⟩ :: outer
    linksClosed := r.linksClosed && image
    inBrackets := true }

/-- Make the innermost bracket text. -/
def dropBracket (r : Reading) : Reading :=
  match r.brackets with
  | [] => r
  | bracket :: outer =>
      { r with
        pieces := r.pieces ++ .text (if bracket.image then "![" else "[") :: bracket.before
        brackets := outer }

/-- Make the pieces behind the innermost bracket a link or an image. -/
def closeBracket (r : Reading) (target : Target) : Reading :=
  match r.brackets with
  | [] => r
  | bracket :: outer =>
      let kind := if bracket.image then Ast.Kind.image target.url target.title
        else .link target.url target.title
      { r with
        pieces := .node (.mk kind (resolve r.pieces.reverse)) :: bracket.before
        brackets := outer
        linksClosed := r.linksClosed || !bracket.image }

/-- Pieces behind those before the outermost of some brackets, when all brackets are text. -/
def flatten (pieces : List Piece) : List Bracket → List Piece
  | [] => pieces
  | bracket :: outer =>
      flatten (pieces ++ .text (if bracket.image then "![" else "[") :: bracket.before) outer

/-- The nodes of a text that has been read. -/
def nodes (r : Reading) : List Node :=
  resolve (flatten r.pieces r.brackets).reverse

end Reading

/-! ## Runs of delimiters -/

/-- The first character that is no tilde, or a line end; with the extension for them, tildes do not
separate a run from the text. -/
def beyondTildes (skip : Bool) : List Char → Char
  | [] => '\n'
  | c :: rest => if skip && c == '~' then beyondTildes skip rest else c

/-- The run of a character between reversed text and text behind it. -/
def runBetween (skip : Bool) (mark : Char) (count : Nat) (before behind : List Char) : Run :=
  let left := beyondTildes skip before
  let right := beyondTildes skip behind
  let opens := !Text.isBlank right &&
    !(Text.isPunctuation right && !Text.isBlank left && !Text.isPunctuation left)
  let closes := !Text.isBlank left &&
    !(Text.isPunctuation left && !Text.isBlank right && !Text.isPunctuation right)
  { mark := mark, place := before.length, count := count, length := count
    canOpen := opens && (mark != '_' || !closes || Text.isPunctuation left)
    canClose := closes && (mark != '_' || !opens || Text.isPunctuation right) }

/-- Read a run of a character. -/
def readRun (scope : Scope) (r : Reading) (before : List Char) (mark : Char) (chars : List Char) :
    Reading × List Char :=
  let count := (chars.takeWhile (· == mark)).length
  let behind := chars.drop count
  let run := runBetween scope.options.strikethrough mark count before behind
  (if run.canOpen || run.canClose then r.add (.run run) else r.addText run.text, behind)

/-! ## Code, escapes and line ends -/

/-- Read code, or a run of backticks that opens none. -/
def readCode (r : Reading) (chars : List Char) : Reading × List Char :=
  let ticks := chars.takeWhile (· == '\x60')
  let behind := chars.drop ticks.length
  match r.ticksSeen.search ticks.length behind with
  | (found, seen) =>
      let r := { r with ticksSeen := seen }
      match found with
      | some (inner, rest) =>
          (r.add (.node (.leaf (.code (String.ofList (cleanCode inner))))), rest)
      | none => (r.addText (String.ofList ticks), behind)

/-- Read what stands behind a backslash. -/
def readEscape (r : Reading) (rest : List Char) : Reading × List Char :=
  match rest with
  | '\n' :: behind => (r.add (.node (.leaf .lineBreak)), behind)
  | c :: behind =>
      if isEscapable c then (r.addText (String.singleton c), behind) else (r.addText "\\", rest)
  | [] => (r.addText "\\", [])

/-- Read what stands behind the end of a line; two spaces before it make a hard break. -/
def readLineEnd (r : Reading) (before rest : List Char) : Reading × List Char :=
  let kind := match before with
    | ' ' :: ' ' :: _ => Ast.Kind.lineBreak
    | _ => .softBreak
  (r.add (.node (.leaf kind)), rest.dropWhile isGap)

/-! ## Angle and square brackets -/

/-- Read what stands behind an angle bracket. -/
def readAngle (r : Reading) (rest : List Char) : Reading × List Char :=
  match angledLink? rest with
  | some found => (r.addLink found.url found.shown, found.rest)
  | none =>
      match inlineHtml r.unclosed rest with
      | .complete behind =>
          let html := String.ofList ('<' :: readPart rest behind)
          (r.add (.node (.leaf (.htmlInline html))), behind)
      | .unclosed construct =>
          (({ r with unclosed := construct :: r.unclosed } : Reading).addText "<", rest)
      | .absent => (r.addText "<", rest)

/-- The target to which a closed bracket refers by a label, and the rest of the text behind it. -/
def referredTarget? (scope : Scope) (bracket : Bracket) (rest : List Char) :
    Option (Target × List Char) :=
  let own := readPart bracket.behind (']' :: rest)
  let ownTarget := if bracket.followed then none else scope.references.find? own
  match label? rest with
  | some (label, behind) =>
      (if label.isEmpty then ownTarget else scope.references.find? label).map
        fun target => (target, behind)
  | none => ownTarget.map fun target => (target, rest)

/-- Close a bracket with what follows it: a target, or else a label.  A label to whose target the
budget does not reach refers to nothing. -/
def closeWithTarget? (scope : Scope) (r : Reading) (bracket : Bracket) (rest : List Char) :
    Option (Reading × List Char) :=
  match inlineTarget? rest with
  | some (target, behind) => some (r.closeBracket target, behind)
  | none =>
      (referredTarget? scope bracket rest).bind fun (target, behind) =>
        let spent := r.spent + target.size
        if spent ≤ scope.budget then some ({ r.closeBracket target with spent := spent }, behind)
        else none

/-- Read what stands behind a square bracket that closes. -/
def readClose (scope : Scope) (r : Reading) (rest : List Char) : Reading × List Char :=
  let r := { r with inBrackets := false }
  match r.brackets with
  | [] => (r.addText "]", rest)
  | bracket :: _ =>
      let closed :=
        if !bracket.image && r.linksClosed then none else closeWithTarget? scope r bracket rest
      closed.getD (r.dropBracket.addText "]", rest)

/-! ## Bare addresses -/

/-- Read an address whose scheme ends before a colon. -/
def readScheme? (r : Reading) (before chars : List Char) : Option (Reading × List Char) :=
  let scheme := (before.takeWhile Char.isAlpha).reverse
  (schemeLink? (String.ofList scheme) chars).map fun found =>
    ((r.dropLast scheme.length).addLink found.url found.shown, found.rest)

/-- Read a bare address that starts at the front of a text. -/
def readBare? (scope : Scope) (r : Reading) (before chars : List Char) :
    Option (Reading × List Char) :=
  if !scope.options.autolink || r.inBrackets then none
  else if chars.head? == some ':' then readScheme? r before chars
  else
    (wwwLink? before.head? chars).map fun found =>
      (r.addLink found.url found.shown, found.rest)

/-! ## Texts -/

/-- Whether a character ends plain text. -/
def endsPlain (scope : Scope) (r : Reading) (c : Char) : Bool :=
  ['\n', '_', '*', '"', '\x60', '\x27', '\\', '&', '<', '[', ']', '!'].contains c ||
    (scope.options.autolink && (c == ':' || c == 'w')) ||
    (scope.options.strikethrough && c == '~') ||
    (scope.options.superscript && c == '^' && !r.inBrackets)

/-- Read plain text; spaces behind a hard break and before the end of a line are dropped. -/
def readPlain (scope : Scope) (r : Reading) (chars : List Char) : Reading × List Char :=
  let plain := chars.takeWhile fun c => !endsPlain scope r c
  let rest := chars.drop plain.length
  let begun := if r.isBehindBreak then trimLeft plain else plain
  let shown := if rest.head? == some '\n' then trimRight begun else begun
  (r.addText (String.ofList shown), rest)

/-- Read the next piece, which starts with a character. -/
def readPiece (scope : Scope) (r : Reading) (before : List Char) (c : Char) (rest : List Char) :
    Reading × List Char :=
  match c with
  | '\n' => readLineEnd r before rest
  | '\x60' => readCode r (c :: rest)
  | '\\' => readEscape r rest
  | '&' =>
      match readEntity? rest with
      | some (value, behind) => (r.addText (String.ofList value), behind)
      | none => (r.addText "&", rest)
  | '<' => readAngle r rest
  | '*' => readRun scope r before c (c :: rest)
  | '_' => readRun scope r before c (c :: rest)
  | '[' => (r.openBracket false rest, rest)
  | ']' => readClose scope r rest
  | '!' =>
      match rest with
      | '[' :: '^' :: _ => (r.addText "!", rest)
      | '[' :: behind => (r.openBracket true behind, behind)
      | _ => (r.addText "!", rest)
  | _ =>
      if (scope.options.strikethrough && c == '~') ||
          (scope.options.superscript && c == '^' && !r.inBrackets) then
        readRun scope r before c (c :: rest)
      else if c == ':' || (c == 'w' && scope.options.autolink) then
        (readBare? scope r before (c :: rest)).getD (r.addText (String.singleton c), rest)
      else if c == '"' || c == '\x27' || c == '-' || c == '.' || c == '$' then
        (r.addText (String.singleton c), rest)
      else readPlain scope r (c :: rest)

/-- Read pieces up to the end of a text, behind reversed text. -/
def readPieces (scope : Scope) (r : Reading) (before chars : List Char) : Reading :=
  match chars with
  | [] => r
  | c :: rest =>
      match readPiece scope r before c rest with
      | (next, behind) =>
          if behind.length ≤ rest.length then
            readPieces scope next ((readPart chars behind).reverse ++ before) behind
          else next
termination_by chars.length
decreasing_by simp only [List.length_cons]; omega

/-- The nodes of a text, before which references have brought a number of bytes into the document,
and that number behind it. -/
def inlines (scope : Scope) (spent : Nat) (chars : List Char) : List Node × Nat :=
  let read := readPieces scope (.start spent) [] (trimRight chars)
  (read.nodes, read.spent)

end Markdown
end DocTree
