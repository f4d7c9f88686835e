import DocTree.Markdown.Entity
import DocTree.Text.Blank
import DocTree.Text.CaseFolding

/-!
# Where links lead

A link leads to a destination and may have a title.  Both stand behind the link itself, or in a
definition elsewhere in the document to which the link refers by a label.

**Labels** match when they are equal after trimming, with inner white space read as one space and
without regard to case.  **Definitions** of one label that come after the first are ignored.
-/

namespace DocTree
namespace Markdown

open Text (isGap)

/-- Where a link leads. -/
structure Target where
  url : String
  title : String
deriving DecidableEq, Repr, Inhabited

/-- Number of bytes of a target. -/
def Target.size (target : Target) : Nat :=
  target.url.utf8ByteSize + target.title.utf8ByteSize

/-- The targets of the labels that are defined in a document, in their order. -/
abbrev References := List (String × Target)

/-! ## Labels -/

/-- Replace every run of white space by one space. -/
def joinBlanks : List Char → List Char
  | [] => []
  | c :: rest =>
      if Text.isBlank c then
        match joinBlanks rest with
        | ' ' :: more => ' ' :: more
        | more => ' ' :: more
      else c :: joinBlanks rest

/-- The form in which labels are compared. -/
def labelKey (label : List Char) : String :=
  String.ofList (Text.foldCase (joinBlanks (trimBoth label)))

/-- Number of bytes above which a label is none. -/
def labelLimit : Nat := 1000

/-- Read a label behind its bracket up to the bracket that closes it. -/
def labelEnd? : List Char → Option (List Char × List Char)
  | [] => none
  | '[' :: _ => none
  | ']' :: rest => some ([], rest)
  | '\\' :: c :: rest =>
      if isEscapable c then
        (labelEnd? rest).map fun parts => ('\\' :: c :: parts.1, parts.2)
      else (labelEnd? (c :: rest)).map fun parts => ('\\' :: parts.1, parts.2)
  | c :: rest => (labelEnd? rest).map fun parts => (c :: parts.1, parts.2)

/-- Read a label in brackets: the trimmed label, and the rest. -/
def label? : List Char → Option (List Char × List Char)
  | '[' :: rest =>
      (labelEnd? rest).bind fun parts =>
        if (String.ofList parts.1).utf8ByteSize > labelLimit then none
        else some (trimBoth parts.1, parts.2)
  | _ => none

/-! ## Destinations and titles -/

/-- Read a destination behind the angle bracket that opens it. -/
def angledEnd? : List Char → Option (List Char × List Char)
  | [] => none
  | '>' :: rest => some ([], rest)
  | '\\' :: c :: rest => (angledEnd? rest).map fun parts => ('\\' :: c :: parts.1, parts.2)
  | c :: rest =>
      if c == '\n' || c == '\r' || c == '<' then none
      else (angledEnd? rest).map fun parts => (c :: parts.1, parts.2)

/-- Number of parentheses that may be open at once in a destination. -/
def parenthesisLimit : Nat := 32

/-- Read a destination without angle brackets, where a number of parentheses is open.  It ends
before a separator or the parenthesis that closes the link. -/
def bareEnd? : Nat → List Char → Option (List Char × List Char)
  | opened, [] => if opened == 0 then some ([], []) else none
  | opened, '\\' :: c :: rest =>
      if isEscapable c then
        (bareEnd? opened rest).map fun parts => ('\\' :: c :: parts.1, parts.2)
      else (bareEnd? opened (c :: rest)).map fun parts => ('\\' :: parts.1, parts.2)
  | opened, c :: rest =>
      if c == '(' then
        if opened + 1 > parenthesisLimit then none
        else (bareEnd? (opened + 1) rest).map fun parts => (c :: parts.1, parts.2)
      else if c == ')' then
        if opened == 0 then some ([], c :: rest)
        else (bareEnd? (opened - 1) rest).map fun parts => (c :: parts.1, parts.2)
      else if isSpace c || isControl c then
        if opened == 0 then some ([], c :: rest) else none
      else (bareEnd? opened rest).map fun parts => (c :: parts.1, parts.2)

/-- Read a destination; it does not reach to the end of the text. -/
def destination? (chars : List Char) : Option (List Char × List Char) :=
  let read := match chars with
    | '<' :: rest => angledEnd? rest
    | c :: _ => if isSpace c || isControl c then none else bareEnd? 0 chars
    | [] => none
  read.filter fun parts => !parts.2.isEmpty

/-- Read a title behind the character that opens it.  A closing character behind a backslash belongs
to the title if another one follows. -/
def titleEnd? (close : Char) (escaped : Bool) : List Char → Option (List Char × List Char)
  | [] => none
  | c :: rest =>
      let goOn := (titleEnd? close (c == '\\') rest).map fun parts => (c :: parts.1, parts.2)
      if c == close then
        if escaped then goOn.or (some ([], rest)) else some ([], rest)
      else if close == ')' && c == '(' && !escaped then none
      else goOn

/-- Read a title in double quotes, single quotes or parentheses. -/
def title? : List Char → Option (List Char × List Char)
  | '"' :: rest => titleEnd? '"' false rest
  | '\x27' :: rest => titleEnd? '\x27' false rest
  | '(' :: rest => titleEnd? ')' false rest
  | _ => none

/-- A destination as it is meant: with its references replaced and its escapes resolved. -/
def cleanUrl (url : List Char) : String :=
  String.ofList (unescape (unescapeEntities (trimBoth url)))

/-- A title as it is meant. -/
def cleanTitle (title : List Char) : String :=
  String.ofList (unescape (unescapeEntities title))

/-- Read the destination and the title that stand in parentheses behind a link. -/
def inlineTarget? : List Char → Option (Target × List Char)
  | '(' :: rest =>
      (destination? (skipSeparators rest)).bind fun url =>
        let next := skipSeparators url.2
        let read := if next.length < url.2.length then title? next else none
        match read.elim next (fun title => skipSeparators title.2) with
        | ')' :: behind => some (⟨cleanUrl url.1, cleanTitle (read.elim [] Prod.fst)⟩, behind)
        | _ => none
  | _ => none

/-! ## Definitions -/

/-- The rest of a text behind indentation and the end of the line, when nothing else is there. -/
def restOfLine? (chars : List Char) : Option (List Char) :=
  match chars.dropWhile isGap with
  | [] => some []
  | '\n' :: rest => some rest
  | _ => none

/-- The rest of a text behind indentation, at most one end of a line, and more indentation. -/
def skipLineEnd (chars : List Char) : List Char :=
  match chars.dropWhile isGap with
  | '\n' :: rest => rest.dropWhile isGap
  | rest => rest

/-- Read a definition at the front of a text: label, target and the lines behind it. -/
def definition? (chars : List Char) : Option (List Char × Target × List Char) :=
  match label? chars with
  | some (label, ':' :: rest) =>
      if label.isEmpty then none
      else
        (destination? (skipLineEnd rest)).bind fun url =>
          let next := skipLineEnd url.2
          let withTitle := if next.length < url.2.length then title? next else none
          let titled := withTitle.bind fun title =>
            (restOfLine? title.2).map fun behind =>
              (label, ⟨cleanUrl url.1, cleanTitle title.1⟩, behind)
          titled.or <|
            (restOfLine? url.2).map fun behind => (label, ⟨cleanUrl url.1, ""⟩, behind)
  | _ => none

namespace References

/-- The target of a label. -/
def find? (references : References) (label : List Char) : Option Target :=
  List.lookup (labelKey label) references

/-- Define a label, unless it is defined already or blank. -/
def define (references : References) (label : List Char) (target : Target) : References :=
  if labelKey label == "" || (references.find? label).isSome then references
  else references ++ [(labelKey label, target)]

end References

/-- Take the definitions off the front of a text, at most a number of them. -/
def takeDefinitionsFrom : Nat → References → List Char → References × List Char
  | 0, references, chars => (references, chars)
  | n + 1, references, chars =>
      match definition? chars with
      | some (label, target, rest) => takeDefinitionsFrom n (references.define label target) rest
      | none => (references, chars)

/-- Take the definitions off the front of a text. -/
def takeDefinitions (references : References) (chars : List Char) : References × List Char :=
  takeDefinitionsFrom chars.length references chars

end Markdown
end DocTree
