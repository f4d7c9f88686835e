import DocTree.Ast.Basic

/-!
# Spans between runs of delimiters

The text of a paragraph is first cut into pieces: plain text, finished nodes, and runs of one
delimiter character.  A run may open a span, close one, or both, which the characters around it
decide.  Resolving the pieces reads them from front to back; every run that may close looks back for
the nearest run that it may close, and the pieces between become the children of a span.

**Lengths.**  A span takes two characters of each run if both still have two, else one.  Two runs of
which one may both open and close do not match when the lengths that they had in the text sum to a
multiple of three, unless both are multiples of three.

**Failed searches.**  A run that finds nothing to close leaves a floor: later runs that search alike
look back no further than to it.  Runs of asterisks search alike when they agree in whether they may
open and in their length modulo three, and runs of another character always do.

**Strikethrough.**  Runs of tildes match whole or not at all: a run that meets one of another length
ends the search for spans, and all that is left becomes text.
-/

namespace DocTree
namespace Markdown

open Ast (Node)

/-- A run of delimiters. -/
structure Run where
  mark : Char
  /-- Number of characters of the text before the run. -/
  place : Nat
  /-- Number of characters that no span has taken. -/
  count : Nat
  /-- Number of characters at first. -/
  length : Nat
  canOpen : Bool
  canClose : Bool
deriving DecidableEq, Repr, Inhabited

/-- A piece of a text. -/
inductive Piece
  | text (s : String)
  | node (node : Node)
  | run (run : Run)
deriving Repr, Inhabited

/-- The text of a run that no span has taken. -/
def Run.text (run : Run) : String :=
  String.ofList (List.replicate run.count run.mark)

/-- A piece as a node; a run becomes text. -/
def Piece.toNode : Piece → Node
  | text s => Node.text s
  | node n => n
  | run r => Node.text r.text

/-- Whether two runs match when the second closes the first. -/
def Run.matches (opener closer : Run) : Bool :=
  opener.mark == closer.mark && opener.canOpen &&
    !((closer.canOpen || opener.canClose) && (opener.length + closer.length) % 3 == 0 &&
      !(opener.length % 3 == 0 && closer.length % 3 == 0))

/-- Find the nearest run that a run closes, in pieces with the newest first: the pieces behind it,
the run, and the pieces before it.  A run before the floor is not found. -/
def findOpener (floor : Nat) (closer : Run) :
    List Piece → Option (List Piece × Run × List Piece)
  | [] => none
  | piece :: before =>
      let further := (findOpener floor closer before).map fun found => (piece :: found.1, found.2)
      match piece with
      | .run opener =>
          if floor ≤ opener.place && opener.matches closer then some ([], opener, before)
          else further
      | _ => further

/-- Kind of the span between two runs of a character that gave a number of characters each. -/
def spanKind (mark : Char) (taken : Nat) : Ast.Kind :=
  if mark == '~' then .strikethrough
  else if mark == '^' then .superscript
  else if taken == 1 then .emph
  else .strong

/-- A run as a piece, unless it is used up. -/
def Run.remains (run : Run) : List Piece :=
  if run.count == 0 then [] else [.run run]

/-- What runs that search alike have in common. -/
structure SearchClass where
  mark : Char
  canOpen : Bool
  residue : Nat
deriving DecidableEq, Repr

/-- How a run searches. -/
def Run.searchClass (run : Run) : SearchClass :=
  if run.mark == '*' then ⟨run.mark, run.canOpen, run.length % 3⟩ else ⟨run.mark, false, 0⟩

/-- A text of which some pieces have been resolved. -/
structure Resolution where
  /-- The resolved pieces, newest first. -/
  pieces : List Piece
  /-- The places to which runs look back, where an earlier search has failed. -/
  floors : List (SearchClass × Nat)
  /-- Whether the search for spans has ended. -/
  ended : Bool

namespace Resolution

/-- Nothing has been resolved. -/
def start : Resolution where
  pieces := []
  floors := []
  ended := false

/-- Add a piece. -/
def push (r : Resolution) (piece : Piece) : Resolution :=
  { r with pieces := piece :: r.pieces }

/-- The place to which a run looks back. -/
def floorOf (r : Resolution) (run : Run) : Nat :=
  (r.floors.lookup run.searchClass).getD 0

/-- Add a run that has found nothing to close. -/
def fail (r : Resolution) (run : Run) : Resolution :=
  { r.push (if run.canOpen then .run run else .text run.text) with
    floors := (run.searchClass, run.place) :: r.floors }

/-- Add a run that may close, and the spans that it closes, of which the number bounds how many. -/
def close (r : Resolution) (closer : Run) : Nat → Resolution
  | 0 => { r with pieces := closer.remains ++ r.pieces }
  | n + 1 =>
      if closer.count == 0 then r
      else
        match findOpener (r.floorOf closer) closer r.pieces with
        | none => r.fail closer
        | some (inner, opener, outer) =>
            let taken := if 2 ≤ opener.count && 2 ≤ closer.count then 2 else 1
            let opened := { opener with count := opener.count - taken }
            let closed := { closer with count := closer.count - taken }
            if closer.mark == '~' && (opened.count != closed.count || opened.count > 0) then
              { r.push (.run closer) with ended := true }
            else
              let span := Node.mk (spanKind closer.mark taken) (inner.reverse.map Piece.toNode)
              close { r with pieces := .node span :: (opened.remains ++ outer) } closed n

/-- Resolve the next piece. -/
def add (r : Resolution) (piece : Piece) : Resolution :=
  match piece with
  | .run run => if run.canClose && !r.ended then r.close run run.count else r.push piece
  | _ => r.push piece

end Resolution

/-- The nodes of a text that is cut into pieces. -/
def resolve (pieces : List Piece) : List Node :=
  (pieces.foldl Resolution.add .start).pieces.reverse.map Piece.toNode

end Markdown
end DocTree
