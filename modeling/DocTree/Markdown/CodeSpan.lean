/-!
# Code within a text

Code stands between two runs of backticks of one length.  A search for the closing run remembers the
runs that it has passed, each length with its last run.  Once a search has come to the end of the
text, a later one is not begun unless a run of its length is remembered that lies ahead; a run that
no search has passed since then is not thought of.
-/

namespace DocTree
namespace Markdown

/-- Longest run of backticks that opens code. -/
def backtickLimit : Nat := 80

/-- What the searches in a text have seen. -/
structure TicksSeen where
  /-- Whether a search has come to the end of the text. -/
  complete : Bool
  /-- Lengths of runs, and the numbers of characters from the run to the end of the text; the newest
  first. -/
  runs : List (Nat × Nat)

namespace TicksSeen

/-- Nothing has been seen. -/
def start : TicksSeen where
  complete := false
  runs := []

/-- Whether no run of a length is known to lie within the last characters of a text. -/
def excludes (seen : TicksSeen) (length left : Nat) : Bool :=
  seen.complete && ((seen.runs.lookup length).all fun last => left ≤ last)

/-- Split a text before the next run of backticks of exactly a length, and behind it; the number
bounds the runs that are tried. -/
def splitAt (seen : TicksSeen) (length : Nat) :
    Nat → List Char → Option (List Char × List Char) × TicksSeen
  | 0, _ => (none, seen)
  | n + 1, chars =>
      let inner := chars.takeWhile (· != '\x60')
      let next := chars.drop inner.length
      let ticks := next.takeWhile (· == '\x60')
      let behind := next.drop ticks.length
      let passed := { seen with runs := (ticks.length, next.length) :: seen.runs }
      if ticks.isEmpty then (none, { seen with complete := true })
      else if ticks.length == length then (some (inner, behind), passed)
      else
        let further := passed.splitAt length n behind
        (further.1.map fun parts => (inner ++ ticks ++ parts.1, parts.2), further.2)

/-- Search the text behind a run of backticks for the run that closes it. -/
def search (seen : TicksSeen) (length : Nat) (behind : List Char) :
    Option (List Char × List Char) × TicksSeen :=
  if length > backtickLimit || seen.excludes length behind.length then (none, seen)
  else seen.splitAt length (behind.length + 1) behind

end TicksSeen

/-- Code as it is meant: line ends become spaces, and one space at either end goes when there is one
at both and the code is more than spaces. -/
def cleanCode (code : List Char) : List Char :=
  let flat := code.map fun c => if c == '\n' then ' ' else c
  if flat.head? == some ' ' && flat.getLast? == some ' ' && code.any (· != ' ') then
    flat.tail.dropLast
  else flat

end Markdown
end DocTree
