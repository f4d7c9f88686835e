import DocTree.Toml.DateTime
import DocTree.Text.Split

/-!
# Reading TOML

A document consists of lines that put a value under a key, and of headers that say which table the
lines below them add to.  The lines before the first header add to the outermost table.

**Tables.**  A table has at most one header, a key is used at most once in a table, and neither
headers nor dotted keys add to what is written in braces or brackets.
-/

namespace DocTree
namespace Toml

/-! ## Values -/

/-- The rest of a text behind spaces, line ends and comments, at most a number of lines. -/
def skipFiller : Nat → List Char → List Char
  | 0, chars => chars
  | n + 1, chars =>
      let rest := skipComment (skipGap chars)
      match lineEnd? rest with
      | some behind => skipFiller n behind
      | none => rest

/-- The rest of a text behind spaces, line ends and comments. -/
def skipFill (chars : List Char) : List Char :=
  skipFiller chars.length chars

/-- Read one of the two truth values. -/
def readBoolean? (chars : List Char) : Read Item :=
  match Text.after? "true".toList chars, Text.after? "false".toList chars with
  | some rest, _ => some (.boolean true, rest)
  | _, some rest => some (.boolean false, rest)
  | none, none => none

/-- Read a value that holds no other values. -/
def readScalar? (chars : List Char) : Read Item :=
  match chars with
  | c :: _ =>
      if c == '"' || c == '\x27' then
        (readText? chars).map fun (s, rest) => (.string (String.ofList s), rest)
      else if c == 't' || c == 'f' then readBoolean? chars
      else readDateTime? chars <|> readNumber? chars
  | [] => none

/-- Number of brackets and braces from which on a value is too deep. -/
def depthLimit : Nat := 80

/-- Number of parts above which a key is too long. -/
def pathLimit : Nat := 79

mutual

/-- Read a value; the first number bounds the steps, the second one counts the brackets and braces
around the value. -/
def readValue? : Nat → Nat → List Char → Read Item
  | 0, _, _ => none
  | n + 1, depth, chars =>
      match chars with
      | '[' :: rest =>
          if depth + 1 < depthLimit then
            (readItems? n (depth + 1) rest).map fun (items, rest) => (.array items, rest)
          else none
      | '\x7b' :: rest =>
          if depth + 1 < depthLimit then
            match skipGap rest with
            | '\x7d' :: behind => some (.table .closed [], behind)
            | _ =>
                (readPairs? n (depth + 1) [] rest).map fun (entries, rest) =>
                  (.table .closed entries, rest)
          else none
      | _ => readScalar? chars

/-- Read the items of an array behind its bracket or behind a comma. -/
def readItems? : Nat → Nat → List Char → Read (List Item)
  | 0, _, _ => none
  | n + 1, depth, chars =>
      match skipFill chars with
      | ']' :: rest => some ([], rest)
      | start =>
          (readValue? n depth start).bind fun (item, behind) =>
            match skipFill behind with
            | ',' :: rest =>
                (readItems? n depth rest).map fun (items, rest) => (item :: items, rest)
            | ']' :: rest => some ([item], rest)
            | _ => none

/-- Read the entries of a table in braces behind its brace or behind a comma; those before them are
given. -/
def readPairs? : Nat → Nat → Entries → List Char → Read Entries
  | 0, _, _, _ => none
  | n + 1, depth, entries, chars =>
      match readPath? pathLimit chars with
      | some (path, '=' :: start) =>
          (readValue? n depth (skipGap start)).bind fun (item, behind) =>
            (entries.addDotted? path.dropLast (path.getLastD "") item).bind fun entries =>
              match skipGap behind with
              | ',' :: rest => readPairs? n depth entries rest
              | '\x7d' :: rest => some (entries, rest)
              | _ => none
      | _ => none

end

/-! ## Lines -/

/-- A document of which some lines have been read. -/
structure Reading where
  /-- The document without the table that is being read. -/
  root : Entries
  /-- The key of the table that is being read; it is empty for the outermost table. -/
  path : List String
  /-- Whether the header of the table stands in double brackets. -/
  repeated : Bool
  current : Entries

namespace Reading

/-- Put the table that was read into the document. -/
def finish (r : Reading) : Entries :=
  match r.path.getLast? with
  | none => r.current
  | some key =>
      let place := r.path.dropLast
      let outer := ((r.root.tableAt? false .header place).map Prod.snd).getD []
      let table := Item.table .header r.current
      let item := match r.repeated, outer.find? key with
        | true, some (.tables elements) => Item.tables (elements ++ [table])
        | true, _ => .tables [table]
        | false, _ => table
      r.root.replaceAt false (outer.put key item) place

/-- Start a table with a header. -/
def startTable? (r : Reading) (path : List String) : Option Reading :=
  let root := r.finish
  (root.tableAt? false .header path.dropLast).bind fun (_, outer) =>
    match outer.find? (path.getLastD "") with
    | none => some ⟨root, path, false, []⟩
    | some (.table .implied own) => some ⟨root, path, false, own⟩
    | _ => none

/-- Start a table with a header in double brackets. -/
def startRepeated? (r : Reading) (path : List String) : Option Reading :=
  let root := r.finish
  (root.tableAt? false .header path.dropLast).bind fun (_, outer) =>
    match outer.find? (path.getLastD "") with
    | none => some ⟨root, path, true, []⟩
    | some (.tables _) => some ⟨root, path, true, []⟩
    | _ => none

/-- Read a header behind its first bracket, and the rest of its line. -/
def header? (r : Reading) (chars : List Char) : Option (Reading × List Char) :=
  match chars with
  | '[' :: rest =>
      match readPath? pathLimit rest with
      | some (path, ']' :: ']' :: behind) => do
          return (← r.startRepeated? path, ← endOfLine? behind)
      | _ => none
  | _ =>
      match readPath? pathLimit chars with
      | some (path, ']' :: behind) => do return (← r.startTable? path, ← endOfLine? behind)
      | _ => none

/-- Read a line that puts a value under a key. -/
def entry? (r : Reading) (chars : List Char) : Option (Reading × List Char) :=
  match readPath? pathLimit chars with
  | some (path, '=' :: start) => do
      let (item, behind) ← readValue? (2 * start.length + 2) 0 (skipGap start)
      let current ← r.current.addDotted? path.dropLast (path.getLastD "") item
      return (⟨r.root, r.path, r.repeated, current⟩, ← endOfLine? behind)
  | _ => none

/-- Read the rest of a document, at most a number of lines. -/
def lines? (r : Reading) : Nat → List Char → Option Reading
  | 0, chars => if chars.isEmpty then some r else none
  | n + 1, chars =>
      match skipGap chars with
      | [] => some r
      | '[' :: rest => (r.header? rest).bind fun (r, rest) => lines? r n rest
      | '#' :: rest => (endOfLine? ('#' :: rest)).bind (lines? r n)
      | c :: rest =>
          match lineEnd? (c :: rest) with
          | some behind => lines? r n behind
          | none => (r.entry? (c :: rest)).bind fun (r, rest) => lines? r n rest

end Reading

/-- The outermost table of a document, if the text is one. -/
def parse? (source : String) : Option Entries :=
  let chars := match source.toList with
    | '\uFEFF' :: rest => rest
    | chars => chars
  ((Reading.mk [] [] false []).lines? chars.length chars).map Reading.finish

end Toml
end DocTree
