import DocTree.Binary64.Basic

/-!
# TOML documents

A document is a table of items under keys.  Tables come about in four ways, and the way decides
whether a later line may still add to the table: a table with a header of its own, one that is only
implied by the header of a table inside it, one that dotted keys make, and one that is closed
because it was written in braces.
-/

namespace DocTree
namespace Toml

/-- How a table came about. -/
inductive TableKind
  | header
  | implied
  | dotted
  | closed
deriving DecidableEq, Repr, Inhabited

/-- A value of a document. -/
inductive Item
  | string (s : String)
  | integer (n : Int64)
  | float (x : Binary64)
  | boolean (b : Bool)
  /-- A date, a time, or both, in its normal form. -/
  | dateTime (text : String)
  | array (items : List Item)
  | table (kind : TableKind) (entries : List (String × Item))
  /-- The tables whose headers stand in double brackets. -/
  | tables (elements : List Item)
deriving Repr, Inhabited

/-- The entries of a table, in the order in which they were added. -/
abbrev Entries := List (String × Item)

namespace Entries

/-- The item under a key. -/
def find? (entries : Entries) (key : String) : Option Item :=
  entries.lookup key

/-- Put an item under a key, in place of the one that was there. -/
def put (entries : Entries) (key : String) (item : Item) : Entries :=
  match entries with
  | [] => [(key, item)]
  | entry :: rest => if entry.1 == key then (key, item) :: rest else entry :: put rest key item

/-- Add an item under a key that is not taken. -/
def add? (entries : Entries) (key : String) (item : Item) : Option Entries :=
  if (entries.find? key).isSome then none else some (entries ++ [(key, item)])

/-- The kind and the entries of the table that a path of keys leads to.  Of tables in double
brackets the last one counts.  A table that is not there is implied, and dotted keys do not lead
into a table that has a header of its own. -/
def tableAt? (dotted : Bool) (kind : TableKind) (entries : Entries) :
    List String → Option (TableKind × Entries)
  | [] => some (kind, entries)
  | key :: path =>
      match entries.find? key with
      | none => tableAt? dotted (if dotted then .dotted else .implied) [] path
      | some (.table .closed _) => none
      | some (.table inner own) =>
          if dotted && inner == .header then none else tableAt? dotted inner own path
      | some (.tables elements) =>
          match elements.getLast? with
          | some (.table inner own) => tableAt? dotted inner own path
          | _ => none
      | _ => none

/-- Replace the entries of the table that a path of keys leads to; tables on the way that are not
there are made. -/
def replaceAt (dotted : Bool) (entries replacement : Entries) : List String → Entries
  | [] => replacement
  | key :: path =>
      let made := if dotted then TableKind.dotted else .implied
      match entries.find? key with
      | some (.table inner own) =>
          entries.put key (.table inner (replaceAt dotted own replacement path))
      | some (.tables elements) =>
          match elements.getLast? with
          | some (.table inner own) =>
              let last := Item.table inner (replaceAt dotted own replacement path)
              entries.put key (.tables (elements.dropLast ++ [last]))
          | _ => entries
      | _ => entries.put key (.table made (replaceAt dotted [] replacement path))

/-- Add an item under a dotted key, whose last part is given apart.  The table that the other parts
lead to must have been made by dotted keys. -/
def addDotted? (entries : Entries) (path : List String) (key : String) (item : Item) :
    Option Entries :=
  (tableAt? (!path.isEmpty) .header entries path).bind fun (kind, own) =>
    if (kind == .dotted) == path.isEmpty then none
    else (own.add? key item).map fun added => entries.replaceAt (!path.isEmpty) added path

end Entries

end Toml
end DocTree
