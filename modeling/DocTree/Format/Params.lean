import DocTree.Text.Decimal
import DocTree.Text.Lowercase

/-!
# Parameters of formats

A `Params` value maps keys to texts.  Its entries are kept in the order of their keys, each key
once, so equal maps are equal values.

A boolean parameter counts as true for four words in any case and as false for everything else; only
an absent one takes the default.
-/

namespace DocTree
namespace Format

/-- Parameters: texts under keys, in the order of the keys. -/
structure Params where
  entries : List (String × String)
deriving DecidableEq, Repr

namespace Params

/-- No parameters. -/
def empty : Params := ⟨[]⟩

/-- Put a value under a key into ordered entries, in place of the one that stood there. -/
def insertEntry (key value : String) : List (String × String) → List (String × String)
  | [] => [(key, value)]
  | entry :: entries =>
      if entry.1 < key then entry :: insertEntry key value entries
      else if entry.1 == key then (key, value) :: entries
      else (key, value) :: entry :: entries

/-- The value under a key. -/
def get? (params : Params) (key : String) : Option String :=
  params.entries.lookup key

/-- Put a value under a key. -/
def insert (params : Params) (key value : String) : Params :=
  ⟨insertEntry key value params.entries⟩

/-- Take a key out. -/
def erase (params : Params) (key : String) : Params :=
  ⟨params.entries.filter fun entry => entry.1 != key⟩

/-- Put all entries of a map into another one; its values win. -/
def insertAll (params more : Params) : Params :=
  more.entries.foldl (fun params entry => params.insert entry.1 entry.2) params

/-- The parameters of a list of entries; a later entry wins over an earlier one. -/
def ofList (entries : List (String × String)) : Params :=
  empty.insertAll ⟨entries⟩

/-- Whether a text is one of the words for true, in any case. -/
def isTrueWord (value : String) : Bool :=
  ["true", "1", "yes", "y"].contains (Text.lowercase value)

/-- A boolean parameter. -/
def flag (params : Params) (key : String) (default : Bool) : Bool :=
  match params.get? key with
  | some value => isTrueWord value
  | none => default

/-- A numeric parameter; what is no number counts as absent. -/
def number (params : Params) (key : String) (default : Nat) : Nat :=
  ((params.get? key).bind Text.readWord?).getD default

end Params

end Format
end DocTree
