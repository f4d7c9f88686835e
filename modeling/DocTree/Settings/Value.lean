import DocTree.Text.Lowercase
import DocTree.Toml.Document

/-!
# Values of settings

Settings are collected in a tree of values.  A value that comes from a file knows the file.  Keys
are kept in lower case.  A whole number is kept in one of four forms; those of a file have 64 bits
and a sign.

**Putting.**  A table that is put under a key adds its entries, one by one, to the table that is
there; where no table is, the first entry makes one.  Any other value takes the place of what is
there.
-/

namespace DocTree
namespace Settings

/-- A whole number of 64 or of 128 bits, with or without a sign. -/
inductive Integer
  | signed64 (n : Int64)
  | unsigned64 (n : UInt64)
  | signed128 (n : BitVec 128)
  | unsigned128 (n : BitVec 128)
deriving DecidableEq, Repr, Inhabited

namespace Integer

/-- The number itself. -/
def value : Integer → Int
  | signed64 n => n.toInt
  | unsigned64 n => n.toNat
  | signed128 n => n.toInt
  | unsigned128 n => n.toNat

/-- A number in the first form that holds it; of a number that none holds, the last 128 bits. -/
def ofInt (n : Int) : Integer :=
  let forms := [signed64 (.ofInt n), unsigned64 (.ofInt n), signed128 (.ofInt 128 n)]
  (forms.find? fun form => form.value == n).getD (unsigned128 (.ofInt 128 n))

end Integer

/-- A value that holds no others. -/
inductive Scalar
  | null
  | boolean (b : Bool)
  | integer (n : Integer)
  | float (x : Binary64)
  | string (s : String)
deriving DecidableEq, Repr, Inhabited

/-- A value, and the file that it comes from. -/
inductive Value
  | scalar (origin : Option String) (data : Scalar)
  | array (origin : Option String) (items : List Value)
  | table (origin : Option String) (entries : List (String × Value))
deriving Repr, Inhabited

namespace Value

/-- The file that a value comes from. -/
def origin : Value → Option String
  | scalar origin _ => origin
  | array origin _ => origin
  | table origin _ => origin

/-- No value. -/
def null : Value :=
  scalar none .null

/-- A text. -/
def ofString (s : String) : Value :=
  scalar none (.string s)

/-- A truth value. -/
def ofBool (b : Bool) : Value :=
  scalar none (.boolean b)

/-- A whole number. -/
def ofInt (n : Int) : Value :=
  scalar none (.integer (.ofInt n))

/-- The table without entries. -/
def emptyTable : Value :=
  table none []

/-! ## Values of a file -/

mutual

/-- The value of an item in a file. -/
def ofItem (origin : Option String) : Toml.Item → Value
  | .string s => scalar origin (.string s)
  | .integer n => scalar origin (.integer (.signed64 n))
  | .float x => scalar origin (.float x)
  | .boolean b => scalar origin (.boolean b)
  | .dateTime text => scalar origin (.string text)
  | .array items => array origin (ofItems origin items)
  | .table _ entries => table origin (ofEntries origin entries)
  | .tables elements => array origin (ofItems origin elements)

/-- The values of items. -/
def ofItems (origin : Option String) : List Toml.Item → List Value
  | [] => []
  | item :: items => ofItem origin item :: ofItems origin items

/-- The values of entries, under their keys. -/
def ofEntries (origin : Option String) : List (String × Toml.Item) → List (String × Value)
  | [] => []
  | entry :: entries => ofEntry origin entry :: ofEntries origin entries

/-- The value of an entry, under its key. -/
def ofEntry (origin : Option String) : String × Toml.Item → String × Value
  | (key, item) => (key, ofItem origin item)

end

/-! ## Tables -/

/-- A table as it is, and any other value as a table without entries. -/
def asTable : Value → Value
  | table origin entries => table origin entries
  | _ => emptyTable

/-- The value under a key of a table. -/
def entry? (value : Value) (key : String) : Option Value :=
  match value with
  | table _ entries => entries.lookup (Text.lowercase key)
  | _ => none

/-- Put a value under a key into entries, in place of the one that is there. -/
def replaceEntry (key : String) (value : Value) : List (String × Value) → List (String × Value)
  | [] => [(key, value)]
  | entry :: entries =>
      if entry.1 == key then (key, value) :: entries else entry :: replaceEntry key value entries

/-- A table in which a key has a value. -/
def withEntry (value : Value) (key : String) (inner : Value) : Value :=
  match value.asTable with
  | table origin entries => table origin (replaceEntry (Text.lowercase key) inner entries)
  | other => other

mutual

/-- Put a value under a key of a table. -/
def put (target : Value) (key : String) : Value → Value
  | table _ entries =>
      target.withEntry key (putAll ((target.entry? key).getD emptyTable) entries)
  | scalar origin data => target.withEntry key (scalar origin data)
  | array origin items => target.withEntry key (array origin items)

/-- Put entries into a table. -/
def putAll (target : Value) : List (String × Value) → Value
  | [] => target
  | entry :: entries => putAll (putEntry target entry) entries

/-- Put an entry into a table. -/
def putEntry (target : Value) : String × Value → Value
  | (key, value) => put target key value

end

end Value

end Settings
end DocTree
