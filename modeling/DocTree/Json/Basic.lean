/-!
# JSON values with ordered members

The members of an object keep their order, because the texts written from them show it.  Numbers
are natural: ids, levels, depths and counts are all there is to write.
-/

namespace DocTree

/-- A JSON value whose objects keep the order of their members. -/
inductive Json
  | null
  | bool (value : Bool)
  | number (value : Nat)
  | string (value : String)
  | array (items : List Json)
  | object (members : List (String × Json))
deriving Inhabited, Repr

namespace Json

/-- The value of a text that may be absent. -/
def ofOption : Option String → Json
  | some s => string s
  | none => null

end Json

end DocTree
