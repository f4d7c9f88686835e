import DocTree.Json.Basic

/-!
# Taking objects apart

A decoder looks the members of an object up by their keys.  Their order plays no part, but the first
member of a key counts, so a key that an object holds twice would hide a part of what was written.
-/

namespace DocTree
namespace Json

section Views

def asText? : Json → Option String
  | .string s => some s
  | _ => none

def asNumber? : Json → Option Nat
  | .number n => some n
  | _ => none

def asBool? : Json → Option Bool
  | .bool value => some value
  | _ => none

/-- A text that may be absent. -/
def asOptionalText? : Json → Option (Option String)
  | .string s => some (some s)
  | .null => some none
  | _ => none

@[simp] theorem asOptionalText?_ofOption (s : Option String) :
    asOptionalText? (.ofOption s) = some s := by
  cases s <;> rfl

variable {α : Type}

def decodeAll (decode : Json → Option α) : List Json → Option (List α)
  | [] => some []
  | item :: items => do
      return (← decode item) :: (← decodeAll decode items)

/-- An array whose items are all of one shape. -/
def asArray? (decode : Json → Option α) : Json → Option (List α)
  | .array items => decodeAll decode items
  | _ => none

theorem asArray?_map
    {encode : α → Json}
    {decode : Json → Option α}
    (h : ∀ x, decode (encode x) = some x)
    (xs : List α) :
    asArray? decode (.array (xs.map encode)) = some xs := by
  rw [asArray?]
  induction xs with
  | nil =>
      rfl
  | cons x xs ih =>
      simp [decodeAll, h x, ih]

end Views

section Members

variable {α : Type} (view : Json → Option α)

/-- The member under a key, seen in one way. -/
def member? (key : String) (members : List (String × Json)) : Option α :=
  (members.lookup key).bind view

@[simp] theorem member?_self
    (key : String)
    (value : Json)
    (members : List (String × Json)) :
    member? view key ((key, value) :: members) = view value := by
  simp [member?]

@[simp] theorem member?_of_ne
    {key other : String}
    (h : key ≠ other)
    (value : Json)
    (members : List (String × Json)) :
    member? view key ((other, value) :: members) = member? view key members := by
  rw [member?, List.lookup_cons, beq_eq_false_iff_ne.mpr h, member?]

end Members

end Json
end DocTree
