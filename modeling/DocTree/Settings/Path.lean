import DocTree.Settings.Value

/-!
# Paths to values

A path is a key, behind which further keys follow after dots and positions in brackets.  Setting a
value at a path makes the tables and arrays on the way, in place of what is there if need be.  A
negative position counts from the end of the array.
-/

namespace DocTree
namespace Settings

/-- A step of a path. -/
inductive Step
  | key (key : String)
  | position (n : Int)
deriving DecidableEq, Repr

/-- A path from the outermost table. -/
abbrev Path := List Step

/-- What is wrong with the text of a path. -/
inductive PathError
  /-- It does not start with a key. -/
  | noKey
  /-- What follows a key is neither a dot and a key nor a bracket, or the bracket is not closed. -/
  | noStep
  /-- No digit stands in the brackets. -/
  | noDigit
  /-- The number in the brackets is too great. -/
  | tooGreat
deriving DecidableEq, Repr

/-- Text of an error. -/
def PathError.message : PathError → String
  | noKey => "IsA"
  | noStep => "Char"
  | noDigit => "Digit"
  | tooGreat => "Map on Result"

namespace Path

/-- Whether a character may stand in a key of a path. -/
def isKeyChar (c : Char) : Bool :=
  c.isAlphanum || c == ' ' || c == '_' || c == '-'

/-- Read a key: the key, and the rest of the text. -/
def readKey? (chars : List Char) : Option (String × List Char) :=
  let key := chars.takeWhile isKeyChar
  if key.isEmpty then none else some (String.ofList key, chars.drop key.length)

/-- Read a position behind its bracket. -/
def readPosition (chars : List Char) : Except PathError (Step × List Char) :=
  let start := chars.dropWhile Text.isGap
  let negative := start.head? == some '-'
  let unsigned := if negative then start.tail else start
  let digits := unsigned.takeWhile Char.isDigit
  let n : Int := Text.ofDigits digits
  let signed := if negative then -n else n
  if digits.isEmpty then .error .noDigit
  else if signed < -Text.signedLimit || Text.signedLimit ≤ signed then .error .tooGreat
  else
    match (unsigned.drop digits.length).dropWhile Text.isGap with
    | ']' :: rest => .ok (.position signed, rest)
    | _ => .error .noStep

/-- Read a step behind a key or another step. -/
def readStep (chars : List Char) : Except PathError (Step × List Char) :=
  match chars with
  | '.' :: rest =>
      match readKey? rest with
      | some (key, behind) => .ok (.key key, behind)
      | none => .error .noStep
  | '[' :: rest => readPosition rest
  | _ => .error .noStep

/-- Read steps up to the end of a text, at most a number of them. -/
def readSteps : Nat → List Char → Except PathError Path
  | 0, _ => .ok []
  | n + 1, chars =>
      if chars.isEmpty then .ok []
      else
        match readStep chars with
        | .ok (step, rest) => (readSteps n rest).map (step :: ·)
        | .error error => .error error

/-- Read a path. -/
def parse (s : String) : Except PathError Path :=
  match readKey? s.toList with
  | some (key, rest) => (readSteps (rest.length + 1) rest).map (.key key :: ·)
  | none => .error .noKey

end Path

namespace Value

/-- The items of an array; any other value has none. -/
def items : Value → List Value
  | array _ items => items
  | _ => []

/-- Put an item at a place of a list, which is filled up if it is too short. -/
def setItem (items : List Value) (n : Nat) (item : Value) : List Value :=
  (items ++ List.replicate (n + 1 - items.length) null).set n item

/-- An array in which a place has an item. -/
def withItem (value : Value) (n : Nat) (item : Value) : Value :=
  match value with
  | array origin items => array origin (setItem items n item)
  | _ => array none (setItem [] n item)

/-- The place that a position in a list of some length means; a negative one must not lie before its
front. -/
def place? (length : Nat) (position : Int) : Option Nat :=
  if 0 ≤ position then some position.toNat
  else if position.natAbs ≤ length then some (length - position.natAbs)
  else none

/-- Set a value at a path, if its positions exist. -/
def setAt? (value : Value) : Path → Value → Option Value
  | [], _ => some value
  | [.key key], target => some (target.asTable.put key value)
  | .key key :: path, target =>
      (setAt? value path ((target.entry? key).getD null)).map fun inner =>
        target.withEntry key inner
  | .position position :: path, target =>
      (place? target.items.length position).bind fun n =>
        (setAt? value path (target.items.getD n null)).map fun inner => target.withItem n inner

end Value

end Settings
end DocTree
