import DocTree.Settings.Path
import DocTree.Text.Quoted
import DocTree.Binary64.Shortest

/-!
# What may go wrong with settings

A file may be missing, no text or no TOML, the path of an override may be malformed, and the values
may not be those that the settings need.  Only an error about the type of a single value tells where
the value stands and which file it comes from.
-/

namespace DocTree
namespace Settings

/-- What a setting needs. -/
inductive Expected
  | boolean
  | string
  | integer
  /-- A whole number without a sign. -/
  | word
deriving DecidableEq, Repr

/-- Name of what a setting needs. -/
def Expected.name : Expected → String
  | boolean => "a boolean"
  | string => "a string"
  | integer => "an integer"
  | word => "an unsigned 64 bit or less integer"

/-- Name of the form of a whole number. -/
def Integer.formName : Integer → String
  | signed64 _ => "64-bit integer"
  | unsigned64 _ => "64-bit unsigned integer"
  | signed128 _ => "128-bit integer"
  | unsigned128 _ => "128-bit unsigned integer"

/-- What a message about a group adds to a whole number of more than 64 bits. -/
def Integer.wideMark : Integer → String
  | signed128 _ => " as i128"
  | unsigned128 _ => " as u128"
  | _ => ""

/-- A value where another one is needed, as a message shows it. -/
inductive Unexpected
  | scalar (data : Scalar)
  | array
  | table
deriving DecidableEq, Repr

/-- Text of a value where a single value of another type is needed. -/
def Unexpected.text : Unexpected → String
  | scalar .null => "unit value"
  | scalar (.boolean b) => "boolean `" ++ toString b ++ "`"
  | scalar (.integer n) => n.formName ++ " `" ++ toString n.value ++ "`"
  | scalar (.float x) => "floating point `" ++ x.text ++ "`"
  | scalar (.string s) => "string " ++ Text.quoted s
  | array => "sequence"
  | table => "map"

/-- Text of a value where a group of settings is needed. -/
def Scalar.groupText : Scalar → String
  | null => "unit value"
  | boolean b => "boolean `" ++ toString b ++ "`"
  | integer n => "integer `" ++ toString n.value ++ "`" ++ n.wideMark
  | float x => "floating point `" ++ x.pointedText ++ "`"
  | string s => "string " ++ Text.quoted s

/-- What may go wrong with settings. -/
inductive Error
  /-- A value has the wrong type; it stands at a place and may come from a file. -/
  | wrongType (found : Unexpected) (expected : Expected) (place : String) (origin : Option String)
  /-- A value names no choice of an option. -/
  | noChoice (option name : String)
  /-- A value cannot be the choice of an option. -/
  | notAChoice (option : String)
  /-- A single value stands where a group of settings is needed. -/
  | noGroup (found : Scalar) (group : String)
  /-- An array that stands for a group is too short. -/
  | tooShort (length : Nat) (group : String) (needed : Nat)
  | missingField (name : String)
  | missingFile (path : String)
  /-- The bytes of a file are no text. -/
  | noText
  /-- A file is no TOML. -/
  | malformedFile (path : String)
  /-- The path of an override is malformed. -/
  | malformedPath (error : PathError)
  /-- A position of an override lies before the front of its array. -/
  | noPosition
deriving DecidableEq, Repr

namespace Error

/-- Text of an error. -/
def message : Error → String
  | wrongType found expected place origin =>
      "invalid type: " ++ found.text ++ ", expected " ++ expected.name ++
        (if place.isEmpty then "" else " for key `" ++ place ++ "`") ++
        (match origin with
          | some file => " in " ++ file
          | none => "")
  | noChoice option name =>
      "enum " ++ option ++ " does not have variant constructor " ++ name
  | notAChoice option =>
      "value of enum " ++ option ++
        " should be represented by either string or table with exactly one key"
  | noGroup found group => "invalid type: " ++ found.groupText ++ ", expected struct " ++ group
  | tooShort length group needed =>
      "invalid length " ++ toString length ++ ", expected struct " ++ group ++ " with " ++
        toString needed ++ (if needed == 1 then " element" else " elements")
  | missingField name => "missing field `" ++ name ++ "`"
  | missingFile path => "configuration file \"" ++ path ++ "\" not found"
  | noText => "stream did not contain valid UTF-8"
  | malformedFile path => "malformed configuration file in " ++ path
  | malformedPath error => error.message
  | noPosition => "position out of range"

/-- An error in a value that stands at a place of another value.  A dot stands between two names. -/
def within (step : Step) : Error → Error
  | wrongType found expected place origin =>
      let shown := match step with
        | .key name => if place.isEmpty || place.startsWith "[" then name else name ++ "."
        | .position n => "[" ++ toString n ++ "]"
      wrongType found expected (shown ++ place) origin
  | other => other

end Error

end Settings
end DocTree
