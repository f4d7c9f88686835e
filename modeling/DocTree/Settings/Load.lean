import DocTree.Settings.Decode

/-!
# Loading settings

A loader is asked for files and overrides, in any order, and then layers the settings: the defaults,
then the files in their order, then the overrides.  A later layer wins key by key.  An outermost key
of a file is read as a path, if it is one.

**Files.**  A file that is not found under its path is looked for with the ending of a TOML file.
An optional file may be missing or no text, but a text must not be malformed.

**Overrides.**  Of several overrides of one path only the last one counts.
-/

namespace DocTree
namespace Settings

/-- Reads the bytes of a file, if there is one under the path. -/
abbrev FileReader (m : Type → Type) := String → m (Option ByteArray)

/-- A file to be layered over the settings so far. -/
structure Layer where
  path : String
  required : Bool := true
deriving DecidableEq, Repr

/-- Whether a part of a path leads nowhere. -/
def isIdlePart (part : String) : Bool :=
  part == "" || part == "."

/-- A path without the parts that lead nowhere. -/
def normalPath (path : String) : String :=
  "/".intercalate ((path.splitOn "/").filter fun part => !isIdlePart part)

/-- A path with the ending of a TOML file, which is put to the last part that leads somewhere, if
that part is a name. -/
def tomlPath? (path : String) : Option String :=
  match (path.splitOn "/").reverse.dropWhile isIdlePart with
  | [] => none
  | ".." :: _ => none
  | parts => some ("/".intercalate parts.reverse ++ ".toml")

/-- Put the entries of a file into the values so far. -/
def layer (values : Value) (entries : List (String × Value)) : Except Error Value :=
  entries.foldlM
    (fun values entry =>
      let path := (Path.parse entry.1).toOption.getD [.key entry.1]
      match entry.2.setAt? path values with
      | some set => .ok set
      | none => .error .noPosition)
    values

/-- Layer the text of a file, whose path is shown in messages, over the values so far. -/
def layerText (values : Value) (origin text : String) : Except Error Value :=
  match Toml.parse? text with
  | some entries => layer values (Value.ofEntries (some origin) entries)
  | none => .error (.malformedFile origin)

/-- The text of a file that was looked for under a path, and the path under which it is. -/
def fileText (path : String) (found : Option (String × ByteArray)) :
    Except Error (String × String) :=
  match found with
  | none => .error (.missingFile path)
  | some (origin, bytes) =>
      match String.fromUTF8? bytes with
      | some text => .ok (origin, text)
      | none => .error .noText

/-- An override: a path, and the value to be set there. -/
structure Override where
  path : Path
  value : Value

/-- Overrides without those that a later one makes void. -/
def effective : List Override → List Override
  | [] => []
  | first :: rest =>
      if rest.any fun later => later.path == first.path then effective rest
      else first :: effective rest

/-- Put overrides into values. -/
def applyOverrides (values : Value) (overrides : List Override) : Except Error Value :=
  (effective overrides).foldlM
    (fun values override =>
      match override.value.setAt? override.path values with
      | some set => .ok set
      | none => .error .noPosition)
    values

/-- The files and the overrides that a loader was asked for, each in their order. -/
structure Loader where
  files : List Layer := []
  overrides : List Override := []

/-- What a loader may be asked for. -/
inductive Request
  | file (file : Layer)
  /-- The text of a path, and the value to be set there. -/
  | override (key : String) (value : Value)

namespace Loader

/-- Ask a loader for a file. -/
def addFile (loader : Loader) (file : Layer) : Loader :=
  { loader with files := loader.files ++ [file] }

/-- Ask a loader for an override. -/
def setOverride (loader : Loader) (key : String) (value : Value) : Except Error Loader :=
  match Path.parse key with
  | .ok path => .ok { loader with overrides := loader.overrides ++ [⟨path, value⟩] }
  | .error error => .error (.malformedPath error)

/-- Ask a loader for something. -/
def take (loader : Loader) : Request → Except Error Loader
  | .file file => .ok (loader.addFile file)
  | .override key value => loader.setOverride key value

/-- Ask a loader for one thing after the other. -/
def takeAll (loader : Loader) (requests : List Request) : Except Error Loader :=
  requests.foldlM take loader

end Loader

section Files

variable {m : Type → Type} [Monad m]

/-- Find a file: the path under which it is, and its bytes. -/
def findFile (read : FileReader m) (path : String) : m (Option (String × ByteArray)) := do
  match ← read path with
  | some bytes => return some (normalPath path, bytes)
  | none =>
      match tomlPath? path with
      | none => return none
      | some file => return (← read file).map fun bytes => (normalPath file, bytes)

/-- Layer files over the values so far. -/
def layerFiles (read : FileReader m) (values : Value) : List Layer → m (Except Error Value)
  | [] => return .ok values
  | file :: files => do
      match fileText file.path (← findFile read file.path) with
      | .ok (origin, text) =>
          match layerText values origin text with
          | .ok layered => layerFiles read layered files
          | .error error => return .error error
      | .error error =>
          if file.required then return .error error else layerFiles read values files

/-- The settings of a loader. -/
def Loader.build (read : FileReader m) (loader : Loader) : m (Except Error Settings) :=
  return (← layerFiles read defaults loader.files).bind fun values =>
    (applyOverrides values loader.overrides).bind Value.toSettings

/-- The settings of a loader that was asked for something. -/
def loadAll (read : FileReader m) (requests : List Request) : m (Except Error Settings) :=
  match Loader.takeAll {} requests with
  | .error error => return .error error
  | .ok loader => loader.build read

/-- Load settings from files and overrides. -/
def load (read : FileReader m) (files : List Layer) (overrides : List (String × Value)) :
    m (Except Error Settings) :=
  loadAll read
    (files.map Request.file ++ overrides.map fun entry => Request.override entry.1 entry.2)

end Files

end Settings
end DocTree
