import DocTree.Cli.Arguments
import DocTree.Cli.Extras
import DocTree.Settings.Extras
import DocTree.Settings.Load

/-!
# Running the program

A run reads files and ends with a status and with what it printed.  What goes wrong on the way ends
it with the status 1 and a line of explanation; a malformed command line ends it with the status 2.

**Order.**  The list of transforms is printed before the settings are loaded, and the settings are
complete before the file to be inspected is read.
-/

namespace DocTree
namespace Cli

open Format (Params)

/-- How a run ended. -/
structure Exit where
  status : Nat
  stdout : String
  stderr : String
deriving DecidableEq, Repr

/-- What may go wrong when a file is read. -/
inductive ReadError
  | missing
  | directory
  /-- A file stands where the path needs a directory. -/
  | noDirectory
  /-- The bytes are no text. -/
  | malformed
deriving DecidableEq, Repr

/-- Text of an error. -/
def ReadError.message : ReadError → String
  | missing => "No such file or directory (os error 2)"
  | directory => "Is a directory (os error 21)"
  | noDirectory => "Not a directory (os error 20)"
  | malformed => "stream did not contain valid UTF-8"

/-- What may end a run with the status 1. -/
inductive RunError
  | settings (error : Settings.Error)
  | extra (error : Settings.BadExtra)
  | noCommand
  | file (path : String) (error : ReadError)
  | transform (error : Inspect.TransformError)
deriving DecidableEq, Repr

/-- The line that explains an error. -/
def RunError.message : RunError → String
  | settings error => "Failed to load configuration: " ++ error.message
  | extra error => error.message
  | noCommand => "Unknown subcommand. Use --help for usage information."
  | file path error => "Error reading file '" ++ path ++ "': " ++ error.message
  | transform error => "Execution error: " ++ error.message

/-- The end of a run that succeeded or failed. -/
def Exit.ofResult : Except RunError String → Exit
  | .ok output => ⟨0, output, ""⟩
  | .error error => ⟨1, "", error.message ++ "\n"⟩

/-! ## Fixed texts -/

/-- Name and version of the program. -/
def versionText : String := "mdtree 0.1.0\n"

/-- How to use the program. -/
def helpText : String :=
  "Inspect the semantic tree built from markdown files\n\n" ++
    "Usage: mdtree [OPTIONS] [COMMAND]\n\n" ++
    "Commands:\n  inspect  Inspect the trees built from a markdown file\n"

/-- The list of transforms and of formats. -/
def transformList : String :=
  let transforms := Inspect.Transform.all.map fun transform => "  " ++ transform.name ++ "\n"
  let formats := Format.Registry.builtin.formats.map fun format =>
    "  " ++ Inspect.padRight 12 format.name ++ format.description ++ "\n"
  "Available transforms:\n\n" ++
    "Stages:\n" ++
    "  parse       - Parse tree (comrak output lowered into closed node kinds)\n" ++
    "  tree        - Semantic tree (what the builders produce)\n\n" ++
    "Available transform combinations:\n" ++ String.join transforms ++
    "\nTree formats:\n" ++ String.join formats

/-! ## Runs -/

/-- What a reader of files finds under a path. -/
inductive Found
  | missing
  | directory
  /-- A file, and more of the path behind it. -/
  | beyondFile
  | bytes (bytes : ByteArray)

/-- The bytes that were found. -/
def Found.bytes? : Found → Option ByteArray
  | bytes content => some content
  | _ => none

/-- The text that was found. -/
def Found.text : Found → Except ReadError String
  | missing => .error .missing
  | directory => .error .directory
  | beyondFile => .error .noDirectory
  | bytes content =>
      match String.fromUTF8? content with
      | some s => .ok s
      | none => .error .malformed

/-- The output of an inspection of what was found. -/
def Inspection.output (inspection : Inspection) (settings : Settings) (extras : Params)
    (found : Found) : Except RunError String :=
  match found.text with
  | .error error => .error (.file inspection.path error)
  | .ok source =>
      let params := settings.inspect.params extras
      let doc := Inspect.parseDocument settings.markdown.options source
      (inspection.transform.output params settings.build doc).mapError .transform

/-- The files with settings: the optional one of the working directory, and the one that the command
line names. -/
def settingsFiles (config : Option String) : List Settings.Layer :=
  ⟨"mdtree.toml", false⟩ :: config.toList.map fun path => ⟨path, true⟩

section Runs

variable {m : Type → Type} [Monad m]

/-- Run a well-formed command line that asks for more than a list. -/
def work (read : String → m Found) (invocation : Invocation) (extras : Params) :
    m (Except RunError String) := do
  let settingsReader := fun path => return (← read path).bytes?
  match ← Settings.load settingsReader (settingsFiles invocation.config) [] with
  | .error error => return .error (.settings error)
  | .ok settings =>
      match Settings.withExtras settings extras, invocation.inspection with
      | .error error, _ => return .error (.extra error)
      | .ok _, none => return .error .noCommand
      | .ok settings, some inspection =>
          return inspection.output settings (Settings.remaining extras) (← read inspection.path)

/-- Run the program with arguments. -/
def run (read : String → m Found) (args : List String) : m Exit := do
  let split := splitExtras args
  match readArguments split.1 with
  | .error .usage => return ⟨2, "", ""⟩
  | .error .help => return ⟨0, helpText, ""⟩
  | .error .version => return ⟨0, versionText, ""⟩
  | .ok invocation =>
      if invocation.listTransforms then return ⟨0, transformList, ""⟩
      else return .ofResult (← work read invocation split.2)

end Runs

end Cli
end DocTree
