import DocTree.Format.Params
import DocTree.Settings.Basic

/-!
# Extra parameters

The command line may give extra parameters.  Those that name a setting change the setting; the first
one with a bad value ends the program.  The others are handed to the format, together with the
settings of inspection, over which they win.
-/

namespace DocTree
namespace Settings

open Format (Params)

/-- An extra parameter with a bad value. -/
inductive BadExtra
  | option (error : Build.InvalidOption)
  /-- No truth value; the text is in lower case. -/
  | flag (name value : String)
  | number (name value : String)
deriving DecidableEq, Repr

/-- Text of an error. -/
def BadExtra.message : BadExtra → String
  | option error => error.message
  | flag name value => "Invalid boolean value '" ++ value ++ "' for --extra-" ++ name
  | number name value => "Invalid number '" ++ value ++ "' for --extra-" ++ name

/-- The truth value of an extra parameter. -/
def readFlag (name value : String) : Except BadExtra Bool :=
  let word := Text.lowercase value
  if ["true", "1", "yes", "y"].contains word then .ok true
  else if ["false", "0", "no", "n"].contains word then .ok false
  else .error (.flag name word)

/-- The number of an extra parameter. -/
def readNumber (name value : String) : Except BadExtra Nat :=
  match Text.readWord? value with
  | some n => .ok n
  | none => .error (.number name value)

/-- The value of a setting under extra parameters: that of the parameter with the name, if there is
one. -/
def overridden (extras : Params) (name : String) (convert : String → Except BadExtra α)
    (value : α) : Except BadExtra α :=
  match extras.get? name with
  | some s => convert s
  | none => .ok value

/-- The names of the extra parameters that change settings, in the order in which they do. -/
def settingNames : List String :=
  ["list-layout", "code-trim", "show-ids", "max-label", "diagnostics"]

/-- Settings under extra parameters. -/
def withExtras (settings : Settings) (extras : Params) : Except BadExtra Settings := do
  let listLayout ← overridden extras "list-layout"
    (fun s => (Build.ListLayout.ofName s).mapError .option) settings.build.listLayout
  let codeTrim ← overridden extras "code-trim"
    (fun s => (Build.CodeTrim.ofName s).mapError .option) settings.build.codeTrim
  let showIds ← overridden extras "show-ids" (readFlag "show-ids") settings.inspect.treeviz.showIds
  let maxLabel ← overridden extras "max-label" (readNumber "max-label")
    settings.inspect.treeviz.maxLabel
  let diagnostics ← overridden extras "diagnostics" (readFlag "diagnostics")
    settings.inspect.json.diagnostics
  return { settings with
    build := ⟨listLayout, codeTrim⟩
    inspect := ⟨⟨showIds, maxLabel⟩, ⟨diagnostics⟩⟩ }

/-- The extra parameters that change no setting. -/
def remaining (extras : Params) : Params :=
  settingNames.foldl Params.erase extras

/-- The parameters of a format: the settings of inspection, and extra parameters. -/
def InspectSettings.params (settings : InspectSettings) (extras : Params) : Params :=
  (Params.ofList
    [("show-ids", toString settings.treeviz.showIds),
      ("max-label", toString settings.treeviz.maxLabel),
      ("diagnostics", toString settings.json.diagnostics)]).insertAll extras

end Settings
end DocTree
