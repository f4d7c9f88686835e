import DocTree.Format.Params

/-!
# Extra arguments

Before the command line is read, the arguments that give extra parameters are taken out.  Such an
argument starts with `--extra-` or `--extras-`, behind which the name stands.  Its value is the next
argument, unless that starts with a hyphen or is missing; then the value is `true`.
-/

namespace DocTree
namespace Cli

open Format (Params)

/-- The name of the extra parameter that an argument gives. -/
def extraName? (arg : String) : Option String :=
  let behind := fun (start : String) =>
    if start.toList.isPrefixOf arg.toList then
      some (String.ofList (arg.toList.drop start.length))
    else none
  behind "--extra-" <|> behind "--extras-"

/-- Whether an argument may be the value of the one before it. -/
def isValue (arg : String) : Bool :=
  arg.toList.head? != some '-'

/-- Put in a parameter that got no value of its own. -/
def settle (pending : Option String) (extras : Params) : Params :=
  pending.elim extras fun name => extras.insert name "true"

/-- Take the extra parameters out of arguments: the other arguments, and the parameters.  The name
of a parameter whose value may follow is pending.  Of two values of one parameter the later one
counts. -/
def splitExtrasFrom (pending : Option String) (extras : Params) :
    List String → List String × Params
  | [] => ([], settle pending extras)
  | arg :: args =>
      match pending, isValue arg, extraName? arg with
      | some name, true, _ => splitExtrasFrom none (extras.insert name arg) args
      | _, _, some name => splitExtrasFrom (some name) (settle pending extras) args
      | _, _, none =>
          let split := splitExtrasFrom none (settle pending extras) args
          (arg :: split.1, split.2)

/-- Take the extra parameters out of arguments: the other arguments, and the parameters. -/
def splitExtras (args : List String) : List String × Params :=
  splitExtrasFrom none Params.empty args

end Cli
end DocTree
