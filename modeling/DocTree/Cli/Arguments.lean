import DocTree.Inspect.Transform

/-!
# The command line

The command line consists of options and at most one command.  The options are the same before the
command and behind it.  `inspect` is the command that takes the path of a file and perhaps the name
of a transform.

**Once.**  Apart from the one for more detail in the log, each option stands at most once before the
command and at most once behind it; behind it the path of a configuration wins.  The two options on
the log exclude each other on either side.

**First.**  Help and the version are given as soon as they are asked for, whatever stands behind.
-/

namespace DocTree
namespace Cli

open Inspect (Transform)

/-- Options on one side of the command. -/
structure Flags where
  listTransforms : Bool := false
  config : Option String := none
  verbose : Bool := false
  quiet : Bool := false
deriving DecidableEq, Repr

/-- Whether any option is given. -/
def Flags.any (flags : Flags) : Bool :=
  flags.listTransforms || flags.config.isSome || flags.verbose || flags.quiet

/-- What is to be inspected, and how. -/
structure Inspection where
  path : String
  transform : Transform
deriving DecidableEq, Repr

/-- A command line that is well formed. -/
structure Invocation where
  listTransforms : Bool
  config : Option String
  inspection : Option Inspection
deriving DecidableEq, Repr

/-- Why a command line leads to no work. -/
inductive Stop
  | usage
  | help
  | version
deriving DecidableEq, Repr

/-! ## Options -/

/-- An option. -/
inductive Flag
  | listTransforms
  | verbose
  | quiet
  | help
  | version
deriving DecidableEq, Repr

/-- The option with a long name that takes no value. -/
def Flag.ofLong? (name : String) : Option Flag :=
  [("list-transforms", listTransforms), ("verbose", verbose), ("quiet", quiet), ("help", help),
    ("version", version)].lookup name

/-- The option with a letter. -/
def Flag.ofLetter? (letter : Char) : Option Flag :=
  [('v', verbose), ('q', quiet), ('h', help), ('V', version)].lookup letter

/-- Add an option to those on one side of the command.  The version is known before the command
only. -/
def Flags.add (flags : Flags) (inCommand : Bool) : Flag → Except Stop Flags
  | .listTransforms =>
      if flags.listTransforms then .error .usage else .ok { flags with listTransforms := true }
  | .verbose => .ok { flags with verbose := true }
  | .quiet => if flags.quiet then .error .usage else .ok { flags with quiet := true }
  | .help => .error .help
  | .version => .error (if inCommand then .usage else .version)

/-- Add the options whose letters stand behind one hyphen. -/
def Flags.addLetters (flags : Flags) (inCommand : Bool) (letters : List Char) : Except Stop Flags :=
  letters.foldlM
    (fun flags letter =>
      match Flag.ofLetter? letter with
      | some flag => flags.add inCommand flag
      | none => .error .usage)
    flags

/-- Add the path of a configuration. -/
def Flags.addConfig (flags : Flags) (path : String) : Except Stop Flags :=
  if flags.config.isSome then .error .usage else .ok { flags with config := some path }

/-- Whether an argument may be the value of an option. -/
def isOptionValue (arg : String) : Bool :=
  arg == "-" || arg.toList.head? != some '-'

/-- How an argument is to be read. -/
inductive Argument
  /-- What follows are values only. -/
  | rest
  | letters (letters : List Char)
  | long (name : String) (value : Option String)
  | value (s : String)
deriving DecidableEq, Repr

/-- Read the form of an argument. -/
def Argument.ofString (arg : String) : Argument :=
  match arg.toList with
  | ['-', '-'] => rest
  | '-' :: '-' :: chars =>
      let name := chars.takeWhile (· != '=')
      match chars.drop name.length with
      | _ :: more => long (String.ofList name) (some (String.ofList more))
      | [] => long (String.ofList name) none
  | '-' :: c :: chars => letters (c :: chars)
  | _ => value arg

/-- The options and values of a side of the command line.  Before the command the first value ends
the side: it and the arguments behind it are given back. -/
def readSide (inCommand : Bool) (flags : Flags) (values : List String) :
    List String → Except Stop (Flags × List String)
  | [] => .ok (flags, values.reverse)
  | arg :: args =>
      match Argument.ofString arg with
      | .rest => if inCommand then .ok (flags, values.reverse ++ args) else
          if args.isEmpty then .ok (flags, []) else .error .usage
      | .letters letters =>
          (flags.addLetters inCommand letters).bind fun flags =>
            readSide inCommand flags values args
      | .value value =>
          if inCommand then readSide inCommand flags (value :: values) args
          else .ok (flags, value :: args)
      | .long name (some value) =>
          if name == "config" then
            (flags.addConfig value).bind fun flags => readSide inCommand flags values args
          else .error .usage
      | .long name none =>
          if name == "config" then
            match args with
            | path :: args =>
                if isOptionValue path then
                  (flags.addConfig path).bind fun flags => readSide inCommand flags values args
                else .error .usage
            | [] => .error .usage
          else
            match Flag.ofLong? name with
            | some flag =>
                (flags.add inCommand flag).bind fun flags => readSide inCommand flags values args
            | none => .error .usage

/-- Check that the options on one side do not exclude each other. -/
def Flags.check (flags : Flags) : Except Stop Unit :=
  if flags.quiet && flags.verbose then .error .usage else .ok ()

/-! ## Commands -/

/-- The inspection that the values behind the command ask for. -/
def readInspection : List String → Except Stop Inspection
  | [path] => .ok ⟨path, Transform.default⟩
  | [path, name] =>
      match Transform.ofName? name with
      | some transform => .ok ⟨path, transform⟩
      | none => .error .usage
  | _ => .error .usage

/-- Read a command line. -/
def readArguments (args : List String) : Except Stop Invocation := do
  let (outer, command) ← readSide false {} [] args
  match command with
  | [] =>
      outer.check
      if outer.any then return ⟨outer.listTransforms, outer.config, none⟩
      else throw .usage
  | "inspect" :: args =>
      let (inner, values) ← readSide true {} [] args
      let inspection ← readInspection values
      inner.check
      outer.check
      return ⟨outer.listTransforms || inner.listTransforms, inner.config <|> outer.config,
        some inspection⟩
  | ["help"] => throw .help
  | ["help", "inspect"] => throw .help
  | ["help", "help"] => throw .help
  | _ => throw .usage

end Cli
end DocTree
