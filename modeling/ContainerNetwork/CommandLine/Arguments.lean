import ContainerNetwork.Text.Pieces

/-!
# Arguments of the command line

The command line has one subcommand.  Options stand before or after it; of an option that all
subcommands share, the one after it counts.  An option is given at most once on each side.
-/

namespace ContainerNetwork.CommandLine

inductive Subcommand where
  | create
  | delete
  | up
  | down
  deriving DecidableEq

namespace Subcommand

def name : Subcommand → String
  | create => "create"
  | delete => "delete"
  | up => "up"
  | down => "down"

def ofName? (name : String) : Option Subcommand := [create, delete, up, down].find? (·.name = name)

/-- Whether a subcommand works on one container. -/
def needsHandle : Subcommand → Bool
  | create | delete => false
  | up | down => true

end Subcommand

/-- Why arguments are not carried out; asking for help or the version is one such reason. -/
inductive Rejection where
  | help
  | version (subcommand : Option Subcommand)
  | helpOnMissing
  | unknownArgument
  | invalidSubcommand
  | missingRequiredArgument
  | missingSubcommand
  | invalidValue
  | argumentConflict
  | tooManyValues
  deriving DecidableEq

namespace Rejection

def exitCode : Rejection → UInt32
  | help | version _ => 0
  | _ => 2

end Rejection

/-- The options that take a value. -/
inductive ValueOption where
  | root
  | configFile
  | handle
  deriving DecidableEq

namespace ValueOption

def name : ValueOption → String
  | root => "root"
  | configFile => "config-file"
  | handle => "handle"

/-- Whether the value is a path, which must not be empty. -/
def isPath : ValueOption → Bool
  | root | configFile => true
  | handle => false

end ValueOption

/-- The options given on one side of the subcommand. -/
structure Options where
  values : ValueOption → Option String := fun _ => none
  debug : Bool := false

namespace Options

def store (options : Options) (option : ValueOption) (value : String) :
    Except Rejection Options :=
  if (options.values option).isSome then .error .argumentConflict
  else if option.isPath ∧ value = "" then .error .invalidValue
  else
    .ok { options with
      values := fun other => if other = option then some value else options.values other }

end Options

/-- An option whose value is still to be stored; it is `none` until it was read. -/
structure PendingOption where
  option : ValueOption
  value : Option String := none

/-- What was read on one side of the subcommand. -/
structure Side where
  /-- The subcommand after which the side stands. -/
  subcommand : Option Subcommand := none
  options : Options := {}
  pending : Option PendingOption := none
  /-- Whether `--` ended the options. -/
  ended : Bool := false

namespace Side

/-- Stores the value of the option that was read last. -/
def settle (side : Side) : Except Rejection Side :=
  match side.pending with
  | none => .ok side
  | some { option, value := some value } =>
      (side.options.store option value).map fun options => { side with options, pending := none }
  | some { option := _, value := none } => .error .invalidValue

/-- The option awaiting its value as an argument of its own. -/
def awaited? (side : Side) : Option ValueOption :=
  match side.pending with
  | some { option, value := none } => some option
  | _ => none

/-- The options with a value that may stand on this side. -/
def valueOptions (side : Side) : List ValueOption :=
  if side.subcommand.any Subcommand.needsHandle then [.root, .configFile, .handle]
  else [.root, .configFile]

/-- An option without value. -/
def readFlag (side : Side) (name : String) : Except Rejection Side :=
  match name with
  | "help" => side.settle >>= fun _ => .error .help
  | "version" => side.settle >>= fun side => .error (.version side.subcommand)
  | _ => side.settle >>= fun side =>
      if side.options.debug then .error .argumentConflict
      else .ok { side with options := { side.options with debug := true } }

/-- An option by its long name, with the value that is attached to it. -/
def readLong (side : Side) (name : String) (value : Option String) : Except Rejection Side :=
  match side.valueOptions.find? (·.name = name) with
  | some option =>
      side.settle >>= fun side =>
        match value with
        | none => .ok { side with pending := some { option } }
        | some value =>
            (side.options.store option value).map fun options => { side with options }
  | none =>
      if name = "help" ∨ name = "version" ∨ name = "debug" then
        if value.isSome then .error .tooManyValues else side.readFlag name
      else .error .unknownArgument

/-- Options by their letters, of which the first decides. -/
def readShort (side : Side) (letter : Char) : Except Rejection Side :=
  if letter = 'h' then side.readFlag "help"
  else if letter = 'V' then side.readFlag "version"
  else .error .unknownArgument

/-- An argument that is neither option nor value. -/
def refuse (side : Side) (argument : String) : Rejection :=
  match side.subcommand with
  | some _ => .unknownArgument
  | none =>
      if side.ended ∧ ((Subcommand.ofName? argument).isSome ∨ argument = "help") then
        .unknownArgument
      else .invalidSubcommand

/-- The name and the attached value of a long option. -/
def splitLong (text : List Char) : String × Option String :=
  let name := String.ofList (text.takeWhile (· ≠ '='))
  match text.dropWhile (· ≠ '=') with
  | [] => (name, none)
  | _ :: value => (name, some (String.ofList value))

def read (side : Side) (argument : String) : Except Rejection Side :=
  if side.ended then .error (side.refuse argument)
  else
    match argument.toList with
    | ['-', '-'] => .ok { side with ended := true }
    | '-' :: '-' :: long => let (name, value) := splitLong long; side.readLong name value
    | '-' :: letter :: _ => side.readShort letter
    | _ =>
        match side.awaited? with
        | some option => .ok { side with pending := some { option, value := some argument } }
        | none => .error (side.refuse argument)

/-- Whether the next argument may be a subcommand. -/
def expectsSubcommand (side : Side) : Bool := ¬side.ended && side.awaited?.isNone

/-- The options of a side that is read to its end.  Where it has no root, the one of the
environment stands in. -/
def finish (side : Side) (environmentRoot : Option String) : Except Rejection Options := do
  let { options, .. } ← side.settle
  match options.values .root, environmentRoot with
  | none, some root =>
      if root = "" then throw .invalidValue
      return options
  | _, _ => return options

end Side

/-- Reads the arguments before the subcommand, down to it. -/
def readBefore (side : Side) : List String → Except Rejection (Side × Option (String × List String))
  | [] => .ok (side, none)
  | argument :: rest =>
      if side.expectsSubcommand ∧ ((Subcommand.ofName? argument).isSome ∨ argument = "help") then
        .ok (side, some (argument, rest))
      else side.read argument >>= fun side => readBefore side rest

/-- What the arguments ask for. -/
structure Invocation where
  root : Option String
  configFile : Option String
  debug : Bool
  subcommand : Subcommand
  handle : Option String
  deriving DecidableEq

/-- The help that the arguments of `help` name: of the program, a subcommand or `help` itself. -/
def helpOn : List String → Rejection
  | [] => .help
  | [name] => if (Subcommand.ofName? name).isSome ∨ name = "help" then .help else .invalidSubcommand
  | _ => .invalidSubcommand

/-- Ends a command line without a subcommand. -/
def withoutSubcommand (before : Side) (environmentRoot : Option String) : Rejection :=
  match before.finish environmentRoot with
  | .error rejection => rejection
  | .ok options =>
      if options.debug ∨ (options.values .root).isSome ∨ (options.values .configFile).isSome
          ∨ environmentRoot.isSome then
        .missingSubcommand
      else .helpOnMissing

/-- Reads the arguments after a subcommand and puts both sides together. -/
def withSubcommand (before : Side) (subcommand : Subcommand) (arguments : List String)
    (environmentRoot : Option String) : Except Rejection Invocation := do
  let after ← arguments.foldlM Side.read { subcommand := some subcommand }
  let inner ← after.finish environmentRoot
  let handle := inner.values .handle
  if subcommand.needsHandle ∧ handle.isNone then throw .missingRequiredArgument
  let outer ← before.finish environmentRoot
  let shared (option : ValueOption) : Option String :=
    (inner.values option).or (outer.values option)
  return {
    root := (shared .root).or environmentRoot
    configFile := shared .configFile
    debug := inner.debug || outer.debug
    subcommand
    handle }

/-- The invocation that the arguments and the root of the environment spell. -/
def readArguments (arguments : List String) (environmentRoot : Option String) :
    Except Rejection Invocation := do
  let (before, found) ← readBefore {} arguments
  match found with
  | none => throw (withoutSubcommand before environmentRoot)
  | some (name, rest) =>
      match Subcommand.ofName? name with
      | some subcommand => withSubcommand before subcommand rest environmentRoot
      | none => throw (helpOn rest)

end ContainerNetwork.CommandLine
