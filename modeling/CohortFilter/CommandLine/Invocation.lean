import CohortFilter.CommandLine.Command
import CohortFilter.CommandLine.Usage

namespace CohortFilter

/-- A word as it is written. A value may be attached to an option; of letters in one word the first is
    an option and the others are its value. -/
inductive Argument
  | plain (word : String)
  | long (name : String) (value : Option String)
  | short (letter : Char) (value : Option String)
  | escape
deriving DecidableEq

namespace Argument

def attached? (chars : List Char) : Option String :=
  match chars.dropWhile (· != '=') with
  | [] => none
  | _ :: value => some (String.ofList value)

def besideLetter? : List Char → Option String
  | [] => none
  | '=' :: value => some (String.ofList value)
  | value => some (String.ofList value)

def ofWord (word : String) : Argument :=
  match word.toList with
  | ['-', '-'] => .escape
  | '-' :: '-' :: chars => .long (String.ofList (chars.takeWhile (· != '='))) (attached? chars)
  | '-' :: letter :: rest => .short letter (besideLetter? rest)
  | _ => .plain word

end Argument

inductive Setting
  | parameter (parameter : Parameter) (value : Option String)
  | switch (switch : Switch)

namespace Scope

/-- The setting of an option. Letters behind that of a switch have no effect, for all switches with a
    letter end the reading. -/
def setting (scope : Scope) : Argument → Except UsageError Setting
  | .long name value =>
    match scope.parameters.find? (·.name == name), scope.switches.find? (·.name == name), value with
    | some parameter, _, value => .ok (.parameter parameter value)
    | none, some switch, none => .ok (.switch switch)
    | none, some _, some _ => .error .unneededValue
    | none, none, _ => .error .unknownArgument
  | .short letter value =>
    match scope.parameters.find? (·.letter? == some letter),
        scope.switches.find? (·.letter? == some letter) with
    | some parameter, _ => .ok (.parameter parameter value)
    | none, some switch => .ok (.switch switch)
    | none, none => .error .unknownArgument
  | .plain _ | .escape => .error .unknownArgument

def stray : Scope → String → UsageError
  | .program, _ => .unknownCommand
  | .command _, _ => .unknownArgument

def escaped (scope : Scope) (word : String) : UsageError :=
  if word = CommandName.help || (CommandName.ofName? word).isSome then .unknownArgument
  else scope.stray word

def helpOn : List String → UsageError
  | [] => .help
  | [word] => if word = CommandName.help || (CommandName.ofName? word).isSome then .help else .unknownCommand
  | _ => .unknownCommand

end Scope

/-- What was given on one side of the command. An option whose value is not settled is due; its value may
    be the next word. -/
structure Given where
  values : List (Parameter × String)
  pretty : Bool
  due : Option (Parameter × Option String)

namespace Given

def nothing : Given := ⟨[], false, none⟩

def settle (given : Given) : Except UsageError Given :=
  match given.due with
  | none => .ok given
  | some (_, none) => .error .missingValue
  | some (parameter, some value) => do
    if (given.values.lookup parameter).isSome then throw .repeated
    parameter.check value
    return { given with values := (parameter, value) :: given.values, due := none }

def add (given : Given) (setting : Setting) : Except UsageError Given := do
  let given ← given.settle
  match setting with
  | .parameter parameter value =>
    let next := { given with due := some (parameter, value) }
    if value.isSome then next.settle else return next
  | .switch .pretty => if given.pretty then throw .repeated else return { given with pretty := true }
  | .switch .help => throw .help
  | .switch .version => throw .version

def read (scope : Scope) (given : Given) :
    List String → Except UsageError (Given × Option (CommandName × List String))
  | [] => .ok (given, none)
  | word :: rest =>
    match given.due, Argument.ofWord word with
    | some (parameter, none), .plain value =>
      read scope { given with due := some (parameter, some value) } rest
    | _, .plain word =>
      match scope, CommandName.ofName? word with
      | .program, some name => .ok (given, some (name, rest))
      | .program, none => .error (if word = CommandName.help then Scope.helpOn rest else scope.stray word)
      | .command _, _ => .error (scope.stray word)
    | _, .escape =>
      match rest with
      | [] => .ok (given, none)
      | word :: _ => .error (scope.escaped word)
    | _, argument => do read scope (← given.add (← scope.setting argument)) rest

end Given

structure Environment where
  logLevel : Option String
  maxDepth : Option String

namespace Environment

def isEmpty (environment : Environment) : Bool :=
  environment.logLevel.isNone && environment.maxDepth.isNone

def check (environment : Environment) (given : Given) : Except UsageError Unit :=
  match given.values.lookup .maxDepth, environment.maxDepth with
  | none, some depth => Parameter.check .maxDepth depth
  | _, _ => .ok ()

end Environment

namespace CommandName

def command? (name : CommandName) (value? : Parameter → Option String) : Option Command :=
  match name with
  | .compile => do return .compile (← value? .filter) (value? .workspace)
  | .resolve => do return .resolve (← value? .filter) (← value? .workspace)
  | .queryInfo => do
    return .queryInfo (← value? .tabs) (value? .anchorConfig) (value? .anchorValue) (value? .filter)
      (value? .workspace)

end CommandName

structure Invocation where
  command : Command
  logLevel : String
  maxDepth : Option Nat
  pretty : Bool
deriving DecidableEq

namespace Invocation

def standardLogLevel : String := "warn"

/-- The faults after the command are told before those of the values around it. -/
def ofWords (environment : Environment) (words : List String) : Except UsageError Invocation := do
  let (outer, found) ← Given.nothing.read .program words
  let some (name, rest) := found | do
    let outer ← outer.settle
    environment.check outer
    if outer.values.isEmpty && !outer.pretty && environment.isEmpty then throw .helpForNothing
    else throw .missingCommand
  let (inner, _) ← Given.nothing.read (.command name) rest
  let inner ← inner.settle
  environment.check inner
  let some command := name.command? fun parameter => inner.values.lookup parameter
    | throw .missingArgument
  let outer ← outer.settle
  environment.check outer
  let value? (parameter : Parameter) :=
    (inner.values.lookup parameter).or (outer.values.lookup parameter)
  return {
    command
    logLevel := ((value? .logLevel).or environment.logLevel).getD standardLogLevel
    maxDepth := ((value? .maxDepth).or environment.maxDepth).bind Parameter.number?
    pretty := inner.pretty || outer.pretty }

def run (files : Files) (invocation : Invocation) : Except CommandError String := do
  let value ← invocation.command.run files (DepthLimit.standard.merge invocation.maxDepth)
  return if invocation.pretty then value.pretty else value.compact

end Invocation

end CohortFilter
