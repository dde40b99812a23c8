namespace CohortFilter

inductive UsageError
  | unknownCommand
  | unknownArgument
  | missingArgument
  | missingValue
  | repeated
  | unneededValue
  | invalidNumber
  | missingCommand
  | helpForNothing
  | help
  | version
deriving DecidableEq

inductive CommandName
  | compile
  | resolve
  | queryInfo
deriving DecidableEq

namespace CommandName

def all : List CommandName := [.compile, .resolve, .queryInfo]

def name : CommandName → String
  | .compile => "compile"
  | .resolve => "resolve"
  | .queryInfo => "query-info"

def ofName? (name : String) : Option CommandName := all.find? (·.name == name)

def help : String := "help"

end CommandName

inductive Parameter
  | filter
  | workspace
  | tabs
  | anchorConfig
  | anchorValue
  | logLevel
  | maxDepth
deriving DecidableEq

namespace Parameter

def name : Parameter → String
  | .filter => "filter"
  | .workspace => "workspace"
  | .tabs => "tabs"
  | .anchorConfig => "anchor-config"
  | .anchorValue => "anchor-value"
  | .logLevel => "log-level"
  | .maxDepth => "max-depth"

def letter? : Parameter → Option Char
  | .filter => some 'f'
  | .workspace => some 'w'
  | .tabs => some 't'
  | .anchorConfig | .anchorValue | .logLevel | .maxDepth => none

/-- A number of 64 bits in decimal digits, which may have a plus in front. -/
def number? (value : String) : Option Nat :=
  let digits := match value.toList with
    | '+' :: rest => rest
    | digits => digits
  if digits.isEmpty || !digits.all Char.isDigit then none
  else
    let number := digits.foldl (fun number c => 10 * number + (c.toNat - '0'.toNat)) 0
    if number < 0x10000000000000000 then some number else none

def check (parameter : Parameter) (value : String) : Except UsageError Unit :=
  match parameter with
  | .filter | .workspace | .tabs | .anchorConfig =>
    if value.isEmpty then .error .missingValue else .ok ()
  | .maxDepth => if (number? value).isSome then .ok () else .error .invalidNumber
  | .anchorValue | .logLevel => .ok ()

end Parameter

inductive Switch
  | pretty
  | help
  | version
deriving DecidableEq

namespace Switch

def name : Switch → String
  | .pretty => "pretty"
  | .help => "help"
  | .version => "version"

def letter? : Switch → Option Char
  | .pretty => none
  | .help => some 'h'
  | .version => some 'V'

end Switch

inductive Scope
  | program
  | command (name : CommandName)
deriving DecidableEq

namespace Scope

def parameters : Scope → List Parameter
  | .program => [.logLevel, .maxDepth]
  | .command .compile | .command .resolve => [.filter, .workspace, .logLevel, .maxDepth]
  | .command .queryInfo =>
    [.tabs, .anchorConfig, .anchorValue, .filter, .workspace, .logLevel, .maxDepth]

def switches : Scope → List Switch
  | .program => [.pretty, .help, .version]
  | .command _ => [.pretty, .help]

end Scope

end CohortFilter
