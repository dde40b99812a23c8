import CohortFilter.CommandLine.Invocation

namespace CohortFilter.Program

def readText (name : String) : IO (Except FileFault String) := do
  try
    return Files.textOf (← IO.FS.readBinFile name)
  catch
    | .noFileOrDirectory .. => return .error .absent
    | error => return .error (.unavailable (toString error))

def readFiles (command : Command) : IO Files := do
  return Files.ofList (← command.fileNames.mapM fun name => do return (name, ← readText name))

def usage : String :=
  "Usage: [OPTIONS] <COMMAND>\n\n" ++
  "Commands:\n" ++
  "  compile     -f FILE [-w FILE]   compile a filter; null for an empty one\n" ++
  "  resolve     -f FILE -w FILE     put filter-sets in the place of their references\n" ++
  "  query-info  -t FILE [--anchor-config FILE] [--anchor-value VALUE] [-f FILE] [-w FILE]\n" ++
  "                                  plan the aggregation requests of filter tabs\n\n" ++
  "Options:\n" ++
  "  --log-level LEVEL   log filter directive\n" ++
  "  --max-depth N       nesting of filter-set references\n" ++
  "  --pretty            indent the output\n" ++
  "  -h, --help          print this text\n" ++
  "  -V, --version       print the version\n"

def version : String := "0.3.0"

def complaint : UsageError → String
  | .unknownCommand => "unrecognized command"
  | .unknownArgument => "unexpected argument"
  | .missingArgument => "a required option was not given"
  | .missingValue => "an option needs a value"
  | .repeated => "an option is given twice"
  | .unneededValue => "an option takes no value"
  | .invalidNumber => "a value is no number"
  | .missingCommand | .helpForNothing => "a command is needed"
  | .help | .version => ""

def explain : UsageError → IO UInt32
  | .help => do IO.print usage; return 0
  | .version => do IO.println version; return 0
  | .helpForNothing => do IO.eprint usage; return 2
  | error => do IO.eprintln ("error: " ++ complaint error); return 2

def run (words : List String) : IO UInt32 := do
  let environment : Environment :=
    ⟨← IO.getEnv "COHORTQL_LOG", ← IO.getEnv "COHORTQL_MAX_DEPTH"⟩
  match Invocation.ofWords environment words with
  | .error error => explain error
  | .ok invocation => do
    match invocation.run (← readFiles invocation.command) with
    | .ok text => do IO.println text; return 0
    | .error error => do IO.eprintln ("Error: " ++ error.message); return 1

end CohortFilter.Program

def main (words : List String) : IO UInt32 := CohortFilter.Program.run words
