import SchemaGen.CommandLine.Arguments
import SchemaGen.LogFilter
import SchemaGen.Run

/-!
# The command

What the command does with its arguments, what it prints, and the status that it ends with: zero,
one for a run that fails, two for arguments that are wrong and for a check that finds differences.

* `Output`: what is printed, and the status.
* `execute`: the command.
-/

namespace SchemaGen.CommandLine

/-- What the command prints, and the status that it ends with. -/
structure Output where
  status : Nat
  stdout : String := ""
  stderr : String := ""
  deriving DecidableEq, Repr

/-- The text that explains the command. -/
def helpText : String :=
  "Generate TypeScript Zod schemas from DTO manifests\n" ++
  "\n" ++
  "Usage: dto-zod [OPTIONS]\n" ++
  "\n" ++
  "Options:\n" ++
  "  -i, --input <INPUT>    Manifest file, or directory containing *.dto.json / *.dto.toml files\n" ++
  "  -o, --output <OUTPUT>  Output directory for generated TypeScript files\n" ++
  "  -c, --config <CONFIG>  Configuration file path\n" ++
  "      --filter <FILTER>  Filter manifests by path pattern (glob)\n" ++
  "      --emit-helpers     Also write the shared helpers module\n" ++
  "      --dry-run          Preview changes without writing files\n" ++
  "      --check            Verify generated files are up-to-date without writing\n" ++
  "  -h, --help             Print help\n" ++
  "  -V, --version          Print version\n"

/-- The text that tells the version. -/
def versionText : String :=
  "dto-zod 0.1.0\n"

/-- The line around a module that is only shown. -/
def rule : String :=
  String.ofList (List.replicate 60 '\u2500') ++ "\n"

/-- What is printed about a module in place of storing it. -/
def previewText : Treatment → String
  | .previewed path content =>
    "[dry-run] Would write to " ++ path ++ ":\n" ++ rule ++ content ++ rule
  | _ => ""

/-- What is printed about a file that differs. -/
def staleText : Treatment → String
  | .stale path .missing => "  missing " ++ path ++ "\n"
  | t => "  outdated " ++ t.path ++ "\n"

/-- What is printed about an error. -/
def errorText (e : RunError) : String :=
  "Error: " ++ e.message ++ "\n"

/-- What a run that succeeds prints, and the status. -/
def outputOf (mode : Mode) (outcome : Outcome) : Output :=
  match mode with
  | .write => { status := 0 }
  | .dryRun => { status := 0, stdout := String.join (outcome.results.map previewText) }
  | .check =>
    if outcome.stale.isEmpty then { status := 0, stdout := "\u2713 Schemas are up-to-date\n" }
    else
      { status := 2
        stdout :=
          "\u2717 Schemas are out of date\n" ++ String.join (outcome.stale.map staleText) ++
            "  Run 'dto-zod' to update\n"
        stderr := errorText (.stale outcome.stale.length) }

/-- Refuses a log filter that is not well formed.  Where the environment tells the filter, that of
the configuration is not looked at. -/
def checkLog (config : Config) (fromEnvironment : Bool) : Except ConfigError Unit :=
  if fromEnvironment then .ok ()
  else
    match LogFilter.check config.logLevel with
    | .ok () => .ok ()
    | .error fault => .error (.invalidValue "logging.level" fault.message)

/-- A run as the command asks for it. -/
def perform (walker : Walker) (invocation : Invocation) (logFromEnvironment : Bool) :
    Job RunError Outcome := do
  let config ← (Config.load invocation.config).adapt .config
  (MonadExcept.ofExcept (checkLog config logFromEnvironment) : Job ConfigError Unit).adapt .config
  Run.run walker (config.withArguments invocation.arguments) invocation.mode

/-- The command. -/
def execute (walker : Walker) (arguments : List String) (logFromEnvironment : Bool) :
    StateM Session Output := do
  match Request.ofArguments arguments with
  | .help => return { status := 0, stdout := helpText }
  | .version => return { status := 0, stdout := versionText }
  | .refused e => return { status := 2, stderr := e.message }
  | .run invocation =>
    match ← (perform walker invocation logFromEnvironment).run with
    | .ok outcome => return outputOf invocation.mode outcome
    | .error e => return { status := 1, stderr := errorText e }

end SchemaGen.CommandLine
