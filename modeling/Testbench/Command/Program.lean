import Testbench.Command.Actions
import Testbench.Command.Help
/-!
The program's command line.

The program takes global flags (only `--help`), then a command: `test`, `coverage` with one of
`summary`, `merge` and `diff`, or `help`. A command's flags may stand anywhere among its
arguments. A command line that cannot be read prints `Incorrect Usage` with the reason and the
command's help, and fails without exiting. An unknown command exits with code 3 and
`No help topic for '<name>'`. A command that fails otherwise prints its message on standard
error and exits with code 1.
-/

namespace Testbench.Program

open Console

/-- The program's name in help texts. -/
def name : String := "neounit"

/-- The global flags. -/
def globalFlags : List Flags.Spec := [Actions.helpFlag]

/-- The help command as help lists it. -/
def helpTopic (group : String) : Help.Topic :=
  { fullName := group ++ " help", names := ["help", "h"],
    usage := "Shows a list of commands or help for one command" }

/-- `test` as help describes it. -/
def testTopic : Help.Topic :=
  { fullName := name ++ " test", names := ["test"], usage := "Run unit tests of a compiled package",
    usageText := "neounit test [--path <dir>] [--address <name=addr>]... [--gas-limit <n>] [--coverage]\n" ++
      "\t[--coverage-file <file>] [--merge] [--compress] [--filter <substr>] [--list] [--workers <n>]\n" ++
      "\t[--config-file <file>] [--debug]",
    description := "Runs all test functions of the package in the given directory, each in a\n" ++
      "   fresh VM with the given gas limit. Named addresses the package declares\n" ++
      "   without a value must be bound with --address (or in the configuration\n" ++
      "   file), e.g. --address owner=0xaa. Exits with 1 if any test fails.",
    flags := Actions.testFlags }

/-- `coverage` as help describes it. -/
def coverageTopic : Help.Topic :=
  { fullName := name ++ " coverage", names := ["coverage"], usage := "Inspect and combine coverage files" }

/-- The coverage commands as help describes them. -/
def coverageTopics : List Help.Topic := [
  { fullName := name ++ " coverage summary", names := ["summary"], usage := "Print coverage summary",
    usageText := "neounit coverage summary [--coverage-file <file>] [--module <name>]",
    flags := Actions.summaryFlags },
  { fullName := name ++ " coverage merge", names := ["merge"], usage := "Merge coverage files",
    usageText := "neounit coverage merge --out <file> [--compress] <file> [<file>...]",
    flags := Actions.mergeFlags },
  { fullName := name ++ " coverage diff", names := ["diff"], usage := "Show coverage changes between two files",
    usageText := "neounit coverage diff <old> <new>" },
  helpTopic coverageTopic.fullName]

/-- The commands as help describes them. -/
def topics : List Help.Topic := [testTopic, coverageTopic, helpTopic name]

/-- The help text of the program. -/
def programHelp : String :=
  Help.programText { fullName := name, names := [name], usage := "Unit test runner for compiled contract packages" }
    topics globalFlags

/-- The help text of the coverage commands. -/
def coverageHelp : String := Help.groupText coverageTopic coverageTopics globalFlags

/-- The failure for a command that does not exist. -/
def noTopic (topic : String) : Failure := .exit ("No help topic for '" ++ topic ++ "'") 3

/-- Prints the help of a command among some, or fails if there is none of the name. -/
def showTopic {m : Type → Type} [Monad m] (among : List Help.Topic) (topic : String) :
    CommandM m (Except Failure Unit) := do
  match among.find? (·.names.contains topic) with
  | some found => say (Help.commandText found); return .ok ()
  | none => return .error (noTopic topic)

variable {m : Type → Type} [Monad m] [FileSystem m]

/-- Runs a command: its flags are read first, wherever they stand; `--help` prints its help. -/
def runCommand (topic : Help.Topic) (action : Flags.Reading → CommandM m (Except Failure Unit))
    (arguments : List String) : CommandM m (Except Failure Unit) := do
  let specs := topic.flags ++ [Actions.helpFlag]
  match Flags.parse specs (Flags.reorder specs arguments) with
  | .error problem =>
    say ("Incorrect Usage: " ++ problem.message ++ "\n\n" ++ Help.commandText topic)
    return .error (.usage problem.message)
  | .ok reading =>
    if reading.switch specs "help" then
      say (Help.commandText topic)
      return .ok ()
    action reading

/-- Runs `help`: the help of the program, or of the command named. -/
def runHelp (among : List Help.Topic) (whole : String) (arguments : List String) :
    CommandM m (Except Failure Unit) :=
  runCommand (helpTopic name) (fun reading => do
    match reading.arguments with
    | topic :: _ => showTopic among topic
    | [] => say whole; return .ok ()) arguments

/-- Runs `coverage` and its commands. -/
def runCoverage (arguments : List String) : CommandM m (Except Failure Unit) := do
  match Flags.parse globalFlags arguments with
  | .error problem =>
    say ("Incorrect Usage. " ++ problem.message ++ "\n\n" ++ coverageHelp)
    return .error (.usage problem.message)
  | .ok reading =>
    if reading.switch globalFlags "help" then
      say coverageHelp
      return .ok ()
    match reading.arguments with
    | "summary" :: rest => runCommand (coverageTopics.getD 0 coverageTopic) Actions.summary rest
    | "merge" :: rest => runCommand (coverageTopics.getD 1 coverageTopic) Actions.merge rest
    | "diff" :: rest => runCommand (coverageTopics.getD 2 coverageTopic) Actions.diff rest
    | "help" :: rest | "h" :: rest => runHelp coverageTopics coverageHelp rest
    | topic :: _ => return .error (noTopic topic)
    | [] => say coverageHelp; return .ok ()

/-- Runs the program on its arguments, without the program's own name. The failure, if any,
has had its message printed and its exit code recorded. -/
def run (arguments : List String) : CommandM m (Option Failure) := do
  let outcome ← show CommandM m (Except Failure Unit) from do
    match Flags.parse globalFlags arguments with
    | .error problem =>
      say ("Incorrect Usage. " ++ problem.message ++ "\n\n" ++ programHelp)
      return .error (.usage problem.message)
    | .ok reading =>
      if reading.switch globalFlags "help" then
        say programHelp
        return .ok ()
      match reading.arguments with
      | "test" :: rest => runCommand testTopic Actions.test rest
      | "coverage" :: rest => runCoverage rest
      | "help" :: rest | "h" :: rest => runHelp topics programHelp rest
      | topic :: _ => return .error (noTopic topic)
      | [] => say programHelp; return .ok ()
  match outcome with
  | .ok () => return none
  | .error failure =>
    settle failure
    return some failure

end Testbench.Program
