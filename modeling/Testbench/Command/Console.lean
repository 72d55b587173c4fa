import Testbench.Files.Operations
/-!
What a command run leaves behind: the text on standard output and standard error, and the exit
code if the program asked to exit. A command that fails with an exit code has its message
printed on standard error, followed by a line break, before the program exits with the code.
-/

namespace Testbench

/-- The output of a command run. -/
structure Console where
  /-- Standard output. -/
  out : String := ""
  /-- Standard error. -/
  err : String := ""
  /-- The code the program exited with, if it exited. -/
  exitCode : Option Nat := none
  deriving Repr, DecidableEq

/-- How a command failed. -/
inductive Failure where
  /-- The program exits with the code after printing the message. -/
  | exit (message : String) (code : Nat)
  /-- The command line was wrong; the message has been printed with help. -/
  | usage (message : String)
  deriving Repr, DecidableEq

/-- The message of a failure. -/
def Failure.message : Failure → String
  | .exit message _ => message
  | .usage message => message

/-- Commands run in a monad of files, printing to a console. -/
abbrev CommandM (m : Type → Type) := StateT Console m

namespace Console

variable {m : Type → Type} [Monad m]

/-- Prints to standard output. -/
def say (text : String) : CommandM m Unit := modify fun console => { console with out := console.out ++ text }

/-- Prints a failure's message on standard error and records its exit code. -/
def settle (failure : Failure) : CommandM m Unit :=
  match failure with
  | .exit message code => modify fun console =>
    { console with
      err := if message.isEmpty then console.err else console.err ++ message ++ "\n"
      exitCode := some code }
  | .usage _ => pure ()

end Console

end Testbench
