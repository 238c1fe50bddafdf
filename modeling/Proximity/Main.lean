import Proximity.Cli.Run

/-!
# The program

Reads what a command line asks for and prints what the command leaves behind.
-/
namespace Proximity.Cli
set_option autoImplicit false

/-- The numbers of the usual reasons why a file cannot be read, with their names. -/
def systemErrors : List (UInt32 × String) :=
  [(2, "No such file or directory"), (13, "Permission denied"), (20, "Not a directory"),
    (21, "Is a directory"), (36, "File name too long"), (40, "Too many levels of symbolic links")]

/-- A reason of the system, from its number, which may come with the sign turned round, and a name for it
in case that the number is not a usual one. -/
def systemCause (code : UInt32) (name : String) : String :=
  let number := min code (0 - code)
  (systemErrors.lookup number).getD name ++ " (os error " ++ toString number ++ ")"

/-- Why a file cannot be read. -/
def ioCause (e : IO.Error) : String :=
  match e with
  | .noFileOrDirectory _ code details
  | .permissionDenied _ code details
  | .inappropriateType _ code details
  | .invalidArgument _ code details
  | .resourceExhausted _ code details
  | .otherError code details => systemCause code details
  | e => toString e

/-- The octets of the file that a command line names, `-` being the standard input. -/
def fetch (args : List String) : IO (Except String ByteArray) := do
  match (Invocation.parse args).map Invocation.command with
  | some (.document path) =>
    try
      if path = "-" then return .ok (← (← IO.getStdin).readBinToEnd)
      else return .ok (← IO.FS.readBinFile path)
    catch e => return .error (ioCause e)
  | _ => return .ok ByteArray.empty

/-- Whether the terminal shows colours. -/
def showsColours : IO Bool := do
  let terminal ← IO.getEnv "TERM"
  let plain ← IO.getEnv "NO_COLOR"
  return terminal.isSome && terminal != some "dumb" && plain.isNone

end Proximity.Cli

open Proximity.Cli in
/-- Runs the program. -/
def main (args : List String) : IO UInt32 := do
  let contents ← fetch args
  let host : Host := ⟨← IO.getEnv "RUST_LOG", ← showsColours, fun _ => contents⟩
  let report := run host args
  (← IO.getStdout).putStr report.output
  (← IO.getStderr).putStr report.errors
  return report.code
