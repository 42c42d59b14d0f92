import Destructure.CommandLine.Report
import Destructure.Regex.BuiltIn

set_option autoImplicit false

/-! # The program

Reads the file that the command names and prints the answer. -/

open Destructure

/-- The content of a file, or why it cannot be read. -/
def readContent (path : String) : IO (Except String String) := do
  match ← (IO.FS.readFile path).toBaseIO with
  | .ok content => return .ok content
  | .error (.noFileOrDirectory _ code _) =>
    return .error ("No such file or directory (os error " ++ toString code ++ ")")
  | .error e => return .error (toString e)

/-- The answer to arguments. -/
def answerArguments (args : List String) : IO Report := do
  match Command.parse args with
  | .error e => return e.report
  | .ok command =>
    match command.path? with
    | none => return command.report Regex.builtIn (.ok "")
    | some path => do
      let content ← readContent path
      return command.report Regex.builtIn content

def main (args : List String) : IO UInt32 := do
  let report ← answerArguments args
  (← IO.getStdout).putStr report.output
  (← IO.getStderr).putStr report.errors
  return report.exitCode.toUInt32
