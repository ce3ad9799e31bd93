-- SUMMARY: The program `celex`.
import ExprLexer.Command

/-!
# The program

Reads the files that the command line names, then writes what `Command.run`
reports.
-/

open ExprLexer

/-- The report of the system on a file that could not be read. -/
def readError : IO.Error → ReadError
  | .noFileOrDirectory .. => .missing
  | .permissionDenied _ code details => .failed s!"{details} (os error {code})"
  | .inappropriateType _ code details => .failed s!"{details} (os error {code})"
  | .invalidArgument _ code details => .failed s!"{details} (os error {code})"
  | e => .failed (toString e)

/-- The text of a file. -/
def readFile (path : String) : IO (Except ReadError String) := do
  try
    return ReadError.decode (← IO.FS.readBinFile path)
  catch e => return .error (readError e)

def main (args : List String) : IO UInt32 := do
  let paths := match Command.parse args with
    | .ok (_, .files paths) => paths
    | _ => []
  let texts ← paths.mapM fun path => return (path, ← readFile path)
  let read path := (texts.lookup path).getD (.error .missing)
  match Command.run read args with
  | .error fault =>
    IO.eprintln fault.message
    return 101
  | .ok outcome =>
    IO.print outcome.out
    IO.eprint outcome.err
    return UInt32.ofNat outcome.exitCode
