import CoinQuery.CommandLine.Run

/-!
# The command line

Reads the arguments, the input where it is needed, and the files that are named; prints what the
command leaves behind.
-/

namespace CoinQuery.CommandLine

/-- Why a file could not be read. -/
def readFailure : IO.Error → String
  | .noFileOrDirectory .. => "No such file or directory (os error 2)"
  | .permissionDenied .. => "Permission denied (os error 13)"
  | .inappropriateType .. => "Is a directory (os error 21)"
  | error => toString error

/-- Reads the files that a command will ask for. -/
def readFiles (paths : List String) : IO Files := do
  let contents ← paths.mapM fun (path : String) => do
    match ← (IO.FS.readFile path).toBaseIO with
    | .ok text => pure (path, Except.ok text)
    | .error error => pure (path, Except.error (readFailure error))
  pure fun path => ((contents.find? (·.1 == path)).map (·.2)).getD (.error "not read")

end CoinQuery.CommandLine

open CoinQuery.CommandLine in
def main (arguments : List String) : IO UInt32 := do
  let stdout ← IO.getStdout
  let stderr ← IO.getStderr
  let invocation := Invocation.parse (← stdout.isTty) arguments
  let (input, paths) ← match invocation with
    | .run o =>
      let input ← if o.needsInput then (← IO.getStdin).readToEnd else pure ""
      pure (input, o.configPath.toList ++ o.resultsPath.toList)
    | _ => pure ("", [])
  let outcome := run invocation input (← readFiles paths)
  stdout.putStr outcome.output
  stdout.flush
  stderr.putStr outcome.errors
  pure outcome.code.toUInt32
