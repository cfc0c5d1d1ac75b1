import CloudClient.Console

/-!
# The program

Reads the environment, runs the command line once and writes what it has to say.
-/

open CloudClient in
/-- Runs the command line on the arguments of the process. -/
def main (arguments : List String) : IO UInt32 := do
  let environment : Environment :=
    { defaultFormat := ← IO.getEnv "DEFAULT_DATE_FORMAT"
      centuryPivot := ← IO.getEnv "RFC822_CENTURY_PIVOT"
      logLevel := ← IO.getEnv "LOG_LEVEL" }
  match Settings.ofEnvironment environment with
  | .error e =>
    IO.eprintln e.message
    return 1
  | .ok settings =>
    let (console, run) := (Console.start settings).run true arguments
    IO.print (unlines run.output)
    IO.eprint (unlines (console.errorLines run))
    match run.ending with
    | .exit status => return status.toUInt32
    | .unknownLevel name =>
      IO.eprintln (unknownLevelMessage name)
      return 1
    | .failure e =>
      IO.eprintln e.message
      return 1
