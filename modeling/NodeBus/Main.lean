import NodeBus.CommandLine

/-!
# The settings check

Reads a settings file, checks it, and prints what the daemon would serve. Only reading and printing happen
here.
-/
namespace NodeBus

def SystemError.ofIo : IO.Error → SystemError
  | .noFileOrDirectory .. => .notFound
  | .inappropriateType .. => .isDirectory
  | error => .other (toString error)

def Configuration.readFile (path : String) : IO (Except StartupError Configuration) := do
  let found ← (IO.FS.readBinFile path).toBaseIO
  return Configuration.ofBytes path ((found.mapError SystemError.ofIo).map (·.data.toList))

end NodeBus

open NodeBus in
/-- Checks the settings file that the arguments name. -/
def main (arguments : List String) : IO UInt32 := do
  match CommandLine.parse {} arguments with
  | .error error =>
    IO.eprintln error.message
    return 2
  | .ok options =>
    match ← Configuration.readFile options.configFile with
    | .error error =>
      IO.eprintln error.message
      return 1
    | .ok config =>
      for line in CommandLine.report config do
        IO.println line
      return 0
