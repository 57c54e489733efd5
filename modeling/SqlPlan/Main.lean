import SqlPlan.CommandLine.Commands

/-!
# SqlPlan — the program

Everything the program does is `runProgram`. Here the files that a command
line asks for are read, and what comes of it is printed.
-/

namespace SqlPlan.Program

/-- A failure of the system in words. Its code may be given by its negative. -/
def systemText (details : String) (code : UInt32) : String :=
  details.capitalize ++ " (os error " ++ toString code.toInt32.toInt.natAbs ++ ")"

/-- Why a file cannot be read. -/
def readFailure : IO.Error → String
  | .noFileOrDirectory _ code details => systemText details code
  | .permissionDenied _ code details => systemText details code
  | .inappropriateType _ code details => systemText details code
  | .invalidArgument _ code details => systemText details code
  | .illegalOperation code details => systemText details code
  | .otherError code details => systemText details code
  | .userError _ => "stream did not contain valid UTF-8"
  | e => toString e

/-- The contents of a file, or why there are none. -/
def contents (path : String) : IO (Except String String) := do
  try return .ok (← IO.FS.readFile path)
  catch e => return .error (readFailure e)

/-- The contents of some files. -/
def readFiles (paths : List String) : IO Files := do
  let found ← paths.mapM fun path => do return (path, ← contents path)
  return fun path => (found.lookup path).getD (.error "not read")

/-- The environment of the program. -/
def environment : IO Environment := do
  let found ← Variable.all.mapM fun v => do return (v, ← IO.getEnv v.name)
  return fun v => (found.lookup v).join

end SqlPlan.Program

open SqlPlan SqlPlan.Program

def main (words : List String) : IO UInt32 := do
  let paths :=
    match builtinCommands.read words with
    | .ok i => i.files
    | .error _ => []
  let outcome := runProgram (← readFiles paths) (← environment) words
  IO.print outcome.output
  IO.eprint outcome.errors
  return outcome.exit.toUInt32
