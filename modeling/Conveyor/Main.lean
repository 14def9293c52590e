import Conveyor.Cli.Command
/-!
# The engine's executable

Gathers what the command reads from the machine: the arguments, the environment, and the
pipeline file with the files it names, read from the working directory. It then runs the
command, writes its lines to standard output and standard error, and exits with its code.
-/

namespace Conveyor.Cli

/-- Reads a file: its text, or whether it is missing or a directory. -/
def readPath (path : String) : IO Config.FileRead := do
  try
    let bytes ← IO.FS.readBinFile path
    return .text (Utf8.lossy bytes)
  catch e =>
    match e with
    | .noFileOrDirectory .. => return .missing
    | _ => return .directory

/-- The environment of the process, as `NAME=value` entries. -/
def environment : IO (List (String × String)) := do
  try
    let bytes ← IO.FS.readBinFile "/proc/self/environ"
    let entries := (Utf8.lossy bytes).splitOn "\x00"
    return entries.filterMap fun e =>
      match e.splitOn "=" with
      | name :: rest => if name.isEmpty then none else some (name, "=".intercalate rest)
      | [] => none
  catch _ =>
    let names := ["KAFKABASIC_LOG_LEVEL", "KAFKABASIC_LOG_JSON"]
    names.filterMapM fun n => do return (← IO.getEnv n).map (n, ·)

/-- Reads the files at some paths, adding them to those read before. -/
def readAll (known : List (String × Config.FileRead)) (paths : List String) :
    IO (List (String × Config.FileRead)) :=
  paths.foldlM (fun acc p => do
    if acc.any (·.1 == p) then return acc
    return acc ++ [(p, ← readPath p)]) known

end Conveyor.Cli

open Conveyor Cli in
/-- Runs the engine's command. -/
def main (args : List String) : IO UInt32 := do
  let env ← environment
  let path := pipelinePath args
  let first ← readAll [] [path]
  let lookup (files : List (String × Config.FileRead)) (p : String) : Config.FileRead :=
    (files.lookup p).getD .missing
  let files ← readAll first (Pipeline.reads { read := lookup first, env } path)
  let o := invoke { read := lookup files, env, clock := 0 } args
  let out ← IO.getStdout
  for l in o.stdout do out.putStrLn l
  out.flush
  let err ← IO.getStderr
  for l in o.stderr do err.putStrLn l
  err.flush
  return o.exitCode.toUInt32
