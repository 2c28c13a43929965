import ContainerNetwork.CommandLine.Execution

/-!
# The program

Hands the arguments, the environment, the configuration file and the standard input to the command
line and prints what it answers.
-/

namespace ContainerNetwork.CommandLine

/-- The configuration in a file of the host. -/
def loadFile (path : String) : IO (Except SetupFailure Settings) := do
  try
    return Settings.ofContent (← IO.FS.readBinFile path)
  catch _ => return .error .io

partial def readAll (stream : IO.FS.Stream) (read : ByteArray := .empty) : IO ByteArray := do
  let chunk ← stream.read 65536
  if chunk.isEmpty then return read
  readAll stream (read ++ chunk)

def print (outcome : Outcome) : IO Unit := do
  match outcome.output with
  | .nothing => pure ()
  | .help => IO.print helpText
  | .version text => IO.println text
  unless outcome.chain.isEmpty do
    IO.eprintln ("Error: " ++ Pieces.join ": " outcome.chain)

/-- Runs the program with its real surroundings. -/
def runProgram (arguments : List String) : IO UInt32 := do
  let environmentRoot ← IO.getEnv "SLUICE_ROOT"
  let (settings, input) ←
    match readArguments arguments environmentRoot with
    | .error _ => pure (.ok {}, .empty)
    | .ok invocation => do
        let settings ← (invocation.configFile.map loadFile).getD (pure (.ok {}))
        let input ←
          if invocation.subcommand = .up then readAll (← IO.getStdin) else pure .empty
        pure (settings, input)
  let outcome := outcome arguments environmentRoot (fun _ => settings) input
  print outcome
  return outcome.exitCode

end ContainerNetwork.CommandLine

def main (arguments : List String) : IO UInt32 :=
  ContainerNetwork.CommandLine.runProgram arguments
