import Junction.Cli.Command

/-!
The command line of the gateway.
-/

namespace Junction.Cli

/-- The bytes of a file, if it can be read. -/
def readFile? (path : String) : IO (Option ByteArray) := do
  try
    return some (← IO.FS.readBinFile path)
  catch _ =>
    return none

/-- Prints what a command leaves, and gives its exit code. -/
def report (outcome : Outcome) : IO UInt32 := do
  if let some complaint := outcome.complaint? then
    IO.eprintln complaint
  for message in outcome.log do
    IO.println message.toJson.render
  return UInt32.ofNat outcome.exit

/-- Says how to use the command, and gives the exit code of a command line that is not run. -/
def reportHalt (halt : Halt) : IO UInt32 := do
  match halt with
  | .help => IO.println usage
  | .usage => IO.eprintln usage
  report (halted halt)

/-- What the environment gives. -/
def readEnvironment : IO Environment := do
  return { config? := ← IO.getEnv "GATEWAY_CONFIG", filter? := ← IO.getEnv "GATEWAY_LOG" }

/-- Runs a command line. -/
def run (arguments : List String) : IO UInt32 := do
  let environment ← readEnvironment
  match request arguments environment with
  | .error halt => reportHalt halt
  | .ok (options, path) => report (outcome options environment path (Config.load path (← readFile? path)))

end Junction.Cli

/-- Runs the command line. -/
def main (arguments : List String) : IO UInt32 := Junction.Cli.run arguments
