import ServingPreset.CommandLine

/-!
# The program

Runs the command line in the environment of the process. The program has no network of
its own, so every request fails as one that nobody answers.
-/

open ServingPreset in
/-- Run the command and print what it leaves behind. -/
def main (arguments : List String) : IO UInt32 := do
  let endpoint ← IO.getEnv CommandLine.endpointVariable
  let token ← IO.getEnv ({} : Settings).tokenVariable
  let environment (name : String) : Option String :=
    if name = CommandLine.endpointVariable then endpoint
    else if name = ({} : Settings).tokenVariable then token
    else none
  let outcome := CommandLine.run arguments environment Network.unreachable
  IO.print outcome.output
  IO.eprint outcome.diagnostics
  return outcome.exitCode.toUInt32
