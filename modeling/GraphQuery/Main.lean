import GraphQuery.CommandLine.Network

/-
This file is the program.
-/

open GraphQuery.CommandLine in
/-- The program writes what it leaves behind and exits with its code. -/
def main (arguments : List String) : IO UInt32 := do
  let output ← IO.getStdout
  let url ← IO.getEnv "GQLNODES_URL"
  let outcome ← perform Network.surroundings url (← output.isTty) arguments
  output.putStr outcome.output
  (← IO.getStderr).putStr outcome.diagnostics
  return outcome.code.toUInt32
