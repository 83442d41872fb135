import DeviceRegex.CommandLine

/-!
# The program

Runs the command line on the arguments of the process.
-/

def main (arguments : List String) : IO UInt32 := do
  let result := DeviceRegex.CommandLine.run (.named "command line") arguments
  IO.print result.output
  IO.eprint result.errors
  return result.exitCode.toUInt32
