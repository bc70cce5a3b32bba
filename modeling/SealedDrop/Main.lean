import SealedDrop.CommandLine.Run
import SealedDrop.Host

/-!
# The program

Runs the command line on the host and passes on what it says.
-/

namespace SealedDrop

/-- A transport that reaches nothing: every request fails as it does without a network. -/
def offline (_ : Request) (_ : Option BearerToken) : IO (Except Error Response) :=
  return .error (.requestFailed none "error sending request: no network transport is available")

end SealedDrop

/-- Runs the program on the words after its name. -/
def main (words : List String) : IO UInt32 := do
  let outcome ← SealedDrop.Host.run SealedDrop.offline (← IO.mkRef []) (SealedDrop.CommandLine.run words)
  IO.print outcome.output
  IO.eprint outcome.complaint
  return outcome.code.toUInt32
