import Casement.Demo

/-!
# The command line

Takes the path of a configuration file, or nothing; the environment tells how much is logged.
-/

namespace Casement.Demo

/-- Reads a file as text. -/
def readFile (path : String) : IO (Except FileError String) := do
  let bytes : Option ByteArray ← try
      pure (some (← IO.FS.readBinFile path))
    catch _ => pure none
  match bytes with
  | none => return .error .notFound
  | some bytes => return ((String.fromUTF8? bytes).map Except.ok).getD (.error .notText)

end Casement.Demo

open Casement in
def main (args : List String) : IO UInt32 := do
  let contents ← match args with
    | path :: _ => Demo.readFile path
    | [] => pure (.error .notFound)
  let outcome := Demo.run args.head? fun path => DemoConfig.schema.load path contents
  let filter := ((← IO.getEnv "RUST_LOG").bind Demo.Filter.ofName?).getD Demo.Filter.default
  for line in outcome.bracketedLines ("crashed: " ++ ·.message) filter do
    IO.eprintln line
  return UInt32.ofNat outcome.ending.code
