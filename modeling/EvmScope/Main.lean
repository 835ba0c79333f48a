import EvmScope.Program

/-!
# The command line

Reads the files that the program needs, runs it, and writes what it leaves behind.
-/

namespace EvmScope.Main

set_option autoImplicit false

/-- What comes of reading a file, if there is one. -/
def readFile? (path : String) : IO (Option (Except IoError Bytes)) := do
  try
    let content ← IO.FS.readBinFile path
    pure (some (.ok content.toList))
  catch
    | .noFileOrDirectory .. | .inappropriateType .. => pure none
    | why => pure (some (.error ⟨toString why⟩))

/-- The file system with the files that some paths name. -/
def load (paths : List (List Char)) : IO FileSystem := do
  let files ← paths.mapM fun path => do
    let content? ← readFile? (String.ofList path)
    pure (path, content?)
  pure fun path => (files.lookup path).bind id

/-- A number of nanoseconds as seconds. -/
def seconds (nanoseconds : Nat) : String :=
  let fraction := Text.decimalPadded 9 (nanoseconds % 1000000000)
  toString (nanoseconds / 1000000000) ++ "." ++ String.ofList fraction ++ "s"

end EvmScope.Main

open EvmScope in
/-- Runs the program. Log lines carry the reading of the monotonic clock. -/
def main (args : List String) : IO UInt32 := do
  let start ← IO.monoNanosNow
  let words := args.map String.toList
  let fs ← Main.load (Program.paths words)
  let report := Program.run fs words
  let out ← IO.getStdout
  out.write ⟨report.output.toArray⟩
  out.flush
  let finish ← IO.monoNanosNow
  let stamp : Log.Stamp := ⟨Main.seconds finish, Main.seconds (finish - start)⟩
  let err ← IO.getStderr
  err.putStr (String.ofList (report.errorText stamp))
  err.flush
  pure (UInt32.ofNat report.exitCode)
