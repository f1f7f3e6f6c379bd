import ReductionIR.Cli
import ReductionIR.Value.Json
/-
The program: it reads the files that the arguments name, runs the command line on them, and
prints and writes what comes out.
-/
namespace ReductionIR.Program

def contentAt (path : String) : IO (Option Content) := do
  try
    return some (.bytes (← IO.FS.readBinFile path).toList)
  catch
    | .inappropriateType .. => return some .folder
    | _ => return none

def entriesAt (root : Files) (text : String) : IO (List (Path × Content)) := do
  let text := (root.expand text).toOption.getD text
  let steps := text.splitOn "/"
  let paths := (List.range (steps.length + 1)).map fun n =>
    root.resolve ("/".intercalate (steps.take n))
  let named := paths.filter fun path => path.all fun step => !Path.holdsZero step
  let found ← named.mapM fun path => do
    let content ← contentAt path.text
    return content.map fun content => (path, content)
  return found.filterMap id

def readFiles (args : List String) : IO Files := do
  let folder ← IO.currentDir
  let home ← IO.getEnv "HOME"
  let root : Files := {
    root := Path.follow [""] (folder.toString.splitOn "/"), entries := []
    homes := home.toList.map fun text => ("", Path.follow [""] (text.splitOn "/")) }
  let named := args.flatMap fun text => text :: (Cli.splitOption text).2.toList
  let entries ← (named.filter (· ≠ "")).mapM (entriesAt root)
  return { root with entries := entries.flatten }

def printOutput : Cli.Output → IO Unit
  | .json v => IO.println v.json
  | .lines lines => lines.forM IO.println

def run (args : List String) : IO UInt32 := do
  let outcome := Cli.run (← readFiles args) args
  outcome.warnings.forM fun warning => IO.eprintln ("WARNING | " ++ warning)
  match outcome.written with
  | some (path, model) => IO.FS.writeBinFile path ⟨model.toBytes.toArray⟩
  | none => pure ()
  match outcome.output with
  | some output => printOutput output
  | none => Cli.usage.forM IO.eprintln
  match outcome.failure with
  | some failure => IO.eprintln (failure.message?.getD "unexpected failure")
  | none => pure ()
  return outcome.exitCode.toUInt32

end ReductionIR.Program

def main (args : List String) : IO UInt32 := ReductionIR.Program.run args
