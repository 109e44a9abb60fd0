import WikiText.Cli.Run

/-! # The command line -/

namespace WikiText.Cli

/-- What stands at a path of the system, if anything does, under its names below the working
directory. -/
private def entryAt? (directory p : Path) : IO (Option (List Text × Entry)) := do
  let place := (← IO.currentDir) / String.ofList p.toText
  match p.below? directory with
  | none => return none
  | some names =>
    if ← place.isDir then return some (names, .directory)
    else if ← place.pathExists then
      return some (names, .file (← IO.FS.readBinFile place).toList)
    else return none

/-- The value of each variable that a command looks up. -/
private def environment : IO Environment := do
  let names := ["SOURCE", "OUTPUT", "CONFIG", "LOG_LEVEL", "STANDALONE", "FAIL_ON_WARNING"]
  names.filterMapM fun name => do
    let name := "MDEXTRA_" ++ name
    return (← IO.getEnv name).map fun value => (name.toList, value.toList)

/-- Write a document to a file, whose directory is made if it is missing. -/
private def writeDocument (p : Path) (document : Text) : IO Unit := do
  let place := (← IO.currentDir) / String.ofList p.toText
  if let some parent := place.parent then IO.FS.createDirAll parent
  IO.FS.writeFile place (String.ofList document)

private def complain (message : Text) : IO UInt32 := do
  IO.eprintln (String.ofList message)
  return 1

end WikiText.Cli

open WikiText WikiText.Cli

/-- Read a command from the arguments, run it on the files of the system, and write and print what
it yields. -/
def main (args : List String) : IO UInt32 := do
  match Command.ofArguments (← environment) (args.map (·.toList)) with
  | .error e => complain e.message
  | .ok command =>
    let directory := Path.ofText (← IO.currentDir).toString.toList
    let entries ← command.reads.filterMapM (entryAt? directory)
    match command.run { directory, entries } with
    | .error e => complain e.message
    | .ok outcome =>
      if let some (p, document) := outcome.written then writeDocument p document
      IO.print (String.ofList outcome.stdout)
      IO.eprint (String.ofList outcome.stderr)
      return outcome.status.toUInt32
