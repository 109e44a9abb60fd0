import WikiText.Cli.Path
import WikiText.Text.Quoted
import WikiText.Text.Utf8

/-! # Files below a working directory -/

namespace WikiText.Cli

/-- What stands at a path. -/
inductive Entry where
  | file (bytes : List UInt8)
  | directory
deriving DecidableEq, Repr

/-- A working directory, with the names of what stands below it. Directories need no entries of
their own where there is something in them. -/
structure Files where
  directory : Path
  entries : List (List Text × Entry)

/-- Why a file cannot be used. -/
inductive FileError where
  | notFound (path : Path)
  | exists (path : Path)
  | notDirectory (path : Path)
  | isDirectory (path : Path)
deriving DecidableEq, Repr

def FileError.message : FileError → Text
  | .notFound p => "[Errno 2] No such file or directory: ".toList ++ Text.quote p.toText
  | .exists p => "[Errno 17] File exists: ".toList ++ Text.quote p.toText
  | .notDirectory p => "[Errno 20] Not a directory: ".toList ++ Text.quote p.toText
  | .isDirectory p => "[Errno 21] Is a directory: ".toList ++ Text.quote p.toText

namespace Files

private def isBelow : List Text → List Text → Bool
  | [], _ => true
  | _ :: _, [] => false
  | m :: ms, n :: ns => m == n && isBelow ms ns

private def at? (fs : Files) (names : List Text) : Option Entry :=
  match fs.entries.lookup names with
  | some e => some e
  | none =>
    if names.isEmpty || fs.entries.any fun e => isBelow names e.1 then some .directory else none

/-- What stands at a path. -/
def find? (fs : Files) (p : Path) : Option Entry := (p.below? fs.directory).bind fs.at?

/-- Whether a file stands where a path needs a directory. -/
private def crossesFile (fs : Files) (p : Path) : Bool :=
  match p.below? fs.directory with
  | none => false
  | some names => (List.range names.length).any fun n =>
    match fs.at? (names.take n) with
    | some (.file _) => true
    | _ => false

/-- The bytes of a file. -/
def read (fs : Files) (p : Path) : Except FileError (List UInt8) :=
  match fs.find? p with
  | some (.file bytes) => .ok bytes
  | some .directory => .error (.isDirectory p)
  | none => .error (if fs.crossesFile p then .notDirectory p else .notFound p)

/-- Whether a file can be written at a path. Missing directories are made on the way. -/
def checkWrite (fs : Files) (p : Path) : Except FileError Unit :=
  match fs.find? p.parent with
  | some (.file _) => .error (.exists p.parent)
  | parent =>
    if parent.isNone && fs.crossesFile p.parent then .error (.notDirectory p.parent)
    else match fs.find? p with
      | some .directory => .error (.isDirectory p)
      | _ => .ok ()

end Files

end WikiText.Cli
