import WikiText.Text.Basic

/-! # Paths of files -/

namespace WikiText.Cli

/-- A path: whether it begins at the root, and its names. -/
structure Path where
  absolute : Bool
  names : List Text
deriving DecidableEq, Repr

namespace Path

/-- The path that a text names. Repeated slashes and names of one dot do not count. -/
def ofText (s : Text) : Path :=
  ⟨s.head? = some '/', (Text.splitOn '/' s).filter fun n => !n.isEmpty && n ≠ ['.']⟩

def toText (p : Path) : Text :=
  let names := Text.joinWith ['/'] p.names
  if p.absolute then '/' :: names else if names.isEmpty then ['.'] else names

/-- The path without its last name. -/
def parent (p : Path) : Path := { p with names := p.names.dropLast }

/-- Go up for each name of two dots. -/
private def goUp (up : List Text) : List Text → List Text
  | [] => up.reverse
  | n :: ns => if n = ['.', '.'] then goUp up.tail ns else goUp (n :: up) ns

private def dropFront? : List Text → List Text → Option (List Text)
  | [], ns => some ns
  | _ :: _, [] => none
  | m :: ms, n :: ns => if m = n then dropFront? ms ns else none

/-- The names of a path below a directory. -/
def below? (p directory : Path) : Option (List Text) :=
  let names := if p.absolute then p.names else directory.names ++ p.names
  dropFront? (goUp [] directory.names) (goUp [] names)

/-- A path as it is shown: from the working directory on, if it is below that. -/
def shown (p directory : Path) : Text :=
  if p.absolute then
    match dropFront? directory.names p.names with
    | some names => Path.toText ⟨false, names⟩
    | none => p.toText
  else p.toText

end Path

end WikiText.Cli
