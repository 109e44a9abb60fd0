import WikiText.Config.Build
import WikiText.Yaml.Construct

/-! # Configuration files -/

namespace WikiText.Config

/-- The name of the configuration file that is read where no other is given. -/
def defaultFile : Text := "mdextra.yaml".toList

/-- Why there is no configuration: the file is missing, its text cannot be read, or its value is not
a configuration. -/
inductive FileError where
  | missing (path : Text)
  | unreadable (e : Yaml.ReadError)
  | refused (e : LoadError)
deriving DecidableEq, Repr

def FileError.message : FileError → Text
  | .missing path => "Configuration file '".toList ++ path ++ "' not found.".toList
  | .unreadable e => e.message
  | .refused e => e.message

/-- The configuration in the text of a file. -/
def ofText (s : Text) : Except FileError Config := do
  let v ← (Yaml.read s).mapError .unreadable
  (ofValue v).mapError .refused

/-- The configuration in a file, whose text is given if the file exists. -/
def ofFile (path : Text) (text : Option Text) : Except FileError Config :=
  match text with
  | some s => ofText s
  | none => .error (.missing path)

end WikiText.Config
