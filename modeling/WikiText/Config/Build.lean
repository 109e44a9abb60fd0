import WikiText.Config.Basic
import WikiText.Config.Value
import WikiText.Text.Blank
import WikiText.Text.Lower

/-! # Configurations from values -/

namespace WikiText.Config

/-- What a value lacks to be a configuration. -/
inductive Error where
  | formatterNoMapping
  | noText (key : Text)
  | noNames (key : Text)
  | macrosNoMapping
  | noTemplate (name : Text)
deriving DecidableEq, Repr

def Error.message : Error → Text
  | .formatterNoMapping => "'formatter' must be a mapping.".toList
  | .noText key => "'formatter.".toList ++ key ++ "' must be a non-empty string.".toList
  | .noNames key => "'formatter.".toList ++ key ++ "' must be a list of names.".toList
  | .macrosNoMapping => "'macros' must map macro names to templates.".toList
  | .noTemplate name => "Macro '".toList ++ name ++ "' must be a template string.".toList

/-- A trimmed text that is not empty, or the default where there is none. -/
def textField (entries : List (Value × Value)) (key : String) (default : Text) :
    Except Error Text :=
  match Value.find? key.toList entries with
  | none | some .null => .ok default
  | some (.text s) =>
    let s := Text.trim s
    if s.isEmpty then .error (.noText key.toList) else .ok s
  | some _ => .error (.noText key.toList)

/-- The trimmed text of an item, unless there is nothing to it. -/
def nameOf? : Value → Option Text
  | .null => none
  | v =>
    let s := Text.trim v.toText
    if s.isEmpty then none else some s

/-- Names in a list, or in a text that is taken apart at white space. -/
def names : Value → Except Error (List Text)
  | .null => .ok []
  | .text s => .ok (Text.words s)
  | .list items => .ok (items.filterMap nameOf?)
  | _ => .error (.noNames "extensions".toList)

/-- The extensions among the entries of the formatter's section, or the default where there are
none. -/
def extensionNames (entries : List (Value × Value)) (default : List Text) :
    Except Error (List Text) :=
  match Value.find? "extensions".toList entries with
  | some v => names v
  | none => .ok default

def addTemplates : Dictionary Text → List (Value × Value) → Except Error (Dictionary Text)
  | d, [] => .ok d
  | d, (name, .text template) :: es => addTemplates (d.insert (Text.lower name.toText) template) es
  | _, (name, _) :: _ => .error (.noTemplate name.toText)

/-- Templates under their lower-case names. -/
def templates : Option Value → Except Error (Dictionary Text)
  | none | some .null => .ok {}
  | some (.mapping entries) => addTemplates {} entries
  | some _ => .error .macrosNoMapping

/-- The entries of the formatter's section, which may be missing. -/
def sectionOf : Option Value → Except Error (List (Value × Value))
  | none => .ok []
  | some (.mapping entries) => .ok entries
  | some v => if v.isVoid then .ok [] else .error .formatterNoMapping

/-- The configuration that a mapping describes. What it does not give keeps its default. -/
def build (raw : List (Value × Value)) : Except Error Config := do
  let entries ← sectionOf (Value.find? "formatter".toList raw)
  let defaults : Config := {}
  let extensions ← extensionNames entries defaults.extensions
  let style ← textField entries "pygments_style" defaults.style
  let highlightClass ← textField entries "highlight_class" defaults.highlightClass
  let tocClass ← textField entries "toc_class" defaults.tocClass
  let slugSeparator ← textField entries "slug_separator" defaults.slugSeparator
  let macros ← templates (Value.find? "macros".toList raw)
  return { style, highlightClass, tocClass, slugSeparator, extensions, macros }

/-- What a value of any kind lacks to be a configuration. -/
inductive LoadError where
  | noMapping
  | malformed (e : Error)
deriving DecidableEq, Repr

def LoadError.message : LoadError → Text
  | .noMapping => "Top-level YAML structure must be a mapping.".toList
  | .malformed e => e.message

/-- The configuration that a value describes. A void value describes the default. -/
def ofValue (v : Value) : Except LoadError Config :=
  match v with
  | .mapping entries => (build entries).mapError .malformed
  | v => if v.isVoid then (build []).mapError .malformed else .error .noMapping

end WikiText.Config
