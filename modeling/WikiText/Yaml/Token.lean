import WikiText.Text.Basic

/-! # Tokens of a document -/

namespace WikiText.Yaml

/-- A tag as it is written: a handle with a suffix, or a whole tag. -/
inductive TagName where
  | short (handle suffix : Text)
  | whole (tag : Text)
deriving DecidableEq, Repr

/-- What a document tells about itself before it begins. -/
inductive Directive where
  | version (major minor : Nat)
  | handle (name stands : Text)
  | other
deriving DecidableEq, Repr

/-- A token. Blocks open and close where indentation changes, and a key opens where one is found to
have begun. -/
inductive Token where
  | directive (d : Directive)
  | documentStart
  | documentEnd
  | streamEnd
  | sequenceStart
  | mappingStart
  | blockEnd
  | flowSequenceStart
  | flowSequenceEnd
  | flowMappingStart
  | flowMappingEnd
  | flowEntry
  | blockEntry
  | key
  | value
  | alias (name : Text)
  | anchor (name : Text)
  | tag (name : TagName)
  | scalar (text : Text) (plain : Bool)
deriving DecidableEq, Repr

end WikiText.Yaml
