import WikiText.Text.Basic

/-! # Warnings -/

namespace WikiText

/-- What a render reports without failing. -/
inductive Warning where
  | undefinedFootnote (id : Text)
  | linkIdNotFound (id : Text)
  | illegalTocParameter (parameter : Text)
  | illegalHeadingStructure (start first : Int)
  | macroFailed (name error : Text)
deriving DecidableEq, Repr

/-- The words of a warning. -/
def Warning.message : Warning → Text
  | .undefinedFootnote id => "undefined footnote id - ".toList ++ id
  | .linkIdNotFound id => "link-id not found - ".toList ++ id
  | .illegalTocParameter p =>
    "illegal TOC parameter - ".toList ++ p ++ " (valid example: 'h2..h4')".toList
  | .illegalHeadingStructure start first =>
    "illegal structure of headings - h".toList ++ Text.ofInt start ++
      " should be set before h".toList ++ Text.ofInt first
  | .macroFailed name error => "macro failed - ".toList ++ name ++ ": ".toList ++ error

end WikiText
