import WikiText.Text.Basic

/-! # Causes for which a document cannot be rendered -/

namespace WikiText.Markdown

/-- An extension that does not exist; a footnote's text that defines further footnotes; a footnote
without a link back to its reference; or a separator with a range, an escaped character or a number
that stands for nothing. -/
inductive Failure where
  | unknownExtension (name : Text)
  | footnoteInFootnote
  | footnoteWithoutBacklink
  | badSeparatorRange (range : Text) (position : Nat)
  | badSeparatorEscape (escape : Text) (position : Nat)
  | openSeparatorEscape (position : Nat)
  | noSeparatorGroup (number : Text) (position : Nat)
deriving DecidableEq, Repr

/-- The words of a failure. -/
def Failure.message : Failure → Text
  | .unknownExtension name => "No module named '".toList ++ name ++ ['\x27']
  | .footnoteInFootnote => "dictionary changed size during iteration".toList
  | .footnoteWithoutBacklink => "'NoneType' object has no attribute 'set'".toList
  | .badSeparatorRange range p => located ("bad character range ".toList ++ range) p
  | .badSeparatorEscape escape p => located ("bad escape ".toList ++ escape) p
  | .openSeparatorEscape p => located "bad escape (end of pattern)".toList p
  | .noSeparatorGroup number p => located ("invalid group reference ".toList ++ number) p
where
  located (problem : Text) (position : Nat) : Text :=
    problem ++ " at position ".toList ++ Text.ofNat position

end WikiText.Markdown
