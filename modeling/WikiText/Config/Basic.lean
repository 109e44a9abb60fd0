import WikiText.Dictionary

/-! # Configuration -/

namespace WikiText

/-- What renders share: the style of highlighted code and the class of its blocks, the class of the
table of contents, the separator of words in identifiers, the extensions of the markup, and the
templates of macros under their lower-case names. -/
structure Config where
  style : Text := "monokai".toList
  highlightClass : Text := "syntaxhl".toList
  tocClass : Text := "toc".toList
  slugSeparator : Text := ['-']
  extensions : List Text := ["tables".toList, "sane_lists".toList]
  macros : Dictionary Text := {}

instance : Inhabited Config := ⟨{}⟩

end WikiText
