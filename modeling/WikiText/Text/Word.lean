import WikiText.Text.WordTable

/-!
# Word characters and word boundaries
-/

namespace WikiText.Text

/-- Letters, digits and numerals of all scripts, and the low line. -/
def isWord (c : Char) : Bool := CodePoints.has c.toNat wordRanges

/-- Whether a word ends or begins between two neighbours, either of which may be missing. -/
def isBoundary (before after : Option Char) : Bool :=
  before.any isWord != after.any isWord

end WikiText.Text
