import WikiText.Text.Basic

/-! # Line ends -/

namespace WikiText.Text

/-- One kind of line end instead of three. -/
def unifyLineEnds : Text → Text
  | [] => []
  | '\r' :: '\n' :: s => '\n' :: unifyLineEnds s
  | '\r' :: s => '\n' :: unifyLineEnds s
  | c :: s => c :: unifyLineEnds s

end WikiText.Text
