import WikiText.Html.Escape
import WikiText.Text.LineEnds

/-! # Code without colours -/

namespace WikiText.Code

/-- The mark that may stand before a text to tell the order of its bytes. -/
def byteOrderMark : Char := Char.ofNat 0xFEFF

/-- Code in escaped form, without a byte order mark and blank lines around it, and with a line end
at its end. -/
def plain (code : Text) : Text :=
  let code := match code with
    | c :: s => if c = byteOrderMark then s else c :: s
    | [] => []
  Html.escape .plain (Text.trimWhile (· = '\n') (Text.unifyLineEnds code) ++ ['\n'])

end WikiText.Code
