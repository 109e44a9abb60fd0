import WikiText.Text.LatinTable

/-!
# The ASCII part of a text

Composed and compatibility characters are taken apart, and of the parts the ASCII characters stay.
-/

namespace WikiText.Text

private def latinChar (c : Char) : Text :=
  if c.toNat < 128 then [c]
  else match CodePointRuns.find? c.toNat latinRuns with
    | some n => [Char.ofNat n]
    | none => match latinTexts.lookup c.toNat with
      | some t => t.toList
      | none => []

/-- The ASCII characters that are left when composed characters are taken apart. -/
def latin (s : Text) : Text := s.flatMap latinChar

end WikiText.Text
