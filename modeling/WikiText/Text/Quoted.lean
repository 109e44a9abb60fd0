import WikiText.Text.Digit
import WikiText.Text.PrintableTable

/-!
# Texts written as quoted literals

A text is put in single quotes, or in double quotes when it holds a single quote and no double
one. What would not show is written by its code point.
-/

namespace WikiText.Text

/-- Whether a quoted text shows the character as it is. -/
def isPrintable (c : Char) : Bool := CodePoints.has c.toNat printableRanges

private def escapeCode (n : Nat) : Text :=
  if n < 0x100 then "\\x".toList ++ hex 2 n
  else if n < 0x10000 then "\\u".toList ++ hex 4 n
  else "\\U".toList ++ hex 8 n

private def quoteChar (shown : Char → Bool) (mark c : Char) : Text :=
  if c = mark || c = '\\' then ['\\', c]
  else if c = '\t' then ['\\', 't']
  else if c = '\n' then ['\\', 'n']
  else if c = '\r' then ['\\', 'r']
  else if shown c then [c]
  else escapeCode c.toNat

private def quoteWith (shown : Char → Bool) (s : Text) : Text :=
  let mark := if s.elem '\x27' && !s.elem '"' then '"' else '\x27'
  mark :: s.flatMap (quoteChar shown mark) ++ [mark]

/-- The quoted form of a text. -/
def quote : Text → Text := quoteWith isPrintable

/-- The quoted form of a text in visible ASCII characters only. -/
def quoteAscii : Text → Text := quoteWith fun c => 32 ≤ c.toNat && c.toNat < 127

end WikiText.Text
