import WikiText.Text.Digit

/-! # Escaped text -/

namespace WikiText.Html

/-- How the two quotation marks are written in escaped text. -/
structure QuoteStyle where
  double : Text
  single : Text

namespace QuoteStyle

/-- Both marks stand as they are. -/
def plain : QuoteStyle := ⟨['"'], ['\x27']⟩

/-- The double mark has a name, the single one a hexadecimal number. -/
def named : QuoteStyle := ⟨"&quot;".toList, "&#x27;".toList⟩

/-- Both marks are written by their decimal numbers. -/
def numbered : QuoteStyle := ⟨"&#34;".toList, "&#39;".toList⟩

/-- Only the double mark is escaped. -/
def doubleOnly : QuoteStyle := ⟨"&quot;".toList, ['\x27']⟩

end QuoteStyle

/-- The escaped form of one character. -/
def escapeChar (q : QuoteStyle) (c : Char) : Text :=
  if c = '&' then "&amp;".toList
  else if c = '<' then "&lt;".toList
  else if c = '>' then "&gt;".toList
  else if c = '"' then q.double
  else if c = '\x27' then q.single
  else [c]

/-- Escape every character of a text. -/
def escape (q : QuoteStyle) (s : Text) : Text := s.flatMap (escapeChar q)

@[simp] theorem escape_nil (q : QuoteStyle) : escape q [] = [] := rfl

@[simp] theorem escape_cons (q : QuoteStyle) (c : Char) (s : Text) :
    escape q (c :: s) = escapeChar q c ++ escape q s := rfl

@[simp] theorem escape_append (q : QuoteStyle) (s t : Text) :
    escape q (s ++ t) = escape q s ++ escape q t := by simp [escape]

/-! ## Escaping once

Text inside rendered markup may hold references already. Their ampersand is kept.
-/

/-- A letter or digit of a reference's name, in either case. The four letters beyond ASCII have an
ASCII letter as their other case. -/
def isNameChar (c : Char) : Bool :=
  Text.isAsciiAlnum c || c = 'İ' || c = 'ı' || c = 'ſ' || c = '\u212A'

private def closes (s : Text) : Bool := s.head? = some ';'

/-- Whether what follows an ampersand makes it the start of a reference: a decimal or hexadecimal
number after `#`, or a name, and then a semicolon. -/
def startsReference : Text → Bool
  | '#' :: s =>
    (match s with
      | x :: t => (x = 'x' || x = 'X') && Text.countFront Text.isHexDigit t > 0 &&
        closes (t.dropWhile Text.isHexDigit)
      | [] => false) ||
    (Text.countFront Text.isAsciiDigit s > 0 && closes (s.dropWhile Text.isAsciiDigit))
  | s => Text.countFront isNameChar s > 0 && closes (s.dropWhile isNameChar)

/-- Escape a text, but for the ampersands that start a reference. -/
def escapeOnce (q : QuoteStyle) : Text → Text
  | [] => []
  | c :: s =>
    (if c = '&' && startsReference s then ['&'] else escapeChar q c) ++ escapeOnce q s

end WikiText.Html
