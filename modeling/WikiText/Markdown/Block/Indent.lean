import WikiText.Markdown.Source
import WikiText.Text.Blank

/-! # Indented lines -/

namespace WikiText.Markdown

/-- The indentation of `levels` levels. -/
def indentation (levels : Nat) : Text := Text.copies (tabWidth * levels) ' '

/-- Whether a line or a block is indented by a level. -/
def isIndented (s : Text) : Bool := Text.startsWith (indentation 1) s

/-- A line without `levels` levels of indentation, if it has them. -/
def dropIndentation (levels : Nat) (line : Text) : Text :=
  (Text.strip? (indentation levels) line).getD line

/-- Every line of a block without `levels` levels of indentation, as far as it has them. -/
def outdentAll (levels : Nat) (block : Text) : Text :=
  Text.unlines ((Text.lines block).map (dropIndentation levels))

/-- The indented lines at the front of a block without a level of indentation, and the other lines.
A blank line counts as indented. -/
def outdentFront : List Text → List Text × List Text
  | [] => ([], [])
  | line :: rest =>
    if isIndented line || Text.allBlank line then
      let (front, others) := outdentFront rest
      ((if isIndented line then dropIndentation 1 line else []) :: front, others)
    else ([], line :: rest)

/-- The levels of indentation at the front of a text. -/
def indentationLevel (s : Text) : Nat := Text.countFront (· = ' ') s / tabWidth

/-- A text without line ends at its end. -/
def dropLineEndsAfter : Text → Text := Text.dropEndWhile (· = '\n')

/-- A text without line ends at its front. -/
def dropLineEndsBefore : Text → Text := List.dropWhile (· = '\n')

/-- The blocks of a text: what stands between empty lines. -/
def blocksOf : Text → List Text := Text.splitOnText ['\n', '\n']

end WikiText.Markdown
