import WikiText.Stash
import WikiText.Text.LineEnds

/-! # Source text -/

namespace WikiText.Markdown

/-- The width of a tab, which is also the indentation of code and of the contents of list items. -/
def tabWidth : Nat := 4

/-- Replace tabs by spaces, up to the next column that is a multiple of the width. -/
def expandTabs (column : Nat) : Text → Text
  | [] => []
  | c :: s =>
    if c = '\t' then
      let n := tabWidth - column % tabWidth
      Text.copies n ' ' ++ expandTabs (column + n) s
    else if c = '\n' then c :: expandTabs 0 s
    else c :: expandTabs (column + 1) s

/-- Empty the lines of nothing but spaces, the first one apart. -/
def emptyBlankLines : List Text → List Text
  | [] => []
  | first :: rest => first :: rest.map fun l => if l.all (· = ' ') then [] else l

/-- The lines of a source text, without the characters that markers are made of. Tabs are expanded,
and two empty lines stand at the end. -/
def sourceLines (s : Text) : List Text :=
  let s := s.filter fun c => c ≠ Stash.opening ∧ c ≠ Stash.closing
  let s := Text.unifyLineEnds s ++ ['\n', '\n']
  emptyBlankLines (Text.lines (expandTabs 0 s))

end WikiText.Markdown
