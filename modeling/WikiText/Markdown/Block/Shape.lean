import WikiText.Markdown.Block.Indent
import WikiText.Text.Digit

/-! # Shapes of blocks

Headings, rules, list items and quotes are recognised by how their lines begin.
-/

namespace WikiText.Markdown

/-- A text without the spaces that may stand before a marker. -/
def dropMargin : Text → Text := Text.dropAtMost Text.isSpace (tabWidth - 1)

/-! ## Headings -/

/-- A heading with the lines before and after it. -/
structure HashHeading where
  before : Text
  level : Nat
  text : Text
  after : Text

/-- The text of a heading up to the end of its line, without the marks at its end, and the text
after the line. A backslash takes the next character with it, so a line that ends with one is no
heading. -/
private def headingText? : (fuel : Nat) → Text → Option (Text × Text)
  | 0, _ => some ([], [])
  | fuel + 1, s =>
    match s.dropWhile (· = '#') with
    | [] => some ([], [])
    | '\n' :: after => some ([], after)
    | _ => match s with
      | '\\' :: c :: s =>
        if c = '\n' then none
        else (headingText? fuel s).map fun (t, after) => ('\\' :: c :: t, after)
      | ['\\'] => none
      | c :: s => (headingText? fuel s).map fun (t, after) => (c :: t, after)
      | [] => some ([], [])

/-- The heading with which a text begins: its level, its text, and the text after its line. -/
def headingAt? (s : Text) : Option (Nat × Text × Text) :=
  let level := min 6 (Text.countFront (· = '#') s)
  if level = 0 then none
  else (headingText? s.length (s.drop level)).map fun (t, after) => (level, Text.trim t, after)

/-- The first heading among the lines of a block. -/
def findHeading? (before : List Text) : List Text → Option HashHeading
  | [] => none
  | line :: rest => match headingAt? (Text.unlines (line :: rest)) with
    | some (level, text, after) => some ⟨Text.unlines before.reverse, level, text, after⟩
    | none => findHeading? (line :: before) rest

/-- The first heading of a block that is marked by number signs. -/
def hashHeading? (block : Text) : Option HashHeading := findHeading? [] (Text.lines block)

/-- A heading marked by the line under it: its level, its text, and the lines after it. -/
def underlinedHeading? (block : Text) : Option (Nat × Text × List Text) :=
  match Text.lines block with
  | line :: under :: rest =>
    let marks := under.takeWhile fun c => c = '=' || c = '-'
    if !marks.isEmpty && (under.drop marks.length).all Text.isSpace then
      some (if under.head? = some '=' then 1 else 2, Text.trim line, rest)
    else none
  | _ => none

/-! ## Rules -/

/-- Count the marks of a rule, between which two spaces may stand; `gap` spaces stand before the
text. -/
private def ruleMarks? (mark : Char) (gap : Nat) : Text → Option Nat
  | [] => some 0
  | c :: s =>
    if c = mark then (if gap > 2 then none else (ruleMarks? mark 0 s).map (· + 1))
    else if c = ' ' then ruleMarks? mark (gap + 1) s
    else none

/-- Whether a line is a rule: three marks of a kind or more. -/
def isRule (line : Text) : Bool :=
  match dropMargin line with
  | c :: s => (c = '-' || c = '_' || c = '*') && (ruleMarks? c 0 (c :: s)).any (3 ≤ ·)
  | [] => false

/-- The lines before and after the first rule of a block. -/
def splitAtRule? (block : Text) : Option (Text × Text) :=
  let lines := Text.lines block
  let before := lines.takeWhile fun l => !isRule l
  match lines.drop before.length with
  | [] => none
  | _ :: after =>
    some (dropLineEndsAfter (Text.unlines before), dropLineEndsBefore (Text.unlines after))

/-! ## Lists -/

/-- The two kinds of lists. -/
inductive ListKind where
  | ordered
  | bullet
deriving DecidableEq, Repr

/-- The element of a list. -/
def ListKind.tag : ListKind → String
  | .ordered => "ol"
  | .bullet => "ul"

/-- The marker of an item: its kind and, of an ordered one, its digits; and the text after it. -/
def marker? (s : Text) : Option (ListKind × Text × Text) :=
  match s with
  | c :: rest =>
    if c = '*' || c = '+' || c = '-' then some (.bullet, [], rest)
    else
      let digits := s.takeWhile Text.isDigit
      match digits, s.drop digits.length with
      | _ :: _, '.' :: rest => some (.ordered, digits, rest)
      | _, _ => none
  | [] => none

/-- The item that a line begins: its kind, its digits and its content. -/
def item? (line : Text) : Option (ListKind × Text × Text) :=
  match marker? (dropMargin line) with
  | some (kind, digits, ' ' :: rest) => some (kind, digits, rest.dropWhile Text.isSpace)
  | _ => none

/-- Whether a line begins an item one level deeper. -/
def isNestedItem (line : Text) : Bool :=
  let spaces := Text.countFront Text.isSpace line
  tabWidth ≤ spaces && spaces < 2 * tabWidth &&
    match marker? (line.drop spaces) with
    | some (_, _, ' ' :: _) => true
    | _ => false

/-- Add a line to the last of some items, which are held in reverse. -/
private def continueItem (line : Text) : List Text → List Text
  | [] => [line]
  | i :: is => (i ++ '\n' :: line) :: is

/-- The items of a block, given which kinds of items the list may hold. A line that begins no item
belongs to the one before it. -/
private def itemsFrom (admits : ListKind → Bool) (items : List Text) : List Text → List Text
  | [] => items.reverse
  | line :: rest =>
    match item? line with
    | some (kind, _, content) =>
      if admits kind then itemsFrom admits (content :: items) rest
      else if isNestedItem line && !isIndented (items.headD []) then
        itemsFrom admits (line :: items) rest
      else itemsFrom admits (continueItem line items) rest
    | none =>
      if isNestedItem line && !isIndented (items.headD []) then
        itemsFrom admits (line :: items) rest
      else itemsFrom admits (continueItem line items) rest

/-- The items of a block that begins a list. -/
def itemsOf (admits : ListKind → Bool) (block : Text) : List Text :=
  itemsFrom admits [] (Text.lines block)

/-! ## Quotes -/

/-- The content of a quoted line. -/
def quotedLine? (line : Text) : Option Text :=
  match dropMargin line with
  | '>' :: ' ' :: rest => some rest
  | '>' :: rest => some rest
  | _ => none

/-- A line without the mark of a quote. -/
private def unquote (line : Text) : Text :=
  if Text.trim line = ['>'] then [] else (quotedLine? line).getD line

/-- The lines before a quote, and the text of the quote. Lines without a mark belong to it too. -/
def splitAtQuote? (block : Text) : Option (Text × Text) :=
  let lines := Text.lines block
  let before := lines.takeWhile fun l => (quotedLine? l).isNone
  let quote := lines.drop before.length
  if quote.isEmpty then none
  else
    let text := Text.unlines (quote.map unquote)
    some (Text.unlines before, if before.isEmpty then text else '\n' :: text)

end WikiText.Markdown
