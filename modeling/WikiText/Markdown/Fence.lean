import WikiText.Html.Escape
import WikiText.Markdown.AttributeList
import WikiText.Stash
import WikiText.Text.Word

/-! # Fenced code

Code between two lines of the same fence is put aside before anything else is read.
-/

namespace WikiText.Markdown

/-- What the opening line of a fenced block tells: the fence, the language, and the identifier and
the classes of the block. -/
structure Fence where
  marks : Text
  language : Text := []
  id : Text := []
  classes : List Text := []
deriving DecidableEq, Repr

namespace Fence

def isLanguageChar (c : Char) : Bool :=
  Text.isWord c || c = '#' || c = '.' || c = '+' || c = '-'

def dropSpaces : Text → Text := List.dropWhile (· = ' ')

/-- Whether a text is a choice of lines in quotation marks, or nothing. -/
def isLineChoice (s : Text) : Bool :=
  match Text.strip? "hl_lines=".toList s with
  | some (mark :: t) =>
    (mark = '"' || mark = '\x27') &&
      (Text.dropEndWhile (· = ' ') t).getLast? = some mark
  | _ => s.isEmpty

def choiceName : Text := "hl_lines".toList

/-- The language that an opening line names, a choice of lines after it being passed over. -/
def language? (s : Text) : Option Text :=
  let t := match s with
    | '.' :: t => t
    | t => t
  let name := t.takeWhile isLanguageChar
  let rest := t.drop name.length
  if isLineChoice (dropSpaces rest) then some name
  else if Text.endsWith choiceName name && isLineChoice (choiceName ++ rest) then
    some (name.take (name.length - choiceName.length))
  else none

/-- A block with attributes: the first class is the language, the last identifier counts. -/
private def ofAttributes (marks : Text) (as : List Attribute) : Fence :=
  let classes := as.filterMap fun
    | .className c => some c
    | _ => none
  let ids := as.filterMap fun
    | .id i => some i
    | .named n v => if n = "id".toList then some v else none
    | _ => none
  { marks, language := classes.headD [], id := ids.getLast?.getD [], classes := classes.tail }

/-- What an opening line tells. -/
def ofLine? (line : Text) : Option Fence :=
  match line with
  | [] => none
  | c :: _ =>
    let marks := line.takeWhile (· = c)
    if (c = '~' ∨ c = '\x60') ∧ marks.length ≥ 3 then
      let s := dropSpaces (line.drop marks.length)
      let inBraces := match s with
        | '\x7b' :: t => if t.getLast? = some '\x7d' then some t.dropLast else none
        | _ => none
      match inBraces with
      | some [] => some { marks }
      | some list => (attributes? list).map (ofAttributes marks)
      | none => (language? s).map fun language => { marks, language }
    else none

/-- Whether a line closes the block. -/
def closes (f : Fence) (line : Text) : Bool :=
  match Text.strip? f.marks line with
  | some rest => rest.all (· = ' ')
  | none => false

def attributeText (name : String) (value : Text) : Text :=
  if value.isEmpty then []
  else ' ' :: name.toList ++ ['=', '"'] ++ Html.escapeOnce .doubleOnly value ++ ['"']

/-- The markup of the block with its lines of code. -/
def markup (f : Fence) (code : List Text) : Text :=
  "<pre".toList ++ attributeText "id" f.id ++
    attributeText "class" (Text.joinWith [' '] f.classes) ++
    "><code".toList ++ attributeText "class" f.language ++ ['>'] ++
    Html.escape .doubleOnly (code.flatMap (· ++ ['\n'])) ++ "</code></pre>".toList

/-- The lines of code up to the line that closes the block, and the lines after it. -/
def body? (f : Fence) : List Text → Option (List Text × List Text)
  | [] => none
  | line :: rest =>
    if f.closes line then some ([], rest)
    else (body? f rest).map fun (code, rest) => (line :: code, rest)

/-- The block that a line opens and further lines close: its markup, and the lines after it. -/
def read? (line : Text) (rest : List Text) : Option (Text × List Text) := do
  let f ← ofLine? line
  let (code, rest) ← body? f rest
  some (f.markup code, rest)

end Fence

/-- Put the fenced blocks among the lines aside. A step takes a line at least, so `fuel` is the
number of lines. -/
def stashFencesFrom : (fuel : Nat) → List Text → Stash → List Text × Stash
  | _, [], st => ([], st)
  | 0, lines, st => (lines, st)
  | fuel + 1, line :: rest, st => match Fence.read? line rest with
    | some (markup, rest) =>
      let (marker, st) := st.store markup
      let (lines, st) := stashFencesFrom fuel rest st
      ([] :: marker :: [] :: lines, st)
    | none =>
      let (lines, st) := stashFencesFrom fuel rest st
      (line :: lines, st)

/-- Put each fenced block aside and leave its marker, with an empty line before and after it. -/
def stashFences (lines : List Text) (st : Stash) : List Text × Stash :=
  stashFencesFrom lines.length lines st

end WikiText.Markdown
