import WikiText.Html.Element
import WikiText.Text.Basic

/-! # Tables

The cells of a row stand between bars. A bar in a code span is none, nor is one behind a backslash.
-/

namespace WikiText.Markdown

/-- How the cells of a column are set. -/
inductive ColumnAlign where
  | left
  | right
  | centre
deriving DecidableEq, Repr

def ColumnAlign.style : ColumnAlign → Text
  | .left => "text-align: left;".toList
  | .right => "text-align: right;".toList
  | .centre => "text-align: center;".toList

/-- The columns of a table, the cells of its head, and those of its rows. -/
structure Table where
  columns : List (Option ColumnAlign)
  head : List Text
  rows : List (List Text)

namespace Table

def trimSpaces : Text → Text := Text.trimWhile (· = ' ')

/-! ## Bars -/

/-- What matters for the cells of a row: bars, and runs of ticks with their lengths; of a run behind
a backslash the first tick opens nothing. -/
inductive Mark where
  | bar (index : Nat)
  | ticks (start stop count opening : Nat)

/-- The marks of a row from index `i` on. A mark takes a character at least, so `fuel` is the row's
length. -/
def marks : (fuel : Nat) → (i : Nat) → Text → List Mark
  | 0, _, _ => []
  | fuel + 1, i, s => match s with
    | [] => []
    | '\\' :: '\\' :: s => marks fuel (i + 2) s
    | '\\' :: '|' :: s => marks fuel (i + 2) s
    | '|' :: s => .bar i :: marks fuel (i + 1) s
    | '\\' :: s =>
      let n := Text.countFront (· = '\x60') s
      if n = 0 then marks fuel (i + 1) s
      else .ticks i (i + n) n (n - 1) :: marks fuel (i + 1 + n) (s.drop n)
    | c :: t =>
      let n := Text.countFront (· = '\x60') s
      if c ≠ '\x60' then marks fuel (i + 1) t
      else .ticks i (i + n - 1) n n :: marks fuel (i + n) (s.drop n)

/-- The end of the first run with a number of ticks, and the runs after it. -/
def closingTicks? (count : Nat) : List Mark → Option (Nat × List Mark)
  | [] => none
  | .bar _ :: ms => closingTicks? count ms
  | .ticks _ stop n _ :: ms => if n = count then some (stop, ms) else closingTicks? count ms

/-- The stretches of a row that are code. A stretch takes a mark at least, so `fuel` is the number
of marks. -/
def codeStretches : (fuel : Nat) → List Mark → List (Nat × Nat)
  | 0, _ => []
  | _, [] => []
  | fuel + 1, .bar _ :: ms => codeStretches fuel ms
  | fuel + 1, .ticks start _ _ opening :: ms =>
    if opening = 0 then codeStretches fuel ms
    else match closingTicks? opening ms with
      | some (stop, rest) => (start, stop) :: codeStretches fuel rest
      | none => codeStretches fuel ms

/-- Split a row, whose first character has index `i`, at the given indices. -/
def splitAt (bars : List Nat) (i : Nat) : Text → List Text
  | [] => [[]]
  | c :: s =>
    if bars.elem i then [] :: splitAt bars (i + 1) s
    else match splitAt bars (i + 1) s with
      | [] => [[c]]
      | cell :: cells => (c :: cell) :: cells

/-- The cells between the bars of a row. -/
def cells (row : Text) : List Text :=
  let ms := marks row.length 0 row
  let code := codeStretches ms.length ms
  let bars := ms.filterMap fun
    | .bar i => if code.any fun r => r.1 ≤ i && i ≤ r.2 then none else some i
    | .ticks _ _ _ _ => none
  splitAt bars 0 row

/-! ## Rows -/

/-- A row without the bar at its end, if it has one that no backslash escapes. -/
def withoutEndBar? (row : Text) : Option Text :=
  match row.reverse with
  | '|' :: s =>
    let n := Text.countFront (· = '\\') s
    if n % 2 = 0 then some (s.drop n).reverse else none
  | _ => none

/-- The cells of a row. Bars at its ends are dropped where the table has such bars. -/
def rowCells (bordered : Bool) (row : Text) : List Text :=
  if bordered then
    let row := match row with
      | '|' :: s => s
      | s => s
    cells ((withoutEndBar? row).getD row)
  else cells row

def hasEdge (row : Text) : Bool := row.head? = some '|' || (withoutEndBar? row).isSome

private def isSeparatorChar (c : Char) : Bool := c = '|' || c = ':' || c = '-' || c = ' '

/-- Colons at the ends of a separator's cell tell how the column is set. -/
private def alignOf (cell : Text) : Option ColumnAlign :=
  let cell := trimSpaces cell
  let atStart := cell.head? = some ':'
  let atEnd := cell.getLast? = some ':'
  if atStart ∧ atEnd then some .centre
  else if atStart then some .left
  else if atEnd then some .right
  else none

/-- The table that a block is. Its second row separates the head from the others, and has as many
cells as the head. A table of one column has a bar at an end of each row. -/
def ofBlock? (block : Text) : Option Table :=
  match (Text.lines block).map trimSpaces with
  | head :: separator :: rows =>
    let bordered := hasEdge head
    let headCells := rowCells bordered head
    let separators := rowCells bordered separator
    let isTable := headCells.length > 1 || (bordered && (separator :: rows).all hasEdge)
    if isTable && separators.length = headCells.length &&
        separators.all (·.all isSeparatorChar) then
      some ⟨separators.map alignOf, headCells.map trimSpaces,
        rows.map fun r => (rowCells bordered r).map trimSpaces⟩
    else none
  | _ => none

/-! ## Elements -/

open Html

def cellElements (tag : String) : List (Option ColumnAlign) → List Text → List Element
  | [], _ => []
  | align :: columns, row =>
    let e := (Element.ofTag tag).withText (row.headD [])
    let e := match align with
      | some a => e.set "style" a.style
      | none => e
    e :: cellElements tag columns row.tail

def rowElement (tag : String) (t : Table) (row : List Text) : Element :=
  (Element.ofTag "tr").withChildren (cellElements tag t.columns row)

def emptyRow (t : Table) : Element :=
  (Element.ofTag "tr").withChildren (t.columns.map fun _ => .ofTag "td")

/-- The element of a table. Every row has all columns, and a table without rows has an empty one. -/
def element (t : Table) : Element :=
  let body := if t.rows.isEmpty then [emptyRow t] else t.rows.map (rowElement "td" t)
  (Element.ofTag "table").withChildren [
    (Element.ofTag "thead").withChildren [rowElement "th" t t.head],
    (Element.ofTag "tbody").withChildren body]

end Table

end WikiText.Markdown
