import WikiText.Toc.Placeholder
import WikiText.Text.Quoted
import WikiText.Warning

/-! # Requests for a table of contents -/

namespace WikiText.Toc

/-- A table of contents on a side of the page, or on none, for a range of levels. -/
structure Request where
  side : Option Side := none
  first : Int := 1
  last : Int := 6
deriving DecidableEq, Repr

/-- Whether the headings of a level belong in the table. -/
def Request.includes (r : Request) (level : Int) : Bool := r.first ≤ level ∧ level ≤ r.last

/-- A marker that names no side. -/
structure UnknownMarker where
  marker : Text

def UnknownMarker.message (e : UnknownMarker) : Text :=
  Text.quote e.marker ++ " is not a valid TocAlignment".toList

/-- The side that a marker names; no marker names none. -/
def Side.ofMarker (marker : Text) : Except UnknownMarker (Option Side) :=
  match marker with
  | [] => .ok none
  | ['<'] => .ok (some .left)
  | ['>'] => .ok (some .right)
  | m => .error ⟨m⟩

/-- The level that a digit names. -/
def level? (c : Char) : Option Int :=
  if '1' ≤ c ∧ c ≤ '6' then some ((c.toNat : Int) - 48) else none

/-- A level at the front, its letter being required. -/
def firstLevel : Text → Option Int × Text
  | h :: c :: s => if h.toLower = 'h' then match level? c with
      | some n => (some n, s)
      | none => (none, h :: c :: s)
    else (none, h :: c :: s)
  | s => (none, s)

/-- The text after a hyphen, or after two dots or more. -/
def afterSeparator? : Text → Option Text
  | '-' :: s => some s
  | '.' :: '.' :: s => some (s.dropWhile (· = '.'))
  | _ => none

/-- The level that is all of a text, its letter not being required; `none` if there is other text. A
line end may follow. -/
def lastLevel? (s : Text) : Option (Option Int) :=
  match if s.getLast? = some '\n' then s.dropLast else s with
  | [] => some none
  | [c] => (level? c).map some
  | [h, c] => if h.toLower = 'h' then (level? c).map some else none
  | _ => none

/-- The levels that a parameter names: `h2..h4`, `h3-`, `..4` and the like. One of the two must be
there; the other is then the first or the last of all. -/
def levelRange? (parameter : Text) : Option (Int × Int) := do
  let (first, s) := firstLevel parameter
  let s ← afterSeparator? s
  let last ← lastLevel? s
  if first.isNone ∧ last.isNone then none else some (first.getD 1, last.getD 6)

/-- The request for a side and a parameter. A parameter that names no levels is reported, and the
request is for all levels. -/
def Request.ofParameter (side : Option Side) : Option Text → Request × List Warning
  | none => ({ side }, [])
  | some p => match levelRange? p with
    | some (first, last) => ({ side, first, last }, [])
    | none => ({ side }, [.illegalTocParameter p])

end WikiText.Toc
