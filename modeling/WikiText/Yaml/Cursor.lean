import WikiText.Text.Basic

/-! # A place in a document, and the classes of characters there -/

namespace WikiText.Yaml

/-- Whether a line ends with a character. -/
def isBreak (c : Char) : Bool := c = '\n' || c = '\x85' || c = '\u2028' || c = '\u2029'

/-- Whether white space, or the end of the text, stands at a place. -/
def isGap : Option Char → Bool
  | none => true
  | some c => c = ' ' || c = '\t' || c = '\n' || c = '\x85'

/-- Whether the end of a line or of the text stands at a place. -/
def isLineEnd (c : Option Char) : Bool := c.all isBreak

/-- Whether the mark of a byte order is allowed among the characters of a document, and all but
control characters are. -/
def isAllowed (c : Char) : Bool :=
  let n := c.toNat
  n = 9 || n = 10 || n = 13 || (32 ≤ n && n ≤ 0x7E) || n = 0x85 || (0xA0 ≤ n && n ≤ 0xFFFD) ||
    0x10000 ≤ n

/-- The text from a place on, the place's index, and its line and column. -/
structure Cursor where
  rest : Text
  index : Nat := 0
  line : Nat := 0
  column : Nat := 0

namespace Cursor

/-- The character `n` places on. -/
def at? (n : Nat) (c : Cursor) : Option Char := c.rest[n]?

def head? (c : Cursor) : Option Char := c.rest.head?

private def moveOver (c : Cursor) (x : Char) (rest : Text) : Cursor :=
  if isBreak x then ⟨rest, c.index + 1, c.line + 1, 0⟩
  else ⟨rest, c.index + 1, c.line, if x.toNat = 0xFEFF then c.column else c.column + 1⟩

/-- Move on by `n` characters. -/
def advance : Nat → Cursor → Cursor
  | 0, c => c
  | n + 1, c => match c.rest with
    | [] => c
    | x :: rest => advance n (c.moveOver x rest)

/-- The characters of a class at a place, and the place after them. -/
def takeWhile (f : Char → Bool) (c : Cursor) : Text × Cursor :=
  let t := c.rest.takeWhile f
  (t, c.advance t.length)

/-- Move over characters of a class. -/
def skipWhile (f : Char → Bool) (c : Cursor) : Cursor := (c.takeWhile f).2

/-- Move over a character, if it is the next one. -/
def expect? (x : Char) (c : Cursor) : Option Cursor :=
  if c.head? = some x then some (c.advance 1) else none

/-- The end of a line as it counts in a text, and the place after it. -/
def lineEnd? (c : Cursor) : Option (Char × Cursor) :=
  match c.head? with
  | some x =>
    if isBreak x then some (if x = '\x85' then '\n' else x, c.advance 1) else none
  | none => none

/-- Move over spaces up to a column. -/
def skipSpacesTo (column : Nat) (c : Cursor) : Cursor :=
  c.advance (min (column - c.column) (Text.countFront (· = ' ') c.rest))

/-- Whether three marks stand alone at a place. -/
def hasMarks (mark : Char) (c : Cursor) : Bool :=
  Text.startsWith (Text.copies 3 mark) c.rest && isGap (c.at? 3)

/-- Whether the begin or the end of a document is marked at a place. -/
def atSeparator (c : Cursor) : Bool := c.hasMarks '-' || c.hasMarks '.'

/-- Move over the rest of a line that holds nothing but a comment. -/
def finishLine? (c : Cursor) : Option Cursor :=
  let c := c.skipWhile (· = ' ')
  let c := if c.head? = some '#' then c.skipWhile (!isBreak ·) else c
  match c.lineEnd? with
  | some (_, c) => some c
  | none => if c.rest.isEmpty then some c else none

end Cursor

end WikiText.Yaml
