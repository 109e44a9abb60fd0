import WikiText.Text.Digit
import WikiText.Yaml.Cursor

/-!
# Scalars as they are written

A scalar is written plainly, between quotes, or as an indented block. Each reader yields the text
that the scalar stands for and the place after it.
-/

namespace WikiText.Yaml

/-- What joins two lines of a scalar: a space, or else the empty lines between them. -/
private def joint (lineEnd : Char) (breaks : Text) : Text :=
  if lineEnd ≠ '\n' then lineEnd :: breaks
  else if breaks.isEmpty then [' '] else breaks

/-! ## Plain scalars -/

/-- A part of a plain scalar without white space. -/
private def plainPart (inFlow : Bool) : Text → Text
  | [] => []
  | c :: s =>
    if isGap (some c) || (c = ':' && isGap s.head?) ||
        (inFlow && (c = ',' || c = '[' || c = ']' || c = '\x7b' || c = '\x7d')) then []
    else c :: plainPart inFlow s

/-- Empty lines and spaces. No text is the answer where a document ends. A step takes a character,
so `fuel` is the length of the text. -/
private def emptyLines : (fuel : Nat) → Cursor → Option Text × Cursor
  | 0, c => (some [], c)
  | fuel + 1, c =>
    let c := c.skipWhile (· = ' ')
    match c.lineEnd? with
    | none => (some [], c)
    | some (b, c) =>
      if c.atSeparator then (none, c)
      else
        let (breaks, c) := emptyLines fuel c
        (breaks.map (b :: ·), c)

/-- What stands between two parts of a plain scalar: its text, whether it ends a line, and the place
after it. -/
private def plainGap (c : Cursor) : Text × Bool × Cursor :=
  let (spaces, c) := c.takeWhile (· = ' ')
  match c.lineEnd? with
  | none => (spaces, false, c)
  | some (b, c) =>
    if c.atSeparator then ([], true, c)
    else match emptyLines c.rest.length c with
      | (some breaks, c) => (joint b breaks, true, c)
      | (none, c) => ([], true, c)

/-- A plain scalar, with what stands before its next part. It goes on in lines that are indented to
a column at least; in flow collections indentation does not count. The answer tells whether a line
ends behind it. A part takes a character at least, so `fuel` is the length of the text. -/
private def plainFrom (inFlow : Bool) (column : Nat) : (fuel : Nat) → (gap : Text) →
    (lineEnded : Bool) → Cursor → Text × Bool × Cursor
  | 0, _, lineEnded, c => ([], lineEnded, c)
  | fuel + 1, gap, lineEnded, c =>
    let part := if c.head? = some '#' then [] else plainPart inFlow c.rest
    if part.isEmpty then ([], lineEnded, c)
    else
      let (next, lineEnded, c) := plainGap (c.advance part.length)
      if next.isEmpty || c.head? = some '#' || (!inFlow && c.column < column) then
        (gap ++ part, lineEnded, c)
      else
        let (more, lineEnded, c) := plainFrom inFlow column fuel next lineEnded c
        (gap ++ part ++ more, lineEnded, c)

/-- The plain scalar at a place, whether a line ends behind it, and the place after it. -/
def plainScalar (inFlow : Bool) (column : Nat) (c : Cursor) : Text × Bool × Cursor :=
  plainFrom inFlow column c.rest.length [] false c

/-! ## Quoted scalars -/

/-- What a character behind a backslash stands for. -/
private def escapes : List (Char × Nat) := [
  ('0', 0), ('a', 7), ('b', 8), ('t', 9), ('\t', 9), ('n', 10), ('v', 11), ('f', 12), ('r', 13),
  ('e', 0x1B), (' ', 0x20), ('"', 0x22), ('/', 0x2F), ('\\', 0x5C), ('N', 0x85), ('_', 0xA0),
  ('L', 0x2028), ('P', 0x2029)]

/-- How many digits follow a backslash and a letter. -/
private def codeLength? : Char → Option Nat
  | 'x' => some 2
  | 'u' => some 4
  | 'U' => some 8
  | _ => none

/-- The character that stands behind a backslash. -/
private def escape? (c : Cursor) : Option (Char × Cursor) := do
  let x ← c.head?
  match escapes.lookup x with
  | some n => some (Char.ofNat n, c.advance 1)
  | none =>
    let length ← codeLength? x
    let c := c.advance 1
    let digits := (c.rest.take length).takeWhile Text.isHexDigit
    if digits.length = length ∧ Text.hexValue digits < 0x110000 then
      some (Char.ofNat (Text.hexValue digits), c.advance length)
    else none

/-- Line ends and the white space at the front of lines. A document may not end here. A step takes a
character, so `fuel` is the length of the text. -/
private def quotedBreaks? : (fuel : Nat) → Cursor → Option (Text × Cursor)
  | 0, c => some ([], c)
  | fuel + 1, c =>
    if c.atSeparator then none
    else
      let c := c.skipWhile fun x => x = ' ' || x = '\t'
      match c.lineEnd? with
      | some (b, c) => (quotedBreaks? fuel c).map fun (breaks, c) => (b :: breaks, c)
      | none => some ([], c)

/-- White space in a quoted scalar. -/
private def quotedGap? (c : Cursor) : Option (Text × Cursor) :=
  let (spaces, c) := c.takeWhile fun x => x = ' ' || x = '\t'
  match c.lineEnd? with
  | some (b, c) => (quotedBreaks? c.rest.length c).map fun (breaks, c) => (joint b breaks, c)
  | none => if c.rest.isEmpty then none else some (spaces, c)

/-- The rest of a quoted scalar. A step takes a character at least, so `fuel` is the length of the
text.
-/
private def quotedFrom? (quote : Char) : (fuel : Nat) → Cursor → Option (Text × Cursor)
  | 0, _ => none
  | fuel + 1, c => do
    let x ← c.head?
    let (part, c) ← (
      if x = quote then
        if quote = '\x27' ∧ c.at? 1 = some quote then some ([quote], c.advance 2)
        else none
      else if x = '\\' ∧ quote = '"' then
        let c := c.advance 1
        match c.lineEnd? with
        | some (_, c) => quotedBreaks? c.rest.length c
        | none => (escape? c).map fun (y, c) => ([y], c)
      else if isGap (some x) || isBreak x then quotedGap? c
      else some ([x], c.advance 1))
    if c.head? = some quote ∧ ¬ (quote = '\x27' ∧ c.at? 1 = some quote) then
      some (part, c.advance 1)
    else
      let (more, c) ← quotedFrom? quote fuel c
      some (part ++ more, c)

/-- The scalar in quotes at a place, and the place after it. -/
def quotedScalar? (quote : Char) (c : Cursor) : Option (Text × Cursor) :=
  let c := c.advance 1
  if c.head? = some quote ∧ ¬ (quote = '\x27' ∧ c.at? 1 = some quote) then some ([], c.advance 1)
  else quotedFrom? quote c.rest.length c

/-! ## Blocks -/

/-- What becomes of the line ends behind a block: one stays, all stay, or none. -/
inductive Chomping where
  | clip
  | keep
  | strip
deriving DecidableEq, Repr

private def chomping? : Option Char → Option Chomping
  | some '+' => some .keep
  | some '-' => some .strip
  | _ => none

private def indentation? : Option Char → Option Nat
  | some c => if '1' ≤ c && c ≤ '9' then some (c.toNat - 48) else none
  | none => none

/-- The head of a block: what becomes of its last line ends, and its indentation if it is given. -/
private def blockHead? (c : Cursor) : Option (Chomping × Option Nat × Cursor) := do
  let (chomping, indentation, n) := match chomping? c.head?, indentation? c.head? with
    | some k, _ =>
      let i := indentation? (c.at? 1)
      (k, i, if i.isSome then 2 else 1)
    | none, some i =>
      let k := chomping? (c.at? 1)
      (k.getD .clip, some i, if k.isSome then 2 else 1)
    | none, none => (.clip, none, 0)
  let c := c.advance n
  if c.head? = some ' ' || isLineEnd c.head? then
    some (chomping, indentation, ← c.finishLine?)
  else none

/-- The empty lines at the front of a block, and the indentation of the deepest line up to the first
that is not empty. An empty line may not be indented deeper than the first. A step takes a
character, so `fuel` is the length of the text. -/
private def leadingLines : (fuel : Nat) → (first : Option Nat) → (deepest : Nat) → Cursor →
    Option (Text × Nat × Cursor)
  | 0, _, deepest, c => some ([], deepest, c)
  | fuel + 1, first, deepest, c =>
    let c := c.skipWhile (· = ' ')
    let deepest := max deepest c.column
    match c.lineEnd? with
    | some (b, d) =>
      (leadingLines fuel (first.or (some c.column)) deepest d).map fun (breaks, deepest, d) =>
        (b :: breaks, deepest, d)
    | none => if first.any fun n => 0 < n && n < deepest then none else some ([], deepest, c)

/-- The empty lines in a block. A step takes a character, so `fuel` is the length of the text. -/
private def blockBreaks (column : Nat) : (fuel : Nat) → Cursor → Text × Cursor
  | 0, c => ([], c.skipSpacesTo column)
  | fuel + 1, c =>
    let c := c.skipSpacesTo column
    match c.lineEnd? with
    | some (b, c) =>
      let (breaks, c) := blockBreaks column fuel c
      (b :: breaks, c)
    | none => ([], c)

private def isSpaceOrTab (c : Option Char) : Bool := c = some ' ' || c = some '\t'

/-- The lines of a block, and what stands behind them: the last line end and the empty lines after
it. A line takes a character at least, so `fuel` is the length of the text. -/
private def blockLines (folded atTop : Bool) (column : Nat) : (fuel : Nat) → (breaks : Text) →
    Cursor → Text × Text × Text × Cursor
  | 0, breaks, c => ([], [], breaks, c)
  | fuel + 1, breaks, c =>
    let startsWithText := !isSpaceOrTab c.head?
    let (line, c) := c.takeWhile fun x => x ≠ '\n' && x ≠ '\x85'
    let (lineEnd, c) := match c.lineEnd? with
      | some (b, c) => ([b], c)
      | none => ([], c)
    let (next, c) := blockBreaks column c.rest.length c
    let before := breaks ++ line
    if c.column = column ∧ ¬ c.rest.isEmpty ∧ ¬ (atTop ∧ c.column = 0 ∧ c.atSeparator) then
      let between := if folded ∧ lineEnd = ['\n'] ∧ startsWithText ∧ ¬ isSpaceOrTab c.head? then
          (if next.isEmpty then [' '] else [])
        else lineEnd
      let (text, lineEnd, breaks, c) := blockLines folded atTop column fuel next c
      (before ++ between ++ text, lineEnd, breaks, c)
    else (before, lineEnd, next, c)

/-- The block at a place, whose lines are indented to a column at least. -/
def blockScalar? (folded : Bool) (least : Nat) (c : Cursor) : Option (Text × Cursor) := do
  let (chomping, indentation, c) ← blockHead? (c.advance 1)
  let (column, breaks, c) ← match indentation with
    | some n =>
      let column := max least 1 + n - 1
      let (breaks, c) := blockBreaks column c.rest.length c
      some (column, breaks, c)
    | none => (leadingLines c.rest.length none 0 c).map fun (breaks, deepest, c) =>
      (max least deepest, breaks, c)
  let (text, lineEnd, breaks, c) :=
    if c.column = column ∧ ¬ c.rest.isEmpty then
      blockLines folded (least = 0) column c.rest.length breaks c
    else ([], [], breaks, c)
  match chomping with
  | .clip => some (text ++ lineEnd, c)
  | .keep => some (text ++ lineEnd ++ breaks, c)
  | .strip => some (text, c)

end WikiText.Yaml
