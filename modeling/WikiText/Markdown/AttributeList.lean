import WikiText.Text.Basic

/-! # Attribute lists

Classes, an identifier and named values, as they stand in braces after the opening of a code block.
-/

namespace WikiText.Markdown

/-- An attribute. A word alone is a name with itself as its value. -/
inductive Attribute where
  | className (name : Text)
  | id (name : Text)
  | named (name value : Text)
deriving DecidableEq, Repr

private def isWordChar (c : Char) : Bool := c ≠ ' ' && c ≠ '=' && c ≠ '\x7d'

/-- The value in quotation marks at the front of a text, without the marks around it. -/
private def quoted? (mark : Char) (s : Text) : Option (Text × Text) :=
  match s with
  | c :: s =>
    if c = mark then
      (Text.splitOnce? [mark] s).map fun (v, rest) => (Text.trimWhile (· = mark) v, rest)
    else none
  | [] => none

private def wordAttribute (word : Text) : Attribute :=
  match word with
  | '.' :: name => .className name
  | '#' :: name => .id name
  | name => .named name name

/-- Read one attribute. -/
private def attribute? (s : Text) : Option (Attribute × Text) :=
  let word := s.takeWhile isWordChar
  if word.isEmpty then none
  else match s.drop word.length with
    | '=' :: t =>
      match (quoted? '"' t).or (quoted? '\x27' t) with
      | some (v, rest) => some (.named word v, rest)
      | none =>
        let value := t.takeWhile isWordChar
        if value.isEmpty then some (wordAttribute word, '=' :: t)
        else some (.named word value, t.drop value.length)
    | rest => some (wordAttribute word, rest)

/-- Read attributes with spaces between them. Each step takes a character, so `fuel` is the text's
length. -/
private def readFrom : (fuel : Nat) → Text → List Attribute × Text
  | 0, s => ([], s)
  | fuel + 1, s => match s with
    | ' ' :: s => readFrom fuel s
    | s => match attribute? s with
      | some (a, rest) =>
        let (as, rest) := readFrom fuel rest
        (a :: as, rest)
      | none => ([], s)

/-- The attributes of a list. What could not be read must not hold a closing brace. -/
def attributes? (s : Text) : Option (List Attribute) :=
  let (as, rest) := readFrom s.length s
  if rest.elem '\x7d' then none else some as

end WikiText.Markdown
