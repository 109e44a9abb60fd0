import WikiText.Text.Basic

/-! # What follows the brackets of a link

A link has a second part: an id in brackets, or a destination in parentheses.
-/

namespace WikiText

/-- The id of a reference link, read up to the first closing bracket of its line, and the text
after it. -/
def linkId? : Text → Option (Text × Text)
  | [] => none
  | c :: s =>
    if c = '\n' then none
    else if c = ']' then some ([], s)
    else (linkId? s).map fun (id, rest) => (c :: id, rest)

/-- What may stand between the two parts of a reference link: one space, then a line end and any
spaces after it. -/
def dropGap (s : Text) : Text :=
  match Text.dropAtMost Text.isSpace 1 s with
  | '\n' :: s => s.dropWhile Text.isSpace
  | s => s

/-- The id of a reference link, which may be empty, and the text after it. -/
def referencePart? (s : Text) : Option (Text × Text) :=
  match dropGap s with
  | '[' :: s => linkId? s
  | _ => none

/-- Where an inline link leads, its title, and the text after it. -/
structure InlinePart where
  url : Text
  title : Option Text
  rest : Text
deriving DecidableEq, Repr

/-- The text after spaces and a closing parenthesis. -/
def afterParen? (s : Text) : Option Text :=
  match s.dropWhile Text.isSpace with
  | ')' :: rest => some rest
  | _ => none

/-- A title up to the first `mark` that a closing parenthesis follows, and the text after it. -/
def titleEnd? (mark : Char) : Text → Option (Text × Text)
  | [] => none
  | c :: s =>
    match (if c = mark then afterParen? s else none) with
    | some rest => some ([], rest)
    | none =>
      if c = '\n' then none else (titleEnd? mark s).map fun (title, rest) => (c :: title, rest)

/-- What ends a destination: an angle bracket that may be missing, spaces, a title in quotes that
may be missing, and a closing parenthesis. -/
def ending? (s : Text) : Option (Option Text × Text) :=
  let s := match s with
    | '>' :: s => s
    | s => s
  match s.dropWhile Text.isSpace with
  | ')' :: rest => some (none, rest)
  | c :: s =>
    if c = '"' ∨ c = '\x27' then (titleEnd? c s).map fun (title, rest) => (some title, rest)
    else none
  | [] => none

/-- The shortest destination, of one character at least, that ends. It stays on its line. -/
def shortestUrl? : Text → Option InlinePart
  | [] => none
  | c :: s =>
    if c = '\n' then none
    else match ending? s with
      | some (title, rest) => some ⟨[c], title, rest⟩
      | none => (shortestUrl? s).map fun p => { p with url := c :: p.url }

/-- The destination that is the one character `c`, if it ends there. -/
def singleUrl? (c : Char) (s : Text) : Option InlinePart :=
  (ending? s).map fun (title, rest) => ⟨[c], title, rest⟩

/-- The second part of an inline link. Spaces before the destination do not belong to it, nor does
an angle bracket; one of them is the destination where there is no other. -/
def inlinePart? : Text → Option InlinePart
  | '(' :: s =>
    let body := s.dropWhile Text.isSpace
    let found := match body with
      | '<' :: inner => (shortestUrl? inner).or (singleUrl? '<' inner)
      | _ => shortestUrl? body
    found.or (if body.length < s.length then singleUrl? ' ' body else none)
  | _ => none

end WikiText
