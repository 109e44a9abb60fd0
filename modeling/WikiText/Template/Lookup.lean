import WikiText.Template.Spec

/-! # What a field names

A field names an argument by its number, by the order of the fields, or by a name, and may go on to
a character of it.
-/

namespace WikiText.Template

/-- Whether fields are numbered by the template or by their order, once one of them is numbered. -/
inductive Numbering where
  | undecided
  | automatic (next : Nat)
  | manual
deriving DecidableEq, Repr

/-- What fields can name: the arguments in their order, and other texts by name. -/
structure Arguments where
  positional : List Text
  named : List (Text × Text)

/-- A number is all digits; a text with other characters is none. -/
def index? (s : Text) : Except Error (Option Nat) := do
  let (n, rest) ← number? s
  .ok (if rest.isEmpty then n else none)

def argument (args : Arguments) (n : Nat) : Except Error Text :=
  match args.positional[n]? with
  | some t => .ok t
  | none => .error (.indexOutOfRange n)

/-- The argument that the first part of a name stands for. -/
def first (args : Arguments) (numbering : Numbering) (name : Text) :
    Except Error (Text × Numbering) := do
  match ← index? name, numbering with
  | some _, .automatic _ => .error .manualAfterAuto
  | some n, _ => (argument args n).map (·, .manual)
  | none, _ =>
    if name.isEmpty then match numbering with
      | .manual => .error .autoAfterManual
      | .automatic n => (argument args n).map (·, .automatic (n + 1))
      | .undecided => (argument args 0).map (·, .automatic 1)
    else match args.named.lookup name with
      | some t => .ok (t, numbering)
      | none => .error (.unknownName name)

def endsPart (c : Char) : Bool := c = '.' || c = '['

/-- The character with an index. -/
private def character (value : Text) (name : Text) : Except Error Text := do
  match ← index? name with
  | none => .error .namedItem
  | some n => match value[n]? with
    | some c => .ok [c]
    | none => .error .characterOutOfRange

/-- Follow the further parts of a name from a value on. Each part takes a character at least, so
`fuel` is the length of the name. -/
def follow : (fuel : Nat) → (value : Text) → Text → Except Error Text
  | 0, value, _ => .ok value
  | _, value, [] => .ok value
  | fuel + 1, value, c :: s =>
    if c = '.' then
      let name := s.takeWhile fun c => !endsPart c
      if name.isEmpty then .error .emptyPart else .error (.unknownAttribute name)
    else if c = '[' then
      match Text.splitOnce? [']'] s with
      | none => .error .unclosedItem
      | some (name, rest) => do
        let _ ← index? name
        if name.isEmpty then .error .emptyPart
        else follow fuel (← character value name) rest
    else .error .unexpectedAfterItem

/-- The text that a name stands for. -/
def lookup (args : Arguments) (numbering : Numbering) (name : Text) :
    Except Error (Text × Numbering) := do
  let head := name.takeWhile fun c => !endsPart c
  let (value, numbering) ← first args numbering head
  let value ← follow name.length value (name.drop head.length)
  .ok (value, numbering)

end WikiText.Template
