import WikiText.Template.Error

/-! # Format specifiers

A specifier says how wide a text is to be, and where it stands in that width.
-/

namespace WikiText.Template

inductive Align where
  | left
  | right
  | centre
  | afterSign
deriving DecidableEq, Repr

/-- A specifier for text. `mark` is a mark in it that text does not admit. -/
structure Spec where
  fill : Char := ' '
  align : Align := .left
  width : Option Nat := none
  precision : Option Nat := none
deriving Repr

/-- The greatest number that may be written in a template. -/
def greatestNumber : Nat := 9223372036854775807

/-- The decimal digits at the front, of any script, as a number; their count; and the text after
them. -/
def number? (s : Text) : Except Error (Option Nat × Text) :=
  go none s
where
  /-- Read on with the number so far. -/
  go (n : Option Nat) : Text → Except Error (Option Nat × Text)
    | [] => .ok (n, [])
    | c :: s => match Text.digit? c with
      | none => .ok (n, c :: s)
      | some d =>
        let m := n.getD 0 * 10 + d
        if m > greatestNumber then .error .tooManyDigits else go (some m) s

private def align? (c : Char) : Option Align :=
  match c with
  | '<' => some .left
  | '>' => some .right
  | '^' => some .centre
  | '=' => some .afterSign
  | _ => none

/-- The fill and the alignment at the front. -/
private def alignment (s : Text) : Option Char × Option Align × Text :=
  match s with
  | f :: a :: rest => match align? a with
    | some al => (some f, some al, rest)
    | none => match align? f with
      | some al => (none, some al, a :: rest)
      | none => (none, none, s)
  | [a] => match align? a with
    | some al => (none, some al, [])
    | none => (none, none, s)
  | [] => (none, none, [])

/-- Take one character of a class from the front. -/
private def take? (f : Char → Bool) : Text → Option Char × Text
  | c :: s => if f c then (some c, s) else (none, c :: s)
  | [] => (none, [])

/-- The separator of thousands. -/
private def readSeparator (s : Text) : Except Error (Option Char × Text) :=
  let (comma, s) := take? (· = ',') s
  match take? (· = '_') s with
  | (some _, s) =>
    if comma.isSome then .error .bothSeparators
    else if s.head? = some ',' then .error .bothSeparators
    else .ok (some '_', s)
  | (none, s) => .ok (comma, s)

private def readPrecision (s : Text) : Except Error (Option Nat × Text) :=
  match s with
  | '.' :: s => do
    let (n, s) ← number? s
    match n with
    | some n => .ok (some n, s)
    | none => .error .missingPrecision
  | s => .ok (none, s)

/-- Types of numbers before which thousands may be separated. -/
private def separable (separator type : Char) : Bool :=
  "defgEG%F".toList.elem type || (separator = '_' && "boxX".toList.elem type)

/-- Read a specifier; its type must be that of text, and it may not have the marks that only numbers
admit. -/
def Spec.read (spec : Text) : Except Error Spec := do
  let (fill, align, s) := alignment spec
  let (sign, s) := take? (fun c => c = ' ' || c = '+' || c = '-') s
  let (zero, s) := take? (· = 'z') s
  let (hash, s) := take? (· = '#') s
  let (pad, s) := if fill.isSome then (none, s) else take? (· = '0') s
  let (width, s) ← number? s
  let (sep, s) ← readSeparator s
  let (prec, s) ← readPrecision s
  if s.length > 1 then throw (.invalidSpec spec)
  let type := s.headD 's'
  if let some sep := sep then
    if !separable sep type then throw (.separatorWithType sep type)
  if type ≠ 's' then throw (.unknownType type)
  if let some sign := sign then throw (.unfit (if sign = ' ' then .space else .sign))
  if zero.isSome then throw (.unfit .negativeZero)
  if hash.isSome then throw (.unfit .alternateForm)
  let align := align.getD .left
  if align = .afterSign then throw (.unfit .padAfterSign)
  return { fill := fill.getD (if pad.isSome then '0' else ' '), align, width, precision := prec }

/-- A text cut to the precision and filled up to the width. -/
def Spec.apply (spec : Spec) (s : Text) : Text :=
  let s := match spec.precision with
    | some p => s.take p
    | none => s
  let missing := spec.width.getD 0 - s.length
  let before := match spec.align with
    | .right => missing
    | .centre => missing / 2
    | _ => 0
  Text.copies before spec.fill ++ s ++ Text.copies (missing - before) spec.fill

/-- A text as a specifier asks for it; the empty one asks for nothing. -/
def formatText (spec s : Text) : Except Error Text :=
  if spec.isEmpty then .ok s else (Spec.read spec).map (·.apply s)

end WikiText.Template
