import WikiText.Template.Error

/-! # The parts of a template

A template is text with fields in braces; a brace of the text is doubled.
-/

namespace WikiText.Template

/-- A field as written: its name, its conversion, and its specifier, which may hold fields
itself. -/
structure Field where
  name : Text
  conversion : Option Char
  spec : Text
  nested : Bool
deriving DecidableEq, Repr

/-- Text, and the field that follows it if there is one. -/
structure Part where
  literal : Text
  field : Option Field
deriving DecidableEq, Repr

/-- Read a name up to what ends it. Inside square brackets nothing does. -/
def name? : (inItem : Bool) → Text → Except Error (Text × Char × Text)
  | _, [] => .error .unclosedField
  | true, c :: s => do
    let (n, stop, rest) ← name? (c != ']') s
    .ok (c :: n, stop, rest)
  | false, c :: s =>
    if c = '\x7b' then .error .openInName
    else if c = '\x7d' ∨ c = ':' ∨ c = '!' then .ok ([], c, s)
    else do
      let (n, stop, rest) ← name? (c = '[') s
      .ok (c :: n, stop, rest)

/-- Read a specifier up to the brace that closes the field, inside which `depth` more are open. Tell
whether it holds an opening brace. -/
private def spec? : (depth : Nat) → Text → Except Error (Text × Bool × Text)
  | _, [] => .error .unclosedSpec
  | depth, c :: s =>
    if c = '\x7b' then do
      let (spec, _, rest) ← spec? (depth + 1) s
      .ok (c :: spec, true, rest)
    else if c = '\x7d' then match depth with
      | 0 => .ok ([], false, s)
      | d + 1 => do
        let (spec, nested, rest) ← spec? d s
        .ok (c :: spec, nested, rest)
    else do
      let (spec, nested, rest) ← spec? depth s
      .ok (c :: spec, nested, rest)

/-- A null character is no conversion. -/
private def conversionOf (c : Char) : Option Char := if c.toNat = 0 then none else some c

private def withSpec (name : Text) (conversion : Option Char) (s : Text) :
    Except Error (Field × Text) := do
  let (spec, nested, rest) ← spec? 0 s
  .ok (⟨name, conversion, spec, nested⟩, rest)

/-- Read a field after its opening brace. -/
def Field.read (s : Text) : Except Error (Field × Text) := do
  let (name, stop, s) ← name? false s
  if stop = '\x7d' then .ok (⟨name, none, [], false⟩, s)
  else if stop = ':' then withSpec name none s
  else match s with
    | [] => .error .missingConversion
    | c :: '\x7d' :: rest => .ok (⟨name, conversionOf c, [], false⟩, rest)
    | c :: ':' :: s => withSpec name (conversionOf c) s
    | _ :: _ :: _ => .error .missingColon
    | [_] => .error .unclosedSpec

/-- Read text up to a field, a doubled brace or the end, and the field. -/
def Part.read (s : Text) : Except Error (Part × Text) :=
  let literal := s.takeWhile fun c => c ≠ '\x7b' ∧ c ≠ '\x7d'
  match s.drop literal.length with
  | [] => .ok (⟨literal, none⟩, [])
  | c :: s =>
    if s.head? = some c then .ok (⟨literal ++ [c], none⟩, s.tail)
    else if c = '\x7d' then .error .singleClose
    else if s = [] then .error .singleOpen
    else do
      let (field, rest) ← Field.read s
      .ok (⟨literal, some field⟩, rest)

end WikiText.Template
