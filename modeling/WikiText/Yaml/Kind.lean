import WikiText.Text.Digit

/-!
# Kinds of nodes

A tag tells the kind of a node. A plain scalar without a tag is of the kind that its text looks
like.
-/

namespace WikiText.Yaml

/-- A version of the language. The older one has more words for truth values, and more numbers. -/
inductive Version where
  | v11
  | v12
deriving DecidableEq, Repr

/-- What a node is read as. A number is written as a version of the language has it. -/
inductive Kind where
  | null
  | bool
  | int (v : Version)
  | float (v : Version)
  | timestamp
  | text
  | list
  | mapping
  | merge
  | defaultValue
  | binary
  | set
  | orderedMapping
  | pairs
  | unknown
deriving DecidableEq, Repr

namespace Kind

/-- What the tags of the common kinds begin with. -/
def commonTag : Text := "tag:yaml.org,2002:".toList

/-- The kind that a tag stands for. -/
def ofTag (v : Version) (tag : Text) : Kind :=
  match (Text.strip? commonTag tag).map String.ofList with
  | some "null" => null
  | some "bool" => bool
  | some "int" => int v
  | some "float" => float v
  | some "timestamp" => timestamp
  | some "str" => text
  | some "seq" => list
  | some "map" => mapping
  | some "merge" => merge
  | some "value" => defaultValue
  | some "binary" => binary
  | some "set" => set
  | some "omap" => orderedMapping
  | some "pairs" => pairs
  | _ => unknown

/-! ## What a plain scalar looks like -/

private def dropSign (s : Text) : Text :=
  match s with
  | c :: t => if c = '-' || c = '+' then t else s
  | [] => []

private def isOneOf (words : List String) (s : Text) : Bool := words.any (·.toList = s)

private def isDigitOrLine (c : Char) : Bool := Text.isAsciiDigit c || c = '_'

private def notEmpty (f : Char → Bool) (s : Text) : Bool := !s.isEmpty && s.all f

/-- An exponent, whose sign may be required. -/
private def isExponent (signed : Bool) (s : Text) : Bool :=
  match s with
  | e :: t =>
    let digits := dropSign t
    (e = 'e' || e = 'E') && notEmpty Text.isAsciiDigit digits &&
      (!signed || digits.length < t.length)
  | [] => false

/-- Digits around a point or before an exponent. -/
private def isDecimal (s : Text) : Bool :=
  let whole := s.takeWhile isDigitOrLine
  let startsWithDigit := whole.head?.any Text.isAsciiDigit
  match s.drop whole.length with
  | '.' :: t =>
    let places := t.takeWhile isDigitOrLine
    let e := t.drop places.length
    if whole.isEmpty then !places.isEmpty && (e.isEmpty || isExponent true e)
    else startsWithDigit && (e.isEmpty || isExponent false e)
  | e => startsWithDigit && isExponent false e

/-- One digit, or two below sixty. -/
private def isSixtieth : Text → Bool
  | [c] => Text.isAsciiDigit c
  | [c, d] => '0' ≤ c && c ≤ '5' && Text.isAsciiDigit d
  | _ => false

/-- Digits to base 60 that colons part, of which there are two at least. -/
private def isSixties (s : Text) : Bool :=
  match Text.splitOn ':' s with
  | d :: e :: ds =>
    d.head?.any Text.isAsciiDigit && d.all isDigitOrLine && (e :: ds).all isSixtieth
  | _ => false

/-- Digits to base 60 before a point. -/
private def isSixtiesWithPlaces (s : Text) : Bool :=
  let whole := s.takeWhile (· ≠ '.')
  isSixties whole && match s.drop whole.length with
    | '.' :: places => places.all isDigitOrLine
    | _ => false

/-- A number with a point or an exponent. In the older version a sign stands before a digit only. -/
private def isFloat (v : Version) (s : Text) : Bool :=
  let t := dropSign s
  let isNumber : Bool := match v with
    | .v12 => isDecimal t
    | .v11 =>
      isDecimal t && (t.head? ≠ some '.' || s.head? = some '.') || isSixtiesWithPlaces t
  isNumber || isOneOf [".inf", ".Inf", ".INF"] t || isOneOf [".nan", ".NaN", ".NAN"] s

/-- A whole number, which begins with a digit or a sign. -/
private def isInt (v : Version) (s : Text) : Bool :=
  let digitsAfter (mark : String) (f : Char → Bool) (s : Text) : Bool :=
    (Text.strip? mark.toList s).any (notEmpty fun c => f c || c = '_')
  let t := dropSign s
  let isOctal (c : Char) : Bool := '0' ≤ c && c ≤ '7'
  let isPlain : Bool := match v with
    | .v12 => digitsAfter "0o" isOctal t || notEmpty isDigitOrLine t
    | .v11 =>
      digitsAfter "" isOctal t || t.head? ≠ some '0' && t.head?.any Text.isAsciiDigit &&
        (t.all isDigitOrLine || isSixties t)
  s.head? ≠ some '_' &&
    (digitsAfter "0b" (fun c => c = '0' || c = '1') t || isPlain ||
      digitsAfter "0x" Text.isHexDigit t)

private def isBool (v : Version) (s : Text) : Bool :=
  isOneOf ["true", "True", "TRUE", "false", "False", "FALSE"] s ||
    v = .v11 && isOneOf ["y", "Y", "yes", "Yes", "YES", "n", "N", "no", "No", "NO",
      "on", "On", "ON", "off", "Off", "OFF"] s

private def digits? (least most : Nat) (s : Text) : Option Text :=
  let n := min most (Text.countFront Text.isAsciiDigit s)
  if least ≤ n then some (s.drop n) else none

private def zoneEnds (s : Text) : Bool :=
  let s := s.dropWhile fun c => c = ' ' || c = '\t'
  match s with
  | [] => true
  | ['Z'] => true
  | c :: t =>
    (c = '-' || c = '+') && match digits? 1 2 t with
      | some [] => true
      | some (':' :: t) => digits? 2 2 t = some []
      | _ => false

/-- A day, or a day with a time. -/
private def isTimestamp (s : Text) : Bool :=
  let dash (s : Text) : Option Text := Text.strip? ['-'] s
  let colon (s : Text) : Option Text := Text.strip? [':'] s
  let day := do digits? 2 2 (← dash (← digits? 2 2 (← dash (← digits? 4 4 s))))
  let dayBeforeTime := do digits? 1 2 (← dash (← digits? 1 2 (← dash (← digits? 4 4 s))))
  let time (s : Text) : Option Text := do
    digits? 2 2 (← colon (← digits? 2 2 (← colon (← digits? 1 2 s))))
  let afterDay (s : Text) : Option Text :=
    match s with
    | c :: t =>
      if c = 'T' || c = 't' then some t
      else if c = ' ' || c = '\t' then some (t.dropWhile fun c => c = ' ' || c = '\t')
      else none
    | [] => none
  day = some [] || match dayBeforeTime.bind fun s => (afterDay s).bind time with
    | some ('.' :: t) => zoneEnds (t.dropWhile Text.isAsciiDigit)
    | some t => zoneEnds t
    | none => false

/-- The kind of a plain scalar. -/
def ofPlain (v : Version) (s : Text) : Kind :=
  if isBool v s then bool
  else if isFloat v s then float v
  else if isInt v s then int v
  else if s = "<<".toList then merge
  else if isOneOf ["", "~", "null", "Null", "NULL"] s then null
  else if isTimestamp s then timestamp
  else if s = ['='] then defaultValue
  else text

end Kind

end WikiText.Yaml
