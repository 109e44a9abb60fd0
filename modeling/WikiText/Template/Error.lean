import WikiText.Text.Quoted

/-! # Why a template cannot be filled in -/

namespace WikiText.Template

/-- A mark that a format specifier cannot have for text. -/
inductive Unfit where
  | sign
  | space
  | negativeZero
  | alternateForm
  | padAfterSign
deriving DecidableEq, Repr

/-- The causes of failure. -/
inductive Error where
  | singleClose
  | singleOpen
  | openInName
  | unclosedField
  | missingConversion
  | missingColon
  | unclosedSpec
  | nestedTooDeep
  | tooManyDigits
  | autoAfterManual
  | manualAfterAuto
  | indexOutOfRange (n : Nat)
  | unknownName (name : Text)
  | unexpectedAfterItem
  | unclosedItem
  | emptyPart
  | unknownAttribute (name : Text)
  | characterOutOfRange
  | namedItem
  | unknownConversion (c : Char)
  | bothSeparators
  | missingPrecision
  | invalidSpec (spec : Text)
  | separatorWithType (separator type : Char)
  | unknownType (c : Char)
  | unfit (u : Unfit)
deriving DecidableEq, Repr

private def shown (c : Char) (bound : Nat) : Text :=
  if 32 < c.toNat ∧ c.toNat < bound then [c] else '\\' :: 'x' :: Text.hex 1 c.toNat

def Unfit.message : Unfit → Text
  | .sign => "Sign not allowed in string format specifier".toList
  | .space => "Space not allowed in string format specifier".toList
  | .negativeZero => "Negative zero coercion (z) not allowed in string format specifier".toList
  | .alternateForm => "Alternate form (#) not allowed in string format specifier".toList
  | .padAfterSign => "'=' alignment not allowed in string format specifier".toList

/-- The words of a cause. -/
def Error.message : Error → Text
  | .singleClose => "Single '\x7d' encountered in format string".toList
  | .singleOpen => "Single '\x7b' encountered in format string".toList
  | .openInName => "unexpected '\x7b' in field name".toList
  | .unclosedField => "expected '\x7d' before end of string".toList
  | .missingConversion => "end of string while looking for conversion specifier".toList
  | .missingColon => "expected ':' after conversion specifier".toList
  | .unclosedSpec => "unmatched '\x7b' in format spec".toList
  | .nestedTooDeep => "Max string recursion exceeded".toList
  | .tooManyDigits => "Too many decimal digits in format string".toList
  | .autoAfterManual =>
    "cannot switch from manual field specification to automatic field numbering".toList
  | .manualAfterAuto =>
    "cannot switch from automatic field numbering to manual field specification".toList
  | .indexOutOfRange n =>
    "Replacement index ".toList ++ Text.ofNat n ++ " out of range for positional args tuple".toList
  | .unknownName name => Text.quote name
  | .unexpectedAfterItem => "Only '.' or '[' may follow ']' in format field specifier".toList
  | .unclosedItem => "Missing ']' in format string".toList
  | .emptyPart => "Empty attribute in format string".toList
  | .unknownAttribute name => "'str' object has no attribute '".toList ++ name ++ ['\x27']
  | .characterOutOfRange => "string index out of range".toList
  | .namedItem => "string indices must be integers, not 'str'".toList
  | .unknownConversion c => "Unknown conversion specifier ".toList ++ shown c 127
  | .bothSeparators => "Cannot specify both ',' and '_'.".toList
  | .missingPrecision => "Format specifier missing precision".toList
  | .invalidSpec spec =>
    "Invalid format specifier '".toList ++ spec ++ "' for object of type 'str'".toList
  | .separatorWithType separator type =>
    "Cannot specify '".toList ++ [separator] ++ "' with '".toList ++ shown type 128 ++ "'.".toList
  | .unknownType c =>
    "Unknown format code '".toList ++ shown c 128 ++ "' for object of type 'str'".toList
  | .unfit u => u.message

end WikiText.Template
