import WikiText.Text.Digit
import WikiText.Html.ReferenceTable

/-! # Character references -/

namespace WikiText.Html

/-- The text that a named reference stands for, its semicolon being part of the name. -/
def namedReference? (name : Text) : Option Text :=
  match name with
  | [] => none
  | c :: _ => ((namedReferences c).find? (·.1.toList = name)).map fun e => e.2.map Char.ofNat

/-- Numbers that stand for a character of the Windows table of Western Europe, or for none. -/
private def replacedNumbers : List (Nat × Nat) := [
  (0x00, 0xFFFD), (0x0D, 0x0D), (0x80, 0x20AC), (0x81, 0x81), (0x82, 0x201A), (0x83, 0x192),
  (0x84, 0x201E), (0x85, 0x2026), (0x86, 0x2020), (0x87, 0x2021), (0x88, 0x2C6), (0x89, 0x2030),
  (0x8A, 0x160), (0x8B, 0x2039), (0x8C, 0x152), (0x8D, 0x8D), (0x8E, 0x17D), (0x8F, 0x8F),
  (0x90, 0x90), (0x91, 0x2018), (0x92, 0x2019), (0x93, 0x201C), (0x94, 0x201D), (0x95, 0x2022),
  (0x96, 0x2013), (0x97, 0x2014), (0x98, 0x2DC), (0x99, 0x2122), (0x9A, 0x161), (0x9B, 0x203A),
  (0x9C, 0x153), (0x9D, 0x9D), (0x9E, 0x17E), (0x9F, 0x178)]

/-- Code points that no reference may name: they decode to nothing. -/
private def isDropped (n : Nat) : Bool :=
  (1 ≤ n && n ≤ 8) || n = 0xB || (0xE ≤ n && n ≤ 0x1F) || (0x7F ≤ n && n ≤ 0x9F) ||
    (0xFDD0 ≤ n && n ≤ 0xFDEF) || n % 0x10000 = 0xFFFE || n % 0x10000 = 0xFFFF

/-- The text that a numbered reference stands for. -/
def numberedReference (n : Nat) : Text :=
  match replacedNumbers.lookup n with
  | some m => [Char.ofNat m]
  | none =>
    if (0xD800 ≤ n && n ≤ 0xDFFF) || n > 0x10FFFF then [Char.ofNat 0xFFFD]
    else if isDropped n then []
    else [Char.ofNat n]

def endsName (c : Char) : Bool :=
  c = '\t' || c = '\n' || c = '\x0c' || c = ' ' || c = '<' || c = '&' || c = '#' || c = ';'

def withSemicolon (n : Nat) (s : Text) : Nat := if s.head? = some ';' then n + 1 else n

/-- The longest name without a semicolon at the front of `name`, of `n` characters at most. -/
private def longestName? (name : Text) : Nat → Option (Nat × Text)
  | 0 => none
  | n + 1 =>
    if n + 1 < 2 then none
    else match namedReference? (name.take (n + 1)) with
      | some t => some (n + 1, t)
      | none => longestName? name n

/-- Read a reference after its ampersand: how many characters it takes and what they decode to. -/
def reference? : Text → Option (Nat × Text)
  | '#' :: s =>
    let digits := s.takeWhile Text.isAsciiDigit
    if digits ≠ [] then
      some (withSemicolon (1 + digits.length) (s.drop digits.length),
        numberedReference (Text.natOfDigits digits))
    else match s with
      | x :: t =>
        let hexDigits := t.takeWhile Text.isHexDigit
        if (x = 'x' ∨ x = 'X') ∧ hexDigits ≠ [] then
          some (withSemicolon (2 + hexDigits.length) (t.drop hexDigits.length),
            numberedReference (Text.hexValue hexDigits))
        else none
      | [] => none
  | s =>
    let name := (s.take 32).takeWhile fun c => !endsName c
    if name = [] then none
    else
      let n := withSemicolon name.length (s.drop name.length)
      match namedReference? (s.take n) with
      | some t => some (n, t)
      | none => longestName? name (n - 1)

private theorem length_drop_lt (c : Char) (n : Nat) (s : Text) :
    (s.drop n).length < (c :: s).length := by rw [List.length_drop, List.length_cons]; omega

/-- Decode every character reference of a text. -/
def unescape (s : Text) : Text :=
  match s with
  | [] => []
  | c :: s =>
    if c = '&' then
      match reference? s with
      | some (n, t) =>
        have := length_drop_lt c n s
        t ++ unescape (s.drop n)
      | none => c :: unescape s
    else c :: unescape s
termination_by s.length

end WikiText.Html
