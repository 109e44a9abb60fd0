import WikiText.Markdown.Failure
import WikiText.Text.Blank
import WikiText.Text.Digit

/-!
# Separators of words

A separator tells which characters it replaces, and what it puts in their place. It replaces each of
its own characters and white space. In this a hyphen between two characters makes a range of them, a
caret at the front stands for all other characters, and a closing bracket ends the class of
characters before its time, so that nothing is replaced. Behind a backslash, signs are plain
characters, and some letters are control characters.
-/

namespace WikiText.Markdown

/-- A character of a written separator, with its position and whether a backslash stands before
it. -/
private structure Sign where
  position : Nat
  escaped : Bool
  char : Char

namespace Sign

private def text (s : Sign) : Text := if s.escaped then ['\\', s.char] else [s.char]

private def isPlain (c : Char) (s : Sign) : Bool := !s.escaped && s.char = c

/-- The signs of a text from a position on. A backslash is plain only at the end. -/
private def read (position : Nat) : Text → List Sign
  | [] => []
  | ['\\'] => [⟨position, false, '\\'⟩]
  | '\\' :: c :: s => ⟨position, true, c⟩ :: read (position + 2) s
  | c :: s => ⟨position, false, c⟩ :: read (position + 1) s

/-- The control character, or the backslash, that a character stands for behind a backslash. -/
private def control? : Char → Option Char
  | 'a' => some '\x07'
  | 'b' => some '\x08'
  | 't' => some '\t'
  | 'n' => some '\n'
  | 'v' => some '\x0b'
  | 'f' => some '\x0c'
  | 'r' => some '\r'
  | '\\' => some '\\'
  | _ => none

/-- The character that a sign stands for in a class, if it is a single one. -/
private def character? (s : Sign) : Except Failure (Option Char) :=
  if !s.escaped then .ok (some s.char)
  else match control? s.char with
    | some c => .ok (some c)
    | none =>
      if "dDsSwWxuUN".toList.elem s.char then .ok none
      else if Text.isAsciiLetter s.char || s.char = '8' || s.char = '9' then
        .error (.badSeparatorEscape s.text s.position)
      else if Text.isAsciiDigit s.char then .ok (some (Char.ofNat (s.char.toNat - 48)))
      else .ok (some s.char)

/-- What a sign puts in place of what it separates, given the signs after it. -/
private def written (s : Sign) (rest : List Sign) : Except Failure Text :=
  if !s.escaped then .ok [s.char]
  else match control? s.char with
    | some c => .ok [c]
    | none =>
      if s.char = '0' then .ok ['\x00']
      else if Text.isAsciiDigit s.char then
        let more := (rest.head?.map Sign.text).filter (·.all Text.isAsciiDigit)
        .error (.noSeparatorGroup (s.char :: more.getD []) (s.position + 1))
      else if Text.isAsciiLetter s.char then .error (.badSeparatorEscape s.text s.position)
      else .ok s.text

end Sign

/-- What separates words: the ranges of characters that are replaced besides white space, or that
are not replaced; whether nothing at all is replaced; and what is put in their place. -/
structure Separator where
  ranges : List (Char × Char)
  negated : Bool
  silent : Bool
  replacement : Text
deriving DecidableEq, Repr

namespace Separator

/-- Whether a character separates words. -/
def separates (k : Separator) (c : Char) : Bool :=
  !k.silent && (k.ranges.any (fun (a, b) => a ≤ c && c ≤ b) || Text.isBlank c) != k.negated

/-- The ranges of a class that is closed at its end, or is `silent` if it is closed before. The
first sign cannot close it. -/
private def rangesFrom (first : Bool) : List Sign → Except Failure (List (Char × Char) × Bool)
  | [] => .ok ([], false)
  | s :: rest =>
    if !first && s.isPlain ']' then .ok ([], !rest.isEmpty)
    else do
      let a ← s.character?
      let single := (a.map fun a => (a, a)).toList
      match rest with
      | hyphen :: t :: after =>
        if !hyphen.isPlain '-' then
          let (ranges, silent) ← rangesFrom false (hyphen :: t :: after)
          return (single ++ ranges, silent)
        else if t.isPlain ']' then return (('-', '-') :: single, !after.isEmpty)
        else
          let bad : Failure := .badSeparatorRange (s.text ++ '-' :: t.text) s.position
          match a, ← t.character? with
          | some a, some b =>
            if b < a then throw bad
            let (ranges, silent) ← rangesFrom false after
            return ((a, b) :: ranges, silent)
          | _, _ => throw bad
      | rest =>
        let (ranges, silent) ← rangesFrom false rest
        return (single ++ ranges, silent)

/-- What signs put in place of what they separate. A backslash at the end is found as soon as the
sign before it is read. -/
private def replacementFrom : List Sign → Except Failure Text
  | [] => .ok []
  | s :: rest => do
    for t in s :: rest.take 1 do
      if t.isPlain '\\' then throw (.openSeparatorEscape t.position)
    let text ← s.written rest
    return text ++ (← replacementFrom rest)

/-- The separator that is written as a text. White space is one more sign of its class. -/
def ofText (s : Text) : Except Failure Separator := do
  let blanks := "\\s]".toList
  let (negated, signs) := match s with
    | '^' :: t => (true, Sign.read 2 (t ++ blanks))
    | t => (false, Sign.read 1 (t ++ blanks))
  let (ranges, silent) ← rangesFrom true signs
  return ⟨ranges, negated, silent, ← replacementFrom (Sign.read 0 s)⟩

end Separator

end WikiText.Markdown
