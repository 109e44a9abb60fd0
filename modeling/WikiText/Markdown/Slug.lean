import WikiText.Markdown.Separator
import WikiText.Text.Blank
import WikiText.Text.Digit
import WikiText.Text.Latin
import WikiText.Text.Lower
import WikiText.Text.Word

/-! # Identifiers made of words

The words of a heading are joined by a separator. Where the separator has several characters, any
run of these counts as one separator.
-/

namespace WikiText.Markdown.Slug

/-- Each run of separating characters as one separator. -/
private def separate (k : Separator) (inRun : Bool) : Text → Text
  | [] => []
  | c :: s =>
    if k.separates c then (if inRun then [] else k.replacement) ++ separate k true s
    else c :: separate k false s

/-- The slug of words: their letters and digits in lower case. -/
def ofWords (separator words : Text) : Except Failure Text := do
  let k ← Separator.ofText separator
  let kept := (Text.latin words).filter fun c => Text.isWord c || Text.isBlank c || c = '-'
  return separate k false (Text.lower (Text.trim kept))

/-! ## Names used once -/

/-- A name without the number after its last low line, and this number. -/
private def numbered? (s : Text) : Option (Text × Nat) :=
  let digits := (s.reverse.takeWhile Text.isAsciiDigit).reverse
  match (s.take (s.length - digits.length)).reverse with
  | '_' :: stem => if digits.isEmpty then none else some (stem.reverse, Text.natOfDigits digits)
  | _ => none

/-- The next name in the series of a name. -/
private def next (s : Text) : Text :=
  match numbered? s with
  | some (stem, n) => stem ++ '_' :: Text.ofNat (n + 1)
  | none => s ++ ['_', '1']

/-- The first name of a series that is not empty and not used. Of names in a series at most as many
are refused as are used, so `fuel` is their number and one more. -/
private def firstFree (used : List Text) : (fuel : Nat) → Text → Text
  | 0, s => s
  | fuel + 1, s => if s.isEmpty || used.elem s then firstFree used fuel (next s) else s

/-- A name that is not used yet. -/
def unique (used : List Text) (s : Text) : Text := firstFree used (used.length + 1) s

end WikiText.Markdown.Slug
