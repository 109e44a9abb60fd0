import WikiText.Html.Element
import WikiText.Text.Word

/-! # Emphasis

Text between marks is emphasised, between double marks strong, between triple marks both. Asterisks
count anywhere, low lines only at the ends of words.
-/

namespace WikiText.Markdown

open Html

/-- The marks of emphasis. -/
inductive EmphasisMark where
  | asterisk
  | lowLine
deriving DecidableEq, Repr

namespace EmphasisMark

def char : EmphasisMark → Char
  | .asterisk => '*'
  | .lowLine => '_'

end EmphasisMark

/-- Emphasis that was recognised, with the text after it: one element around a text; an element that
begins with another and goes on with text; or one that begins with text and ends with another. -/
inductive Emphasis where
  | single (tag : String) (text rest : Text)
  | innerFirst (outer inner : String) (text after rest : Text)
  | innerLast (outer inner : String) (before text rest : Text)

namespace Emphasis

def rest : Emphasis → Text
  | .single _ _ r | .innerFirst _ _ _ _ r | .innerLast _ _ _ _ r => r

/-- The shortest text, of one character at least, that something closes. What closes it is told the
last character of the text. -/
private def shortest? (close? : Char → Text → Option Text) : Text → Option (Text × Text)
  | [] => none
  | c :: s => match close? c s with
    | some rest => some ([c], rest)
    | none => (shortest? close? s).map fun (t, rest) => (c :: t, rest)

private def followedBy (c : Char) (s : Text) : Bool := s.head? = some c

private def wordFollows (s : Text) : Bool := s.head?.any Text.isWord

/-- `n` marks at the front of a text. -/
private def marks? (m : Char) (n : Nat) (s : Text) : Option Text := Text.strip? (Text.copies n m) s

/-- Three marks, a text, one mark, a text, two marks. -/
def strongThenMore? (m : Char) (s : Text) : Option Emphasis := do
  let s ← marks? m 3 s
  let (text, s) ← shortest? (fun _ s => marks? m 1 s) s
  let (after, rest) ← Text.splitOnce? [m, m] s
  some (.innerFirst "strong" "em" text after rest)

/-- Three marks, a text, two marks, a text, one mark. -/
def emThenMore? (m : Char) (s : Text) : Option Emphasis := do
  let s ← marks? m 3 s
  let (text, s) ← shortest? (fun _ s => marks? m 2 s) s
  let (after, rest) ← Text.splitOnce? [m] s
  some (.innerFirst "em" "strong" text after rest)

/-! ## Asterisks -/

def starStrongEm? (s : Text) : Option Emphasis := do
  let s ← marks? '*' 2 s
  if followedBy '*' s then none
  let before := s.takeWhile (· ≠ '*')
  if before.isEmpty then none
  let s ← marks? '*' 1 (s.drop before.length)
  if followedBy '*' s then none
  let (text, rest) ← shortest? (fun _ s => marks? '*' 3 s) s
  some (.innerLast "strong" "em" before text rest)

def starStrong? (s : Text) : Option Emphasis := do
  let s ← marks? '*' 2 s
  let (text, rest) ← shortest? (fun _ s => marks? '*' 2 s) s
  some (.single "strong" text rest)

def starEm? (s : Text) : Option Emphasis := do
  let s ← marks? '*' 1 s
  let text := s.takeWhile (· ≠ '*')
  if text.isEmpty then none
  let rest ← marks? '*' 1 (s.drop text.length)
  some (.single "em" text rest)

/-! ## Low lines -/

/-- Marks at the end of a word. -/
private def wordEnd? (n : Nat) (s : Text) : Option Text :=
  (marks? '_' n s).filter fun rest => !wordFollows rest

def lineStrongEm? (before : Option Char) (s : Text) : Option Emphasis := do
  if before.any Text.isWord then none
  let s ← marks? '_' 2 s
  if followedBy '_' s then none
  let (first, s) ← shortest? (fun last s =>
    if Text.isWord last then none
    else (marks? '_' 1 s).filter fun rest => !followedBy '_' rest) s
  let (text, rest) ← shortest? (fun _ s => wordEnd? 3 s) s
  some (.innerLast "strong" "em" first text rest)

/-- Text between `n` marks at the beginning and at the end of a word. -/
def lineBetween? (n : Nat) (tag : String) (before : Option Char) (s : Text) :
    Option Emphasis := do
  if before.any Text.isWord then none
  let s ← marks? '_' n s
  if followedBy '_' s then none
  let (text, rest) ← shortest? (fun last s => if last = '_' then none else wordEnd? n s) s
  some (.single tag text rest)

/-! ## Both -/

/-- The number of forms. -/
def forms : Nat := 5

/-- The emphasis of a form with which a text begins, the text following a character. The forms are
in the order in which they are tried. -/
def read? (mark : EmphasisMark) (form : Nat) (before : Option Char) (s : Text) : Option Emphasis :=
  match mark, form with
  | m, 0 => strongThenMore? m.char s
  | m, 1 => emThenMore? m.char s
  | .asterisk, 2 => starStrongEm? s
  | .lowLine, 2 => lineStrongEm? before s
  | .asterisk, 3 => starStrong? s
  | .lowLine, 3 => lineBetween? 2 "strong" before s
  | .asterisk, 4 => starEm? s
  | .lowLine, 4 => lineBetween? 1 "em" before s
  | _, _ => none

/-! ## Elements -/

/-- Text, and the elements after it. -/
abbrev Content := Text × List Element

/-- An element with content. -/
def withContent (tag : String) (c : Content) : Element :=
  ((Element.ofTag tag).withText c.1).withChildren c.2

/-- The element of an emphasis of a form. The texts in it hold forms that come later. -/
def elementWith (content : (form : Nat) → Text → Content) (form : Nat) :
    Emphasis → Element
  | .single tag text _ => withContent tag (content form text)
  | .innerFirst outer inner text after _ =>
    let first := withContent inner (content form text)
    let (tail, more) := content form after
    (Element.ofTag outer).withChildren (first.withTailText tail :: more)
  | .innerLast outer inner before text _ =>
    (withContent outer (content form before)).push (withContent inner (content form text))

mutual

/-- The emphasis in a text of the forms after a given one. `held` is text that was passed over, in
reverse. Between one step and the next at most eight calls go by, so `fuel` is a multiple of the
text's length. -/
def contentFrom (mark : EmphasisMark) : (fuel : Nat) → (form : Nat) →
    (before : Option Char) → (held : Text) → Text → Content
  | 0, _, _, held, s => (held.reverse ++ s, [])
  | _, _, _, held, [] => (held.reverse, [])
  | fuel + 1, form, before, held, c :: s =>
    if c = mark.char then tryForms mark fuel form (form + 1) false before held (c :: s)
    else contentFrom mark fuel form (some c) (c :: held) s

/-- Try the forms from `next` on. After a form that fits, the others are tried on the text after
it. -/
def tryForms (mark : EmphasisMark) : (fuel : Nat) → (form next : Nat) → (moved : Bool) →
    (before : Option Char) → (held : Text) → Text → Content
  | 0, _, _, _, _, held, s => (held.reverse ++ s, [])
  | fuel + 1, form, next, moved, before, held, s =>
    if next < forms then
      match read? mark next before s with
      | some e =>
        let content (form : Nat) (s : Text) := contentFrom mark fuel form none [] s
        let element := elementWith content next e
        let (tail, more) := tryForms mark fuel form (next + 1) true (some mark.char) [] e.rest
        (held.reverse, element.withTailText tail :: more)
      | none => tryForms mark fuel form (next + 1) moved before held s
    else if moved then contentFrom mark fuel form before held s
    else match s with
      | [] => (held.reverse, [])
      | c :: s => contentFrom mark fuel form (some c) (c :: held) s

end

/-- The element with which a text begins, the text following a character, and the text after it. -/
def element? (mark : EmphasisMark) (before : Option Char) (s : Text) : Option (Element × Text) :=
  (List.range forms).findSome? fun form =>
    (read? mark form before s).map fun e =>
      let inside form s := contentFrom mark (8 * s.length + 8) form none [] s
      (elementWith inside form e, e.rest)

end Emphasis

end WikiText.Markdown
