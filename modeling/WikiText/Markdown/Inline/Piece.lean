import WikiText.Html.NameTable
import WikiText.Markdown.Block.Definition
import WikiText.Markdown.Inline.Emphasis
import WikiText.Markdown.Inline.LinkPart
import WikiText.Markdown.Inline.Node

/-! # Pieces of a line

How a code span, an escaped character, an image and the other pieces of a line begin and end, and
what they become.
-/

namespace WikiText.Markdown

open Html

/-- What is found where a piece could begin: nothing; text that stays as it is up to the rest; or a
piece with the rest after it. -/
inductive Hit where
  | miss
  | pass (rest : Text)
  | piece (n : Node) (rest : Text)

/-- What pieces depend on beyond the text: the reference links, and the characters that a backslash
escapes. -/
structure InlineContext where
  references : Dictionary (Text × Option Text)
  escapable : Text

def backslash : Char := '\\'

def tick : Char := '\x60'

/-! ## Code spans and escaped characters -/

/-- The lengths of the runs of ticks in a text. -/
private def tickRuns (run : Nat) : Text → List Nat
  | [] => if run = 0 then [] else [run]
  | c :: s =>
    if c = tick then tickRuns (run + 1) s
    else if run = 0 then tickRuns 0 s
    else run :: tickRuns 0 s

/-- The text before the first run of exactly `n` ticks, and the text after it. A step takes a
character at least, so `fuel` is the text's length. -/
private def untilTicks? (n : Nat) : (fuel : Nat) → Text → Option (Text × Text)
  | 0, _ => none
  | fuel + 1, s =>
    let before := s.takeWhile (· ≠ tick)
    let s := s.drop before.length
    let run := Text.countFront (· = tick) s
    if run = 0 then none
    else if run = n then some (before, s.drop run)
    else (untilTicks? n fuel (s.drop run)).map fun (t, rest) => (before ++ s.take run ++ t, rest)

/-- A code span: as many ticks at its end as at its beginning. Where no run of ticks is as long as
the first, the longest shorter one closes the span. -/
def codeSpan? (s : Text) : Option (Text × Text) :=
  let opening := Text.countFront (· = tick) s
  let after := s.drop opening
  let runs := (tickRuns 0 after).filter (· ≤ opening)
  match runs.max? with
  | none => none
  | some n =>
    (untilTicks? n after.length after).bind fun (t, rest) =>
      let code := Text.copies (opening - n) tick ++ t
      if code.isEmpty then none else some (code, rest)

/-- Code, or backslashes in pairs before a tick. Neither begins behind a backslash. -/
def codeHit (before : Option Char) (s : Text) : Hit :=
  if before = some backslash then .miss
  else match s with
    | c :: _ =>
      if c = tick then
        match codeSpan? s with
        | some (code, rest) =>
          .piece (.element ((Element.ofTag "code").withData
            ⟨escape .plain (Text.trim code), true⟩)) rest
        | none => .miss
      else if c = backslash then
        let n := Text.countFront (· = backslash) s
        let rest := s.drop n
        if n % 2 = 0 ∧ rest.head? = some tick then
          .piece (.text ((List.replicate (n / 2) (Node.escaped backslash)).flatten)) rest
        else .miss
      else .miss
    | [] => .miss

/-- A character behind a backslash. Of one that cannot be escaped both characters stay. -/
def escapeHit (ctx : InlineContext) (_ : Option Char) : Text → Hit
  | '\\' :: c :: rest =>
    if ctx.escapable.elem c then .piece (.text (Node.escaped c)) rest else .pass rest
  | _ => .miss

/-! ## Images -/

private def dequote (s : Text) : Text :=
  let isBetween (q : Char) : Bool := s.head? = some q && s.getLast? = some q
  if isBetween '"' || isBetween '\x27' then s.tail.dropLast else s

def image (src : Text) (title : Option Text) (alt : Text) : Node :=
  let e := (Element.ofTag "img").set "src" src
  let e := match title with
    | some t => e.set "title" t
    | none => e
  .element (e.set "alt" alt)

def imageText? (s : Text) : Option (Text × Text) :=
  match s with
  | '!' :: '[' :: s => bracketed? 0 s
  | _ => none

/-- An image with its target. -/
def imageHit (nodes : Array Node) (_ : Option Char) (s : Text) : Hit :=
  match imageText? s with
  | none => .miss
  | some (text, s) => match LinkPart.read? s with
    | none => .miss
    | some p =>
      let title := p.title.map fun t =>
        let t := dequote (Node.restoreText nodes (Text.trim t))
        t.map fun c => if Text.isBlank c then ' ' else c
      let src := Text.trim (Node.restoreText nodes p.target)
      .piece (image src title (Node.restoreText nodes text)) p.rest

/-- Each run of white space as one space. -/
def joinBlanks : (afterBlank : Bool) → Text → Text
  | _, [] => []
  | afterBlank, c :: s =>
    if Text.isBlank c then (if afterBlank then joinBlanks true s else ' ' :: joinBlanks true s)
    else c :: joinBlanks false s

theorem joinBlanks_cons {c : Char} (h : Text.isBlank c = false) (afterBlank : Bool) (s : Text) :
    joinBlanks afterBlank (c :: s) = c :: joinBlanks false s :=
  if_neg (Bool.eq_false_iff.1 h)

/-- An image whose target was defined under an id; one whose id is unknown stays as it is. -/
def referenceImage (ctx : InlineContext) (nodes : Array Node) (text id rest : Text) : Hit :=
  match ctx.references.get? (joinBlanks false id) with
  | some (src, title) =>
    .piece (image src (title.filter (!·.isEmpty)) (Node.restoreText nodes text)) rest
  | none => .pass rest

/-- An image with an id in brackets, which is its text where the brackets are empty. -/
def imageReferenceHit (ctx : InlineContext) (nodes : Array Node) (_ : Option Char) (s : Text) :
    Hit :=
  match imageText? s with
  | none => .miss
  | some (text, s) =>
    let s := match s with
      | c :: t => if Text.isBlank c then t else s
      | [] => []
    match s with
    | '[' :: s => match Text.splitOnce? [']'] s with
      | some (id, rest) =>
        referenceImage ctx nodes text (Text.lower (if id.isEmpty then text else id)) rest
      | none => .miss
    | _ => .miss

/-- An image with its text as its id. -/
def shortImageReferenceHit (ctx : InlineContext) (nodes : Array Node) (_ : Option Char) (s : Text) :
    Hit :=
  match imageText? s with
  | none => .miss
  | some (text, rest) => referenceImage ctx nodes text (Text.lower text) rest

/-! ## Addresses -/

/-- The text in angle brackets. -/
def angled? (allowed : Char → Bool) (s : Text) : Option (Text × Text) :=
  match s with
  | '<' :: s =>
    let inside := s.takeWhile fun c => c ≠ '<' && c ≠ '>' && allowed c
    match s.drop inside.length with
    | '>' :: rest => some (inside, rest)
    | _ => none
  | _ => none

private def isUrl (s : Text) : Bool :=
  let scheme := Text.lowerAscii (s.takeWhile (· ≠ ':'))
  (["http", "https", "ftp", "ftps"] : List String).any (·.toList = scheme) &&
    Text.startsWith "://".toList (s.drop scheme.length)

/-- A web address in angle brackets. -/
def urlHit (nodes : Array Node) (_ : Option Char) (s : Text) : Hit :=
  match angled? (fun _ => true) s with
  | some (url, rest) =>
    if isUrl url then
      .piece (.element (((Element.ofTag "a").set "href" (Node.restoreText nodes url)).withData
        ⟨url, true⟩)) rest
    else .miss
  | none => .miss

/-- What stands for an ampersand that must not be escaped. -/
def ampersandMark : Text := Stash.opening :: "amp".toList ++ [Stash.closing]

private def numbered (c : Char) : Text := ampersandMark ++ '#' :: Text.ofNat c.toNat ++ [';']

private def named (c : Char) : Text :=
  match characterNames.lookup c.toNat with
  | some name => ampersandMark ++ name.toList ++ [';']
  | none => numbered c

private def isMail (s : Text) : Bool :=
  let host := s.reverse.takeWhile (· ≠ '@')
  let user := s.take (s.length - host.length - 1)
  !host.isEmpty && !user.isEmpty && host.length < s.length && !user.elem '!'

/-- A mail address in angle brackets, written by the numbers of its characters. -/
def mailHit (nodes : Array Node) (_ : Option Char) (s : Text) : Hit :=
  match angled? (· ≠ ' ') s with
  | some (mail, rest) =>
    if isMail mail then
      let mail := Node.restoreText nodes mail
      let mail := (Text.strip? "mailto:".toList mail).getD mail
      .piece (.element (((Element.ofTag "a").set "href"
        (("mailto:".toList ++ mail).flatMap numbered)).withData ⟨mail.flatMap named, true⟩)) rest
    else .miss
  | none => .miss

/-! ## Line breaks, markup and references -/

/-- Two spaces at the end of a line. -/
def lineBreakHit (_ : Option Char) (s : Text) : Hit :=
  match s with
  | ' ' :: ' ' :: '\n' :: rest => .piece (.element (.ofTag "br")) rest
  | _ => .miss

/-- A comment that holds no start of another. -/
def comment? (s : Text) : Option Text := do
  let t ← Text.strip? "<!--".toList s
  let (inside, rest) ← Text.splitOnce? "-->".toList t
  if Text.contains "<!--".toList (inside ++ "--".toList) then none else some rest

/-- A start or end tag. Before its first space it holds no at sign. -/
def tag? (s : Text) : Option Text :=
  match s with
  | '<' :: t =>
    let u := match t with
      | '/' :: u => u
      | u => u
    match u with
    | c :: _ =>
      if Text.isAsciiLetter c then
        let rest := u.dropWhile fun c => c ≠ '<' && c ≠ '>' && c ≠ '@' && c ≠ ' '
        match rest.head? with
        | some '>' => some rest.tail
        | some ' ' => match rest.dropWhile fun c => c ≠ '<' && c ≠ '>' with
          | '>' :: rest => some rest
          | _ => none
        | _ => none
      else none
    | [] => none
  | _ => none

/-- A tag or comment, as written, and the text after it. -/
def markup? (s : Text) : Option (Text × Text) :=
  ((tag? s).or (comment? s)).map fun rest => (s.take (s.length - rest.length), rest)

/-- A character reference, as written, and the text after it. -/
def reference? (s : Text) : Option (Text × Text) :=
  match s with
  | '&' :: t =>
    let body (mark : Text) (f : Char → Bool) (t : Text) : Option (Text × Text) :=
      let name := t.takeWhile f
      match t.drop name.length with
      | ';' :: rest => if name.isEmpty then none else some ('&' :: mark ++ name ++ [';'], rest)
      | _ => none
    match t with
    | '#' :: 'x' :: t => body ['#', 'x'] Text.isHexDigit t
    | '#' :: t => body ['#'] Text.isAsciiDigit t
    | t => body [] Text.isAsciiAlnum t
  | _ => none

/-- Marks of emphasis between white space, which stay as they are. -/
def looseMarksHit (before : Option Char) (s : Text) : Hit :=
  match s with
  | c :: _ =>
    let n := Text.countFront (· = c) s
    let rest := s.drop n
    if (c = '*' || c = '_') && n ≤ 3 && before.all Text.isBlank && rest.head?.all Text.isBlank then
      .piece (.text (Text.copies n c)) rest
    else .miss
  | [] => .miss

/-- Emphasised text. -/
def emphasisHit (mark : EmphasisMark) (before : Option Char) (s : Text) : Hit :=
  if s.head? = some mark.char then
    match Emphasis.element? mark before s with
    | some (e, rest) => .piece (.element e) rest
    | none => .miss
  else .miss

end WikiText.Markdown
