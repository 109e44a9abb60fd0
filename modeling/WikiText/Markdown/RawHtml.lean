import WikiText.Markdown.StartTag
import WikiText.Markdown.Tag
import WikiText.Stash

/-! # Raw blocks of markup

A block-level element at the start of a line goes to its end tag and is put aside as it is written.
Markup elsewhere stays in the text.
-/

namespace WikiText.Markdown

/-- The reading of raw blocks: the text kept so far, the last piece first; the block that is open,
the last piece first, with the tags that are open in it; whether the line goes on after a block; and
where on its line the reading stands. -/
structure RawState where
  kept : List Text := []
  block : List Text := []
  openTags : List Text := []
  inBlock : Bool := false
  inTail : Bool := false
  stash : Stash
  column : Nat := 0
  onlyBlanks : Bool := true

namespace RawState

def keep (s : Text) (st : RawState) : RawState := { st with kept := s :: st.kept }

private def extend (s : Text) (st : RawState) : RawState := { st with block := s :: st.block }

/-- Put a block aside, and an empty line after it. -/
private def store (markup : Text) (st : RawState) : RawState :=
  let (marker, stash) := st.stash.store markup
  { st with kept := ['\n', '\n'] :: marker :: st.kept, stash }

/-- Move over a text. -/
def moveOver (st : RawState) (s : Text) : RawState :=
  s.foldl (fun st c =>
    if c = '\n' then { st with column := 0, onlyBlanks := true }
    else { st with column := st.column + 1, onlyBlanks := st.onlyBlanks && Text.isBlank c }) st

/-- Three blanks at most may stand before the start of a block. -/
def atLineStart (st : RawState) : Bool := st.column ≤ 3 && st.onlyBlanks

/-- Two line ends, with spaces before them at most. -/
private def blankLineFollows (s : Text) : Bool :=
  match s.dropWhile (· = ' ') with
  | '\n' :: s => (s.dropWhile (· = ' ')).head? = some '\n'
  | _ => false

/-- Text that is no markup. -/
def data (s : Text) (st : RawState) : RawState :=
  let st := if st.inTail && s.elem '\n' then { st with inTail := false } else st
  if st.inBlock then st.extend s else st.keep s

/-- A piece of markup without an end tag. -/
def piece (s : Text) (isBlock : Bool) (rest : Text) (st : RawState) : RawState :=
  if st.inBlock || st.inTail then st.extend s
  else if isBlock && st.atLineStart then
    let followed := blankLineFollows rest
    let last := st.kept.headD []
    let st := if Text.endsWith ['\n'] last && !Text.endsWith ['\n', '\n'] last then st.keep ['\n']
      else st
    { st with inTail := st.inTail || !followed }.store (if followed then s ++ ['\n'] else s)
  else st.keep s

/-- A start tag. -/
def startTag (s : Text) (t : StartTag) (st : RawState) : RawState :=
  if t.closesItself || t.name = "hr".toList then st.piece s (isBlockTag t.name) t.rest
  else
    let st := if isBlockTag t.name && (st.inTail || st.atLineStart) && !st.inBlock then
        { st with inBlock := true }.keep ['\n']
      else st
    if st.inBlock then { st with openTags := t.name :: st.openTags }.extend s else st.keep s

/-- The tags that stay open after an end tag. -/
private def closeTag (tag : Text) (openTags : List Text) : List Text :=
  if openTags.elem tag then (openTags.dropWhile (· ≠ tag)).tail else openTags

/-- An end tag. The last one of a block ends it. -/
def endTag (s tag rest : Text) (st : RawState) : RawState :=
  if st.inBlock then
    let st := { st with openTags := closeTag tag st.openTags }.extend s
    if st.openTags.isEmpty then
      let st := if blankLineFollows rest then st.extend ['\n'] else { st with inTail := true }
      { st with inBlock := false, block := [] }.store st.block.reverse.flatten
    else st
  else st.keep s

end RawState

/-- A construct that the reader recognises, with the text after it. -/
inductive Construct where
  | startTag (t : StartTag)
  | endTag (name rest : Text)
  | piece (written : Text) (isBlock : Bool) (rest : Text)
  | data (rest : Text)

private def isTagNameChar (c : Char) : Bool :=
  !(c = '\t' || c = '\n' || c = '\r' || c = '\x0c' || c = ' ' || c = '/' || c = '>' || c.toNat = 0)

/-- An end tag, or what looks like one. -/
def endTag? (s : Text) : Option Construct :=
  match Text.strip? "</".toList s with
  | none => none
  | some t =>
    let t := Text.trimStart t
    match t with
    | c :: _ =>
      if Text.isAsciiLetter c then
        (Text.splitOnce? ['>'] (t.dropWhile isTagNameChar)).map fun (_, rest) =>
          .endTag (Text.lower (t.takeWhile isTagNameChar)) rest
      else (Text.splitOnce? ['>'] t).map fun (_, rest) =>
        if c = '>' then .data rest else .piece (s.take (s.length - rest.length)) false rest
    | [] => none

/-- A stretch from `opening` to `closing`, which stands as a piece of block level. -/
def stretch? (opening closing : String) (s : Text) : Option Construct := do
  let t ← Text.strip? opening.toList s
  let (inside, rest) ← Text.splitOnce? closing.toList t
  some (.piece (opening.toList ++ inside ++ closing.toList) true rest)

/-- A declaration or an instruction; it is one only where a block could start. -/
def declaration? (s : Text) : Option Construct :=
  (stretch? "<?" "?>" s).or <| (stretch? "<![CDATA[" "]]>" s).or <| (do
    let t ← Text.strip? "<!".toList s
    let (_, rest) ← Text.splitOnce? ['>'] t
    let isDoctype := Text.startsWith "doctype".toList (Text.lowerAscii t)
    some (.piece (s.take (s.length - rest.length)) isDoctype rest))

/-- The construct with which a text begins, which begins with `<`. -/
def construct (st : RawState) (s : Text) : Construct :=
  match StartTag.read? s with
  | some t => .startTag t
  | none =>
    let found := (endTag? s).or <| (stretch? "<!--" "-->" s).or <|
      if (st.atLineStart || st.inTail) && !Text.startsWith "<!--".toList s then declaration? s
      else none
    found.getD (.data s.tail)

/-- The reference with which a text begins, and the text after it. A numbered reference may lack its
semicolon. -/
def rawReference? (s : Text) : Option (Text × Text) :=
  match s with
  | '&' :: '#' :: t =>
    let (mark, t) := match t with
      | x :: u => if x = 'x' || x = 'X' then ([x], u) else ([], t)
      | [] => ([], [])
    let isDigit := if mark.isEmpty then Text.isAsciiDigit else Text.isHexDigit
    let digits := t.takeWhile isDigit
    match t.drop digits.length with
    | c :: rest =>
      if digits.isEmpty || Text.isHexDigit c then none
      else some ('&' :: '#' :: mark ++ digits ++ [';'], if c = ';' then rest else c :: rest)
    | [] => none
  | '&' :: t =>
    let name := t.takeWhile fun c => Text.isAsciiAlnum c || c = '-' || c = '.'
    match name, t.drop name.length with
    | c :: _, ';' :: rest =>
      if Text.isAsciiLetter c then some ('&' :: name ++ [';'], rest) else none
    | _, _ => none
  | _ => none

/-- The text before the end tag of a script or a style sheet, and the text from there on. -/
private def untilEndTag (tag : Text) : Text → Text × Text
  | [] => ([], [])
  | c :: s =>
    let front := Text.lowerAscii ((c :: s).take (tag.length + 3))
    let closed := match Text.strip? ('<' :: '/' :: tag) front with
      | some (d :: _) => d = '>' || d = '/' || d = ' ' || d = '\t' || d = '\n' || d = '\x0c'
      | _ => false
    if closed then ([], c :: s)
    else
      let (inside, rest) := untilEndTag tag s
      (c :: inside, rest)

/-- Whether the text in an element is read as it stands. -/
def isVerbatim (tag : Text) : Bool := tag = "script".toList || tag = "style".toList

/-- Read a text to its end. Each step takes a character at least, so `fuel` is the text's length. -/
def readRaw : (fuel : Nat) → RawState → Text → RawState
  | 0, st, _ => st
  | _, st, [] => st
  | fuel + 1, st, c :: s =>
    let text := c :: s
    /- Go on after what a step took. -/
    let goOn (rest : Text) (st : RawState) : RawState :=
      readRaw fuel (st.moveOver (text.take (text.length - rest.length))) rest
    if c = '<' then
      match construct st text with
      | .startTag t =>
        let st := st.startTag (text.take (text.length - t.rest.length)) t
        if isVerbatim t.name && st.inBlock && !t.closesItself then
          let (inside, rest) := untilEndTag t.name t.rest
          goOn rest (if inside.isEmpty then st else st.data inside)
        else goOn t.rest st
      | .endTag name rest =>
        goOn rest (st.endTag (text.take (text.length - rest.length)) name rest)
      | .piece written isBlock rest => goOn rest (st.piece written isBlock rest)
      | .data rest => goOn rest (st.data (text.take (text.length - rest.length)))
    else if c = '&' then
      match rawReference? text with
      | some (written, rest) => goOn rest (st.piece written false rest)
      | none => goOn s (st.data ['&'])
    else
      let data := text.takeWhile fun c => c ≠ '<' && c ≠ '&'
      goOn (text.drop data.length) (st.data data)

/-- Put the raw blocks of a text aside. A block that is not closed goes to the end of the text. -/
def stashRawBlocks (s : Text) (stash : Stash) : Text × Stash :=
  let st := readRaw s.length { stash } s
  let last := st.block.reverse.flatten
  if st.block.isEmpty then (st.kept.reverse.flatten, st.stash)
  else
    let (marker, stash) := st.stash.store last
    (st.kept.reverse.flatten ++ marker, stash)

end WikiText.Markdown
