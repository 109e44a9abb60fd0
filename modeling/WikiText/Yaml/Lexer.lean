import WikiText.Yaml.Scalar
import WikiText.Yaml.Token

/-!
# Reading tokens

Whether a scalar or a collection is a key shows only at the colon behind it. So the places where a
key could begin are kept, one for each depth of flow collections, and a key token goes back to its
place.
-/

namespace WikiText.Yaml

/-- A place where a key could begin: the number of tokens before it, whether it must be a key, and
its cursor's index, line and column. -/
private structure KeyPlace where
  count : Nat
  required : Bool
  index : Nat
  line : Nat
  column : Nat

/-- Which kind of flow collection is open. -/
private inductive Flow where
  | sequence
  | mapping
deriving DecidableEq

/-- The state of the lexer: the tokens so far, the last one first; the columns of the open blocks
and the open flow collections, the inner ones first; whether a key may begin here; and the places
where keys could begin, under their depth. -/
private structure Lexer where
  cursor : Cursor
  tokens : List Token := []
  columns : List Nat := []
  flows : List Flow := []
  keyAllowed : Bool := true
  keys : List (Nat × KeyPlace) := []

namespace Lexer

private def emit (t : Token) (l : Lexer) : Lexer := { l with tokens := t :: l.tokens }

private def inFlow (l : Lexer) : Bool := !l.flows.isEmpty

private def allowKey (b : Bool) (l : Lexer) : Lexer := { l with keyAllowed := b }

private def moveOn (n : Nat) (l : Lexer) : Lexer := { l with cursor := l.cursor.advance n }

/-! ## Blocks -/

/-- Open a block at a column, unless one is open there. -/
private def openBlock (column : Nat) (l : Lexer) : Option Lexer :=
  if l.columns.all (· < column) then some { l with columns := column :: l.columns } else none

/-- Close the blocks that are indented deeper than a place, or all blocks. -/
private def closeBlocks (column : Option Nat) (l : Lexer) : Lexer :=
  if l.inFlow then l
  else
    let kept := l.columns.dropWhile fun c => column.all (· < c)
    let closed := l.columns.length - kept.length
    { l with columns := kept, tokens := List.replicate closed .blockEnd ++ l.tokens }

/-! ## Keys -/

private def depth (l : Lexer) : Nat := l.flows.length

/-- Give up the place of a key at the current depth. -/
private def dropKey? (l : Lexer) : Option Lexer :=
  match l.keys.lookup l.depth with
  | some k =>
    if k.required then none else some { l with keys := l.keys.filter (·.1 ≠ l.depth) }
  | none => some l

/-- Keep the place of a key that could begin here. -/
private def keepKey? (l : Lexer) : Option Lexer :=
  let column := l.cursor.column
  let required := !l.inFlow && l.columns.head? = some column
  if l.keyAllowed then do
    let l ← l.dropKey?
    some { l with keys := (l.depth,
      ⟨l.tokens.length, required, l.cursor.index, l.cursor.line, column⟩) :: l.keys }
  else some l

/-- Give up the keys that began on another line or too far back. -/
private def dropStaleKeys? (l : Lexer) : Option Lexer :=
  let isStale (k : KeyPlace) : Bool := k.line ≠ l.cursor.line || 1024 < l.cursor.index - k.index
  if l.keys.any fun (_, k) => k.required && isStale k then none
  else some { l with keys := l.keys.filter fun (_, k) => !isStale k }

/-- Put tokens in their place before the tokens that a key is made of. -/
private def insertAt (count : Nat) (ts : List Token) (l : Lexer) : Lexer :=
  let newer := l.tokens.take (l.tokens.length - count)
  { l with tokens := newer ++ ts.reverse ++ l.tokens.drop newer.length }

/-! ## Steps -/

/-- Move over white space and comments. A line end in a block allows a key. A step takes a
character, so `fuel` is the length of the text. -/
private def skipGap : (fuel : Nat) → Lexer → Lexer
  | 0, l => l
  | fuel + 1, l =>
    let c := l.cursor.skipWhile fun x => x = ' ' || (l.inFlow && x = '\t')
    let c := if c.head? = some '#' then c.skipWhile fun x => x ≠ '\n' && x ≠ '\x85' else c
    match c.lineEnd? with
    | some (_, c) => skipGap fuel { l with cursor := c, keyAllowed := l.keyAllowed || !l.inFlow }
    | none => { l with cursor := c }

/-- End all blocks before a directive or the mark of a document. -/
private def endContent? (l : Lexer) : Option Lexer :=
  (l.closeBlocks none).dropKey?.map (allowKey false)

private def flowStart? (flow : Flow) (t : Token) (l : Lexer) : Option Lexer := do
  let l ← l.keepKey?
  some <| ({ l with flows := flow :: l.flows }.allowKey true).moveOn 1 |>.emit t

private def flowEnd? (t : Token) (l : Lexer) : Option Lexer := do
  let l ← l.dropKey?
  some <| ({ l with flows := l.flows.tail }.allowKey false).moveOn 1 |>.emit t

/-- An entry of a block or a key with a mark of its own begins a block, where a key may begin. -/
private def beginBlock? (t : Token) (l : Lexer) : Option Lexer :=
  if l.inFlow then some l
  else if l.keyAllowed then
    match l.openBlock l.cursor.column with
    | some l => some (l.emit t)
    | none => some l
  else none

private def blockEntry? (l : Lexer) : Option Lexer := do
  let l ← l.beginBlock? .sequenceStart
  let l ← (l.allowKey true).dropKey?
  some ((l.moveOn 1).emit .blockEntry)

private def keyMark? (l : Lexer) : Option Lexer := do
  let l ← l.beginBlock? .mappingStart
  let l ← (l.allowKey !l.inFlow).dropKey?
  some ((l.moveOn 1).emit .key)

/-- The colon behind a key, or before a value that has none on its line. -/
private def valueMark? (l : Lexer) : Option Lexer :=
  match l.keys.lookup l.depth with
  | some k =>
    let l := { l with keys := l.keys.filter (·.1 ≠ l.depth) }
    let opened := if l.inFlow then none else l.openBlock k.column
    let l := match opened with
      | some l => l.insertAt k.count [.mappingStart, .key]
      | none => l.insertAt k.count [.key]
    some (((l.allowKey false).moveOn 1).emit .value)
  | none => do
    let l ← l.beginBlock? .mappingStart
    let l ← (l.allowKey !l.inFlow).dropKey?
    some ((l.moveOn 1).emit .value)

/-! ## Names -/

private def isNameChar (c : Char) : Bool :=
  let n := c.toNat
  !(c = ',' || c = '[' || c = ']' || c = '\x7b' || c = '\x7d') && n ≠ 0xFEFF &&
    ((0x21 ≤ n && n ≤ 0x7E) || (0xA0 ≤ n && n ≤ 0xFFFD) || 0x10000 ≤ n)

private def mayFollowName (c : Option Char) : Bool :=
  c.all fun c => isGap (some c) || isBreak c || "?:,[]\x7b\x7d%@\x60".toList.elem c

/-- The name behind the mark of an anchor or an alias. -/
private def name? (c : Cursor) : Option (Text × Cursor) :=
  let (name, c) := (c.advance 1).takeWhile isNameChar
  if name.isEmpty || !mayFollowName c.head? then none else some (name, c)

private def isHandleChar (c : Char) : Bool := Text.isAsciiAlnum c || c = '-' || c = '_'

/-- A handle: one mark, or a word between two. -/
private def handle? (c : Cursor) : Option (Text × Cursor) := do
  let c ← c.expect? '!'
  if c.head? = some ' ' then some (['!'], c)
  else
    let (word, c) := c.takeWhile isHandleChar
    let c ← c.expect? '!'
    some ('!' :: word ++ ['!'], c)

private def isUriChar (c : Char) : Bool :=
  Text.isAsciiAlnum c || "-;/?:@&=+$,_.!~*'()[]#".toList.elem c

/-- The characters of a tag, some of them by two digits. -/
private def uriFrom? : Text → Option (Text × Nat)
  | '%' :: a :: b :: s =>
    if Text.isHexDigit a && Text.isHexDigit b then
      (uriFrom? s).map fun (t, n) => (Char.ofNat (Text.hexValue [a, b]) :: t, n + 3)
    else none
  | '%' :: _ => none
  | c :: s =>
    if isUriChar c then (uriFrom? s).map fun (t, n) => (c :: t, n + 1) else some ([], 0)
  | [] => some ([], 0)

private def uri? (c : Cursor) : Option (Text × Cursor) := do
  let (t, n) ← uriFrom? c.rest
  if n = 0 then none else some (t, c.advance n)

/-- A tag. White space follows it. -/
private def tagName? (c : Cursor) : Option (TagName × Cursor) := do
  let (name, c) ← (
    if c.at? 1 = some '<' then do
      let (t, c) ← uri? (c.advance 2)
      some (.whole t, ← c.expect? '>')
    else if isGap (c.at? 1) then some (.whole ['!'], c.advance 1)
    else do
      let word := (c.rest.drop 1).takeWhile fun x => x ≠ ' ' && !isBreak x
      let (handle, c) ← if word.elem '!' then handle? c else some (['!'], c.advance 1)
      let (suffix, c) ← uri? c
      some (.short handle suffix, c))
  if c.head? = some ' ' || isLineEnd c.head? then some (name, c) else none

/-! ## Directives -/

private def digits? (c : Cursor) : Option (Nat × Cursor) :=
  let (digits, c) := c.takeWhile Text.isAsciiDigit
  if digits.isEmpty then none else some (Text.natOfDigits digits, c)

private def skipSpaces (c : Cursor) : Cursor := c.skipWhile (· = ' ')

private def endsWord (c : Cursor) : Bool := c.head? = some ' ' || isLineEnd c.head?

private def directive? (c : Cursor) : Option (Directive × Cursor) := do
  let (name, c) := (c.advance 1).takeWhile fun x =>
    Text.isAsciiAlnum x || x = '-' || x = '_' || x = ':' || x = '.'
  if name.isEmpty || !endsWord c then none
  else if name = "YAML".toList then
    let (major, c) ← digits? (skipSpaces c)
    let (minor, c) ← digits? (← c.expect? '.')
    if endsWord c then some (.version major minor, ← c.finishLine?) else none
  else if name = "TAG".toList then
    let (handle, c) ← handle? (skipSpaces c)
    let (stands, c) ← uri? (skipSpaces (← c.expect? ' '))
    if endsWord c then some (.handle handle stands, ← c.finishLine?) else none
  else
    some (.other, ← (c.skipWhile (!isBreak ·)).finishLine?)

/-! ## Tokens -/

/-- A token that a key can begin with. -/
private def keyable? (read? : Cursor → Option (Token × Cursor)) (l : Lexer) : Option Lexer := do
  let l ← l.keepKey?
  let (t, c) ← read? l.cursor
  some (({ l with cursor := c }.allowKey false).emit t)

private def quoted? (quote : Char) (c : Cursor) : Option (Token × Cursor) :=
  (quotedScalar? quote c).map fun (t, c) => (.scalar t false, c)

/-- The column at which the contents of the innermost block stand at least. -/
private def contentColumn (l : Lexer) : Nat := (l.columns.head?.map (· + 1)).getD 0

private def block? (folded : Bool) (l : Lexer) : Option Lexer := do
  let l ← (l.allowKey true).dropKey?
  let (t, c) ← blockScalar? folded l.contentColumn l.cursor
  some ({ l with cursor := c }.emit (.scalar t false))

private def plain? (l : Lexer) : Option Lexer := do
  let l ← l.keepKey?
  let (t, lineEnded, c) := plainScalar l.inFlow l.contentColumn l.cursor
  some (({ l with cursor := c }.allowKey lineEnded).emit (.scalar t true))

/-- Whether a colon stands before a value. -/
private def isValueMark (l : Lexer) : Bool :=
  isGap (l.cursor.at? 1) || match l.flows.head? with
    | none => false
    | some .sequence => false
    | some .mapping => l.tokens.head? ≠ some .value

private def isIndicator (c : Char) : Bool := ",[]\x7b\x7d#&*!|>'\"%@\x60\t-?:".toList.elem c

/-- Whether a plain scalar begins here. -/
private def atPlain (l : Lexer) : Bool :=
  match l.cursor.head? with
  | none => false
  | some x =>
    let next := l.cursor.at? 1
    if !isIndicator x then !(isGap (some x) || isBreak x)
    else if x = '-' || (x = '?' && !l.inFlow) then !isGap next
    else if x = ':' then
      if l.inFlow then next ≠ some ' ' && next ≠ some '\t' else !isGap next
    else false

/-- Read the next token. No lexer is the answer at the end of the text. -/
private def next? (l : Lexer) : Option (Lexer × Bool) := do
  let l := l.skipGap l.cursor.rest.length
  let l ← l.dropStaleKeys?
  let l := l.closeBlocks (some l.cursor.column)
  let c := l.cursor
  let goOn (l : Option Lexer) : Option (Lexer × Bool) := l.map (·, true)
  match c.head? with
  | none => do
    let l ← l.endContent?
    some (l.emit .streamEnd, false)
  | some x =>
    let gapFollows := isGap (c.at? 1)
    if x = '%' ∧ c.column = 0 then goOn do
      let l ← l.endContent?
      let (d, c) ← directive? c
      some ({ l with cursor := c }.emit (.directive d))
    else if c.column = 0 ∧ c.hasMarks '-' then goOn do
      some (((← l.endContent?).moveOn 3).emit .documentStart)
    else if c.column = 0 ∧ c.hasMarks '.' then goOn do
      some (((← l.endContent?).moveOn 3).emit .documentEnd)
    else if x = '[' then goOn (l.flowStart? .sequence .flowSequenceStart)
    else if x = '\x7b' then goOn (l.flowStart? .mapping .flowMappingStart)
    else if x = ']' then goOn (l.flowEnd? .flowSequenceEnd)
    else if x = '\x7d' then goOn (l.flowEnd? .flowMappingEnd)
    else if x = ',' then goOn do
      let l ← (l.allowKey true).dropKey?
      some ((l.moveOn 1).emit .flowEntry)
    else if x = '-' ∧ gapFollows then goOn l.blockEntry?
    else if x = '?' ∧ (l.inFlow ∨ gapFollows) then goOn l.keyMark?
    else if x = ':' ∧ l.isValueMark then goOn l.valueMark?
    else if x = '*' then goOn <| l.keyable? fun c => (name? c).map fun (n, c) => (.alias n, c)
    else if x = '&' then goOn <| l.keyable? fun c => (name? c).map fun (n, c) => (.anchor n, c)
    else if x = '!' then goOn <| l.keyable? fun c => (tagName? c).map fun (n, c) => (.tag n, c)
    else if (x = '|' ∨ x = '>') ∧ ¬ l.inFlow then goOn (l.block? (x = '>'))
    else if x = '\x27' ∨ x = '"' then goOn (l.keyable? (quoted? x))
    else if l.atPlain then goOn l.plain?
    else none

/-- Read tokens to the end of the text. A token takes a character at least, but for the last, so
`fuel` is the length of the text and one more. -/
private def readAll? : (fuel : Nat) → Lexer → Option (List Token)
  | 0, _ => none
  | fuel + 1, l => do
    let (l, more) ← l.next?
    if more then readAll? fuel l else some l.tokens.reverse

end Lexer

/-- The tokens of a text. -/
def tokens? (s : Text) : Option (List Token) :=
  if s.all isAllowed then
    let s := match s with
      | c :: rest => if c.toNat = 0xFEFF then rest else c :: rest
      | [] => []
    Lexer.readAll? (s.length + 1) { cursor := { rest := s } }
  else none

end WikiText.Yaml
