import WikiText.Dictionary
import WikiText.Markdown.Block.Indent
import WikiText.Text.Lower

/-! # Definitions of footnotes and of reference links -/

namespace WikiText.Markdown

/-- What a document defines: the target and title of each reference link under its lower-case id,
and the text of each footnote. -/
structure Definitions where
  references : Dictionary (Text × Option Text) := {}
  footnotes : Dictionary Text := {}

instance : Inhabited Definitions := ⟨{}⟩

/-- A definition found in a block: the text before it, what was read, and the text after it. -/
structure Found (α : Type) where
  before : Text
  value : α
  after : Text

/-- The first line of a block at which something can be read from the text that begins there. -/
def findAtLine? {α : Type} (read? : Text → Option (α × Text)) (before : List Text) :
    List Text → Option (Found α)
  | [] => none
  | line :: rest => match read? (Text.unlines (line :: rest)) with
    | some (value, after) => some ⟨before.reverse.flatMap (· ++ ['\n']), value, after⟩
    | none => findAtLine? read? (line :: before) rest

/-- An identifier in brackets and the colon after it, both read from the text after the opening
bracket. -/
def idAndColon? (excluded : Char → Bool) (s : Text) : Option (Text × Text) :=
  let id := s.takeWhile fun c => !excluded c && c ≠ ']'
  match s.drop id.length with
  | ']' :: ':' :: rest => some (id, rest)
  | _ => none

/-- Split a text at the end of its first line. -/
def splitLine (s : Text) : Text × Text := (s.takeWhile (· ≠ '\n'), s.dropWhile (· ≠ '\n'))

/-! ## Footnotes -/

/-- A footnote's id and the first line of its text. -/
def readFootnote? (s : Text) : Option ((Text × Text) × Text) :=
  match Text.dropAtMost Text.isSpace (tabWidth - 1) s with
  | '[' :: '^' :: s => do
    let (id, s) ← idAndColon? (fun _ => false) s
    let (line, rest) := splitLine (s.dropWhile Text.isSpace)
    some ((id, line), rest)
  | _ => none

/-- The first footnote of a block. -/
def footnote? (block : Text) : Option (Found (Text × Text)) :=
  findAtLine? readFootnote? [] (Text.lines block)

/-- The text from a found footnote on. -/
def fromFound (block : Text) (f : Found (Text × Text)) : Text := block.drop f.before.length

/-- The indented blocks that continue a footnote, outdented, and the blocks after them. Another
footnote ends the first. -/
def continuation : List Text → List Text × List Text
  | [] => ([], [])
  | block :: rest =>
    if isIndented block then
      match footnote? block with
      | some f => ([outdentAll 1 (dropLineEndsAfter f.before)], fromFound block f :: rest)
      | none =>
        let (more, rest) := continuation rest
        (outdentAll 1 block :: more, rest)
    else ([], block :: rest)

/-- A footnote's id and text, and the blocks that are left of a block and those after it. -/
def takeFootnote? (block : Text) (rest : List Text) : Option ((Text × Text) × List Text) := do
  let f ← footnote? block
  let (id, line) := f.value
  let after := dropLineEndsBefore f.after
  let (blocks, rest) := match footnote? after with
    | some g =>
      ([dropLineEndsBefore (line ++ '\n' :: outdentAll 1 (dropLineEndsAfter g.before))],
        fromFound after g :: rest)
    | none =>
      let (more, rest) := continuation rest
      (Text.trimWhile (· = '\n') (line ++ '\n' :: outdentAll 1 after) :: more, rest)
  let rest := if Text.allBlank f.before then rest else dropLineEndsAfter f.before :: rest
  some ((id, Text.trimEnd (Text.joinWith ['\n', '\n'] blocks)), rest)

/-! ## Reference links -/

/-- A title between marks that takes the rest of a line, but for spaces. -/
def titleLine? (s : Text) : Option (Text × Text) :=
  let (line, rest) := splitLine s
  match line with
  | c :: t =>
    let close := if c = '(' then ')' else c
    if c = '"' ∨ c = '\x27' ∨ c = '(' then
      match (Text.dropEndWhile Text.isSpace t).reverse with
      | d :: title => if d = close then some (title.reverse, rest) else none
      | [] => none
    else none
  | [] => none

/-- What follows the target of a link: a title on the same line or the next one, or the end of the
line. -/
def afterTarget? (s : Text) : Option (Option Text × Text) :=
  let s := s.dropWhile Text.isSpace
  let onNextLine := match s with
    | '\n' :: t =>
      let t := t.dropWhile Text.isSpace
      match titleLine? t with
      | some (title, rest) => some (some title, rest)
      | none => if t.isEmpty || t.head? = some '\n' then some (none, t) else none
    | _ => none
  match onNextLine with
  | some r => some r
  | none => match titleLine? s with
    | some (title, rest) => some (some title, rest)
    | none => if s.isEmpty || s.head? = some '\n' then some (none, s) else none

/-- The longest target, of `n` characters at most, after which the definition ends. -/
def target? (s : Text) : (n : Nat) → Option ((Text × Option Text) × Text)
  | 0 => none
  | n + 1 => match afterTarget? (s.drop (n + 1)) with
    | some (title, rest) => some ((s.take (n + 1), title), rest)
    | none => target? s n

/-- A link's id, target and title. -/
def readReference? (s : Text) : Option ((Text × Text × Option Text) × Text) :=
  match Text.dropAtMost Text.isSpace (tabWidth - 1) s with
  | '[' :: s => do
    let (id, s) ← idAndColon? (· = '[') s
    let s := match s.dropWhile Text.isSpace with
      | '\n' :: s => s.dropWhile Text.isSpace
      | s => s
    let ((target, title), rest) ← target? s (Text.countFront (fun c => !Text.isBlank c) s)
    some ((id, target, title), rest)
  | _ => none

/-- A link's id in lower case, its target without angle brackets and its title, and the blocks that
are left of a block and those after it. -/
def takeReference? (block : Text) (rest : List Text) :
    Option ((Text × Text × Option Text) × List Text) := do
  let f ← findAtLine? readReference? [] (Text.lines block)
  let (id, target, title) := f.value
  let target := Text.dropEndWhile (· = '>') (target.dropWhile (· = '<'))
  let rest := if Text.allBlank f.after then rest else dropLineEndsBefore f.after :: rest
  let rest := if Text.allBlank f.before then rest else dropLineEndsAfter f.before :: rest
  some ((Text.lower (Text.trim id), target, title), rest)

end WikiText.Markdown
