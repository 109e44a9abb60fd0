import WikiText.Markdown.Block.Definition
import WikiText.Markdown.Block.Shape
import WikiText.Markdown.Block.Table

/-! # Blocks as elements

Each block of a text is added to the element it stands in, as the first kind of block that fits.
What a block leaves over is read next.
-/

namespace WikiText.Markdown

open Html

/-- Which kinds of blocks beyond the common ones are read: tables, and lists that keep to one kind
of item. -/
structure BlockOptions where
  tables : Bool
  saneLists : Bool

/-- Where a block stands: in a document, in an indented part of an item, in a tight list, in an item
of a loose list, or in a quote. -/
inductive Place where
  | document
  | indented
  | tightList
  | looseItem
  | quote
deriving DecidableEq, Repr

/-- Reading blocks collects definitions. -/
abbrev BlockM := StateM Definitions

def isListTag (e : Element) : Bool := e.hasTag "ul" || e.hasTag "ol"

def lastChild? (e : Element) : Option Element := e.children.getLast?

/-- An element with its last child replaced. -/
def replaceLast (e child : Element) : Element :=
  e.withChildren (e.children.dropLast ++ [child])

/-! ## Code -/

/-- The code element of a code block. -/
def codeOf? (e : Element) : Option Element :=
  match e.children with
  | code :: _ => if e.hasTag "pre" && code.hasTag "code" then some code else none
  | [] => none

/-- An element whose last child is a code block, with more code in that. -/
def extendCode? (parent : Element) (more : Text) : Option Element := do
  let pre ← lastChild? parent
  let code ← codeOf? pre
  let code := code.withData ⟨code.data.text ++ more, true⟩
  some (replaceLast parent (pre.withChildren (code :: pre.children.tail)))

def newCode (code : Text) : Element :=
  (Element.ofTag "pre").push ((Element.ofTag "code").withData ⟨code, true⟩)

/-- Add the indented lines at the front of a block as code; the other lines are left over. -/
def addCode (parent : Element) (block : Text) : Element × Text :=
  let (front, others) := outdentFront (Text.lines block)
  let code := Html.escape .plain (Text.trimEnd (Text.unlines front)) ++ ['\n']
  ((extendCode? parent ('\n' :: code)).getD (parent.push (newCode code)), Text.unlines others)

/-! ## Paragraphs -/

/-- A block as a paragraph, or in a tight list as text of the item. -/
def addParagraph (place : Place) (parent : Element) (block : Text) : Element :=
  if Text.allBlank block then parent
  else if place = .tightList then
    match lastChild? parent with
    | some last => replaceLast parent (last.withTailText (last.tail.text ++ '\n' :: block))
    | none =>
      let text := parent.data.text
      let block := Text.trimStart block
      parent.withText (if text.isEmpty then block else text ++ '\n' :: block)
  else parent.push ((Element.ofTag "p").withText (Text.trimStart block))

/-- An item whose text stands in a paragraph of its own, before what else the item holds. -/
def withTextWrapped (item : Element) : Element :=
  if item.data.isEmpty then item
  else
    (item.withText []).withChildren ((Element.ofTag "p").withText item.data.text :: item.children)

/-- An item in which the text after its last child stands in a paragraph. -/
def withTailWrapped (item : Element) : Element :=
  match lastChild? item with
  | some last =>
    if last.tail.isEmpty then item
    else (replaceLast item (last.withTail .empty)).push
      ((Element.ofTag "p").withText (Text.trimStart last.tail.text))
  | none => item

/-! ## The place of an indented block -/

/-- How far the last children go down lists and items towards a level, and the level reached. -/
def descend (target : Nat) : (fuel : Nat) → (level steps : Nat) → Element → Nat × Nat
  | 0, level, steps, _ => (level, steps)
  | fuel + 1, level, steps, e =>
    if target ≤ level then (level, steps)
    else match lastChild? e with
      | some child =>
        if isListTag child then descend target fuel (level + 1) (steps + 1) child
        else if child.hasTag "li" then descend target fuel level (steps + 1) child
        else (level, steps)
      | none => (level, steps)

/-- Change the element a number of steps down the last children. -/
def modifyLast (f : Element → BlockM Element) : (steps : Nat) → Element → BlockM Element
  | 0, e => f e
  | n + 1, e => match lastChild? e with
    | some child => do return replaceLast e (← modifyLast f n child)
    | none => f e

/-- Whether an indented block belongs to an item of a list. -/
def continuesList (place : Place) (parent : Element) (block : Text) : Bool :=
  isIndented block && place ≠ .indented &&
    (parent.hasTag "li" || (lastChild? parent).any isListTag)

/-! ## Blocks with blocks in them -/

/-- A way to read blocks into an element. -/
abbrev BlockReader := Place → Element → List Text → BlockM Element

section Reader

variable (parse : BlockReader)

/-- Read what stands in a block before something else. -/
def addBefore (place : Place) (parent : Element) (before : Text) : BlockM Element :=
  if before.isEmpty then pure parent else parse place parent [before]

/-- Read a block into an item, or into the last item of a list, or into a new one. -/
def intoItem (block : Text) (e : Element) : BlockM Element :=
  if e.hasTag "li" then parse .indented e [block]
  else if (lastChild? e).any (·.hasTag "li") then
    modifyLast (fun item => parse .indented (withTextWrapped item) (blocksOf block)) 1 e
  else do return e.push (← parse .indented (.ofTag "li") [block])

/-- Read an indented block into the item that it belongs to. -/
def addIndented (place : Place) (parent : Element) (block : Text) : BlockM Element :=
  let (level, steps) := descend (indentationLevel block) block.length
    (if place = .tightList then 1 else 0) 0 parent
  let block := outdentAll level block
  if parent.hasTag "li" then
    if (lastChild? parent).any isListTag then
      modifyLast (fun list => parse .indented list [block]) 1 parent
    else parse .indented parent [block]
  else modifyLast (intoItem parse block) steps parent

/-- Read an item of a tight list into it. -/
def addItem (list : Element) (item : Text) : BlockM Element :=
  if isIndented item then modifyLast (fun li => parse .tightList li [item]) 1 list
  else do return list.push (← parse .tightList (.ofTag "li") [item])

/-- Whether a list of a kind may go on with items of another. -/
def admits (opts : BlockOptions) (kind other : ListKind) : Bool :=
  !opts.saneLists || kind = other

/-- A list of a kind; a sane ordered one starts at the number of its first item. -/
def newList (opts : BlockOptions) (kind : ListKind) (digits : Text) : Element :=
  let list := Element.ofTag kind.tag
  if opts.saneLists && kind = .ordered && digits ≠ ['1'] then list.set "start" digits else list

def isListOf (opts : BlockOptions) (kind : ListKind) (e : Element) : Bool :=
  if opts.saneLists then e.hasTag kind.tag else isListTag e

/-- Read items into the list that they continue, which is loose then, or into the list that they
stand in, or into a new one. -/
def addItems (opts : BlockOptions) (parent : Element) (kind : ListKind) (digits : Text)
    (items : List Text) : BlockM Element :=
  match (lastChild? parent).filter (isListOf opts kind), items with
  | some list, first :: items => do
    let list ← modifyLast (fun li => pure (withTailWrapped (withTextWrapped li))) 1 list
    let li ← parse .looseItem (.ofTag "li") [first]
    return replaceLast parent (← items.foldlM (addItem parse) (list.push li))
  | _, items =>
    if isListTag parent then items.foldlM (addItem parse) parent
    else do return parent.push (← items.foldlM (addItem parse) (newList opts kind digits))

/-- Read a text into the quotation that it continues, or into a new one. -/
def addQuote (parent : Element) (text : Text) : BlockM Element :=
  match (lastChild? parent).filter (·.hasTag "blockquote") with
  | some quote => do return replaceLast parent (← parse .quote quote (blocksOf text))
  | none => do return parent.push (← parse .quote (.ofTag "blockquote") (blocksOf text))

end Reader

/-! ## Blocks -/

/-- Read blocks into an element. Every block that is read takes a character or a block away, so
`fuel` is a multiple of what there is to read. -/
def parseBlocks (opts : BlockOptions) :
    (fuel : Nat) → Place → Element → List Text → BlockM Element
  | 0, _, parent, _ => pure parent
  | _, _, parent, [] => pure parent
  | fuel + 1, place, parent, block :: rest =>
    /- Read a text inside an element, and go on with blocks in the parent. -/
    let parse := parseBlocks opts fuel
    let goOn (parent : Element) (rest : List Text) : BlockM Element := parse place parent rest
    let leaving (left : Text) : List Text := if left.isEmpty then rest else left :: rest
    if block.isEmpty || block.head? = some '\n' then
      let filler := if block.isEmpty then ['\n', '\n'] else ['\n']
      goOn ((extendCode? parent filler).getD parent) (leaving block.tail)
    else if continuesList place parent block then do
      goOn (← addIndented parse place parent block) rest
    else if isIndented block then
      let (parent, left) := addCode parent block
      goOn parent (leaving left)
    else match (if opts.tables then Table.ofBlock? block else none) with
    | some table => goOn (parent.push table.element) rest
    | none => match hashHeading? block with
    | some h => do
      let parent ← addBefore parse place parent h.before
      let heading := (Element.ofTag "h").withText h.text
      let after := if place = .looseItem then outdentAll 1 h.after else h.after
      goOn (parent.push (heading.withTag ('h' :: Text.ofNat h.level)))
        (if h.after.isEmpty then rest else after :: rest)
    | none => match underlinedHeading? block with
    | some (level, text, lines) =>
      goOn (parent.push (((Element.ofTag "h").withText text).withTag ('h' :: Text.ofNat level)))
        (if lines.isEmpty then rest else Text.unlines lines :: rest)
    | none => match splitAtRule? block with
    | some (before, after) => do
      let parent ← addBefore parse place parent before
      goOn (parent.push (.ofTag "hr")) (leaving after)
    | none => match item? (splitLine block).1 with
    | some (kind, digits, _) => do
      goOn (← addItems parse opts parent kind digits (itemsOf (admits opts kind) block)) rest
    | none => match splitAtQuote? block with
    | some (before, text) => do
      goOn (← addQuote parse (← parse place parent [before]) text) rest
    | none => match takeFootnote? block rest with
    | some ((id, text), rest) => do
      modify fun d => { d with footnotes := d.footnotes.insert id text }
      goOn parent rest
    | none => match takeReference? block rest with
    | some ((id, target, title), rest) => do
      modify fun d => { d with references := d.references.insert id (target, title) }
      goOn parent rest
    | none => goOn (addParagraph place parent block) rest

/-- Read a text into an element. -/
def parseText (opts : BlockOptions) (parent : Element) (s : Text) : BlockM Element :=
  parseBlocks opts (4 * s.length + 16) .document parent (blocksOf s)

end WikiText.Markdown
