import WikiText.Anchor.Markup
import WikiText.Anchor.Resolve
import WikiText.Markdown.Inline.Piece

/-! # The rules for text

One rule after the other goes over a text from left to right. Each piece that it finds is put aside,
so that the rules after it read the piece's marker. The text inside a piece is read by the rules
that come later.
-/

namespace WikiText.Markdown

open Html

/-- A rule finds the pieces of one kind. -/
inductive Rule where
  | code
  | escape
  | anchor
  | image
  | imageReference
  | shortImageReference
  | url
  | mail
  | lineBreak
  | markup
  | reference
  | looseMarks
  | emphasis (mark : EmphasisMark)
deriving DecidableEq, Repr

namespace Rule

/-- The rules in their order. -/
def all : List Rule :=
  [code, escape, anchor, image, imageReference, shortImageReference, url, mail, lineBreak, markup,
    reference, looseMarks, emphasis .asterisk, emphasis .lowLine]

/-- A bracket that is not an image's. The text `s` is the end of the text of `b`. -/
def anchorHit (b : Brackets) (before : Option Char) (s : Text) : InlineM (Hit × Brackets) :=
  fun st =>
    if s.head? = some '[' ∧ before ≠ some '!' then
      match Anchor.resolve (Node.restoreText st.nodes) b (b.text.length - s.length) st.render with
      | (some a, b, render) =>
        ((.piece (.element a.element) (b.text.drop a.stop), b), { st with render })
      | (none, b, render) => ((.miss, b), { st with render })
    else ((.miss, b), st)

/-- Markup or a reference as it was written goes where raw blocks are. Its marker stands in the
text. -/
def rawHit (read? : Text → Option (Text × Text)) (s : Text) : InlineM Hit := fun st =>
  match read? s with
  | some (written, rest) =>
    let (mark, stash) := st.stash.store (Node.restoreSource st.nodes written)
    (.piece (.text mark) rest, { st with stash })
  | none => (.miss, st)

/-- What a rule finds at the front of `s`, which follows a character. -/
def hit (ctx : InlineContext) (before : Option Char) (s : Text) : Rule → InlineM Hit
  | code => pure (codeHit before s)
  | escape => pure (escapeHit ctx before s)
  | anchor => pure .miss
  | image => return imageHit (← get).nodes before s
  | imageReference => return imageReferenceHit ctx (← get).nodes before s
  | shortImageReference => return shortImageReferenceHit ctx (← get).nodes before s
  | url => return urlHit (← get).nodes before s
  | mail => return mailHit (← get).nodes before s
  | lineBreak => pure (lineBreakHit before s)
  | markup => rawHit markup? s
  | reference => rawHit reference? s
  | looseMarks => pure (looseMarksHit before s)
  | emphasis mark => pure (emphasisHit mark before s)

/-- What a rule finds at the front of `s`. The brackets of a text are matched once for all anchors
up to the first that is found. -/
def find (ctx : InlineContext) (r : Rule) (b : Brackets) (before : Option Char) (s : Text) :
    InlineM (Hit × Brackets) := do
  if r = anchor then anchorHit b before s else return (← r.hit ctx before s, b)

/-- Put the pieces aside that a rule finds, each finished first. A step takes a character at least,
so `fuel` is the text's length. -/
def passFrom (ctx : InlineContext) (finish : Element → InlineM Element) (r : Rule) :
    (fuel : Nat) → Brackets → (before : Option Char) → Text → InlineM Text
  | 0, _, _, s => pure s
  | _, _, _, [] => pure []
  | fuel + 1, b, before, c :: s => do
    match ← r.find ctx b before (c :: s) with
    | (.miss, b) => return c :: (← passFrom ctx finish r fuel b (some c) s)
    | (.pass rest, b) =>
      let taken := (c :: s).take (s.length + 1 - rest.length)
      return taken ++ (← passFrom ctx finish r fuel b taken.getLast? rest)
    | (.piece n rest, _) =>
      let n ← match n with
        | .element e => Node.element <$> finish e
        | .text t => pure (.text t)
      let mark ← Node.putAside n
      return mark ++ (← passFrom ctx finish r fuel (.ofText rest) (some Stash.closing) rest)

/-- Put the pieces of a text aside that a rule finds. -/
def pass (ctx : InlineContext) (finish : Element → InlineM Element) (r : Rule) (s : Text) :
    InlineM Text :=
  passFrom ctx finish r s.length (.ofText s) none s

abbrev Reader := (inLink : Bool) → List Rule → Text → InlineM Text

def finishData (read : Text → InlineM Text) (d : Data) : InlineM Data := do
  if d.final || d.isEmpty then pure d else return ⟨← read d.text, false⟩

def finishInside (read : Reader) (inLink : Bool) (later : List Rule) (e : Element) :
    InlineM Element :=
  return e.withData (← finishData (read (inLink || e.hasTag "a") later) e.data)

/-- Read the text inside an element that a rule found, in its children and after them. What follows
a child may hold pieces of the same kind. -/
def finish (read : Reader) (inLink : Bool) (r : Rule) (later : List Rule) (e : Element) :
    InlineM Element := do
  if e.data.final then pure e
  else
    let e ← finishInside read inLink later e
    let children ← e.children.mapM fun child => do
      let child ← finishInside read inLink later child
      return child.withTail (← finishData (read inLink (r :: later)) child.tail)
    return e.withChildren children

/-- Apply rules one after the other. Inside a link there are no anchors. -/
def applyWith (ctx : InlineContext) (read : Reader) (inLink : Bool) :
    List Rule → Text → InlineM Text
  | [], s => pure s
  | r :: later, s => do
    let s ← if r = anchor ∧ inLink then pure s else pass ctx (finish read inLink r later) r s
    applyWith ctx read inLink later s

/-- Apply rules to a text. Text inside a piece is shorter than the piece, so the depth is at most
the text's length. -/
def applyTo (ctx : InlineContext) : (depth : Nat) → Reader
  | 0 => fun _ _ s => pure s
  | depth + 1 => applyWith ctx (applyTo ctx depth)

/-- Put the pieces of a text aside that any rule finds. -/
def applyAll (ctx : InlineContext) (inLink : Bool) (s : Text) : InlineM Text :=
  applyTo ctx (s.length + 1) inLink all s

end Rule

end WikiText.Markdown
