import WikiText.Markdown.Inline.Rule

/-! # Inline markup in a tree of blocks

The text of every element below the root is read, and the pieces that were found in it take their
places. Elements that come out of text are read in turn, for the text that stands in them once all
their pieces are in place.
-/

namespace WikiText.Markdown

open Html

mutual

/-- The number of elements and characters in an element. -/
def weight : Element → Nat
  | .mk _ _ data children tail => 1 + data.text.length + tail.text.length + weights children

def weights : List Element → Nat
  | [] => 0
  | e :: es => weight e + weights es

end

/-- An element whose own text is read, with the elements that came out of it. -/
structure Swept where
  element : Element
  inserted : List Element

/-- Read the text in an element. -/
def readInside (ctx : InlineContext) (inLink : Bool) (e : Element) :
    InlineM (Data × List Element) := do
  if e.data.final || e.data.isEmpty then pure (e.data, [])
  else
    let s ← Rule.applyAll ctx (inLink || e.hasTag "a") e.data.text
    return Node.expand (← get).nodes ⟨s, false⟩

/-- Read the text after an element. -/
def readAfter (ctx : InlineContext) (inLink : Bool) (e : Element) :
    InlineM (Data × List Element) := do
  if e.tail.isEmpty then pure (e.tail, [])
  else
    let s ← if e.tail.final then pure e.tail.text else Rule.applyAll ctx inLink e.tail.text
    return Node.expand (← get).nodes ⟨s, e.tail.final⟩

/-- Read the text in and after each element from left to right. Elements that come out of the text
after one are next. Each takes a character of it at least, so `fuel` is the weight of the
elements. -/
def sweep (ctx : InlineContext) (inLink : Bool) : (fuel : Nat) → List Element →
    InlineM (List Swept)
  | 0, elements => pure (elements.map fun e => ⟨e, []⟩)
  | _, [] => pure []
  | fuel + 1, e :: rest => do
    let (data, inserted) ← readInside ctx inLink e
    let (tail, after) ← readAfter ctx inLink e
    return ⟨(e.withData data).withTail tail, inserted⟩ :: (← sweep ctx inLink fuel (after ++ rest))

/-- Read the text below an element whose own text was read. Elements that came out of text are read
before the other children, and again among them. -/
def Swept.readBelow (read : (inLink : Bool) → List Element → InlineM (List Element)) (inLink : Bool)
    (s : Swept) : InlineM Element := do
  let inLink := inLink || s.element.hasTag "a"
  let inserted ← s.inserted.mapM fun i => do
    return i.withChildren (← read (inLink || i.hasTag "a") i.children)
  if s.element.children.isEmpty then return s.element.withChildren inserted
  else return s.element.withChildren (← read inLink (inserted ++ s.element.children))

/-- Read the text of elements with the same parent, and then the text below each of them. A level of
the tree takes an element at least, so `fuel` is the weight of the tree. -/
def readBelow (ctx : InlineContext) : (fuel : Nat) → (inLink : Bool) → List Element →
    InlineM (List Element)
  | 0, _, elements => pure elements
  | fuel + 1, inLink, elements => do
    (← sweep ctx inLink (weights elements) elements).mapM
      (Swept.readBelow (readBelow ctx fuel) inLink)

/-- Read the text of every element below a root. -/
def readInline (ctx : InlineContext) (root : Element) : InlineM Element :=
  return root.withChildren (← readBelow ctx (weight root) false root.children)

end WikiText.Markdown
