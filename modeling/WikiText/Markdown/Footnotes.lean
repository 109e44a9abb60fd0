import WikiText.Anchor.Resolve
import WikiText.Html.Traverse
import WikiText.Markdown.Block.Parse
import WikiText.Markdown.Failure

/-! # The list of footnotes

The footnotes of a document stand in a list, each with a link back to its first reference. They are
listed as they were defined, and put in the order of their references once these are known.
-/

namespace WikiText.Markdown.Footnotes

open Html

/-- What stands for the sign of a link back until the markup is finished. -/
def backlinkMark : Text := Stash.opening :: "zz1337820767766393qq".toList ++ [Stash.closing]

/-- What stands for a space that keeps words together until the markup is finished. -/
def spaceMark : Text := Stash.opening :: "qq3936677670287331zz".toList ++ [Stash.closing]

/-- The text in place of which the list stands. -/
def placeMarker : Text := "///Footnotes Go Here///".toList

def listClass : Text := "footnote".toList

def backlinkClass : Text := "footnote-backref".toList

def backlinkTitle (n : Nat) : Text :=
  "Jump back to footnote ".toList ++ Text.ofNat n ++ " in the text".toList

def backlink (id : Text) (n : Nat) : Element :=
  ((((Element.ofTag "a").set "class" backlinkClass).set "href"
    ('#' :: Anchor.footnoteReferenceId id)).set "title" (backlinkTitle n)).withText backlinkMark

/-- Add the link back to the last paragraph of an item. An empty item gets none. -/
def addBacklink (link : Element) (blocks : List Element) : List Element :=
  match blocks.getLast? with
  | some last =>
    if last.hasTag "p" then
      blocks.dropLast ++ [(last.withText (last.data.text ++ spaceMark)).push link]
    else blocks ++ [(Element.ofTag "p").push link]
  | none => []

/-! ## Making the list -/

/-- The items of footnotes, numbered from `n` on. The text of a footnote may define reference links
and give other footnotes a new text, but it may not add footnotes. -/
def items (opts : BlockOptions) (n : Nat) :
    List Text → Definitions → Except Failure (List Element × Definitions)
  | [], defs => .ok ([], defs)
  | id :: ids, defs => do
    let text := (defs.footnotes.get? id).getD []
    let (body, after) := (parseText opts (.ofTag "div") text).run defs
    if after.footnotes.keys.length = defs.footnotes.keys.length then
      let blocks := addBacklink (backlink id n) body.children
      let item := ((Element.ofTag "li").set "id" (Anchor.footnoteElementId id)).withChildren blocks
      let (more, defs) ← items opts (n + 1) ids after
      .ok (item :: more, defs)
    else .error .footnoteInFootnote

/-- The list of items, below a line. -/
def listOf (items : List Element) : Element :=
  (((Element.ofTag "div").set "class" listClass).push (.ofTag "hr")).push
    ((Element.ofTag "ol").withChildren items)

mutual

/-- Put the list in place of the element whose text holds the marker, or after the element that the
marker follows. -/
def placeIn? (list : Element) : Element → Option Element
  | .mk tag attributes data children tail =>
    (placeAmong? list children).map fun children => .mk tag attributes data children tail

def placeAmong? (list : Element) : List Element → Option (List Element)
  | [] => none
  | e :: es =>
    if Text.contains placeMarker e.data.text then some (list :: es)
    else if Text.contains placeMarker e.tail.text then some (e.withTail .empty :: list :: es)
    else match placeIn? list e with
      | some e => some (e :: es)
      | none => (placeAmong? list es).map (e :: ·)

end

/-- Add the list of the footnotes, if there are any, at its marker or at the end. -/
def add (opts : BlockOptions) (root : Element) (defs : Definitions) :
    Except Failure (Element × Definitions) := do
  if defs.footnotes.keys.isEmpty then return (root, defs)
  let (items, defs) ← items opts 1 defs.footnotes.keys defs
  let list := listOf items
  return ((placeIn? list root).getD (root.push list), defs)

/-! ## Its order -/

/-- The footnote of an item. -/
def footnoteOf (item : Element) : Text :=
  let id := (item.attribute? "id").getD []
  match Text.splitOnce? [':'] id with
  | some (_, id) => id
  | none => id

/-- Where a footnote belongs: at the place of its first reference, or behind all that have one. -/
def place (found : List Text) (last : Nat) (id : Text) : Nat :=
  if found.elem id then found.idxOf id else last

/-- Whether a footnote may stand before another. -/
def precedes (found : List Text) (last : Nat) (a b : Text) : Bool :=
  place found last a ≤ place found last b

def isBacklink (e : Element) : Bool :=
  e.hasTag "a" && e.attribute? "class" = some backlinkClass

mutual

/-- Change the number in the first link back below an element. -/
def renumberIn? (n : Nat) : Element → Option Element
  | .mk tag attributes data children tail =>
    (renumberAmong? n children).map fun children => .mk tag attributes data children tail

def renumberAmong? (n : Nat) : List Element → Option (List Element)
  | [] => none
  | e :: es =>
    if isBacklink e then some (e.set "title" (backlinkTitle n) :: es)
    else match renumberIn? n e with
      | some e => some (e :: es)
      | none => (renumberAmong? n es).map (e :: ·)

end

def renumber (n : Nat) : List Element → Except Failure (List Element)
  | [] => .ok []
  | item :: items => match renumberIn? n item with
    | some item => do return item :: (← renumber (n + 1) items)
    | none => .error .footnoteWithoutBacklink

def reorderList (found : List Text) (last : Nat) (list : Element) :
    Except Failure Element := do
  let items := list.children.mergeSort fun a b => precedes found last (footnoteOf a) (footnoteOf b)
  return list.withChildren (← renumber 1 items)

def isListBox (e : Element) : Bool :=
  e.hasTag "div" && e.attribute? "class" = some listClass

/-- Put the list in order, if the element holds it. -/
def reorderBox (found : List Text) (last : Nat) (e : Element) : Except Failure Element := do
  if isListBox e then
    return e.withChildren (← e.children.mapM fun c => do
      if c.hasTag "ol" then reorderList found last c else return c)
  else return e

/-- Put the footnotes in the order of their first references, those without a reference last, unless
they stand in it already. -/
def reorder (defs : Definitions) (found : List Text) (root : Element) : Except Failure Element :=
  if defs.footnotes.keys.isEmpty || found = defs.footnotes.keys then .ok root
  else root.mapM (reorderBox found defs.footnotes.keys.length)

end WikiText.Markdown.Footnotes
