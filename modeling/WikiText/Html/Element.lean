import WikiText.Html.Escape

/-! # Elements and their markup -/

namespace WikiText.Html

/-- Character data. Final data is not read again by the rules for inline markup. -/
structure Data where
  text : Text
  final : Bool := false
deriving DecidableEq, Repr, Inhabited

namespace Data

def empty : Data := ⟨[], false⟩

def isEmpty (d : Data) : Bool := d.text.isEmpty

end Data

/-- An element: its name and attributes, the data before its first child, its children, and the
data that follows its end tag. -/
inductive Element where
  | mk (tag : Text) (attributes : List (Text × Text)) (data : Data) (children : List Element)
      (tail : Data)
deriving Repr

namespace Element

instance : Inhabited Element := ⟨.mk [] [] .empty [] .empty⟩

def tag : Element → Text
  | .mk t _ _ _ _ => t

def attributes : Element → List (Text × Text)
  | .mk _ a _ _ _ => a

def data : Element → Data
  | .mk _ _ d _ _ => d

def children : Element → List Element
  | .mk _ _ _ c _ => c

def tail : Element → Data
  | .mk _ _ _ _ t => t

/-- An element without attributes and content. -/
def ofTag (tag : String) : Element := .mk tag.toList [] .empty [] .empty

def withTag (t : Text) : Element → Element
  | .mk _ a d c l => .mk t a d c l

def withData (d : Data) : Element → Element
  | .mk t a _ c l => .mk t a d c l

/-- Set the data before the first child. -/
def withText (s : Text) (e : Element) : Element := e.withData ⟨s, false⟩

def withChildren (c : List Element) : Element → Element
  | .mk t a d _ l => .mk t a d c l

def withTail (l : Data) : Element → Element
  | .mk t a d c _ => .mk t a d c l

/-- Set the data after the end tag. -/
def withTailText (s : Text) (e : Element) : Element := e.withTail ⟨s, false⟩

/-- Add a child after the others. -/
def push (e child : Element) : Element := e.withChildren (e.children ++ [child])

/-- The value of an attribute. -/
def attribute? (name : String) (e : Element) : Option Text := e.attributes.lookup name.toList

def setAttribute (name value : Text) : List (Text × Text) → List (Text × Text)
  | [] => [(name, value)]
  | a :: as => if a.1 = name then (name, value) :: as else a :: setAttribute name value as

/-- Set an attribute. -/
def set (name : String) (value : Text) : Element → Element
  | .mk t a d c l => .mk t (setAttribute name.toList value a) d c l

/-- The tag is this one. -/
def hasTag (name : String) (e : Element) : Bool := e.tag = name.toList

/-! ## What changes keep -/

section Fields

variable (e : Element) (t : Text) (d : Data) (cs : List Element)

@[simp] theorem attributes_withTag : (e.withTag t).attributes = e.attributes := by cases e; rfl

@[simp] theorem children_withTag : (e.withTag t).children = e.children := by cases e; rfl

@[simp] theorem tag_withData : (e.withData d).tag = e.tag := by cases e; rfl

@[simp] theorem attributes_withData : (e.withData d).attributes = e.attributes := by cases e; rfl

@[simp] theorem children_withData : (e.withData d).children = e.children := by cases e; rfl

@[simp] theorem tag_withTail : (e.withTail d).tag = e.tag := by cases e; rfl

@[simp] theorem attributes_withTail : (e.withTail d).attributes = e.attributes := by cases e; rfl

@[simp] theorem children_withTail : (e.withTail d).children = e.children := by cases e; rfl

@[simp] theorem tag_withChildren : (e.withChildren cs).tag = e.tag := by cases e; rfl

@[simp] theorem attributes_withChildren : (e.withChildren cs).attributes = e.attributes := by
  cases e; rfl

@[simp] theorem children_withChildren : (e.withChildren cs).children = cs := by cases e; rfl

@[simp] theorem children_push (child : Element) :
    (e.push child).children = e.children ++ [child] := e.children_withChildren _

end Fields

end Element

/-- The two written forms of markup. In the short form an attribute whose value is its name is
written by its name alone, and an element without content has no slash. -/
inductive Dialect where
  | short
  | closed
deriving DecidableEq, Repr

/-- Elements that have no content and no end tag. -/
def voidTags : List Text := ([
  "area", "base", "basefont", "br", "col", "embed", "frame", "hr", "img", "input", "isindex",
  "link", "meta", "param", "source", "track", "wbr"] : List String).map (·.toList)

def isVoid (tag : Text) : Bool := voidTags.elem tag

def attributeLe (a b : Text × Text) : Bool :=
  match compare a.1 b.1 with
  | .lt => true
  | .eq => compare a.2 b.2 != .gt
  | .gt => false

def insertAttribute (a : Text × Text) : List (Text × Text) → List (Text × Text)
  | [] => [a]
  | b :: bs => if attributeLe a b then a :: b :: bs else b :: insertAttribute a bs

/-- Attributes in the order of their names. -/
def sortAttributes (attributes : List (Text × Text)) : List (Text × Text) :=
  attributes.foldr insertAttribute []

def writeAttribute (d : Dialect) (a : Text × Text) : Text :=
  let value := escapeOnce .doubleOnly a.2
  if d = .short ∧ a.1 = value then ' ' :: value
  else ' ' :: a.1 ++ ['=', '"'] ++ value ++ ['"']

/-- The start tag, its attributes in the order of their names. -/
def startTag (d : Dialect) (tag : Text) (attributes : List (Text × Text)) : Text :=
  '<' :: tag ++ (sortAttributes attributes).flatMap (writeAttribute d) ++
    (if d = .closed ∧ isVoid tag then " />".toList else ['>'])

mutual

/-- The markup of an element and of the data that follows it. -/
def Element.markup (d : Dialect) : Element → Text
  | .mk tag attributes data children tail =>
    startTag d tag attributes ++
    (if d = .closed ∧ isVoid tag then []
     else escapeOnce .plain data.text ++ Element.markupList d children ++
      (if isVoid tag then [] else '<' :: '/' :: tag ++ ['>'])) ++
    escapeOnce .plain tail.text

/-- The markup of elements one after the other. -/
def Element.markupList (d : Dialect) : List Element → Text
  | [] => []
  | e :: es => e.markup d ++ Element.markupList d es

end

end WikiText.Html
