import WikiText.Html.Element
import WikiText.RenderState
import WikiText.Stash
import WikiText.Text.Blank
import WikiText.Text.Digit

/-! # Finished pieces of a line

A piece of text that a rule has dealt with is put aside, and a marker stands for it in the text that
the rules after it read.
-/

namespace WikiText.Markdown

open Html

/-- A finished piece: text as it is, or an element. -/
inductive Node where
  | text (s : Text)
  | element (e : Element)

/-- The state of the rules for text: the pieces put aside, the raw markup put aside, and the state
of the render. -/
structure InlineState where
  nodes : Array Node := #[]
  stash : Stash
  render : RenderState

abbrev InlineM := StateM InlineState

namespace Node

/-- What begins a marker. -/
def opening : Text := Stash.opening :: "klzzwxh:".toList

/-- The marker of the piece with index `k`. -/
def marker (k : Nat) : Text :=
  let digits := Text.ofNat k
  opening ++ Text.copies (4 - digits.length) '0' ++ digits ++ [Stash.closing]

/-- The index of the marker with which a text begins, and the text after it. -/
def marker? (s : Text) : Option (Nat × Text) := do
  let s ← Text.strip? opening s
  let digits := s.takeWhile Text.isAsciiDigit
  match s.drop digits.length with
  | c :: rest => if c = Stash.closing then some (Text.natOfDigits digits, rest) else none
  | [] => none

private theorem length_lt_of_marker? {s rest : Text} {k : Nat} (h : marker? s = some (k, rest)) :
    rest.length < s.length := by
  simp only [marker?, Option.bind_eq_bind, Option.bind_eq_some_iff] at h
  obtain ⟨t, ht, h⟩ := h
  split at h
  · next hdrop =>
    split at h
    · cases h
      rw [Text.eq_append_of_strip? ht, Text.eq_append_of_drop_takeWhile hdrop]
      simp only [List.length_append, List.length_cons]
      omega
    · cases h
  · cases h

/-- Replace the markers of a text. -/
def replaceMarkers (f : Nat → Text) (s : Text) : Text :=
  match h : marker? s with
  | some (k, rest) =>
    have := length_lt_of_marker? h
    f k ++ replaceMarkers f rest
  | none => match s with
    | [] => []
    | c :: s => c :: replaceMarkers f s
termination_by s.length

mutual

/-- The text in an element, without what follows it. -/
def textOf : Element → Text
  | .mk _ _ data children _ => data.text ++ textOfList children

def textOfList : List Element → Text
  | [] => []
  | e :: es => textOf e ++ e.tail.text ++ textOfList es

end

/-- A text with the pieces it refers to: as text, the tags of elements apart. -/
def restoreText (nodes : Array Node) : Text → Text :=
  replaceMarkers fun k => match nodes[k]? with
    | some (.text s) => s
    | some (.element e) => textOf e
    | none => []

/-- The text of an escaped character: its code point between marks. -/
def escaped (c : Char) : Text := Stash.opening :: Text.ofNat c.toNat ++ [Stash.closing]

/-- An escaped character at the front of a text, and the text after it. -/
def escaped? : Text → Option (Char × Text)
  | o :: s =>
    let digits := s.takeWhile Text.isDigit
    match s.drop digits.length with
    | c :: rest =>
      if o = Stash.opening ∧ c = Stash.closing then
        (Text.nat? digits).map fun n => (Char.ofNat n, rest)
      else none
    | [] => none
  | [] => none

private theorem length_lt_of_escaped? {s rest : Text} {c : Char} (h : escaped? s = some (c, rest)) :
    rest.length < s.length := by
  cases s with
  | nil => simp [escaped?] at h
  | cons o s =>
    simp only [escaped?] at h
    split at h
    · next d r hr =>
      split at h
      · simp only [Option.map_eq_some_iff, Prod.mk.injEq] at h
        obtain ⟨n, _, _, rfl⟩ := h
        have := congrArg List.length hr
        simp only [List.length_drop, List.length_cons] at this ⊢
        omega
      · simp at h
    · simp at h

/-- Write escaped characters as themselves. -/
def unescape (s : Text) : Text :=
  match h : escaped? s with
  | some (c, rest) =>
    have := length_lt_of_escaped? h
    c :: unescape rest
  | none => match s with
    | [] => []
    | c :: s => c :: unescape s
termination_by s.length

/-- A text as it was written, the pieces it refers to included: escaped characters get their
backslash back, elements are written as markup. -/
def restoreSource (nodes : Array Node) (s : Text) : Text :=
  unescape <| s |> replaceMarkers fun k => match nodes[k]? with
    | some (.text s) => '\\' :: s
    | some (.element e) => e.markup .closed
    | none => []

/-- Put a piece aside: its marker. -/
def putAside (n : Node) : InlineM Text := fun st =>
  (marker st.nodes.size, { st with nodes := st.nodes.push n })

/-! ## Text with its pieces in place -/

/-- Data up to the first element, and the elements, each followed by the data up to the next. -/
abbrev Expanded := Data × List Element

/-- Add text at the front. -/
def prependText (s : Text) (x : Expanded) : Expanded := (⟨s ++ x.1.text, false⟩, x.2)

/-- Add an element at the front. What stood before the first element follows it. -/
def prependElement (e : Element) (x : Expanded) : Expanded :=
  (.empty, e.withTailText (e.tail.text ++ x.1.text) :: x.2)

/-- Put the pieces of a text in its place, given how to put an element in place. A marker takes a
character at least, so `fuel` is the text's length. -/
def expandText (place : Element → Element) (nodes : Array Node) :
    (fuel : Nat) → Text → Expanded
  | 0, s => (⟨s, false⟩, [])
  | fuel + 1, s => match marker? s with
    | some (k, rest) =>
      let x := expandText place nodes fuel rest
      match nodes[k]? with
      | some (.text t) => prependText t x
      | some (.element e) => prependElement (place e) x
      | none => prependText (s.take (s.length - rest.length)) x
    | none => match s with
      | [] => (.empty, [])
      | c :: s => prependText [c] (expandText place nodes fuel s)

/-- Put the pieces of data in their place. Final data without pieces stays final. -/
def expandData (place : Element → Element) (nodes : Array Node) (d : Data) : Expanded :=
  let x := expandText place nodes d.text.length d.text
  (⟨x.1.text, d.final && x.2.isEmpty⟩, x.2)

def expandInside (place : Element → Element) (nodes : Array Node) (e : Element) : Element :=
  if Text.allBlank e.data.text then e
  else
    let (data, elements) := expandData place nodes e.data
    (e.withData data).withChildren (elements ++ e.children)

def expandAfter (place : Element → Element) (nodes : Array Node) (e : Element) :
    List Element :=
  if Text.allBlank e.tail.text then [e]
  else
    let (tail, elements) := expandData place nodes e.tail
    e.withTail tail :: elements

/-- Put the pieces that an element refers to in their place: in its data, and in and after its
children. The pieces of a piece were put aside before it, so `fuel` is the number of pieces. -/
def placeElement (nodes : Array Node) : (fuel : Nat) → Element → Element
  | 0, e => e
  | fuel + 1, e =>
    let place := placeElement nodes fuel
    let children := e.children.flatMap fun child =>
      expandAfter place nodes (expandInside place nodes child)
    expandInside place nodes (e.withChildren children)

/-- Put the pieces of data in their place. -/
def expand (nodes : Array Node) (d : Data) : Expanded :=
  expandData (placeElement nodes nodes.size) nodes d

end Node

end WikiText.Markdown
