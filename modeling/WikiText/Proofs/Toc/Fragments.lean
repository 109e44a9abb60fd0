import WikiText.Proofs.Anchor.Markup
import WikiText.Proofs.Text.Letters

/-!
# Fragments of generated markup

Generated markup is a list of fragments: text, footnote references as they are written for anchors,
and tags with their attributes.  A tag has the marks of tags at its ends only
(`Tag.exists_markup`), and a reference is two tags around its label (`exists_reference_markup`).
-/

namespace WikiText.Toc

open Text (isBlank isWord)
open Html (Dialect)

/-! ## Fragments -/

/-- A text without the marks that delimit tags and values. -/
structure IsUnmarked (s : Text) : Prop where
  opening : '<' ∉ s
  closing : '>' ∉ s
  quote : '"' ∉ s

instance (s : Text) : Decidable (IsUnmarked s) :=
  decidable_of_iff ('<' ∉ s ∧ '>' ∉ s ∧ '"' ∉ s)
    ⟨fun h => ⟨h.1, h.2.1, h.2.2⟩, fun h => ⟨h.opening, h.closing, h.quote⟩⟩

/-- An attribute. -/
structure Attribute where
  name : Text
  value : Text
  inked : ∀ c ∈ name, isBlank c = false
  unmarked_name : IsUnmarked name
  unmarked_value : IsUnmarked value

/-- A start tag or an end tag.  A slash may stand before its end. -/
structure Tag where
  closing : Bool
  name : Text
  plain : Text.IsPlain name
  attributes : List Attribute
  slashed : Bool

/-- A fragment of generated markup. -/
inductive Fragment where
  | text (s : Text) (hopening : '<' ∉ s) (hclosing : '>' ∉ s)
  | reference (span : Span) (stop : Nat) (href label refId : Option Text)
  | tag (t : Tag)

namespace Attribute

def markup (a : Attribute) : Text := ' ' :: (a.name ++ '=' :: '"' :: (a.value ++ ['"']))

def isId (a : Attribute) : Bool := a.name = "id".toList

end Attribute

namespace Tag

/-- What stands between the name and the end. -/
def inside (t : Tag) : Text :=
  t.attributes.flatMap Attribute.markup ++ if t.slashed then [' ', '/'] else []

def opening (t : Tag) : Text := '<' :: ((if t.closing then ['/'] else []) ++ t.name)

def markup (t : Tag) : Text := t.opening ++ (t.inside ++ ['>'])

def isLink (t : Tag) : Bool := t.name = ['a']

def withoutIds (t : Tag) : Tag := { t with attributes := t.attributes.filter (!·.isId) }

end Tag

namespace Fragment

def markup (d : Dialect) : Fragment → Text
  | text s _ _ => s
  | reference span stop href label refId =>
    (Anchor.element ⟨span, stop, .footnote href label refId⟩).markup d
  | tag t => t.markup

/-- The text of a fragment outside tags and references. -/
def visible : Fragment → Text
  | text s _ _ => s
  | _ => []

/-- The attributes of a fragment outside references. -/
def attributes : Fragment → List Attribute
  | tag t => t.attributes
  | _ => []

def isReference : Fragment → Bool
  | reference .. => true
  | _ => false

/-- The tag of a link, be it the start tag or the end tag. -/
def isLink : Fragment → Bool
  | tag t => t.isLink
  | _ => false

def withoutIds : Fragment → Fragment
  | tag t => tag t.withoutIds
  | f => f

end Fragment

/-! ## How tags are written -/

section

variable (a : Attribute) (t : Tag)

theorem Attribute.angle_not_mem : '<' ∉ a.markup ∧ '>' ∉ a.markup := by
  simp [markup, a.unmarked_name.opening, a.unmarked_name.closing, a.unmarked_value.opening,
    a.unmarked_value.closing]

theorem Tag.angle_not_mem_inside : '<' ∉ t.inside ∧ '>' ∉ t.inside := by
  have hend : ∀ c ∈ ['<', '>'], c ∉ (if t.slashed then [' ', '/'] else []) := by
    cases t.slashed <;> decide
  have hattributes : '<' ∉ t.attributes.flatMap Attribute.markup ∧
      '>' ∉ t.attributes.flatMap Attribute.markup := by
    simp only [List.mem_flatMap, not_exists, not_and]
    exact ⟨fun a _ => a.angle_not_mem.1, fun a _ => a.angle_not_mem.2⟩
  simp only [inside, List.mem_append, not_or]
  exact ⟨⟨hattributes.1, hend _ (by decide)⟩, hattributes.2, hend _ (by decide)⟩

/-- The name ends where it is said to. -/
theorem Tag.isWord_head_inside : ∀ c ∈ t.inside.head?, isWord c = false := by
  have hspace : isWord ' ' = false := by decide
  rw [inside]
  cases t.attributes with
  | nil => cases t.slashed <;> simp [hspace]
  | cons a as => simp [Attribute.markup, hspace]

theorem Tag.not_mem_name {c : Char} (hc : ¬ Text.IsLetter c) : c ∉ t.name := t.plain.not_mem hc

/-- A tag has its marks at its ends only. -/
theorem Tag.exists_markup : ∃ g, t.markup = '<' :: (g ++ ['>']) ∧ '<' ∉ g ∧ '>' ∉ g ∧
    t.opening ++ t.inside = '<' :: g := by
  have hlt : '<' ∉ t.name := t.not_mem_name (by decide)
  have hgt : '>' ∉ t.name := t.not_mem_name (by decide)
  refine ⟨(if t.closing then ['/'] else []) ++ t.name ++ t.inside, ?_, ?_, ?_, rfl⟩
  · simp [markup, opening]
  · cases t.closing <;> simp [hlt, t.angle_not_mem_inside.1]
  · cases t.closing <;> simp [hgt, t.angle_not_mem_inside.2]

end

/-! ## How references are written -/

/-- An attribute of a reference, if it is there, is a space and text without the marks of tags. -/
theorem written_attributeList (d : Dialect) {name : String}
    (hname : ∀ c ∈ name.toList, Anchor.isAngle c = false) (v : Option Text) :
    let w := (Anchor.attributeList name v).flatMap (Html.writeAttribute d)
    (∀ c ∈ w, Anchor.isAngle c = false) ∧ ∀ c ∈ w.head?, isWord c = false := by
  have hspace : isWord ' ' = false := by decide
  cases v with
  | none => exact ⟨List.forall_mem_nil _, by simp [Anchor.attributeList]⟩
  | some v =>
    have hvalue := (Anchor.writes_value v).angle
    intro w
    have hw : w = Html.writeAttribute d (name.toList, v) := List.append_nil _
    rw [hw, Html.writeAttribute]
    split
    · refine ⟨?_, by simp [hspace]⟩
      rw [List.forall_mem_cons]
      exact ⟨by decide, hvalue⟩
    · refine ⟨?_, by simp [hspace]⟩
      simp only [List.cons_append, List.append_assoc, List.forall_mem_cons, List.forall_mem_append,
        List.nil_append]
      exact ⟨by decide, hname, by decide, by decide, hvalue, by decide, List.forall_mem_nil _⟩

/-- A reference is two tags around its label. -/
theorem exists_reference_markup (d : Dialect) (span : Span) (stop : Nat)
    (href label refId : Option Text) : ∃ idPart hrefPart labelPart : Text,
    (∀ c ∈ idPart, Anchor.isAngle c = false) ∧ (∀ c ∈ idPart.head?, isWord c = false) ∧
    (∀ c ∈ hrefPart, Anchor.isAngle c = false) ∧ (∀ c ∈ hrefPart.head?, isWord c = false) ∧
    (∀ c ∈ labelPart, Anchor.isAngle c = false) ∧
    (Fragment.reference span stop href label refId).markup d =
      "<sup".toList ++ (idPart ++ '>' :: ("<a".toList ++
        (hrefPart ++ (" rel=\"footnote\"".toList ++ '>' ::
          (labelPart ++ "</a></sup>".toList))))) := by
  obtain ⟨hid, hidHead⟩ := @written_attributeList d "id" (by decide) (Anchor.present refId)
  obtain ⟨hhref, hhrefHead⟩ :=
    @written_attributeList d "href" (by decide) (Anchor.present href)
  have hrel : Html.writeAttribute d ("rel".toList, "footnote".toList) =
      " rel=\"footnote\"".toList := by
    cases d <;> decide
  refine ⟨_, _, _, hid, hidHead, hhref, hhrefHead, (Anchor.writes_data (label.getD [])).angle, ?_⟩
  rw [Fragment.markup, Anchor.markup_element]
  simp only [Anchor.parts, List.flatMap_cons, List.flatMap_append, List.flatMap_map,
    List.flatMap_nil, Anchor.Part.markup, hrel, List.append_nil, List.cons_append,
    List.append_assoc, List.nil_append]
  rfl

end WikiText.Toc
