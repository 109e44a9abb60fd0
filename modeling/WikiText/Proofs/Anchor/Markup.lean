import WikiText.Anchor.Markup
import WikiText.Anchor.Resolve
import WikiText.Proofs.Html.Escape

/-!
# The markup of an anchor

The markup of an anchor is fixed text with its values in between: attributes, and the data of the
element (`markup_element`).  Every value is escaped, so that it stays in its place and can be read
back from there (`Part.contained`).  Main statement: `markup_contained`.
-/

namespace WikiText

/-- An element that may have content, as it is written. -/
theorem Html.Element.markup_mk {tag : Text} (htag : isVoid tag = false) (d : Dialect)
    (attributes : List (Text × Text)) (data : Data) (children : List Element) (tail : Data) :
    (mk tag attributes data children tail).markup d =
      '<' :: tag ++ (sortAttributes attributes).flatMap (writeAttribute d) ++
        '>' :: escapeOnce .plain data.text ++ markupList d children ++
        '<' :: '/' :: tag ++ '>' :: escapeOnce .plain tail.text := by
  simp [markup, startTag, htag]

namespace Anchor

open Html

/-! ## Written values -/

/-- A delimiter of tags. -/
def isAngle (c : Char) : Bool := c = '<' || c = '>'

/-- What is written for a value: no tag can begin or end in it, and a value without ampersands is
read back from it. -/
structure Writes (w value : Text) : Prop where
  angle : ∀ c ∈ w, isAngle c = false
  unescape : '&' ∉ value → unescape w = value

theorem isAngle_of_not_mem {w : Text} (hlt : '<' ∉ w) (hgt : '>' ∉ w) :
    ∀ c ∈ w, isAngle c = false := by
  intro c hc
  rw [isAngle, Bool.or_eq_false_iff, decide_eq_false_iff_not, decide_eq_false_iff_not]
  exact ⟨fun h => hlt (h ▸ hc), fun h => hgt (h ▸ hc)⟩

theorem writes_escapeOnce {q : QuoteStyle} (hq : q.IsSound) (hlt : q.Hides '<') (hgt : q.Hides '>')
    (s : Text) : Writes (escapeOnce q s) s where
  angle := isAngle_of_not_mem (hlt.not_mem_escapeOnce s) (hgt.not_mem_escapeOnce s)
  unescape := unescape_escapeOnce hq

theorem writes_data (s : Text) : Writes (escapeOnce .plain s) s :=
  writes_escapeOnce isSound_plain (by decide) (by decide) s

theorem writes_value (s : Text) : Writes (escapeOnce .doubleOnly s) s :=
  writes_escapeOnce isSound_doubleOnly (by decide) (by decide) s

theorem quote_not_mem_value (s : Text) : '"' ∉ escapeOnce .doubleOnly s :=
  QuoteStyle.Hides.not_mem_escapeOnce (by decide) s

/-- Only a value that is a name is written as the name. -/
theorem eq_of_escapeOnce_eq {s name : Text} (hname : '&' ∉ name)
    (h : name = escapeOnce .doubleOnly s) : s = name := by
  have hs : '&' ∉ s := fun hmem => hname (h ▸ amp_mem_escapeOnce hmem)
  rw [← unescape_escapeOnce isSound_doubleOnly hs, ← h, unescape_of_not_mem hname]

/-! ## Parts of the markup -/

/-- A part of the markup of an anchor: text that is the same for all of its kind, or the place of a
value. -/
inductive Part where
  | fixed (s : Text)
  | attr (a : Text × Text)
  | data (s : Text)
deriving DecidableEq, Repr

namespace Part

/-- The part as it is written. -/
def markup (d : Dialect) : Part → Text
  | .fixed s => s
  | .attr a => writeAttribute d a
  | .data s => escapeOnce .plain s

/-- The text that no value is in. -/
def fixedText : Part → Text
  | .fixed s => s
  | _ => []

/-- An attribute has a name that is written as it is. -/
def IsNamed : Part → Prop
  | .attr a => '&' ∉ a.1 ∧ ∀ c ∈ a.1, isAngle c = false
  | _ => True

/-- A value stays in its place: that of an attribute between its quotation marks, unless it is the
name and the short form has the name alone, and data between the tags. -/
def Contained (d : Dialect) : Part → Prop
  | .fixed _ => True
  | .attr a =>
    (∃ w, Writes w a.2 ∧ '"' ∉ w ∧ writeAttribute d a = ' ' :: a.1 ++ ['=', '"'] ++ w ++ ['"']) ∨
      d = .short ∧ a.2 = a.1 ∧ writeAttribute d a = ' ' :: a.1
  | .data s => Writes (escapeOnce .plain s) s

theorem contained {p : Part} (h : p.IsNamed) (d : Dialect) : p.Contained d := by
  cases p with
  | fixed s => trivial
  | data s => exact writes_data s
  | attr a =>
    by_cases hshort : d = .short ∧ a.1 = escapeOnce .doubleOnly a.2
    · refine .inr ⟨hshort.1, eq_of_escapeOnce_eq h.1 hshort.2, ?_⟩
      rw [writeAttribute, if_pos hshort, ← hshort.2]
    · refine .inl ⟨_, writes_value a.2, quote_not_mem_value a.2, ?_⟩
      rw [writeAttribute, if_neg hshort]

/-- The delimiters of tags in a part are those of its fixed text. -/
theorem filter_markup {p : Part} (h : p.IsNamed) (d : Dialect) :
    (p.markup d).filter isAngle = p.fixedText.filter isAngle := by
  have hnil : ∀ {w : Text}, (∀ c ∈ w, isAngle c = false) → w.filter isAngle = [] := fun hw =>
    List.filter_eq_nil_iff.2 fun c hc => by simp [hw c hc]
  cases p with
  | fixed s => rfl
  | data s => exact hnil (writes_data s).angle
  | attr a =>
    have hname := hnil h.2
    have hvalue := hnil (writes_value a.2).angle
    rw [markup, writeAttribute]
    split <;> simp [hname, hvalue, fixedText, isAngle]

theorem filter_flatMap_markup {ps : List Part} (h : ∀ p ∈ ps, p.IsNamed) (d : Dialect) :
    (ps.flatMap (markup d)).filter isAngle = (ps.flatMap fixedText).filter isAngle := by
  induction ps with
  | nil => rfl
  | cons p ps ih =>
    rw [List.forall_mem_cons] at h
    rw [List.flatMap_cons, List.flatMap_cons, List.filter_append, List.filter_append,
      filter_markup h.1, ih h.2]

end Part

/-! ## The parts of an anchor -/

/-- The attribute of a name, if there is a value. -/
def attributeList (name : String) (value : Option Text) : List (Text × Text) :=
  (value.map (name.toList, ·)).toList

/-- The parts of the markup of an anchor. -/
def parts (a : Anchor) : List Part :=
  match a.target with
  | .footnote href label refId =>
    .fixed "<sup".toList :: (attributeList "id" (present refId)).map .attr ++
      .fixed "><a".toList :: (attributeList "href" (present href)).map .attr ++
      [.attr ("rel".toList, "footnote".toList), .fixed ['>'], .data (label.getD []),
        .fixed "</a></sup>".toList]
  | .link _ href title =>
    .fixed "<a".toList :: .attr ("href".toList, href.getD []) ::
      (attributeList "title" title).map .attr ++
      [.fixed ['>'], .data a.span.text, .fixed "</a>".toList]

/-- The tags of an anchor. -/
def tags (a : Anchor) : Text :=
  match a.target with
  | .footnote _ _ _ => "<sup><a></a></sup>".toList
  | .link _ _ _ => "<a></a>".toList

theorem flatMap_fixedText (a : Anchor) : (parts a).flatMap Part.fixedText = tags a := by
  have hattr : ∀ as : List (Text × Text), (as.map Part.attr).flatMap Part.fixedText = [] := by
    intro as
    rw [List.flatMap_map, List.flatMap_eq_nil_iff]
    exact fun _ _ => rfl
  rw [parts, tags]
  split <;> simp [hattr, Part.fixedText]

theorem isNamed_parts (a : Anchor) : ∀ p ∈ parts a, p.IsNamed := by
  have hname : ∀ name ∈ ["id", "href", "rel", "title"],
      '&' ∉ name.toList ∧ ∀ c ∈ name.toList, isAngle c = false := by decide
  have hnamed : ∀ name ∈ ["id", "href", "rel", "title"], ∀ v,
      (Part.attr (name.toList, v)).IsNamed := fun name hmem _ => hname name hmem
  have hlist : ∀ name ∈ ["id", "href", "rel", "title"], ∀ v,
      ∀ p ∈ (attributeList name v).map Part.attr, p.IsNamed := by
    intro name hmem v p hp
    cases v with
    | none => exact absurd hp List.not_mem_nil
    | some v => exact List.mem_singleton.1 hp ▸ hnamed name hmem v
  rw [parts]
  split <;> simp only [List.forall_mem_append, List.forall_mem_cons, List.cons_append]
  · exact ⟨trivial, ⟨hlist _ (by decide) _, trivial, hlist _ (by decide) _⟩, hnamed _ (by decide) _,
      trivial, trivial, trivial, nofun⟩
  · exact ⟨trivial, hnamed _ (by decide) _, hlist _ (by decide) _, trivial, trivial, trivial, nofun⟩

/-! ## The markup -/

theorem element_footnote (span : Span) (stop : Nat) (href label refId : Option Text) :
    element ⟨span, stop, .footnote href label refId⟩ =
      .mk "sup".toList (attributeList "id" (present refId)) .empty
        [.mk "a".toList
          (attributeList "href" (present href) ++ [("rel".toList, "footnote".toList)])
          ⟨label.getD [], true⟩ [] .empty] .empty := by
  simp only [element]
  cases present href <;> cases present refId <;> rfl

theorem element_link (span : Span) (stop : Nat) (id href title : Option Text) :
    element ⟨span, stop, .link id href title⟩ =
      .mk "a".toList (("href".toList, href.getD []) :: attributeList "title" title)
        ⟨span.text, false⟩ [] .empty := by
  cases title <;> rfl

/-- The markup of an anchor is that of its parts. -/
theorem markup_element (d : Dialect) (a : Anchor) :
    (element a).markup d = (parts a).flatMap (Part.markup d) := by
  have ha : isVoid "a".toList = false := by decide
  have hsup : isVoid "sup".toList = false := by decide
  obtain ⟨span, stop, target⟩ := a
  cases target with
  | footnote href label refId =>
    have hid : sortAttributes (attributeList "id" (present refId)) =
        attributeList "id" (present refId) := by
      cases present refId <;> rfl
    have hhref : sortAttributes
        (attributeList "href" (present href) ++ [("rel".toList, "footnote".toList)]) =
        attributeList "href" (present href) ++ [("rel".toList, "footnote".toList)] := by
      cases present href <;> rfl
    rw [element_footnote, Element.markup_mk hsup, Element.markupList, Element.markup_mk ha, hid,
      hhref, parts]
    simp [List.flatMap_map, Part.markup, Element.markupList, Data.empty, escapeOnce]
  | link id href title =>
    have htitle : sortAttributes (("href".toList, href.getD []) :: attributeList "title" title) =
        ("href".toList, href.getD []) :: attributeList "title" title := by
      cases title <;> rfl
    rw [element_link, Element.markup_mk ha, htitle, parts]
    simp [List.flatMap_map, Part.markup, Element.markupList, Data.empty, escapeOnce]

/-! ## Titles -/

/-- The anchor with another title, if it is a link. -/
def withTitle (t : Text) (a : Anchor) : Anchor :=
  match a.target with
  | .footnote _ _ _ => a
  | .link id href _ => { a with target := .link id href (some t) }

/-- Only the escaped form of a value is written. -/
theorem writeAttribute_congr {v w : Text} (h : escapeOnce .doubleOnly v = escapeOnce .doubleOnly w)
    (d : Dialect) (name : Text) : writeAttribute d (name, v) = writeAttribute d (name, w) := by
  rw [writeAttribute, writeAttribute, h]

theorem markup_nameQuotes (d : Dialect) (a : Anchor) (t : Text) :
    (element (withTitle (nameQuotes t) a)).markup d = (element (withTitle t a)).markup d := by
  have htitle := writeAttribute_congr (escapeOnce_nameQuotes t) d "title".toList
  rw [markup_element, markup_element]
  obtain ⟨span, stop, target⟩ := a
  cases target with
  | footnote href label refId => rfl
  | link id href title =>
    simp only [withTitle, parts, attributeList, Option.map_some, Option.toList_some, List.map_cons,
      List.map_nil, List.flatMap_cons, List.flatMap_append, List.flatMap_nil, Part.markup]
    rw [htitle]

/-- The title of an inline link is written as if its quotation marks had not been escaped by the
resolver. -/
theorem markup_inlineAnchor (d : Dialect) (unescape : Text → Text) (span : Span) (part : InlinePart)
    (stop : Nat) {t : Text} (ht : part.title = some t) :
    let a := inlineAnchor unescape span part stop
    (element a).markup d = (element (withTitle (unescape t) a)).markup d := by
  intro a
  have ha : a = withTitle (nameQuotes (unescape t)) a := by
    simp only [a, inlineAnchor, withTitle, ht, Option.map_some]
    rfl
  calc (element a).markup d
      = (element (withTitle (nameQuotes (unescape t)) a)).markup d := by rw [← ha]
    _ = (element (withTitle (unescape t) a)).markup d := markup_nameQuotes d a _

/-- The values of an anchor stay in their places.  Its markup is fixed text with the values in
between, so that it has the tags of its kind and no others; every value is between its delimiters,
and one without ampersands is read back from there.  A title may have its quotation marks escaped
already, and to escape an escaped value does not change it. -/
theorem markup_contained (d : Dialect) (a : Anchor) :
    ((element a).markup d = (parts a).flatMap (Part.markup d) ∧
      (parts a).flatMap Part.fixedText = tags a) ∧
    ((element a).markup d).filter isAngle = (tags a).filter isAngle ∧
    (∀ p ∈ parts a, p.Contained d) ∧
    (∀ t, (element (withTitle (nameQuotes t) a)).markup d = (element (withTitle t a)).markup d) ∧
    ∀ s, escapeOnce .plain (escapeOnce .plain s) = escapeOnce .plain s ∧
      escapeOnce .doubleOnly (escapeOnce .doubleOnly s) = escapeOnce .doubleOnly s := by
  have hmarkup := markup_element d a
  have htags := flatMap_fixedText a
  have hnamed := isNamed_parts a
  refine ⟨⟨hmarkup, htags⟩, ?_, fun p hp => Part.contained (hnamed p hp) d, markup_nameQuotes d a,
    fun s => ⟨escapeOnce_escapeOnce isSound_plain s, escapeOnce_escapeOnce isSound_doubleOnly s⟩⟩
  rw [hmarkup, Part.filter_flatMap_markup hnamed, htags]

end Anchor

end WikiText
