import WikiText.Macro.Expand
import WikiText.Markdown.Convert
import WikiText.Proofs.Html.Escape
import WikiText.Proofs.Html.Every
import WikiText.Proofs.Text.Blank
import WikiText.Proofs.Text.Search
import WikiText.Proofs.Toc.Marker

/-!
# Trees without macros

In a settled element there is no brace, nothing is escaped, and it is none of the elements that are
completed in a way of their own.  A tree of settled elements stays one until it is written
(`allSettled_of_complete`), and its markup has no brace either (`brace_not_mem_writeTree`).
-/

namespace WikiText.Markdown

open Html
open Returns (returns)

/-! ## Texts -/

/-- No brace is opened in the text, and nothing is escaped. -/
structure IsSettled (s : Text) : Prop where
  brace : '\x7b' ∉ s
  escaped : Text.Nowhere Node.escaped? s

instance (s : Text) : Decidable (IsSettled s) :=
  decidable_of_iff ('\x7b' ∉ s ∧ Text.Nowhere Node.escaped? s)
    ⟨fun h => ⟨h.1, h.2⟩, fun h => ⟨h.1, h.2⟩⟩

theorem Node.escaped?_of_ne (c : Char) (s : Text) (h : c ≠ Stash.opening) :
    escaped? (c :: s) = none := by
  rw [escaped?]
  split
  · exact if_neg fun hmarks => h hmarks.1
  · rfl

theorem Node.unescape_of_nowhere {s : Text} (h : Text.Nowhere escaped? s) : unescape s = s := by
  induction s with
  | nil => simp [unescape, escaped?]
  | cons c s ih =>
    rw [unescape]
    split
    · next hsome => exact absurd (h.eq_none.symm.trans hsome) (Option.some_ne_none _).symm
    · exact congrArg (c :: ·) (ih h.2)

theorem isSettled_append {s t : Text} (hbrace : '\x7b' ∉ s) (hopening : Stash.opening ∉ s)
    (ht : IsSettled t) : IsSettled (s ++ t) :=
  ⟨fun h => (List.mem_append.1 h).elim hbrace ht.brace,
    Text.nowhere_append Node.escaped?_of_ne hopening ht.escaped⟩

theorem isSettled_of_not_mem {s : Text} (hbrace : '\x7b' ∉ s) (hopening : Stash.opening ∉ s) :
    IsSettled s :=
  ⟨hbrace, Text.nowhere_of_not_mem Node.escaped?_of_ne hopening⟩

theorem not_mem_backlinkTitle {c : Char} (hdigit : Text.isAsciiDigit c = false)
    (hbefore : c ∉ "Jump back to footnote ".toList) (hbehind : c ∉ " in the text".toList)
    (n : Nat) :
    c ∉ Footnotes.backlinkTitle n :=
  List.not_mem_append (List.not_mem_append hbefore (Text.not_mem_ofNat hdigit n)) hbehind

theorem isSettled_backlinkTitle (n : Nat) : IsSettled (Footnotes.backlinkTitle n) :=
  isSettled_of_not_mem (not_mem_backlinkTitle (by decide) (by decide) (by decide) n)
    (not_mem_backlinkTitle (by decide) (by decide) (by decide) n)

/-! ## Elements -/

/-- The texts of an element are settled, and it is neither a heading nor code. -/
structure Settled (e : Element) : Prop where
  tag : '\x7b' ∉ e.tag
  level : headingLevel? e = none
  code : e.hasTag "pre" = false
  attributes : ∀ a ∈ e.attributes, '\x7b' ∉ a.1 ∧ IsSettled a.2
  data : IsSettled e.data.text
  tail : IsSettled e.tail.text

section Settled

variable {e : Element}

theorem settled_ofTag {tag : String} (hbrace : '\x7b' ∉ tag.toList)
    (hlevel : headingLevel? (.ofTag tag) = none)
    (hcode : (Element.ofTag tag).hasTag "pre" = false) :
    Settled (.ofTag tag) where
  tag := hbrace
  level := hlevel
  code := hcode
  attributes _ ha := absurd ha List.not_mem_nil
  data := isSettled_of_not_mem List.not_mem_nil List.not_mem_nil
  tail := isSettled_of_not_mem List.not_mem_nil List.not_mem_nil

theorem Settled.withChildren (h : Settled e) (children : List Element) :
    Settled (e.withChildren children) := by
  cases e
  exact ⟨h.tag, h.level, h.code, h.attributes, h.data, h.tail⟩

theorem Settled.withData (h : Settled e) {d : Data} (hd : IsSettled d.text) :
    Settled (e.withData d) := by
  cases e
  exact ⟨h.tag, h.level, h.code, h.attributes, hd, h.tail⟩

theorem Settled.withTail (h : Settled e) {d : Data} (hd : IsSettled d.text) :
    Settled (e.withTail d) := by
  cases e
  exact ⟨h.tag, h.level, h.code, h.attributes, h.data, hd⟩

theorem mem_setAttribute {name value : Text} {attributes : List (Text × Text)} {a : Text × Text}
    (h : a ∈ Element.setAttribute name value attributes) :
    a = (name, value) ∨ a ∈ attributes := by
  induction attributes with
  | nil => exact .inl (List.mem_singleton.1 h)
  | cons b as ih =>
    rw [Element.setAttribute] at h
    split at h
    · exact (List.mem_cons.1 h).imp_right (List.mem_cons_of_mem b)
    · rcases List.mem_cons.1 h with rfl | h
      · exact .inr List.mem_cons_self
      · exact (ih h).imp_right (List.mem_cons_of_mem b)

theorem Settled.set (h : Settled e) {name : String} {value : Text} (hname : '\x7b' ∉ name.toList)
    (hvalue : IsSettled value) : Settled (e.set name value) := by
  cases e
  refine ⟨h.tag, h.level, h.code, fun a ha => ?_, h.data, h.tail⟩
  rcases mem_setAttribute ha with rfl | ha
  · exact ⟨hname, hvalue⟩
  · exact h.attributes a ha

end Settled

/-! ## Completing a tree -/

variable {e e' : Element}

/-- All elements are settled. -/
abbrev AllSettled (e : Element) : Prop := e.Every Settled

theorem AllSettled.set (h : AllSettled e) {name : String} {value : Text}
    (hname : '\x7b' ∉ name.toList) (hvalue : IsSettled value) : AllSettled (e.set name value) := by
  rw [AllSettled, Element.every_iff] at h ⊢
  refine ⟨h.1.set hname hvalue, ?_⟩
  cases e
  exact h.2

theorem allSettled_ofTag {tag : String} (hbrace : '\x7b' ∉ tag.toList)
    (hlevel : headingLevel? (.ofTag tag) = none)
    (hcode : (Element.ofTag tag).hasTag "pre" = false) :
    AllSettled (.ofTag tag) :=
  Element.every_iff.2 ⟨settled_ofTag hbrace hlevel hcode, fun _ h => absurd h List.not_mem_nil⟩

theorem AllSettled.withData (h : AllSettled e) {d : Data} (hd : IsSettled d.text) :
    AllSettled (e.withData d) := by
  rw [AllSettled, Element.every_iff] at h ⊢
  rw [Element.children_withData]
  exact ⟨h.1.withData hd, h.2⟩

theorem AllSettled.withTail (h : AllSettled e) {d : Data} (hd : IsSettled d.text) :
    AllSettled (e.withTail d) := by
  rw [AllSettled, Element.every_iff] at h ⊢
  rw [Element.children_withTail]
  exact ⟨h.1.withTail hd, h.2⟩

theorem AllSettled.withChildren (h : AllSettled e) {children : List Element}
    (hchildren : ∀ c ∈ children, AllSettled c) : AllSettled (e.withChildren children) := by
  rw [AllSettled, Element.every_iff] at h ⊢
  rw [Element.children_withChildren]
  exact ⟨h.1.withChildren children, hchildren⟩

theorem AllSettled.push (h : AllSettled e) {child : Element} (hchild : AllSettled child) :
    AllSettled (e.push child) := by
  refine h.withChildren fun c hc => ?_
  rcases List.mem_append.1 hc with hc | hc
  · exact (Element.every_iff.1 h).2 c hc
  · exact List.mem_singleton.1 hc ▸ hchild

namespace Footnotes

mutual

theorem allSettled_renumberIn? {n : Nat} : ∀ {e e' : Element}, AllSettled e →
    renumberIn? n e = some e' → AllSettled e'
  | .mk tag attributes data children tail, e', he, h => by
    rw [renumberIn?] at h
    obtain ⟨children', hchildren, rfl⟩ := Option.map_eq_some_iff.1 h
    exact he.withChildren
      (allSettled_renumberAmong? (Element.every_iff.1 he).2 hchildren)

theorem allSettled_renumberAmong? {n : Nat} : ∀ {es es' : List Element}, (∀ e ∈ es, AllSettled e) →
    renumberAmong? n es = some es' → ∀ e ∈ es', AllSettled e
  | [], _, _, h => by cases h
  | e :: es, es', hes, h => by
    rw [List.forall_mem_cons] at hes
    rw [renumberAmong?] at h
    split at h
    · cases h
      exact List.forall_mem_cons.2 ⟨hes.1.set (by decide) (isSettled_backlinkTitle n), hes.2⟩
    split at h
    · next he' =>
      cases h
      exact List.forall_mem_cons.2 ⟨allSettled_renumberIn? hes.1 he', hes.2⟩
    · obtain ⟨es'', hes'', rfl⟩ := Option.map_eq_some_iff.1 h
      exact List.forall_mem_cons.2 ⟨hes.1, allSettled_renumberAmong? hes.2 hes''⟩

end

theorem allSettled_renumber {n : Nat} {items items' : List Element}
    (hitems : ∀ e ∈ items, AllSettled e) (h : renumber n items = .ok items') :
    ∀ e ∈ items', AllSettled e := by
  induction items generalizing n items' with
  | nil =>
    cases h
    exact hitems
  | cons item items ih =>
    rw [List.forall_mem_cons] at hitems
    rw [renumber] at h
    split at h
    · next item' hitem =>
      obtain ⟨more, hmore, h⟩ := Returns.of_bind (m := Except Failure) h
      cases h
      exact List.forall_mem_cons.2 ⟨allSettled_renumberIn? hitems.1 hitem, ih hitems.2 hmore⟩
    · cases h

theorem allSettled_reorderList {found : List Text} {last : Nat} (he : AllSettled e)
    (h : reorderList found last e = .ok e') : AllSettled e' := by
  rw [reorderList] at h
  obtain ⟨items, hitems, h⟩ := Returns.of_bind (m := Except Failure) h
  cases h
  refine he.withChildren (allSettled_renumber (fun item hitem => ?_) hitems)
  exact (Element.every_iff.1 he).2 item (List.mem_mergeSort.1 hitem)

theorem allSettled_reorderBox {found : List Text} {last : Nat} (he : AllSettled e)
    (h : reorderBox found last e = .ok e') : AllSettled e' := by
  rw [reorderBox] at h
  split at h
  · obtain ⟨children, hchildren, h⟩ := Returns.of_bind (m := Except Failure) h
    cases h
    refine he.withChildren fun c hc => ?_
    obtain ⟨child, hchild, h⟩ := Returns.exists_of_mem_mapM (m := Except Failure) hchildren c hc
    have hsettled : AllSettled child := (Element.every_iff.1 he).2 child hchild
    split at h
    · exact allSettled_reorderList hsettled h
    · cases h
      exact hsettled
  · cases h
    exact he

theorem allSettled_reorder {defs : Definitions} {found : List Text} (he : AllSettled e)
    (h : reorder defs found e = .ok e') : AllSettled e' := by
  rw [reorder] at h
  split at h
  · cases h
    exact he
  · exact Element.every_of_mapM (m := Except Failure)
      (fun _ children he => he.withChildren children) (fun _ _ => allSettled_reorderBox) he h

end Footnotes

mutual

theorem allSettled_layOutBlocks : ∀ {e : Element}, AllSettled e → AllSettled (layOutBlocks e)
  | .mk tag attributes data children tail, h => by
    have hend : IsSettled lineEnd.text := by decide
    obtain ⟨he, hchildren⟩ := Element.every_iff.1 h
    have htail : IsSettled (if Text.allBlank tail.text then lineEnd else tail).text := by
      split
      · exact hend
      · exact he.tail
    rw [layOutBlocks]
    dsimp only
    split
    · refine Element.every_iff.2 ⟨?_, allSettled_layOutEach hchildren⟩
      refine ⟨he.tag, he.level, he.code, he.attributes, ?_, htail⟩
      show IsSettled (Data.text _)
      split
      · exact hend
      · exact he.data
    · exact Element.every_iff.2 ⟨⟨he.tag, he.level, he.code, he.attributes, he.data, htail⟩,
        hchildren⟩

theorem allSettled_layOutEach : ∀ {es : List Element}, (∀ e ∈ es, AllSettled e) →
    ∀ e ∈ layOutEach es, AllSettled e
  | [], h => h
  | e :: es, h => by
    rw [List.forall_mem_cons] at h
    rw [layOutEach, List.forall_mem_cons]
    refine ⟨?_, allSettled_layOutEach h.2⟩
    split
    · exact allSettled_layOutBlocks h.1
    · exact h.1

end

theorem allSettled_layOutBreak (h : AllSettled e) : AllSettled (layOutBreak e) := by
  rw [layOutBreak]
  split
  · have htail : IsSettled (if Text.allBlank e.tail.text then [] else e.tail.text) := by
      split
      · decide
      · exact (Element.every_iff.1 h).1.tail
    exact h.withTail (isSettled_append (s := ['\n']) (by decide) (by decide) htail)
  · exact h

theorem layOutCode_of_settled (h : Settled e) : layOutCode e = e := by
  rw [layOutCode]
  split
  · exact if_neg (by simp [h.code])
  · rfl

theorem allSettled_layOut (h : AllSettled e) : AllSettled (layOut e) := by
  refine Element.every_of_mapM (m := Id) (fun _ children he => he.withChildren children) ?_
    (allSettled_layOutBlocks h) rfl
  rintro e _ he rfl
  have hbreak := allSettled_layOutBreak he
  have hcode : AllSettled (layOutCode (layOutBreak e)) := by
    rwa [layOutCode_of_settled (Element.every_iff.1 hbreak).1]
  exact hcode

/-- Setting the line ends and giving identifiers leave a tree of settled elements one. -/
theorem allSettled_of_complete {opts : Options} {defs : Definitions} {st : InlineState}
    {headings : List Heading} (h : AllSettled e)
    (hcomplete : complete opts defs st e = .ok (e', headings)) : AllSettled e' := by
  rw [complete] at hcomplete
  obtain ⟨root, hreorder, hcomplete⟩ := Returns.of_bind (m := Except Failure) hcomplete
  rw [identifyHeadings] at hcomplete
  obtain ⟨⟨root', progress⟩, hmap, hcomplete⟩ := Returns.of_bind (m := Except Failure) hcomplete
  obtain rfl : e' = root' := congrArg Prod.fst (Except.ok.inj hcomplete).symm
  have hreturns : returns (Element.mapM (identify opts.slugSeparator st.stash) (layOut root)) e' :=
    ⟨_, _, hmap⟩
  refine Element.every_of_mapM (fun _ children he => he.withChildren children) ?_
    (allSettled_layOut (Footnotes.allSettled_reorder h hreorder)) hreturns
  intro e e' he h
  rw [identify, (Element.every_iff.1 he).1.level] at h
  rw [Returns.of_pure h]
  exact he

/-! ## Writing it -/

theorem unescapeText_of_settled (h : Settled e) : unescapeText e = e := by
  have hattributes : e.attributes.map (fun a => (a.1, Node.unescape a.2)) = e.attributes := by
    refine (List.map_congr_left fun a ha => ?_).trans (List.map_id _)
    rw [Node.unescape_of_nowhere (h.attributes a ha).2.escaped]
    rfl
  rw [unescapeText, Node.unescape_of_nowhere h.data.escaped,
    Node.unescape_of_nowhere h.tail.escaped]
  dsimp only
  rw [hattributes, ite_self]
  cases e
  rfl

theorem mem_insertAttribute {a b : Text × Text} {as : List (Text × Text)}
    (h : b ∈ insertAttribute a as) : b = a ∨ b ∈ as := by
  induction as with
  | nil => exact .inl (List.mem_singleton.1 h)
  | cons c as ih =>
    rw [insertAttribute] at h
    split at h
    · exact List.mem_cons.1 h
    · rcases List.mem_cons.1 h with rfl | h
      · exact .inr List.mem_cons_self
      · exact (ih h).imp_right (List.mem_cons_of_mem c)

theorem mem_sortAttributes {b : Text × Text} {as : List (Text × Text)}
    (h : b ∈ sortAttributes as) : b ∈ as := by
  induction as with
  | nil => exact h
  | cons a as ih =>
    rcases mem_insertAttribute h with rfl | h
    · exact List.mem_cons_self
    · exact List.mem_cons_of_mem a (ih h)

theorem brace_not_mem_startTag (d : Dialect) {tag : Text} {attributes : List (Text × Text)}
    (htag : '\x7b' ∉ tag) (hattributes : ∀ a ∈ attributes, '\x7b' ∉ a.1 ∧ '\x7b' ∉ a.2) :
    '\x7b' ∉ startTag d tag attributes := by
  have hwritten : ∀ a ∈ attributes, '\x7b' ∉ writeAttribute d a := by
    intro a ha
    obtain ⟨hname, hvalue⟩ := hattributes a ha
    have hescaped :=
      not_mem_escapeOnce (q := .doubleOnly) (by decide) (by decide) (by decide) hvalue
    rw [writeAttribute]
    split
    · exact List.not_mem_cons_of_ne_of_not_mem (by decide) hescaped
    · simp only [List.mem_cons, List.mem_append, not_or, List.cons_append]
      exact ⟨by decide, ⟨⟨hname, by decide, by decide, List.not_mem_nil⟩, hescaped⟩, by decide,
        List.not_mem_nil⟩
  have hend : '\x7b' ∉ (if d = .closed ∧ isVoid tag = true then " />".toList else ['>']) := by
    split <;> decide
  rw [startTag, List.mem_append, not_or, List.cons_append, List.mem_cons, List.mem_append, not_or,
    not_or]
  refine ⟨⟨by decide, htag, fun h => ?_⟩, hend⟩
  obtain ⟨a, ha, hmem⟩ := List.mem_flatMap.1 h
  exact hwritten a (mem_sortAttributes ha) hmem

mutual

/-- The markup of settled elements has no brace. -/
theorem brace_not_mem_markup (d : Dialect) : ∀ {e : Element}, AllSettled e → '\x7b' ∉ e.markup d
  | .mk tag attributes data children tail, h => by
    obtain ⟨he, hchildren⟩ := Element.every_iff.1 h
    have hescaped : ∀ {s}, IsSettled s → '\x7b' ∉ escapeOnce .plain s := fun hs =>
      not_mem_escapeOnce (by decide) (by decide) (by decide) hs.brace
    have hstart := brace_not_mem_startTag d he.tag fun a ha =>
      ⟨(he.attributes a ha).1, (he.attributes a ha).2.brace⟩
    have hstop : '\x7b' ∉ '<' :: '/' :: tag ++ ['>'] := by
      simp only [List.cons_append, List.mem_cons, List.mem_append, List.not_mem_nil, or_false,
        not_or]
      exact ⟨by decide, by decide, he.tag, by decide⟩
    rw [Element.markup]
    simp only [List.mem_append, not_or]
    refine ⟨⟨hstart, ?_⟩, hescaped he.tail⟩
    split
    · exact List.not_mem_nil
    · simp only [List.mem_append, not_or]
      refine ⟨⟨hescaped he.data, brace_not_mem_markupList d hchildren⟩, ?_⟩
      split
      · exact List.not_mem_nil
      · exact hstop

theorem brace_not_mem_markupList (d : Dialect) : ∀ {es : List Element},
    (∀ e ∈ es, AllSettled e) → '\x7b' ∉ Element.markupList d es
  | [], _ => List.not_mem_nil
  | e :: es, h => by
    rw [List.forall_mem_cons] at h
    rw [Element.markupList, List.mem_append, not_or]
    exact ⟨brace_not_mem_markup d h.1, brace_not_mem_markupList d h.2⟩

end

theorem mem_replaceAll {p q s : Text} {c : Char} (hp : p ≠ []) (h : c ∈ Text.replaceAll p q s) :
    c ∈ q ∨ c ∈ s := by
  fun_induction Text.replaceAll p q s with
  | case1 => exact absurd rfl hp
  | case2 s a p r hstrip _ ih =>
    rw [Text.eq_append_of_strip? hstrip]
    rcases List.mem_append.1 h with h | h
    · exact .inl h
    · exact (ih hp h).imp_right (List.mem_append_right _)
  | case3 => exact .inr h
  | case4 a p c' s hstrip ih =>
    rcases List.mem_cons.1 h with rfl | h
    · exact .inr List.mem_cons_self
    · exact (ih hp h).imp_right (List.mem_cons_of_mem _)

theorem brace_not_mem_writeInside (h : AllSettled e) : '\x7b' ∉ writeInside e := by
  have hroot : '\x7b' ∉ (e.withTail .empty).markup .closed :=
    brace_not_mem_markup _ (h.withTail (by decide))
  intro hmem
  rw [writeInside] at hmem
  have hinner := List.mem_of_mem_take (Text.trimWhile_subset _ _ hmem)
  cases hstrip : Text.strip? "<div>".toList ((e.withTail .empty).markup .closed) with
  | none =>
    rw [hstrip, Option.getD_none] at hinner
    exact hroot hinner
  | some inner =>
    rw [hstrip, Option.getD_some] at hinner
    rw [Text.eq_append_of_strip? hstrip] at hroot
    exact hroot (List.mem_append_right _ hinner)

/-- Where no block was put aside, what is written of settled elements has no brace. -/
theorem brace_not_mem_writeTree {stash : Stash} (hstash : stash.blocks = []) (h : AllSettled e) :
    '\x7b' ∉ writeTree stash e := by
  have hmap : AllSettled (e.map unescapeText) := by
    refine Element.every_of_mapM (m := Id) (fun _ children he => he.withChildren children) ?_ h rfl
    rintro e _ he rfl
    have hsame : AllSettled (unescapeText e) := by
      rwa [unescapeText_of_settled (Element.every_iff.1 he).1]
    exact hsame
  intro hmem
  rw [writeTree, restoreBlocks_of_nil hstash] at hmem
  refine brace_not_mem_writeInside hmap ?_
  replace hmem := (mem_replaceAll (by decide) hmem).resolve_left (by decide)
  replace hmem := (mem_replaceAll (by decide) hmem).resolve_left (by decide)
  exact (mem_replaceAll (by decide) hmem).resolve_left (by decide)

end WikiText.Markdown

namespace WikiText.Macro

variable {σ ε : Type} [Cause ε]

theorem pieces_of_not_mem {s : Text} (h : '\x7b' ∉ s) : pieces s = s.map .char := by
  induction s with
  | nil => simp [pieces, Token.read?]
  | cons c s ih =>
    rw [List.mem_cons, not_or] at h
    have hread : Token.read? (c :: s) = none := by
      rw [Token.read?]
      · rintro t he
        exact h.2 ((List.cons.inj he).2 ▸ List.mem_cons_self)
      · rintro t he
        exact h.1 (List.cons.inj he).1.symm
    rw [pieces]
    split
    · next hsome => exact absurd (hread.symm.trans hsome) (Option.some_ne_none _).symm
    · exact congrArg (Piece.char c :: ·) (ih h.2)

theorem expandPieces_map_char (resolver : Resolver σ ε) (s : Text) (st : σ) :
    expandPieces resolver (s.map .char) st = ((s, []), st) := by
  induction s with
  | nil => rfl
  | cons c s ih => rw [List.map_cons, expandPieces, ih]

/-- Without braces there is no call, and nothing is reported. -/
theorem expand_of_not_mem (resolver : Option (Resolver σ ε)) {s : Text} (h : '\x7b' ∉ s) (st : σ) :
    expand resolver s st = ((s, []), st) := by
  rw [expand, pieces_of_not_mem h, expandPieces_map_char]

end WikiText.Macro
