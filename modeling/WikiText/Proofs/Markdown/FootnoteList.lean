import WikiText.Proofs.Markdown.Blocks
import WikiText.Proofs.Markdown.FootnoteOrder
import WikiText.Proofs.Markdown.Frame
import WikiText.Proofs.Markdown.Reading

/-!
# What becomes of the list of footnotes

The list of footnotes is followed from its making to the complete tree, in which its items are in
the order of the first references: `within_add` puts it into the tree, `within_of_readAs` is the
reading of the text in it, `within_of_reorder` puts it in order, and `within_of_frame` is for the
line ends and the identifiers of headings.
-/

namespace WikiText.Markdown

open Html
open Returns (returns)

namespace Footnotes

/-! ## Items and lists -/

/-- The same tag and the same attributes. -/
def Alike (e e' : Element) : Prop := e'.tag = e.tag ∧ e'.attributes = e.attributes

/-- The item of a footnote. -/
def IsItem (id : Text) (e : Element) : Prop :=
  e.hasTag "li" = true ∧ e.attribute? "id" = some (Anchor.footnoteElementId id)

/-- The element holds the list with these items. -/
def IsListWith (items : List Element) (box : Element) : Prop :=
  isListBox box = true ∧ ∃ line list, box.children = [line, list] ∧ line.hasTag "hr" = true ∧
    list.hasTag "ol" = true ∧ list.children = items

variable {id : Text} {ids : List Text} {e e' box box' : Element} {items items' : List Element}

theorem Alike.trans {e'' : Element} (h : Alike e e') (h' : Alike e' e'') : Alike e e'' :=
  ⟨h'.1.trans h.1, h'.2.trans h.2⟩

theorem Alike.hasTag (h : Alike e e') (tag : String) : e'.hasTag tag = e.hasTag tag := by
  rw [Element.hasTag, h.1, Element.hasTag]

theorem Alike.attribute? (h : Alike e e') (name : String) :
    e'.attribute? name = e.attribute? name := by
  rw [Element.attribute?, h.2, Element.attribute?]

theorem Alike.isListBox (h : Alike e e') : isListBox e' = isListBox e := by
  rw [Footnotes.isListBox, h.hasTag, h.attribute?, Footnotes.isListBox]

theorem IsItem.congr (h : IsItem id e) (halike : Alike e e') : IsItem id e' :=
  ⟨(halike.hasTag _).trans h.1, (halike.attribute? _).trans h.2⟩

theorem forall₂_isItem_of_alike (h : List.Forall₂ IsItem ids items)
    (halike : List.Forall₂ Alike items items') : List.Forall₂ IsItem ids items' :=
  forall₂_comp (fun _ _ _ hitem => hitem.congr) h halike

theorem footnoteOf_of_isItem (h : IsItem id e) : footnoteOf e = id := by
  rw [footnoteOf, h.2]
  rfl

/-- Elements that tell their footnotes are in the order of these. -/
theorem forall₂_iff_footnoteOf {R : Text → Element → Prop}
    (hR : ∀ {id e}, R id e → footnoteOf e = id) : List.Forall₂ R ids items ↔
      items.map footnoteOf = ids ∧ ∀ item ∈ items, R (footnoteOf item) item := by
  constructor
  · intro h
    induction h with
    | nil => exact ⟨rfl, fun _ h => absurd h List.not_mem_nil⟩
    | cons hitem _ ih =>
      have hid := hR hitem
      rw [List.map_cons, hid, ih.1, List.forall_mem_cons, hid]
      exact ⟨rfl, hitem, ih.2⟩
  · rintro ⟨rfl, h⟩
    exact List.forall₂_map_left_iff.2 (List.forall₂_same.2 h)

theorem hasTag_of_hasTag {tag tag' : String} (h : e.hasTag tag = true) :
    e.hasTag tag' = decide (tag.toList = tag'.toList) := by
  rw [Element.hasTag, decide_eq_true_eq] at h
  rw [Element.hasTag, h]

theorem alike_withChildren (e : Element) (children : List Element) :
    Alike e (e.withChildren children) :=
  ⟨e.tag_withChildren children, e.attributes_withChildren children⟩

theorem isListBox_of_plain (h : e.Plain) : isListBox e = false := by
  rw [isListBox, (Element.plain_iff.1 h).1, Bool.and_eq_false_iff]
  exact .inr rfl

/-! ## Where the list stands -/

/-- An element of which `P` holds stands in a tree, and not inside a list of footnotes. -/
inductive Within (P : Element → Prop) : Element → Prop where
  | here {e : Element} : P e → Within P e
  | inside {e c : Element} : isListBox e = false → c ∈ e.children → Within P c → Within P e

namespace Within

variable {P P' : Element → Prop}

theorem exists_mem_elements (h : Within P e) : ∃ x ∈ e.elements, P x := by
  induction h with
  | @here e h => exact ⟨e, by rw [Element.elements_eq]; exact List.mem_cons_self, h⟩
  | @inside e c _ hc _ ih =>
    obtain ⟨x, hx, h⟩ := ih
    refine ⟨x, ?_, h⟩
    rw [Element.elements_eq]
    exact List.mem_cons_of_mem _ (List.mem_flatMap.2 ⟨c, hc, hx⟩)

/-- What stands in a tree is followed through a step which keeps the elements around it. -/
theorem transfer {R : Element → Element → Prop}
    (hR : ∀ e e', R e e' → isListBox e = false →
      isListBox e' = false ∧ ∀ c ∈ e.children, ∃ c' ∈ e'.children, R c c')
    (hP : ∀ x x', P x → R x x' → P' x') (h : Within P e) (hstep : R e e') : Within P' e' := by
  induction h generalizing e' with
  | here h => exact .here (hP _ _ h hstep)
  | @inside e c hbox hc _ ih =>
    obtain ⟨hbox', hchildren⟩ := hR _ _ hstep hbox
    obtain ⟨c', hc', hstep'⟩ := hchildren c hc
    exact .inside hbox' hc' (ih hstep')

end Within

/-! ## Making the list -/

/-- There is an item for each footnote, and the text of an item adds no footnote. -/
theorem forall₂_items {opts : BlockOptions} {n : Nat} {defs defs' : Definitions}
    (h : Footnotes.items opts n ids defs = .ok (items, defs')) :
    List.Forall₂ IsItem ids items ∧ (∀ item ∈ items, item.tail.isEmpty = true) ∧
      defs'.footnotes.keys = defs.footnotes.keys := by
  induction ids generalizing n defs items with
  | nil =>
    cases h
    exact ⟨.nil, fun _ h => absurd h List.not_mem_nil, rfl⟩
  | cons id ids ih =>
    rw [Footnotes.items] at h
    have hgrows : Definitions.Grows defs ((parseText opts (.ofTag "div")
        ((defs.footnotes.get? id).getD [])).run defs).2 :=
      (yields_parseText opts (Element.plain_ofTag "div") _ defs).1
    rcases hbody : (parseText opts (.ofTag "div") ((defs.footnotes.get? id).getD [])).run defs
      with ⟨body, after⟩
    rw [hbody] at h hgrows
    dsimp only at h hgrows
    split at h
    · next hlength =>
      obtain ⟨⟨more, defs''⟩, hmore, h⟩ := Returns.of_bind (m := Except Failure) h
      cases h
      obtain ⟨hitems, htails, hkeys⟩ := ih hmore
      refine ⟨.cons ⟨rfl, rfl⟩ hitems, ?_, ?_⟩
      · exact List.forall_mem_cons.2 ⟨rfl, htails⟩
      · rw [hkeys, ← hgrows.keys.eq_of_length hlength.symm]
    · cases h

variable {P : Element → Prop} {list : Element}

mutual

theorem within_placeIn? (hlist : P list) : ∀ {e e' : Element}, e.Plain →
    placeIn? list e = some e' → Within P e'
  | .mk tag attributes data children tail, e', he, h => by
    rw [placeIn?] at h
    obtain ⟨children', hchildren, rfl⟩ := Option.map_eq_some_iff.1 h
    obtain ⟨c, hc, hwithin⟩ := within_placeAmong? hlist (Element.plain_iff.1 he).2 hchildren
    have halike : Alike (.mk tag attributes data children tail)
      (.mk tag attributes data children' tail) := ⟨rfl, rfl⟩
    exact .inside (halike.isListBox.trans (isListBox_of_plain he)) hc hwithin

theorem within_placeAmong? (hlist : P list) : ∀ {es es' : List Element}, (∀ e ∈ es, e.Plain) →
    placeAmong? list es = some es' → ∃ c ∈ es', Within P c
  | [], _, _, h => by cases h
  | e :: es, es', hes, h => by
    rw [List.forall_mem_cons] at hes
    rw [placeAmong?] at h
    split at h
    · cases h
      exact ⟨list, List.mem_cons_self, .here hlist⟩
    split at h
    · cases h
      exact ⟨list, List.mem_cons_of_mem _ List.mem_cons_self, .here hlist⟩
    split at h
    · next e' he' =>
      cases h
      exact ⟨e', List.mem_cons_self, within_placeIn? hlist hes.1 he'⟩
    · obtain ⟨es'', hes'', rfl⟩ := Option.map_eq_some_iff.1 h
      obtain ⟨c, hc, hwithin⟩ := within_placeAmong? hlist hes.2 hes''
      exact ⟨c, List.mem_cons_of_mem _ hc, hwithin⟩

end

/-- A list as it is made, with an item for each footnote. -/
def IsNewListOf (ids : List Text) (box : Element) : Prop :=
  ∃ items, box = listOf items ∧ List.Forall₂ IsItem ids items ∧
    ∀ item ∈ items, item.tail.isEmpty = true

/-- A list with an item for each footnote. -/
def IsListOf (ids : List Text) (box : Element) : Prop :=
  ∃ items, IsListWith items box ∧ List.Forall₂ IsItem ids items

/-- The list of all footnotes is put into a tree without classes. -/
theorem within_add {opts : BlockOptions} {root root' : Element} {defs defs' : Definitions}
    (hroot : root.Plain) (h : add opts root defs = .ok (root', defs'))
    (hdefs : defs'.footnotes.keys ≠ []) :
    defs'.footnotes.keys = defs.footnotes.keys ∧
      Within (IsNewListOf defs.footnotes.keys) root' := by
  rw [add] at h
  split at h
  · next hempty =>
    cases h
    exact absurd (List.isEmpty_iff.1 hempty) hdefs
  obtain ⟨⟨items, defs''⟩, hitems, h⟩ := Returns.of_bind (m := Except Failure) h
  cases h
  obtain ⟨hforall, htails, hkeys⟩ := forall₂_items hitems
  have hlist : IsNewListOf defs.footnotes.keys (listOf items) := ⟨items, rfl, hforall, htails⟩
  refine ⟨hkeys, ?_⟩
  cases hplace : placeIn? (listOf items) root with
  | none =>
    have halike : Alike root (root.push (listOf items)) := alike_withChildren root _
    refine .inside (c := listOf items) (halike.isListBox.trans (isListBox_of_plain hroot)) ?_
      (.here hlist)
    rw [Option.getD_none, Element.children_push]
    exact List.mem_append_right _ List.mem_cons_self
  | some e => exact within_placeIn? hlist hroot hplace

/-! ## Reading the text in it -/

theorem alike_of_readAs (h : ReadAs e e') : Alike e e' :=
  ⟨(readAs_iff.1 h).1, (readAs_iff.1 h).2.1⟩

theorem isListOf_of_readAs (h : IsNewListOf ids box) (hread : ReadAs box box') :
    IsListOf ids box' := by
  obtain ⟨items, rfl, hitems, htails⟩ := h
  have halike := alike_of_readAs hread
  obtain ⟨-, -, fresh, kept, hchildren, hfresh, hkept⟩ := readAs_iff.1 hread
  obtain rfl : fresh = [] := hfresh rfl
  have hlist : ∀ e ∈ [Element.ofTag "hr", (Element.ofTag "ol").withChildren items],
      e.tail.isEmpty = true := by
    simp only [List.mem_cons, List.not_mem_nil, or_false]
    rintro e (rfl | rfl) <;> rfl
  obtain ⟨line, list, rfl, hline, hlist⟩ :=
    exists_of_forall₂_pair (forall₂_of_allReadAs hkept hlist)
  obtain ⟨-, -, fresh, kept, hitems', hfresh, hkept⟩ := readAs_iff.1 hlist
  obtain rfl : fresh = [] := hfresh rfl
  refine ⟨kept, ⟨halike.isListBox, line, list, hchildren, ?_, ?_, hitems'⟩, ?_⟩
  · exact (alike_of_readAs hline).hasTag _
  · exact (alike_of_readAs hlist).hasTag _
  · exact forall₂_isItem_of_alike hitems
      ((forall₂_of_allReadAs hkept htails).imp fun _ _ => alike_of_readAs)

theorem within_of_readAs (h : Within (IsNewListOf ids) e) (hread : ReadAs e e') :
    Within (IsListOf ids) e' := by
  refine h.transfer (R := ReadAs) (fun e e' hread hbox => ?_) (fun _ _ => isListOf_of_readAs) hread
  refine ⟨(alike_of_readAs hread).isListBox.trans hbox, fun c hc => ?_⟩
  obtain ⟨-, -, fresh, kept, hchildren, -, hkept⟩ := readAs_iff.1 hread
  obtain ⟨c', hc', hread'⟩ := exists_mem_of_allReadAs hkept hc
  exact ⟨c', hchildren ▸ List.mem_append_right _ hc', hread'⟩

/-! ## Putting it in order -/

section Reorder

variable {found : List Text} {last : Nat} {list list' : Element}

theorem alike_of_renumberIn? {n : Nat} (h : renumberIn? n e = some e') : Alike e e' := by
  cases e
  rw [renumberIn?] at h
  obtain ⟨_, -, rfl⟩ := Option.map_eq_some_iff.1 h
  exact ⟨rfl, rfl⟩

theorem forall₂_of_renumber {n : Nat} (h : renumber n items = .ok items') :
    List.Forall₂ Alike items items' := by
  induction items generalizing n items' with
  | nil =>
    cases h
    exact .nil
  | cons item items ih =>
    rw [renumber] at h
    split at h
    · next item' hitem =>
      obtain ⟨more, hmore, h⟩ := Returns.of_bind (m := Except Failure) h
      cases h
      exact .cons (alike_of_renumberIn? hitem) (ih hmore)
    · cases h

/-- Sorting puts the items in the order of their footnotes. -/
theorem forall₂_mergeSort {R : Text → Element → Prop} (hR : ∀ {id e}, R id e → footnoteOf e = id)
    (h : List.Forall₂ R ids items) :
    List.Forall₂ R (ids.mergeSort (precedes found last))
      (items.mergeSort fun a b => precedes found last (footnoteOf a) (footnoteOf b)) := by
  obtain ⟨rfl, hitems⟩ := (forall₂_iff_footnoteOf hR).1 h
  refine (forall₂_iff_footnoteOf hR).2 ⟨List.map_mergeSort fun _ _ _ _ => rfl, fun item hitem => ?_⟩
  exact hitems item (List.mem_mergeSort.1 hitem)

theorem isItem_of_reorderList (h : List.Forall₂ IsItem ids list.children)
    (hreorder : reorderList found last list = .ok list') :
    Alike list list' ∧
      List.Forall₂ IsItem (ids.mergeSort (precedes found last)) list'.children := by
  rw [reorderList] at hreorder
  obtain ⟨items, hitems, hreorder⟩ := Returns.of_bind (m := Except Failure) hreorder
  cases hreorder
  refine ⟨alike_withChildren list items, ?_⟩
  rw [Element.children_withChildren]
  exact forall₂_isItem_of_alike (forall₂_mergeSort footnoteOf_of_isItem h)
    (forall₂_of_renumber hitems)

/-- What the step makes of the list. -/
theorem isListOf_of_reorderBox (h : IsListOf ids box)
    (hreorder : reorderBox found last box = .ok box') :
    IsListOf (ids.mergeSort (precedes found last)) box' := by
  obtain ⟨_, ⟨hbox, line, list, hchildren, hline, hlist, rfl⟩, hitems⟩ := h
  have hnot : line.hasTag "ol" = false := by
    rw [hasTag_of_hasTag hline]
    rfl
  rw [reorderBox, if_pos hbox, hchildren] at hreorder
  simp only [List.mapM_cons, List.mapM_nil, hnot, hlist, if_true, Bool.false_eq_true, if_false,
    pure_bind, bind_assoc] at hreorder
  obtain ⟨list', hlist', hreorder⟩ := Returns.of_bind (m := Except Failure) hreorder
  cases hreorder
  obtain ⟨halike, hitems'⟩ := isItem_of_reorderList hitems hlist'
  exact ⟨list'.children, ⟨(alike_withChildren box _).isListBox.trans hbox, line, list',
    box.children_withChildren _, hline, (halike.hasTag _).trans hlist, rfl⟩, hitems'⟩

/-- The step changes the children of an element that holds the list. -/
theorem of_reorderBox (h : reorderBox found last e = .ok e') :
    Alike e e' ∧ (isListBox e = false → e' = e) := by
  rw [reorderBox] at h
  split at h
  · next hbox =>
    obtain ⟨children, -, h⟩ := Returns.of_bind (m := Except Failure) h
    cases h
    exact ⟨alike_withChildren e children, fun hnot => absurd (hbox.symm.trans hnot) (by decide)⟩
  · cases h
    exact ⟨⟨rfl, rfl⟩, fun _ => rfl⟩

/-- An element in a tree in which the list is put in order. -/
def Reordered (found : List Text) (last : Nat) (e e' : Element) : Prop :=
  Element.mapM (reorderBox found last) e = .ok e'

theorem Reordered.exists (h : Reordered found last e e') :
    ∃ children, List.Forall₂ (Reordered found last) e.children children ∧
      reorderBox found last (e.withChildren children) = .ok e' :=
  Element.exists_of_mapM (m := Except Failure) h

theorem Reordered.alike (h : Reordered found last e e') : Alike e e' := by
  obtain ⟨children, -, h⟩ := h.exists
  exact (alike_withChildren e children).trans (of_reorderBox h).1

theorem Reordered.children (h : Reordered found last e e') (hbox : isListBox e = false) :
    List.Forall₂ (Reordered found last) e.children e'.children := by
  obtain ⟨children, hchildren, h⟩ := h.exists
  rwa [(of_reorderBox h).2 ((alike_withChildren e children).isListBox.trans hbox),
    Element.children_withChildren]

theorem isListOf_of_reordered (h : IsListOf ids box) (hreorder : Reordered found last box box') :
    IsListOf (ids.mergeSort (precedes found last)) box' := by
  obtain ⟨children, hchildren, hreorder⟩ := hreorder.exists
  refine isListOf_of_reorderBox ?_ hreorder
  obtain ⟨_, ⟨hbox, line, list, hline_list, hline, hlist, rfl⟩, hitems⟩ := h
  rw [hline_list] at hchildren
  obtain ⟨line', list', rfl, hline', hlist'⟩ := exists_of_forall₂_pair hchildren
  have hnot : isListBox list = false := by
    rw [isListBox, hasTag_of_hasTag hlist]
    rfl
  refine ⟨list'.children, ⟨(alike_withChildren box _).isListBox.trans hbox, line', list',
    box.children_withChildren _, (hline'.alike.hasTag _).trans hline,
    (hlist'.alike.hasTag _).trans hlist, rfl⟩, ?_⟩
  exact forall₂_isItem_of_alike hitems ((hlist'.children hnot).imp fun _ _ h => h.alike)

theorem within_of_reordered (h : Within (IsListOf ids) e) (hreorder : Reordered found last e e') :
    Within (IsListOf (ids.mergeSort (precedes found last))) e' := by
  refine h.transfer (fun e e' hreorder hbox => ?_) (fun _ _ => isListOf_of_reordered) hreorder
  exact ⟨hreorder.alike.isListBox.trans hbox, fun c hc =>
    exists_mem_of_forall₂ (hreorder.children hbox) hc⟩

/-- The footnotes with a reference come first, in the order of their first references. -/
theorem within_of_reorder {defs : Definitions} {root root' : Element}
    (hkeys : defs.footnotes.keys.Nodup) (hfound : found.Nodup)
    (hsub : ∀ id ∈ found, id ∈ defs.footnotes.keys) (hdefs : defs.footnotes.keys ≠ [])
    (h : Within (IsListOf defs.footnotes.keys) root)
    (hreorder : reorder defs found root = .ok root') :
    Within (IsListOf (found ++ defs.footnotes.keys.filter (!found.elem ·))) root' := by
  rw [reorder] at hreorder
  split at hreorder
  · next hcases =>
    cases hreorder
    rw [Bool.or_eq_true, List.isEmpty_iff, decide_eq_true_eq] at hcases
    obtain rfl := hcases.resolve_left hdefs
    rwa [List.filter_eq_nil_iff.2 (by simp), List.append_nil]
  · rw [← mergeSort_precedes hkeys hfound hsub (List.subperm_of_subset hfound hsub).length_le]
    exact within_of_reordered h hreorder

end Reorder

/-! ## Completing the document -/

theorem headingLevel_of_hasTag {tag : String} (h : e.hasTag tag = true)
    (htag : headingLevel? (.ofTag tag) = none) : headingLevel? e = none := by
  rw [Element.hasTag, decide_eq_true_eq] at h
  rwa [headingLevel?, h]

theorem alike_of_frame {tag : String} (h : frame e' = frame e) (he : e.hasTag tag = true)
    (htag : headingLevel? (.ofTag tag) = none) : Alike e e' :=
  ⟨tag_of_frame h, attributes_of_frame h (headingLevel_of_hasTag he htag)⟩

theorem isListBox_of_frame (h : frame e' = frame e) : isListBox e' = isListBox e := by
  cases hdiv : e.hasTag "div" with
  | true => exact (alike_of_frame h hdiv (by decide)).isListBox
  | false =>
    have hdiv' : e'.hasTag "div" = false := by rwa [Element.hasTag, tag_of_frame h]
    rw [isListBox, isListBox, hdiv, hdiv', Bool.false_and, Bool.false_and]

theorem forall₂_of_map_frame (h : items'.map frame = items.map frame) :
    List.Forall₂ (fun e e' => frame e' = frame e) items items' := by
  have hframes : List.Forall₂ Eq (items'.map frame) (items.map frame) := by
    rwa [List.forall₂_eq_eq_eq]
  rw [List.forall₂_map_left_iff, List.forall₂_map_right_iff] at hframes
  exact hframes.flip

theorem isListOf_of_frame (h : IsListOf ids box) (hframe : frame box' = frame box) :
    IsListOf ids box' := by
  obtain ⟨_, ⟨hbox, line, list, hchildren, hline, hlist, rfl⟩, hitems⟩ := h
  have hframes := forall₂_of_map_frame (children_of_frame hframe)
  rw [hchildren] at hframes
  obtain ⟨line', list', hchildren', hline', hlist'⟩ := exists_of_forall₂_pair hframes
  refine ⟨list'.children, ⟨(isListBox_of_frame hframe).trans hbox, line', list', hchildren', ?_, ?_,
    rfl⟩, ?_⟩
  · exact ((alike_of_frame hline' hline (by decide)).hasTag _).trans hline
  · exact ((alike_of_frame hlist' hlist (by decide)).hasTag _).trans hlist
  · refine forall₂_comp (fun id item item' hitem hframe => ?_) hitems
      (forall₂_of_map_frame (children_of_frame hlist'))
    exact hitem.congr (alike_of_frame hframe hitem.1 (by decide))

theorem within_of_frame (h : Within (IsListOf ids) e) (hframe : frame e' = frame e) :
    Within (IsListOf ids) e' := by
  refine h.transfer (R := fun e e' => frame e' = frame e) (fun e e' hframe hbox => ?_)
    (fun _ _ => isListOf_of_frame) hframe
  exact ⟨(isListBox_of_frame hframe).trans hbox, fun c hc =>
    exists_mem_of_forall₂ (forall₂_of_map_frame (children_of_frame hframe)) hc⟩

end Footnotes

end WikiText.Markdown
