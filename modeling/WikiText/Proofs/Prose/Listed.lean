import WikiText.Proofs.Code.Unclassed
import WikiText.Proofs.Html.Escape
import WikiText.Proofs.Markdown.FootnoteList
import WikiText.Proofs.Markdown.Written
import WikiText.Proofs.Prose.Footnotes

/-!
# The list of footnotes in the page

Footnotes of plain words are listed in the order of their references, and what the list is written
as can be read off it.
-/

namespace WikiText.Prose

open Html (Data Element)
open Markdown

/-! ## The order of the list -/

section Order

variable {defs : Definitions} {id : Text} {ids found : List Text} {last : Nat} {e : Element}
  {items : List Element}

/-- The element is the item of the footnote, whatever its number is. -/
def IsNote (defs : Definitions) (id : Text) (e : Element) : Prop :=
  ∃ n, e = note n id ((defs.footnotes.get? id).getD [])

theorem footnoteOf_of_isNote (h : IsNote defs id e) : Footnotes.footnoteOf e = id := by
  obtain ⟨n, rfl⟩ := h
  rfl

theorem forall₂_isNote_notes (defs : Definitions) (n : Nat) (ids : List Text) :
    List.Forall₂ (IsNote defs) ids (notes defs n ids) := by
  induction ids generalizing n with
  | nil => exact .nil
  | cons id ids ih => exact .cons ⟨n, rfl⟩ (ih (n + 1))

theorem renumberIn?_note (m n : Nat) (id body : Text) :
    Footnotes.renumberIn? n (note m id body) = some (note n id body) := rfl

theorem renumber_of_isNote (h : List.Forall₂ (IsNote defs) ids items) (n : Nat) :
    Footnotes.renumber n items = .ok (notes defs n ids) := by
  induction h generalizing n with
  | nil => rfl
  | cons hitem _ ih =>
    obtain ⟨m, rfl⟩ := hitem
    rw [Footnotes.renumber, renumberIn?_note, ih (n + 1)]
    rfl

/-- A list of footnotes is not inside another one. -/
def IsNoBox (e : Element) : Prop := Footnotes.isListBox e = false

theorem mapM_reorderBox_of_every (h : e.Every IsNoBox) :
    e.mapM (Footnotes.reorderBox found last) = .ok e :=
  Element.mapM_of_every (m := Except Failure) (fun e he => by
    rw [Footnotes.reorderBox, he]
    rfl) h

theorem every_isNoBox_note (n : Nat) (id body : Text) : (note n id body).Every IsNoBox := by
  have hlink : (Footnotes.backlink id n).Every IsNoBox :=
    Element.every_iff.2 ⟨rfl, fun _ hc => absurd hc List.not_mem_nil⟩
  exact Element.every_iff.2 ⟨rfl, List.forall_mem_singleton.2
    (Element.every_iff.2 ⟨rfl, List.forall_mem_singleton.2 hlink⟩)⟩

theorem every_isNoBox_notes (defs : Definitions) (n : Nat) (ids : List Text) :
    ∀ e ∈ notes defs n ids, e.Every IsNoBox := by
  induction ids generalizing n with
  | nil => exact fun _ h => absurd h List.not_mem_nil
  | cons id ids ih => exact List.forall_mem_cons.2 ⟨every_isNoBox_note n id _, ih (n + 1)⟩

theorem mapM_reorderBox_listOf (ids : List Text) :
    (Footnotes.listOf (notes defs 1 ids)).mapM (Footnotes.reorderBox found last) =
      .ok (Footnotes.listOf
        (notes defs 1 (ids.mergeSort (Footnotes.precedes found last)))) := by
  have hlist : Footnotes.listOf (notes defs 1 ids) =
      .mk "div".toList [("class".toList, Footnotes.listClass)] .empty
        [.ofTag "hr", (Element.ofTag "ol").withChildren (notes defs 1 ids)] .empty := rfl
  have hchildren : ∀ c ∈ [Element.ofTag "hr", (Element.ofTag "ol").withChildren
      (notes defs 1 ids)], c.Every IsNoBox := by
    refine List.forall_mem_cons.2 ⟨?_, List.forall_mem_singleton.2 ?_⟩
    · exact Element.every_iff.2 ⟨rfl, fun _ hc => absurd hc List.not_mem_nil⟩
    · exact Element.every_iff.2 ⟨rfl, every_isNoBox_notes defs 1 ids⟩
  have hsame := Element.mapListM_of_every (m := Except Failure)
    (f := Footnotes.reorderBox found last) (fun e he => by
      rw [Footnotes.reorderBox, he]
      rfl) hchildren
  have hsorted : Footnotes.reorderList found last
      ((Element.ofTag "ol").withChildren (notes defs 1 ids)) =
        .ok ((Element.ofTag "ol").withChildren
          (notes defs 1 (ids.mergeSort (Footnotes.precedes found last)))) := by
    have hnotes : List.Forall₂ (IsNote defs) (ids.mergeSort (Footnotes.precedes found last)) _ :=
      Footnotes.forall₂_mergeSort footnoteOf_of_isNote (forall₂_isNote_notes defs 1 ids)
    rw [Footnotes.reorderList, Element.children_withChildren, renumber_of_isNote hnotes]
    rfl
  have hbox : Footnotes.isListBox (Footnotes.listOf (notes defs 1 ids)) = true := rfl
  have hline : (Element.ofTag "hr").hasTag "ol" = false := rfl
  have hol : ((Element.ofTag "ol").withChildren (notes defs 1 ids)).hasTag "ol" = true := rfl
  rw [hlist] at hbox ⊢
  rw [Element.mapM, hsame, pure_bind, Footnotes.reorderBox, if_pos hbox]
  simp only [Element.children, List.mapM_cons, List.mapM_nil, hline, hol, if_true,
    Bool.false_eq_true, if_false, hsorted]
  rfl

/-- The footnotes with a reference are listed first, in the order of their first references. -/
theorem reorder_noteBoxes {keys : List Text} (hkeys : defs.footnotes.keys = keys)
    (hnodup : keys.Nodup) (hfound : found.Nodup) (hsub : ∀ id ∈ found, id ∈ keys)
    (he : e.Every IsNoBox) :
    Footnotes.reorder defs found ((Element.ofTag "div").withChildren (e :: noteBoxes defs keys)) =
      .ok ((Element.ofTag "div").withChildren
        (e :: noteBoxes defs (found ++ keys.filter (!found.elem ·)))) := by
  rw [Footnotes.reorder, hkeys]
  split
  · next hcases =>
    rw [Bool.or_eq_true, List.isEmpty_iff, decide_eq_true_eq] at hcases
    rcases hcases with rfl | rfl
    · obtain rfl : found = [] := List.eq_nil_iff_forall_not_mem.2 fun id hid =>
        List.not_mem_nil (hsub id hid)
      rfl
    · rw [List.filter_eq_nil_iff.2 (by simp), List.append_nil]
  · next hcases =>
    rw [Bool.or_eq_true, not_or, List.isEmpty_iff] at hcases
    have hlast := (List.subperm_of_subset hfound hsub).length_le
    have hsorted := Footnotes.mergeSort_precedes hnodup hfound hsub hlast
    have hne : found ++ keys.filter (!found.elem ·) ≠ [] := by
      rw [← hsorted]
      exact fun hnil => hcases.1 ((List.mergeSort_perm keys _).symm.trans (by rw [hnil])).eq_nil
    rw [noteBoxes, noteBoxes, if_neg hcases.1, if_neg hne, ← hsorted]
    have hbelow : Element.mapListM (Footnotes.reorderBox found keys.length)
        [e, Footnotes.listOf (notes defs 1 keys)] =
          .ok [e, Footnotes.listOf
            (notes defs 1 (keys.mergeSort (Footnotes.precedes found keys.length)))] := by
      rw [Element.mapListM, mapM_reorderBox_of_every he, Element.mapListM,
        mapM_reorderBox_listOf]
      rfl
    have hroot : ∀ list, (Element.ofTag "div").withChildren [e, list] =
        .mk "div".toList [] .empty [e, list] .empty := fun _ => rfl
    rw [hroot, hroot, Element.mapM, hbelow]
    rfl

end Order

/-! ## The written list -/

theorem isVerbatim_of_plain {w : Text} (h : Text.IsPlain w) : Html.IsVerbatim w := by
  have hmarks : ∀ d ∈ "&<>\"\x27".toList, ¬ Text.IsLetter d := by decide
  exact fun c hc hmem => hmarks c hmem (h.letters c hc)

theorem isVerbatim_body {ws : List Text} (h : ∀ w ∈ ws, Text.IsPlain w) :
    Html.IsVerbatim (Definition.body ws) :=
  forall_mem_line (by decide) (List.forall_mem_map.2 fun w hw => isVerbatim_of_plain (h w hw))

theorem isVerbatim_backlinkTitle (n : Nat) : Html.IsVerbatim (Footnotes.backlinkTitle n) := by
  have hmarks : ∀ c ∈ "&<>\"\x27".toList, Text.isAsciiDigit c = false ∧
      c ∉ "Jump back to footnote ".toList ∧ c ∉ " in the text".toList := by decide
  exact fun c hc hmem =>
    not_mem_backlinkTitle (hmarks c hmem).1 (hmarks c hmem).2.1 (hmarks c hmem).2.2 n hc

theorem isInline_backlink (id : Text) (n : Nat) : IsInline (Footnotes.backlink id n) := by
  have htag : isBlockTag "a".toList = false := by decide
  exact ⟨htag, rfl⟩

/-- An item with its line ends set. -/
theorem layOut_note (n : Nat) (id body : Text) :
    layOut (note n id body) =
      .mk "li".toList [("id".toList, Anchor.footnoteElementId id)] lineEnd
        [.mk "p".toList [] ⟨body ++ Footnotes.spaceMark, false⟩ [Footnotes.backlink id n] lineEnd]
        lineEnd := by
  let p : Element :=
    .mk "p".toList [] ⟨body ++ Footnotes.spaceMark, false⟩ [Footnotes.backlink id n] .empty
  have hnote : note n id body =
      .mk "li".toList [("id".toList, Anchor.footnoteElementId id)] .empty [p] .empty := rfl
  have hblock : ∀ c ∈ [p], isBlockTag c.tag = true := List.forall_mem_singleton.2 isBlockTag_p
  have hinline : ∀ c ∈ [Footnotes.backlink id n], IsInline c :=
    List.forall_mem_singleton.2 (isInline_backlink id n)
  rw [hnote, layOut_of_blocks isBlockTag_li (by decide) _ (List.cons_ne_nil _ _) hblock,
    List.map_singleton, layOut_of_inline isBlockTag_p (by decide) _ _ hinline]

@[simp] theorem escapeOnce_lineEnd : Html.escapeOnce .plain lineEnd.text = ['\n'] := rfl

@[simp] theorem escapeOnce_empty : Html.escapeOnce .plain Data.empty.text = [] := rfl

/-- An element with its attributes in the order of their names, in the values of which nothing is
escaped. -/
theorem markup_of_isVerbatim {tag : Text} {attributes : List (Text × Text)}
    (hvoid : Html.isVoid tag = false) (hsort : Html.sortAttributes attributes = attributes)
    (hvalues : ∀ a ∈ attributes, Html.IsVerbatim a.2) (data : Data) (children : List Element)
    (tail : Data) :
    (Element.mk tag attributes data children tail).markup .closed =
      '<' :: tag ++ attributes.flatMap (fun a => ' ' :: a.1 ++ ['=', '"'] ++ a.2 ++ ['"']) ++
        ['>'] ++ (Html.escapeOnce .plain data.text ++ Element.markupList .closed children) ++
        ('<' :: '/' :: tag ++ ['>']) ++ Html.escapeOnce .plain tail.text := by
  have hwritten : attributes.flatMap (Html.writeAttribute .closed) =
      attributes.flatMap fun a => ' ' :: a.1 ++ ['=', '"'] ++ a.2 ++ ['"'] :=
    List.flatMap_congr fun a ha => by simp [Html.writeAttribute, (hvalues a ha).escapeOnce]
  rw [Element.markup, Html.startTag, hsort, hvoid, hwritten]
  simp

theorem markup_of_bare {tag : Text} (hvoid : Html.isVoid tag = false) (data : Data)
    (children : List Element) (tail : Data) :
    (Element.mk tag [] data children tail).markup .closed =
      '<' :: tag ++ ['>'] ++ (Html.escapeOnce .plain data.text ++
        Element.markupList .closed children) ++ ('<' :: '/' :: tag ++ ['>']) ++
        Html.escapeOnce .plain tail.text := by
  rw [markup_of_isVerbatim hvoid rfl (by simp), List.flatMap_nil, List.append_nil]

/-- A link with three attributes, in the values of which nothing is escaped. -/
theorem markup_link {c h t s : Text} (hc : Html.IsVerbatim c) (hh : Html.IsVerbatim h)
    (ht : Html.IsVerbatim t) (hs : Html.IsVerbatim s) :
    (Element.mk "a".toList [("class".toList, c), ("href".toList, h), ("title".toList, t)] ⟨s, false⟩
        [] .empty).markup .closed =
      "<a class=\"".toList ++ c ++ "\" href=\"".toList ++ h ++ "\" title=\"".toList ++ t ++
        "\">".toList ++ s ++ "</a>".toList := by
  rw [markup_of_isVerbatim (by decide) rfl (by simp [hc, hh, ht])]
  simp [Element.markupList, hs.escapeOnce]

/-- An item with a paragraph and an element at the end of it. -/
theorem markup_item {v s : Text} (hv : Html.IsVerbatim v) (hs : Html.IsVerbatim s) (e : Element) :
    (Element.mk "li".toList [("id".toList, v)] lineEnd
        [.mk "p".toList [] ⟨s, false⟩ [e] lineEnd] lineEnd).markup .closed =
      "<li id=\"".toList ++ (v ++ "\">\n<p>".toList ++ s ++ e.markup .closed) ++
        "</p>\n</li>".toList ++ ['\n'] := by
  have hp : Html.isVoid ['p'] = false := by decide
  rw [markup_of_isVerbatim (by decide) rfl (by simpa using hv)]
  simp [Element.markupList, markup_of_bare hp, hs.escapeOnce]

/-- What a link back is written as, given what stands for its sign. -/
def backlinkMarkup (back : Text) (n : Nat) (id : Text) : Text :=
  "<a class=\"".toList ++ Footnotes.backlinkClass ++ "\" href=\"".toList ++
    '#' :: Anchor.footnoteReferenceId id ++ "\" title=\"".toList ++ Footnotes.backlinkTitle n ++
    "\">".toList ++ back ++ "</a>".toList

theorem markup_backlink {id : Text} (hid : Text.IsPlain id) (n : Nat) :
    (Footnotes.backlink id n).markup .closed = backlinkMarkup Footnotes.backlinkMark n id := by
  have hscheme : Html.IsVerbatim "#footnote-ref:".toList := by decide
  have hclass : Html.IsVerbatim Footnotes.backlinkClass := by decide
  have hmark : Html.IsVerbatim Footnotes.backlinkMark := by decide
  exact markup_link hclass (hscheme.append (isVerbatim_of_plain hid)) (isVerbatim_backlinkTitle n)
    hmark

/-- What the item of a footnote is written as, given what stands for a firm space and for the sign
of a link back. -/
def noteMarkup (space back : Text) (n : Nat) (id body : Text) : Text :=
  "<li id=\"".toList ++ (Anchor.footnoteElementId id ++ "\">\n<p>".toList ++ (body ++ space) ++
    backlinkMarkup back n id) ++ "</p>\n</li>".toList

theorem markup_note {id body : Text} (hid : Text.IsPlain id) (hbody : Html.IsVerbatim body)
    (n : Nat) :
    (layOut (note n id body)).markup .closed =
      noteMarkup Footnotes.spaceMark Footnotes.backlinkMark n id body ++ ['\n'] := by
  have hscheme : Html.IsVerbatim "footnote:".toList := by decide
  have hspace : Html.IsVerbatim Footnotes.spaceMark := by decide
  have hitem := markup_item (hscheme.append (isVerbatim_of_plain hid)) (hbody.append hspace)
    (Footnotes.backlink id n)
  rw [markup_backlink hid] at hitem
  rw [layOut_note]
  exact hitem

/-- What the list of footnotes is written as, line by line, if there are any. -/
def listLines (space back : Text) (defs : Definitions) (ids : List Text) : List Text :=
  if ids = [] then []
  else ["<div class=\"".toList ++ Footnotes.listClass ++ "\">".toList, "<hr />".toList,
      "<ol>".toList] ++ ((ids.zipIdx 1).map fun (id, n) =>
        noteMarkup space back n id ((defs.footnotes.get? id).getD [])) ++
      ["</ol>".toList, "</div>".toList]

theorem notes_eq (defs : Definitions) (n : Nat) (ids : List Text) :
    notes defs n ids =
      (ids.zipIdx n).map fun (id, n) => note n id ((defs.footnotes.get? id).getD []) := by
  induction ids generalizing n with
  | nil => rfl
  | cons id ids ih => rw [notes, ih, List.zipIdx_cons, List.map_cons]

/-- A list of items below a line. -/
theorem markup_box {v : Text} (hv : Html.IsVerbatim v) {es : List Element} {ls : List Text}
    (h : Element.markupList .closed es = ls.flatMap (· ++ ['\n'])) :
    (Element.mk "div".toList [("class".toList, v)] lineEnd
        [(Element.ofTag "hr").withTail lineEnd, .mk "ol".toList [] lineEnd es lineEnd]
        lineEnd).markup .closed =
      (["<div class=\"".toList ++ v ++ "\">".toList, "<hr />".toList, "<ol>".toList] ++ ls ++
        ["</ol>".toList, "</div>".toList]).flatMap (· ++ ['\n']) := by
  have hline : ((Element.ofTag "hr").withTail lineEnd).markup .closed = "<hr />\n".toList := by
    decide
  have hol : Html.isVoid ['o', 'l'] = false := by decide
  rw [markup_of_isVerbatim (by decide) rfl (by simpa using hv)]
  simp [Element.markupList, hline, markup_of_bare hol, h]

section Lines

variable {defs : Definitions} {ids : List Text}

/-- The list with its line ends set is written line by line. -/
theorem markup_noteBoxes (h : ∀ id ∈ ids, IsListed defs id) :
    Element.markupList .closed ((noteBoxes defs ids).map layOut) =
      (listLines Footnotes.spaceMark Footnotes.backlinkMark defs ids).flatMap (· ++ ['\n']) := by
  rw [noteBoxes, listLines]
  split
  · rfl
  · next hne =>
    let hr : Element := .ofTag "hr"
    let ol : Element := (Element.ofTag "ol").withChildren (notes defs 1 ids)
    have hlist : Footnotes.listOf (notes defs 1 ids) =
        .mk "div".toList [("class".toList, Footnotes.listClass)] .empty [hr, ol] .empty := rfl
    have hblocks : ∀ c ∈ [hr, ol], isBlockTag c.tag = true :=
      List.forall_mem_cons.2 ⟨isBlockTag_hr, List.forall_mem_singleton.2 isBlockTag_ol⟩
    have hitems : ∀ c ∈ notes defs 1 ids, isBlockTag c.tag = true := by
      rw [notes_eq]
      exact List.forall_mem_map.2 fun _ _ => isBlockTag_li
    have hnotes : notes defs 1 ids ≠ [] := by
      rw [notes_eq]
      simpa using hne
    have hline : layOut hr = (Element.ofTag "hr").withTail lineEnd :=
      layOut_of_inline isBlockTag_hr (by decide) [] .empty fun _ hc => absurd hc List.not_mem_nil
    have hol : layOut ol =
        .mk "ol".toList [] lineEnd ((notes defs 1 ids).map layOut) lineEnd :=
      layOut_of_blocks isBlockTag_ol (by decide) [] hnotes hitems
    have hmarkup : Element.markupList .closed ((notes defs 1 ids).map layOut) =
        ((ids.zipIdx 1).map fun x => noteMarkup Footnotes.spaceMark Footnotes.backlinkMark x.2
          x.1 ((defs.footnotes.get? x.1).getD [])).flatMap (· ++ ['\n']) := by
      rw [markupList_eq_flatMap, notes_eq, List.flatMap_map, List.flatMap_map, List.flatMap_map]
      refine List.flatMap_congr fun x hx => ?_
      obtain ⟨id, n⟩ := x
      obtain ⟨hid, ws, hget, -, hws⟩ := h id (List.fst_mem_of_mem_zipIdx hx)
      dsimp only
      rw [hget]
      exact markup_note hid (isVerbatim_body hws) n
    have hclass : Html.IsVerbatim Footnotes.listClass := by decide
    have hbox := markup_box hclass hmarkup
    rw [hlist, List.map_singleton, layOut_of_blocks isBlockTag_div (by decide) _
      (List.cons_ne_nil _ _) hblocks, List.map_cons, List.map_singleton, hline, hol,
      markupList_eq_flatMap, List.flatMap_singleton]
    exact hbox

/-- Each line of the list begins with a tag and ends with one. -/
theorem isTrimmed_listLines (space back : Text) (defs : Definitions) (ids : List Text) :
    ∀ l ∈ listLines space back defs ids, Text.IsTrimmed l := by
  have hfront : Text.IsTrimmed "<div class=\"".toList := by decide
  have hbehind : Text.IsTrimmed "\">".toList := by decide
  have hopening : Text.IsTrimmed "<li id=\"".toList := by decide
  have hclosing : Text.IsTrimmed "</p>\n</li>".toList := by decide
  have hnote : ∀ n id body, Text.IsTrimmed (noteMarkup space back n id body) := fun _ _ _ =>
    Text.isTrimmed_append hopening _ hclosing
  have hbefore : ∀ l ∈ ["<div class=\"".toList ++ Footnotes.listClass ++ "\">".toList,
      "<hr />".toList, "<ol>".toList], Text.IsTrimmed l :=
    List.forall_mem_cons.2 ⟨Text.isTrimmed_append hfront _ hbehind, by decide⟩
  have hafter : ∀ l ∈ ["</ol>".toList, "</div>".toList], Text.IsTrimmed l := by decide
  rw [listLines]
  split
  · exact fun _ h => absurd h List.not_mem_nil
  · exact List.forall_mem_append.2 ⟨List.forall_mem_append.2 ⟨hbefore,
      List.forall_mem_map.2 fun _ _ => hnote _ _ _⟩, hafter⟩

theorem finishes_of_plain {w : Text} (h : Text.IsPlain w) : Finishes w w :=
  finishes_of_not_mem (h.not_mem (by decide))

theorem finishes_backlinkMarkup {id : Text} (hid : Text.IsPlain id) (n : Nat) :
    Finishes (backlinkMarkup Footnotes.backlinkMark n id)
      (backlinkMarkup "&#8617;".toList n id) := by
  have hfront : Stash.opening ∉
      "<a class=\"".toList ++ Footnotes.backlinkClass ++ "\" href=\"".toList := by decide
  have hscheme : Stash.opening ∉ "#footnote-ref:".toList := by decide
  have hbetween : Stash.opening ∉ "\" title=\"".toList := by decide
  have htitle : Stash.opening ∉ Footnotes.backlinkTitle n :=
    not_mem_backlinkTitle (by decide) (by decide) (by decide) n
  have hbehind : Stash.opening ∉ "\">".toList := by decide
  have hclosing : Stash.opening ∉ "</a>".toList := by decide
  have hhref := (finishes_of_not_mem hscheme).append (finishes_of_plain hid)
  exact ((((((finishes_of_not_mem hfront).append hhref).append
    (finishes_of_not_mem hbetween)).append (finishes_of_not_mem htitle)).append
    (finishes_of_not_mem hbehind)).append finishes_backlinkMark).append
    (finishes_of_not_mem hclosing)

theorem finishes_noteMarkup {id : Text} (hid : Text.IsPlain id) {ws : List Text}
    (hws : ∀ w ∈ ws, Text.IsPlain w) (n : Nat) :
    Finishes (noteMarkup Footnotes.spaceMark Footnotes.backlinkMark n id (Definition.body ws))
      (noteMarkup "&#160;".toList "&#8617;".toList n id (Definition.body ws)) := by
  have hopening : Stash.opening ∉ "<li id=\"".toList := by decide
  have hscheme : Stash.opening ∉ "footnote:".toList := by decide
  have hbetween : Stash.opening ∉ "\">\n<p>".toList := by decide
  have hbody : Stash.opening ∉ Definition.body ws := not_mem_body hws (by decide) (by decide)
  have hclosing : Stash.opening ∉ "</p>\n</li>".toList := by decide
  have hvalue := (finishes_of_not_mem hscheme).append (finishes_of_plain hid)
  exact ((finishes_of_not_mem hopening).append (((hvalue.append
    (finishes_of_not_mem hbetween)).append ((finishes_of_not_mem hbody).append
    finishes_spaceMark)).append (finishes_backlinkMarkup hid n))).append
    (finishes_of_not_mem hclosing)

/-- The marks in the list give way to what they stand for. -/
theorem finishes_listLines (h : ∀ id ∈ ids, IsListed defs id) :
    List.Forall₂ Finishes (listLines Footnotes.spaceMark Footnotes.backlinkMark defs ids)
      (listLines "&#160;".toList "&#8617;".toList defs ids) := by
  have hbefore : ∀ l ∈ ["<div class=\"".toList ++ Footnotes.listClass ++ "\">".toList,
      "<hr />".toList, "<ol>".toList], Finishes l l := by
    have hnot : ∀ l ∈ ["<div class=\"".toList ++ Footnotes.listClass ++ "\">".toList,
      "<hr />".toList, "<ol>".toList], Stash.opening ∉ l := by decide
    exact fun l hl => finishes_of_not_mem (hnot l hl)
  have hafter : ∀ l ∈ ["</ol>".toList, "</div>".toList], Finishes l l := by
    have hnot : ∀ l ∈ ["</ol>".toList, "</div>".toList], Stash.opening ∉ l := by decide
    exact fun l hl => finishes_of_not_mem (hnot l hl)
  rw [listLines, listLines]
  split
  · exact .nil
  · refine List.rel_append (List.rel_append (List.forall₂_same.2 hbefore) ?_)
      (List.forall₂_same.2 hafter)
    rw [List.forall₂_map_left_iff, List.forall₂_map_right_iff, List.forall₂_same]
    intro (id, n) hx
    obtain ⟨hid, ws, hget, -, hws⟩ := h id (List.fst_mem_of_mem_zipIdx hx)
    dsimp only
    rw [hget]
    exact finishes_noteMarkup hid hws n

open Code (Unclassed unclassed_of_not_mem unclassed_of_nowhere)

theorem unclassed_of_plain {w : Text} (h : Text.IsPlain w) : Unclassed w :=
  unclassed_of_not_mem (h.not_mem (by decide))

theorem unclassed_backlinkMarkup {id : Text} (hid : Text.IsPlain id) (n : Nat) :
    Unclassed (backlinkMarkup "&#8617;".toList n id) := by
  have hfront : Unclassed ("<a class=\"".toList ++ Footnotes.backlinkClass ++
      "\" href=\"".toList) := unclassed_of_nowhere (by decide)
  have hscheme : Unclassed "#footnote-ref:".toList := unclassed_of_nowhere (by decide)
  have hbetween : Unclassed "\" title=\"".toList := unclassed_of_nowhere (by decide)
  have htitle : Unclassed (Footnotes.backlinkTitle n) :=
    unclassed_of_not_mem (not_mem_backlinkTitle (by decide) (by decide) (by decide) n)
  have hbehind : Unclassed "\">".toList := unclassed_of_nowhere (by decide)
  have hsign : Unclassed "&#8617;".toList := unclassed_of_nowhere (by decide)
  have hclosing : Unclassed "</a>".toList := unclassed_of_nowhere (by decide)
  exact (((((hfront.append (hscheme.append (unclassed_of_plain hid))).append hbetween).append
    htitle).append hbehind).append hsign).append hclosing

theorem unclassed_noteMarkup {id : Text} (hid : Text.IsPlain id) {ws : List Text}
    (hws : ∀ w ∈ ws, Text.IsPlain w) (n : Nat) :
    Unclassed (noteMarkup "&#160;".toList "&#8617;".toList n id (Definition.body ws)) := by
  have hopening : Unclassed "<li id=\"".toList := unclassed_of_nowhere (by decide)
  have hscheme : Unclassed "footnote:".toList := unclassed_of_nowhere (by decide)
  have hbetween : Unclassed "\">\n<p>".toList := unclassed_of_nowhere (by decide)
  have hbody : Unclassed (Definition.body ws) :=
    unclassed_of_not_mem (not_mem_body hws (by decide) (by decide))
  have hspace : Unclassed "&#160;".toList := unclassed_of_nowhere (by decide)
  have hclosing : Unclassed "</p>\n</li>".toList := unclassed_of_nowhere (by decide)
  have hvalue := hscheme.append (unclassed_of_plain hid)
  exact (hopening.append (((hvalue.append hbetween).append (hbody.append hspace)).append
    (unclassed_backlinkMarkup hid n))).append hclosing

/-- No line of the list holds code. -/
theorem unclassed_listLines (h : ∀ id ∈ ids, IsListed defs id) :
    ∀ l ∈ listLines "&#160;".toList "&#8617;".toList defs ids, Unclassed l := by
  have hbefore : ∀ l ∈ ["<div class=\"".toList ++ Footnotes.listClass ++ "\">".toList,
      "<hr />".toList, "<ol>".toList], Text.Nowhere Code.cut? l := by decide
  have hafter : ∀ l ∈ ["</ol>".toList, "</div>".toList], Text.Nowhere Code.cut? l := by decide
  rw [listLines]
  split
  · exact fun _ h => absurd h List.not_mem_nil
  · refine List.forall_mem_append.2 ⟨List.forall_mem_append.2
      ⟨fun l hl => unclassed_of_nowhere (hbefore l hl), List.forall_mem_map.2 fun (id, n) hx => ?_⟩,
      fun l hl => unclassed_of_nowhere (hafter l hl)⟩
    obtain ⟨hid, ws, hget, -, hws⟩ := h id (List.fst_mem_of_mem_zipIdx hx)
    dsimp only
    rw [hget]
    exact unclassed_noteMarkup hid hws n

end Lines

end WikiText.Prose
