import WikiText.Proofs.Markdown.Settled
import WikiText.Proofs.Text.Blank

/-!
# Trees are written

A tree without headings gets no identifiers, and a settled one stays as it is until it is written.
Elements that end their lines are written as the lines between the tags of the root
(`writeInside_of_markupList`), and the marks in them give way to what they stand for.
-/

namespace WikiText

namespace Text

variable {ls : List Text}

theorem flatMap_lineEnd (hne : ls ≠ []) : ls.flatMap (· ++ ['\n']) = unlines ls ++ ['\n'] := by
  induction ls, hne using List.recNeNil with
  | singleton l => rw [List.flatMap_singleton]; rfl
  | cons l ls hls ih =>
    rw [List.flatMap_cons, ih, unlines_cons_of_ne_nil l hls, List.append_assoc, List.append_assoc]
    rfl

theorem isTrimmed_append {s u : Text} (hs : IsTrimmed s) (t : Text) (hu : IsTrimmed u) :
    IsTrimmed (s ++ t ++ u) where
  ne_nil := List.append_ne_nil_of_right_ne_nil _ hu.ne_nil
  head c hc := by
    rw [List.append_assoc, List.head?_append_of_ne_nil _ hs.ne_nil] at hc
    exact hs.head c hc
  last c hc := by
    rw [List.getLast?_append_of_ne_nil _ hu.ne_nil] at hc
    exact hu.last c hc

theorem isTrimmed_unlines (hne : ls ≠ []) (h : ∀ l ∈ ls, IsTrimmed l) : IsTrimmed (unlines ls) := by
  refine unlines_induction (fun he => absurd he hne) (fun s t hs ht => ?_) h
  rw [List.append_cons]
  exact isTrimmed_append hs ['\n'] ht

theorem trim_between {s : Text} (h : IsTrimmed s) : trim ('\n' :: (s ++ ['\n'])) = s := by
  have hblank : isBlank '\n' = true := by decide
  rw [trim_eq, List.dropWhile_cons_of_pos hblank, h.dropWhile_append (fun _ hc => hc),
    List.rdropWhile_concat_pos _ _ _ hblank, h.rdropWhile fun _ hc => hc]

section ReplaceAll

variable {a : Char} {p q g s : Text}

theorem replaceAll_nil : replaceAll (a :: p) q [] = [] := by
  rw [replaceAll]
  rfl

theorem replaceAll_append_self :
    replaceAll (a :: p) q (a :: p ++ s) = q ++ replaceAll (a :: p) q s := by
  rw [replaceAll]
  split
  · next r hstrip =>
    obtain rfl : s = r := Option.some.inj ((strip?_append _ _).symm.trans hstrip)
    rfl
  · next hstrip => cases (strip?_append _ _).symm.trans hstrip

theorem replaceAll_cons {c : Char} (h : strip? (a :: p) (c :: s) = none) :
    replaceAll (a :: p) q (c :: s) = c :: replaceAll (a :: p) q s := by
  rw [replaceAll]
  split
  · next hstrip => exact absurd (h.symm.trans hstrip) (Option.some_ne_none _).symm
  · rfl

/-- What is replaced does not begin in the text at the front. -/
theorem replaceAll_append (h : a ∉ g) :
    replaceAll (a :: p) q (g ++ s) = g ++ replaceAll (a :: p) q s := by
  induction g with
  | nil => rfl
  | cons c g ih =>
    obtain ⟨hc, hg⟩ := List.ne_and_not_mem_of_not_mem_cons h
    rw [List.cons_append, replaceAll_cons (if_neg hc), ih hg]
    rfl

end ReplaceAll

end Text

namespace Markdown

open Html (Element Data)

/-! ## Line ends -/

theorem isBlockTag_div : isBlockTag "div".toList = true := by decide

theorem isBlockTag_p : isBlockTag "p".toList = true := by decide

theorem isBlockTag_pre : isBlockTag "pre".toList = true := by decide

theorem isBlockTag_hr : isBlockTag "hr".toList = true := by decide

theorem isBlockTag_ol : isBlockTag "ol".toList = true := by decide

theorem isBlockTag_li : isBlockTag "li".toList = true := by decide

theorem isBlockTag_br : isBlockTag "br".toList = false := by decide

theorem isBlockTag_sup : isBlockTag "sup".toList = false := by decide

/-- No line end belongs in or after the element. -/
structure IsInline (e : Element) : Prop where
  isBlockTag : isBlockTag e.tag = false
  map : e.map (fun e => layOutCode (layOutBreak e)) = e

section LayOut

variable {tag : Text} (htag : isBlockTag tag = true) (hpre : tag ≠ "pre".toList)
  (attributes : List (Text × Text)) {children : List Element}
include htag hpre

theorem layOut_block (data : Data) (children : List Element) (tail : Data) :
    layOutCode (layOutBreak (.mk tag attributes data children tail)) =
      .mk tag attributes data children tail := by
  have hbreak : layOutBreak (.mk tag attributes data children tail) =
      .mk tag attributes data children tail := by
    refine if_neg fun hbr => ?_
    obtain rfl : tag = "br".toList := of_decide_eq_true hbr
    exact Bool.false_ne_true (isBlockTag_br.symm.trans htag)
  have hcode : (Element.mk tag attributes data children tail).hasTag "pre" = false :=
    decide_eq_false hpre
  rw [hbreak, layOutCode]
  split
  · exact if_neg (by simp [hcode])
  · rfl

/-- A block of blocks: each of them has a line of its own. -/
theorem layOut_of_blocks (hne : children ≠ []) (h : ∀ c ∈ children, isBlockTag c.tag = true) :
    layOut (.mk tag attributes .empty children .empty) =
      .mk tag attributes lineEnd (children.map layOut) lineEnd := by
  have heach : layOutEach children = children.map layOutBlocks := by
    clear hne
    induction children with
    | nil => rfl
    | cons c children ih =>
      rw [List.forall_mem_cons] at h
      rw [layOutEach, if_pos h.1, ih h.2, List.map_cons]
  have hhead : children.head?.any (fun c => isBlockTag c.tag) = true := by
    obtain ⟨c, children, rfl⟩ := List.exists_cons_of_ne_nil hne
    exact h c List.mem_cons_self
  have hblocks : layOutBlocks (.mk tag attributes .empty children .empty) =
      .mk tag attributes lineEnd (children.map layOutBlocks) lineEnd := by
    rw [layOutBlocks, heach, htag, hhead]
    dsimp only
    rw [if_pos (by simpa using hpre)]
    rfl
  rw [layOut, hblocks, Element.map_mk, layOut_block htag hpre, List.map_map]
  rfl

/-- A block of text, which begins no other line. -/
theorem layOut_of_inline (data : Data) (h : ∀ c ∈ children, IsInline c) :
    layOut (.mk tag attributes data children .empty) =
      .mk tag attributes data children lineEnd := by
  have heach : layOutEach children = children := by
    induction children with
    | nil => rfl
    | cons c children ih =>
      rw [List.forall_mem_cons] at h
      rw [layOutEach, h.1.isBlockTag, if_neg Bool.false_ne_true, ih h.2]
  have hhead : children.head?.any (fun c => isBlockTag c.tag) = false := by
    cases children with
    | nil => rfl
    | cons c children => exact (h c List.mem_cons_self).isBlockTag
  have hmap : children.map (·.map fun e => layOutCode (layOutBreak e)) = children :=
    (List.map_congr_left fun c hc => (h c hc).map).trans (List.map_id children)
  have hblocks : layOutBlocks (.mk tag attributes data children .empty) =
      .mk tag attributes data children lineEnd := by
    rw [layOutBlocks, heach, htag, hhead]
    dsimp only
    rw [if_pos (by simpa using hpre), Bool.and_false, if_neg Bool.false_ne_true]
    rfl
  rw [layOut, hblocks, Element.map_mk, hmap, layOut_block htag hpre]

end LayOut

/-! ## Before writing -/

variable {e : Element}

/-- Without headings no identifiers are given. -/
theorem identifyHeadings_of_every (separator : Text) (stash : Stash)
    (h : e.Every fun e => headingLevel? e = none) :
    identifyHeadings separator stash e = .ok (e, []) := by
  have hsame : Element.mapM (identify separator stash) e = pure e :=
    Element.mapM_of_every (fun e he => by rw [identify, he]) h
  rw [identifyHeadings, hsame]
  rfl

theorem map_unescapeText_of_settled (h : AllSettled e) : e.map unescapeText = e :=
  Element.mapM_of_every (m := Id) (fun _ he => unescapeText_of_settled he) h

/-! ## Lines -/

theorem markupList_eq_flatMap (d : Html.Dialect) (es : List Element) :
    Element.markupList d es = es.flatMap (·.markup d) := by
  induction es with
  | nil => rfl
  | cons e es ih => rw [Element.markupList, ih, List.flatMap_cons]

/-- Elements that are written as lines: what is written of the root that holds them. -/
theorem writeInside_of_markupList {es : List Element} {ls : List Text}
    (h : Element.markupList .closed es = ls.flatMap (· ++ ['\n'])) (hne : ls ≠ [])
    (hls : ∀ l ∈ ls, Text.IsTrimmed l) (tail : Data) :
    writeInside (.mk "div".toList [] lineEnd es tail) = Text.unlines ls := by
  have hwritten : ((Element.mk "div".toList [] lineEnd es tail).withTail .empty).markup .closed =
      "<div>".toList ++ (('\n' :: Element.markupList .closed es) ++ "</div>".toList) ++ [] := rfl
  have hinside : ∀ s : Text, (s ++ "</div>".toList).take
      ((s ++ "</div>".toList).length - "</div>".length) = s := fun s => by
    have hlength : "</div>".toList.length = "</div>".length := rfl
    rw [List.length_append, hlength, Nat.add_sub_cancel, List.take_left]
  rw [writeInside, hwritten, List.append_nil, Text.strip?_append, Option.getD_some, hinside, h,
    Text.flatMap_lineEnd hne]
  exact Text.trim_between (Text.isTrimmed_unlines hne hls)

/-! ## Marks -/

/-- The marks of a text give way to what they stand for. -/
def finishMarks (s : Text) : Text := finishAmpersands (finishFootnotes s)

/-- The first text becomes the second one, whatever follows it. -/
def Finishes (s s' : Text) : Prop := ∀ t, finishMarks (s ++ t) = s' ++ finishMarks t

section Finishes

variable {s s' t t' : Text}

theorem Finishes.eq (h : Finishes s s') : finishMarks s = s' := by
  have hback : Text.replaceAll Footnotes.backlinkMark "&#8617;".toList [] = [] :=
    Text.replaceAll_nil
  have hspace : Text.replaceAll Footnotes.spaceMark "&#160;".toList [] = [] := Text.replaceAll_nil
  have hnil : finishMarks [] = [] := by
    rw [finishMarks, finishFootnotes, hback, hspace]
    exact Text.replaceAll_nil
  have hend := h []
  rwa [hnil, List.append_nil, List.append_nil] at hend

theorem Finishes.append (hs : Finishes s s') (ht : Finishes t t') :
    Finishes (s ++ t) (s' ++ t') := by
  intro u
  rw [List.append_assoc, hs, ht, List.append_assoc]

theorem finishes_of_not_mem (h : Stash.opening ∉ s) : Finishes s s := by
  intro t
  have hback : Text.replaceAll Footnotes.backlinkMark "&#8617;".toList (s ++ t) =
      s ++ Text.replaceAll Footnotes.backlinkMark "&#8617;".toList t := Text.replaceAll_append h
  have hspace : ∀ t, Text.replaceAll Footnotes.spaceMark "&#160;".toList (s ++ t) =
      s ++ Text.replaceAll Footnotes.spaceMark "&#160;".toList t := fun _ =>
    Text.replaceAll_append h
  rw [finishMarks, finishFootnotes, hback, hspace]
  exact Text.replaceAll_append h

theorem finishes_spaceMark : Finishes Footnotes.spaceMark "&#160;".toList := by
  intro t
  have hback : Text.replaceAll Footnotes.backlinkMark "&#8617;".toList (Footnotes.spaceMark ++ t) =
      Footnotes.spaceMark ++ Text.replaceAll Footnotes.backlinkMark "&#8617;".toList t :=
    (Text.replaceAll_cons rfl).trans (congrArg _ (Text.replaceAll_append (by decide)))
  have hspace : ∀ t, Text.replaceAll Footnotes.spaceMark "&#160;".toList
      (Footnotes.spaceMark ++ t) = "&#160;".toList ++
        Text.replaceAll Footnotes.spaceMark "&#160;".toList t := fun _ =>
    Text.replaceAll_append_self
  rw [finishMarks, finishFootnotes, hback, hspace]
  exact Text.replaceAll_append (by decide)

theorem finishes_backlinkMark : Finishes Footnotes.backlinkMark "&#8617;".toList := by
  intro t
  have hback : Text.replaceAll Footnotes.backlinkMark "&#8617;".toList
      (Footnotes.backlinkMark ++ t) = "&#8617;".toList ++
        Text.replaceAll Footnotes.backlinkMark "&#8617;".toList t := Text.replaceAll_append_self
  have hspace : ∀ t, Text.replaceAll Footnotes.spaceMark "&#160;".toList
      ("&#8617;".toList ++ t) = "&#8617;".toList ++
        Text.replaceAll Footnotes.spaceMark "&#160;".toList t :=
    fun t => Text.replaceAll_append (by decide)
  rw [finishMarks, finishFootnotes, hback, hspace]
  exact Text.replaceAll_append (by decide)

theorem finishes_unlines {ls ls' : List Text} (h : List.Forall₂ Finishes ls ls') :
    Finishes (Text.unlines ls) (Text.unlines ls') := by
  induction h with
  | nil => exact fun _ => rfl
  | @cons l l' ls ls' hl hls ih =>
    cases hls with
    | nil => exact hl
    | cons hm hms =>
      rw [Text.unlines_cons_cons, Text.unlines_cons_cons]
      exact hl.append ((finishes_of_not_mem (s := ['\n']) (by decide)).append ih)

end Finishes

end Markdown

end WikiText
