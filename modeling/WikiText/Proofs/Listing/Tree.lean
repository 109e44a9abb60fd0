import WikiText.Proofs.Listing.Boxes
import WikiText.Proofs.Markdown.Written
import WikiText.Proofs.Prose.Footnotes

/-!
# Boxes are written

There is nothing to be found in the text of the boxes, so the tree of a document stays as it is but
for its line ends, and each box is written on its own (`writeInside_rootLaidOut`).
-/

namespace WikiText

namespace Listing

open Html (Element Data)
open Markdown
open Prose (IsCalm isDone_ofTag)

/-! ## Boxes at the end of a document -/

namespace Box

/-- Nothing is to be found in the text of the box, and it is its own escaped form. -/
def IsPlain : Box → Prop
  | .text s => IsCalm s ∧ ∀ c ∈ s, Html.escapeChar .plain c = [c]
  | .code _ => True

/-- A box with its line ends set. -/
def laidOut : Box → Element
  | .text s => ((Element.ofTag "p").withText s).withTail lineEnd
  | .code s =>
    ((Element.ofTag "pre").push
      ((Element.ofTag "code").withData ⟨Text.trimEnd s ++ ['\n'], true⟩)).withTail lineEnd

def markup : Box → Text
  | .text s => "<p>".toList ++ s ++ "</p>".toList
  | .code s =>
    "<pre><code>".toList ++ Html.escapeOnce .plain (Text.trimEnd s ++ ['\n']) ++
      "</code></pre>".toList

end Box

/-- The root with its line ends set. -/
def rootLaidOut (bs : List Box) : Element :=
  .mk "div".toList [] (if bs = [] then .empty else lineEnd) (bs.map Box.laidOut) lineEnd

variable {b : Box} {bs : List Box}

theorem every_isStill_element (h : b.IsPlain) : b.element.Every IsStill := by
  cases b with
  | text s => exact ((isDone_ofTag (by decide) (by decide) (by decide)).withText h.1).still
  | code s =>
    have hcode : ((Element.ofTag "code").withData ⟨s, true⟩).Every IsStill :=
      Element.every_iff.2 ⟨⟨.inl rfl, rfl⟩, fun _ hc => absurd hc List.not_mem_nil⟩
    have hnil : IsCalm [] := by decide
    exact Element.every_iff.2 ⟨⟨.inr ⟨hnil.quiet, hnil.bracket, hnil.unmarked⟩, rfl⟩,
      List.forall_mem_singleton.2 hcode⟩

/-! ## Line ends -/

theorem isBlockTag_element (b : Box) : isBlockTag b.element.tag = true := by
  cases b with
  | text s => exact isBlockTag_p
  | code s => exact isBlockTag_pre

theorem layOut_element (b : Box) : layOut b.element = b.laidOut := by
  cases b with
  | text s =>
    exact layOut_of_inline isBlockTag_p (by decide) [] ⟨s, false⟩ fun _ hc =>
      absurd hc List.not_mem_nil
  | code s => rfl

theorem layOut_rootOf (bs : List Box) : layOut (rootOf bs.reverse) = rootLaidOut bs := by
  have hroot : rootOf bs.reverse = .mk "div".toList [] .empty (bs.map Box.element) .empty := by
    rw [rootOf, List.reverse_reverse]
    rfl
  rw [hroot, rootLaidOut]
  by_cases hne : bs = []
  · rw [hne]
    rfl
  · rw [if_neg hne, layOut_of_blocks isBlockTag_div (by decide) [] (by simpa using hne)
      (List.forall_mem_map.2 fun b _ => isBlockTag_element b), List.map_map]
    exact congrArg (Element.mk _ _ _ · _) (List.map_congr_left fun b _ => layOut_element b)

theorem complete_rootOf (opts : Options) (st : InlineState) (bs : List Box) :
    complete opts {} st (rootOf bs.reverse) = .ok (rootLaidOut bs, []) := by
  have hlevel : (rootLaidOut bs).Every fun e => headingLevel? e = none := by
    have hdiv : headingLevel? (.ofTag "div") = none := by decide
    have hp : headingLevel? (.ofTag "p") = none := by decide
    have hpre : headingLevel? (.ofTag "pre") = none := by decide
    have hcode : headingLevel? (.ofTag "code") = none := by decide
    refine Element.every_iff.2 ⟨hdiv, List.forall_mem_map.2 fun b _ => ?_⟩
    cases b with
    | text s => exact Element.every_iff.2 ⟨hp, fun _ hc => absurd hc List.not_mem_nil⟩
    | code s =>
      refine Element.every_iff.2 ⟨hpre, List.forall_mem_singleton.2 ?_⟩
      exact Element.every_iff.2 ⟨hcode, fun _ hc => absurd hc List.not_mem_nil⟩
  have hreorder : Footnotes.reorder {} st.render.found (rootOf bs.reverse) =
      .ok (rootOf bs.reverse) := rfl
  rw [complete, hreorder]
  have hidentify := identifyHeadings_of_every opts.slugSeparator st.stash hlevel
  rw [← layOut_rootOf] at hidentify
  rw [← layOut_rootOf]
  exact hidentify

/-! ## Writing -/

theorem unescape_lineEnd : Node.unescape lineEnd.text = lineEnd.text := by
  have hnowhere : Text.Nowhere Node.escaped? lineEnd.text := by decide
  exact Node.unescape_of_nowhere hnowhere

theorem unescape_nil : Node.unescape [] = [] := by
  have hnowhere : Text.Nowhere Node.escaped? [] := trivial
  exact Node.unescape_of_nowhere hnowhere

theorem map_unescapeText_laidOut (h : b.IsPlain) : b.laidOut.map unescapeText = b.laidOut := by
  cases b with
  | text s =>
    have hbox : (Box.text s).laidOut = .mk "p".toList [] ⟨s, false⟩ [] lineEnd := rfl
    have hp : ("p".toList = "code".toList) = False := eq_false (by decide)
    have hs : Node.unescape s = s := Node.unescape_of_nowhere h.1.settled.escaped
    rw [hbox, Element.map_mk, List.map_nil, unescapeText]
    simp only [Element.hasTag, Element.tag, hp, decide_false, Bool.false_eq_true, if_false,
      Element.attributes, List.map_nil, Element.data, hs, Element.children, Element.tail,
      unescape_lineEnd]
  | code s =>
    have hbox : (Box.code s).laidOut = .mk "pre".toList [] .empty
        [.mk "code".toList [] ⟨Text.trimEnd s ++ ['\n'], true⟩ [] .empty] lineEnd := rfl
    have hpre : ("pre".toList = "code".toList) = False := eq_false (by decide)
    rw [hbox, Element.map_mk, List.map_singleton, Element.map_mk, List.map_nil, unescapeText,
      unescapeText]
    simp only [Element.hasTag, Element.tag, hpre, decide_false, Bool.false_eq_true, if_false,
      decide_true, if_true, Element.attributes, List.map_nil, Element.data, Data.empty,
      unescape_nil, Element.children, Element.tail, unescape_lineEnd]

theorem map_unescapeText_rootLaidOut (h : ∀ b ∈ bs, b.IsPlain) :
    (rootLaidOut bs).map unescapeText = rootLaidOut bs := by
  have hchildren : (bs.map Box.laidOut).map (·.map unescapeText) = bs.map Box.laidOut := by
    rw [List.map_map]
    exact List.map_congr_left fun b hb => map_unescapeText_laidOut (h b hb)
  have hdata : Node.unescape (if bs = [] then Data.empty else lineEnd).text =
      (if bs = [] then Data.empty else lineEnd).text := by
    split
    · exact unescape_nil
    · exact unescape_lineEnd
  have hdiv : ("div".toList = "code".toList) = False := eq_false (by decide)
  rw [rootLaidOut, Element.map_mk, hchildren, unescapeText]
  simp only [Element.hasTag, Element.tag, hdiv, decide_false, Bool.false_eq_true, if_false,
    Element.attributes, List.map_nil, Element.data, hdata, Element.children, Element.tail,
    unescape_lineEnd]

theorem markup_code (s : Text) : (Box.code s).markup =
    "<pre><code>".toList ++ Html.escapeOnce .plain (Text.trimEnd s ++ ['\n']) ++
      "</code></pre>".toList := rfl

theorem markup_laidOut (h : b.IsPlain) : b.laidOut.markup .closed = b.markup ++ ['\n'] := by
  cases b with
  | text s =>
    have hs : Html.escapeOnce .plain s = s := Html.escapeOnce_eq_self h.2
    have hmarkup : (Box.text s).laidOut.markup .closed =
      "<p>".toList ++ (Html.escapeOnce .plain s ++ [] ++ "</p>".toList) ++ ['\n'] := rfl
    rw [hmarkup, hs, List.append_nil, ← List.append_assoc]
    rfl
  | code s =>
    have hmarkup : (Box.code s).laidOut.markup .closed =
      "<pre>".toList ++ ([] ++ ("<code>".toList ++ (Html.escapeOnce .plain
        (Text.trimEnd s ++ ['\n']) ++ [] ++ "</code>".toList) ++ [] ++ []) ++
          "</pre>".toList) ++ ['\n'] := rfl
    rw [hmarkup, markup_code]
    generalize Html.escapeOnce .plain _ = t
    simp

theorem isTrimmed_markup (b : Box) : Text.IsTrimmed b.markup := by
  cases b with
  | text s =>
    have hopening : Text.IsTrimmed "<p>".toList := by decide
    have hclosing : Text.IsTrimmed "</p>".toList := by decide
    exact Text.isTrimmed_append hopening s hclosing
  | code s =>
    have hopening : Text.IsTrimmed "<pre><code>".toList := by decide
    have hclosing : Text.IsTrimmed "</code></pre>".toList := by decide
    exact Text.isTrimmed_append hopening _ hclosing

/-- The boxes of a document are written with a line end between each two. -/
theorem writeInside_rootLaidOut (h : ∀ b ∈ bs, b.IsPlain) :
    writeInside ((rootLaidOut bs).map unescapeText) = Text.unlines (bs.map Box.markup) := by
  rw [map_unescapeText_rootLaidOut h]
  by_cases hne : bs = []
  · rw [hne]
    decide
  · have hmarkup : Element.markupList .closed (bs.map Box.laidOut) =
        (bs.map Box.markup).flatMap (· ++ ['\n']) := by
      rw [markupList_eq_flatMap, List.flatMap_map, List.flatMap_map]
      exact List.flatMap_congr fun b hb => markup_laidOut (h b hb)
    rw [rootLaidOut, if_neg hne]
    exact writeInside_of_markupList hmarkup (fun hnil => hne (List.map_eq_nil_iff.1 hnil))
      (List.forall_mem_map.2 fun b _ => isTrimmed_markup b) lineEnd

end Listing

end WikiText
