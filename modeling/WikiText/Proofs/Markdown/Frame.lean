import Mathlib.Data.List.Forall2
import WikiText.Html.Traverse
import WikiText.Markdown.HeadingIds
import WikiText.Markdown.Layout
import WikiText.Proofs.Returns

/-!
# What completing a document leaves alone

The frame of a tree is what is left of it without data and without the attributes of headings.
Setting the line ends and giving the headings their identifiers change no frame: see `frame_layOut`
and `frame_identifyHeadings`.
-/

namespace WikiText

open Html

open Returns (returns)

namespace Html.Element

section MapM

variable {m : Type → Type} [Monad m] [Returns m] {f : Element → m Element}

mutual

/-- A step that is applied throughout a tree is applied to each element with what became of its
children. -/
theorem exists_of_mapM : ∀ {e e' : Element}, returns (mapM f e) e' →
    ∃ children, List.Forall₂ (fun c c' => returns (mapM f c) c') e.children children ∧
      returns (f (e.withChildren children)) e'
  | .mk tag attributes data children tail, e', h => by
    rw [mapM] at h
    obtain ⟨children', hchildren, h⟩ := Returns.of_bind h
    exact ⟨children', forall₂_of_mapListM hchildren, h⟩

theorem forall₂_of_mapListM : ∀ {es es' : List Element}, returns (mapListM f es) es' →
    List.Forall₂ (fun c c' => returns (mapM f c) c') es es'
  | [], es', h => by
    rw [mapListM] at h
    rw [Returns.of_pure h]
    exact .nil
  | e :: es, es', h => by
    rw [mapListM] at h
    obtain ⟨e', he, h⟩ := Returns.of_bind h
    obtain ⟨es'', hes, h⟩ := Returns.of_bind h
    rw [Returns.of_pure h]
    exact .cons he (forall₂_of_mapListM hes)

end

end MapM

end Html.Element

namespace Markdown

/-! ## Frames -/

mutual

/-- The tags in a tree, and the attributes of all elements but headings. -/
def frame : Element → Element
  | .mk tag attributes _ children _ =>
    .mk tag (if (headingLevel? (.mk tag [] .empty [] .empty)).isSome then [] else attributes) .empty
      (frames children) .empty

def frames : List Element → List Element
  | [] => []
  | e :: es => frame e :: frames es

end

theorem frames_eq (es : List Element) : frames es = es.map frame := by
  induction es with
  | nil => rfl
  | cons e es ih => rw [frames, ih, List.map_cons]

theorem frame_eq (e : Element) : frame e =
    .mk e.tag (if (headingLevel? e).isSome then [] else e.attributes) .empty
      (e.children.map frame) .empty := by
  cases e
  rw [frame, frames_eq]
  rfl

theorem tag_of_frame {e e' : Element} (h : frame e' = frame e) : e'.tag = e.tag := by
  rw [frame_eq, frame_eq] at h
  exact (Element.mk.inj h).1

theorem headingLevel_of_frame {e e' : Element} (h : frame e' = frame e) :
    headingLevel? e' = headingLevel? e := by rw [headingLevel?, headingLevel?, tag_of_frame h]

theorem attributes_of_frame {e e' : Element} (h : frame e' = frame e)
    (hheading : headingLevel? e = none) : e'.attributes = e.attributes := by
  have hheading' := (headingLevel_of_frame h).trans hheading
  rw [frame_eq, frame_eq, hheading, hheading'] at h
  exact (Element.mk.inj h).2.1

theorem children_of_frame {e e' : Element} (h : frame e' = frame e) :
    e'.children.map frame = e.children.map frame := by
  rw [frame_eq, frame_eq] at h
  exact (Element.mk.inj h).2.2.2.1

/-- Two elements with the same tag have the same frame if they have the same attributes, or are
headings, and their children have the same frames. -/
theorem frame_congr {e e' : Element} (htag : e'.tag = e.tag)
    (hattributes : headingLevel? e = none → e'.attributes = e.attributes)
    (hchildren : e'.children.map frame = e.children.map frame) : frame e' = frame e := by
  have hheading : headingLevel? e' = headingLevel? e := by
    rw [headingLevel?, headingLevel?, htag]
  rw [frame_eq, frame_eq, htag, hchildren, hheading]
  cases h : headingLevel? e with
  | none => rw [hattributes h]
  | some level => rfl

theorem frame_withData (e : Element) (d : Data) : frame (e.withData d) = frame e := by
  apply frame_congr <;> simp

theorem frame_withTail (e : Element) (d : Data) : frame (e.withTail d) = frame e := by
  apply frame_congr <;> simp

mutual

/-- A step that changes no frame changes none throughout a tree. -/
theorem frame_mapM {m : Type → Type} [Monad m] [Returns m] {f : Element → m Element}
    (hf : ∀ e e', returns (f e) e' → frame e' = frame e) :
    ∀ {e e' : Element}, returns (Element.mapM f e) e' → frame e' = frame e
  | .mk tag attributes data children tail, e', h => by
    rw [Element.mapM] at h
    obtain ⟨children', hchildren, h⟩ := Returns.of_bind h
    rw [hf _ _ h]
    exact frame_congr rfl (fun _ => rfl) (frame_mapListM hf hchildren)

theorem frame_mapListM {m : Type → Type} [Monad m] [Returns m] {f : Element → m Element}
    (hf : ∀ e e', returns (f e) e' → frame e' = frame e) :
    ∀ {es es' : List Element}, returns (Element.mapListM f es) es' →
      es'.map frame = es.map frame
  | [], es', h => by
    rw [Element.mapListM] at h
    rw [Returns.of_pure h]
  | e :: es, es', h => by
    rw [Element.mapListM] at h
    obtain ⟨e', he, h⟩ := Returns.of_bind h
    obtain ⟨es'', hes, h⟩ := Returns.of_bind h
    rw [Returns.of_pure h, List.map_cons, List.map_cons, frame_mapM hf he, frame_mapListM hf hes]

end

/-! ## Line ends and identifiers -/

mutual

theorem frame_layOutBlocks : ∀ e : Element, frame (layOutBlocks e) = frame e
  | .mk tag attributes data children tail => by
    rw [layOutBlocks]
    dsimp only
    split
    · exact frame_congr rfl (fun _ => rfl) (frames_layOutEach children)
    · exact frame_congr rfl (fun _ => rfl) rfl

theorem frames_layOutEach : ∀ es : List Element, (layOutEach es).map frame = es.map frame
  | [] => rfl
  | e :: es => by
    rw [layOutEach, List.map_cons, List.map_cons, frames_layOutEach es]
    split
    · rw [frame_layOutBlocks e]
    · rfl

end

theorem frame_layOutBreak (e : Element) : frame (layOutBreak e) = frame e := by
  rw [layOutBreak]
  split
  · exact frame_withTail e _
  · rfl

theorem frame_layOutCode (e : Element) : frame (layOutCode e) = frame e := by
  rw [layOutCode]
  split
  · next code rest hchildren =>
    split
    · refine frame_congr (by simp) (fun _ => by simp) ?_
      rw [hchildren, Element.children_withChildren, List.map_cons, List.map_cons, frame_withData]
    · rfl
  · rfl

/-- Setting the line ends changes data only. -/
theorem frame_layOut (root : Element) : frame (layOut root) = frame root := by
  have hstep : ∀ e e' : Element, returns (m := Id) (pure (layOutCode (layOutBreak e))) e' →
      frame e' = frame e := by
    rintro e _ rfl
    exact (frame_layOutCode _).trans (frame_layOutBreak e)
  exact (frame_mapM hstep rfl).trans (frame_layOutBlocks root)

theorem frame_identify {separator : Text} {stash : Stash} {e e' : Element}
    (h : returns (identify separator stash e) e') : frame e' = frame e := by
  rw [identify] at h
  split at h
  · rw [Returns.of_pure h]
  · next level hlevel =>
    obtain ⟨slug, -, h⟩ := Returns.of_bind h
    obtain ⟨progress, -, h⟩ := Returns.of_bind h
    obtain ⟨-, -, h⟩ := Returns.of_bind h
    rw [Returns.of_pure h]
    refine frame_congr (by cases e; rfl) (fun hnone => ?_) (by cases e; rfl)
    exact absurd (hlevel.symm.trans hnone) (Option.some_ne_none level)

/-- Giving identifiers changes the attributes of headings only. -/
theorem frame_identifyHeadings {separator : Text} {stash : Stash} {root root' : Element}
    {headings : List Heading}
    (h : identifyHeadings separator stash root = .ok (root', headings)) :
    frame root' = frame root := by
  rw [identifyHeadings] at h
  obtain ⟨⟨root'', progress⟩, hmap, h⟩ := Returns.of_bind (m := Except Failure) h
  obtain rfl : root' = root'' := congrArg Prod.fst (Except.ok.inj h).symm
  have hreturns : returns (Element.mapM (identify separator stash) root) root' := ⟨_, _, hmap⟩
  exact frame_mapM (fun _ _ => frame_identify) hreturns

end Markdown

end WikiText
