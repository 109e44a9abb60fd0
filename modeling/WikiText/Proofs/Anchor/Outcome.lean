import WikiText.Anchor.Resolve
import WikiText.Proofs.Brackets.Search

/-!
# What resolving one bracket can do

A bracket without a span is left alone.  One with a span comes to one of the six ends of `Outcome`,
which name the anchor and the state that follow.  These are all (`outcome_resolve`), and they
exclude each other (`Outcome.unique`), so that what is proved of resolving brackets is proved by
cases on them.
-/

namespace WikiText

namespace Anchor

/-- The label of a footnote that is defined, with the target of the reference and the identifier
that the first reference has. -/
def footnoteTarget (id : Text) (st : RenderState) : AnchorTarget :=
  .footnote (some ('#' :: footnoteElementId id)) (some (footnoteLabel (st.footnoteNumber id).1))
    (if st.found.elem id then none else some (footnoteReferenceId id))

/-- The key of a reference link: its id, or the text of its span where that is empty. -/
def referenceKey (span : Span) (id : Text) : Text :=
  Text.lower (if id.isEmpty then span.text else id)

/-- The index just past a second part, which is followed by `rest` and began with the text
`behind` the span. -/
def stopBefore (span : Span) (behind rest : Text) : Nat :=
  span.stop + (behind.length - rest.length)

/-- The ends that a span comes to, when the text `behind` follows it. -/
inductive Outcome (unescape : Text → Text) (behind : Text) (span : Span) (st : RenderState) :
    Option Anchor → RenderState → Prop where
  | footnote {id : Text} (hid : span.footnoteId? = some id)
      (hdef : st.footnotes.contains id = true) :
      Outcome unescape behind span st (some ⟨span, span.stop, footnoteTarget id st⟩)
        (st.register id)
  | undefined {id : Text} (hid : span.footnoteId? = some id)
      (hdef : st.footnotes.contains id = false) :
      Outcome unescape behind span st
        (some ⟨span, span.stop, .footnote none (some missingLabel) none⟩)
        (st.warn (.undefinedFootnote id))
  | reference {id rest url : Text} (hid : span.footnoteId? = none)
      (hpart : referencePart? behind = some (id, rest))
      (hurl : st.urls.get? (referenceKey span id) = some url) :
      Outcome unescape behind span st
        (some ⟨span, stopBefore span behind rest, .link (some (referenceKey span id)) (some url)
          (st.titles.get? (referenceKey span id))⟩) st
  | unknown {id rest : Text} (hid : span.footnoteId? = none)
      (hpart : referencePart? behind = some (id, rest))
      (hurl : st.urls.get? (referenceKey span id) = none) :
      Outcome unescape behind span st none (st.warn (.linkIdNotFound (referenceKey span id)))
  | inline {part : InlinePart} (hid : span.footnoteId? = none)
      (hpart : referencePart? behind = none) (hinline : inlinePart? behind = some part) :
      Outcome unescape behind span st
        (some (inlineAnchor unescape span part (stopBefore span behind part.rest))) st
  | plain (hid : span.footnoteId? = none) (hpart : referencePart? behind = none)
      (hinline : inlinePart? behind = none) : Outcome unescape behind span st none st

end Anchor

open Anchor

namespace Brackets

theorem text_span? (b : Brackets) (start : Nat) : (b.span? start).2.text = b.text := by
  rw [span?]
  split
  · rfl
  · cases b.closers.lookup start with
    | some stop => rfl
    | none =>
      simp only [close]
      split <;> rfl

end Brackets

namespace Anchor

variable {unescape : Text → Text} {b : Brackets} {start : Nat} {st : RenderState}

theorem resolve_of_span?_eq_none (h : (b.span? start).1 = none) :
    resolve unescape b start st = (none, (b.span? start).2, st) := by
  rw [resolve]
  generalize b.span? start = r at h ⊢
  obtain ⟨_, b'⟩ := r
  obtain rfl := h
  rfl

/-- Each bracket with a span comes to one of the ends. -/
theorem outcome_resolve {span : Span} (h : (b.span? start).1 = some span) :
    Outcome unescape (b.text.drop span.stop) span st (resolve unescape b start st).1
      (resolve unescape b start st).2.2 := by
  have htext := b.text_span? start
  rw [resolve]
  generalize b.span? start = r at h htext ⊢
  obtain ⟨_, b'⟩ := r
  obtain rfl := h
  simp only at htext
  simp only [htext]
  cases hid : span.footnoteId? with
  | some id =>
    simp only [resolveFootnote]
    split
    · next hdef =>
      have htarget : footnoteTarget id st = .footnote (some ('#' :: footnoteElementId id))
          (some (footnoteLabel (st.footnoteNumber id).1))
          (if !st.found.elem id then some (footnoteReferenceId id) else none) := by
        rw [footnoteTarget]
        cases st.found.elem id <;> rfl
      rw [← htarget]
      exact .footnote hid hdef
    · next hdef => exact .undefined hid (by simpa using hdef)
  | none =>
    simp only
    cases hpart : referencePart? (b.text.drop span.stop) with
    | some r =>
      obtain ⟨id, rest⟩ := r
      simp only [resolveReference]
      cases hurl : st.urls.get? (referenceKey span id) with
      | some url =>
        rw [referenceKey] at hurl
        simp only [hurl]
        exact .reference hid hpart hurl
      | none =>
        rw [referenceKey] at hurl
        simp only [hurl]
        exact .unknown hid hpart hurl
    | none =>
      cases hinline : inlinePart? (b.text.drop span.stop) with
      | some part => exact .inline hid hpart hinline
      | none => exact .plain hid hpart hinline

/-- The ends exclude each other. -/
theorem Outcome.unique {behind : Text} {span : Span} {a a' : Option Anchor} {st' st'' : RenderState}
    (h : Outcome unescape behind span st a st') (h' : Outcome unescape behind span st a' st'') :
    a = a' ∧ st' = st'' := by
  cases h <;> cases h' <;> simp_all

theorem resolve_of_outcome {span : Span} {a : Option Anchor} {st' : RenderState}
    (h : (b.span? start).1 = some span)
    (ho : Outcome unescape (b.text.drop span.stop) span st a st') :
    (resolve unescape b start st).1 = a ∧ (resolve unescape b start st).2.2 = st' :=
  (outcome_resolve h).unique ho

end Anchor

end WikiText
