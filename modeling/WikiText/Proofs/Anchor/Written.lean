import WikiText.Proofs.Anchor.Outcome
import WikiText.Proofs.Anchor.Destination

/-!
# Written links are read back

The grammar of links, as a type with its markup, and what each link means in a state.  Main
statement: a well-formed link is resolved to what it means and taken whole, whatever text stands
before and behind it (`resolve_markup`).
-/

namespace WikiText

open Text (Balanced)

/-- A link as an author writes it.  A gap, spaces and marks belong to the writing only. -/
inductive Written where
  | footnote (id : Text)
  | reference (text gap id : Text)
  | inline (text url : Text)
  | titled (text url : Text) (before : Nat) (mark : Char) (title : Text) (behind : Nat)
deriving DecidableEq, Repr

namespace Written

/-- What stands in the brackets. -/
def text : Written → Text
  | .footnote id => '^' :: id
  | .reference t _ _ | .inline t _ | .titled t _ _ _ _ _ => t

/-- What follows the brackets. -/
def secondPart : Written → Text
  | .footnote _ => []
  | .reference _ g id => g ++ '[' :: (id ++ [']'])
  | .inline _ u => '(' :: (u ++ [')'])
  | .titled _ u n mark w m => '(' :: (u ++ (spaces n ++ mark :: (w ++ mark :: (spaces m ++ [')']))))

def markup (l : Written) : Text := '[' :: (l.text ++ ']' :: l.secondPart)

/-- The text of a link is balanced, and is not a caret with something behind it. -/
def IsText (t : Text) : Prop := Balanced t ∧ (t.head? = some '^' → t = ['^'])

instance (t : Text) : Decidable (IsText t) := inferInstanceAs (Decidable (_ ∧ _))

/-- A link is well-formed in a state that defines what it refers to.  Its destination and its title
are such that nothing behind the link can change them. -/
def WellFormed (st : RenderState) : Written → Prop
  | .footnote id => Balanced id ∧ id ≠ [] ∧ st.footnotes.contains id = true
  | .reference t g id =>
    IsText t ∧ IsGap g ∧ (']' ∉ id ∧ '\n' ∉ id) ∧
      st.urls.contains (Text.lower (if id.isEmpty then t else id)) = true
  | .inline t u => IsText t ∧ IsDestination u
  | .titled t u _ mark w _ => IsText t ∧ IsDestination u ∧ IsMark mark ∧ IsTitle mark w

instance (st : RenderState) : (l : Written) → Decidable (l.WellFormed st)
  | .footnote _ | .reference _ _ _ | .titled _ _ _ _ _ _ =>
    inferInstanceAs (Decidable (_ ∧ _ ∧ _))
  | .inline _ _ => inferInstanceAs (Decidable (_ ∧ _))

/-- Where a destination leads; a lone number sign stands for the text of the link. -/
def href (t u : Text) : Text := if u = ['#'] then '#' :: t else u

/-- What a link means in a state. -/
def target (st : RenderState) : Written → AnchorTarget
  | .footnote id => Anchor.footnoteTarget id st
  | .reference t _ id =>
    let key := Text.lower (if id.isEmpty then t else id)
    .link (some key) (st.urls.get? key) (st.titles.get? key)
  | .inline t u => .link none (some (href t u)) none
  | .titled t u _ _ w _ =>
    .link none (some (href t u))
      (some (w.flatMap fun c => if c = '"' then "&quot;".toList else [c]))

/-- The anchor of a link that begins at `start`. -/
def anchor (st : RenderState) (start : Nat) (l : Written) : Anchor :=
  ⟨⟨l.text, start, start + l.text.length + 2⟩, start + l.markup.length, l.target st⟩

theorem WellFormed.balanced {st : RenderState} {l : Written} (h : l.WellFormed st) :
    Balanced l.text := by
  cases l with
  | footnote id =>
    rw [← Text.closing_zero]
    exact (Text.closing_cons (by decide) (by decide)).2 (Text.closing_zero.2 h.1)
  | reference t g id => exact h.1.1
  | inline t u => exact h.1.1
  | titled t u n mark w m => exact h.1.1

end Written

section Balanced

variable {t : Text} (ht : Balanced t) (pre rest : Text)

private theorem drop_opening :
    (pre ++ '[' :: (t ++ ']' :: rest)).drop (pre.length + 1) = t ++ ']' :: rest := by
  rw [← List.drop_drop, List.drop_left]
  rfl

theorem drop_closing :
    (pre ++ '[' :: (t ++ ']' :: rest)).drop (pre.length + t.length + 2) = rest := by
  rw [show pre.length + t.length + 2 = (pre ++ '[' :: (t ++ [']'])).length by simp; omega,
    show pre ++ '[' :: (t ++ ']' :: rest) = (pre ++ '[' :: (t ++ [']'])) ++ rest by simp,
    List.drop_left]

theorem spanTo_balanced :
    Brackets.spanTo (pre ++ '[' :: (t ++ ']' :: rest)) pre.length (pre.length + t.length + 2) =
      ⟨t, pre.length, pre.length + t.length + 2⟩ := by
  rw [Brackets.spanTo, List.drop_take, drop_opening,
    show pre.length + t.length + 2 - 1 - (pre.length + 1) = t.length by omega, List.take_left]

include ht

theorem closer?_balanced : closer? (pre ++ '[' :: (t ++ ']' :: rest)) pre.length =
    some (pre.length + t.length + 2) :=
  closer?_eq_some_iff_balanced.2 ⟨t, rest, drop_opening pre rest, ht, rfl⟩

/-- Balanced text in brackets is a span, wherever it stands. -/
theorem span?_balanced :
    ((Brackets.ofText (pre ++ '[' :: (t ++ ']' :: rest))).span? pre.length).1 =
      some ⟨t, pre.length, pre.length + t.length + 2⟩ := by
  rw [Brackets.span?_ofText, closer?_balanced ht, Option.map_some, spanTo_balanced]

end Balanced

theorem Written.IsText.footnoteId? {span : Span} (h : IsText span.text) :
    span.footnoteId? = none := by
  rw [Span.footnoteId?]
  split
  · next c id ht =>
    rw [ht] at h
    exact absurd (h.2 rfl) (by simp)
  · rfl

namespace Written

/-- The span of a link that begins at `start`. -/
def span (start : Nat) (l : Written) : Span := ⟨l.text, start, start + l.text.length + 2⟩

theorem stopBefore_span (start : Nat) (l : Written) (suf : Text) :
    Anchor.stopBefore (l.span start) (l.secondPart ++ suf) suf = start + l.markup.length := by
  simp only [Anchor.stopBefore, span, markup, List.length_append, List.length_cons]
  omega

/-- Of the ends of its span, a well-formed link comes to the one that it means. -/
theorem WellFormed.outcome {st : RenderState} {l : Written} (h : l.WellFormed st) (start : Nat)
    (suf : Text) :
    ∃ st', Anchor.Outcome id (l.secondPart ++ suf) (l.span start) st
      (some (l.anchor st start)) st' := by
  have hstop := stopBefore_span start l suf
  cases l with
  | footnote id =>
    obtain ⟨-, hne, hdef⟩ := h
    have hid : (span start (.footnote id)).footnoteId? = some id := by
      cases id with
      | nil => exact absurd rfl hne
      | cons c id => rfl
    have hanchor : anchor st start (.footnote id) =
        ⟨span start (.footnote id), (span start (.footnote id)).stop,
          Anchor.footnoteTarget id st⟩ := by
      simp only [anchor, span, target, markup, secondPart, text, List.length_append,
        List.length_cons, List.length_nil]
      congr 1
    rw [hanchor]
    exact ⟨_, .footnote hid hdef⟩
  | reference t g id =>
    obtain ⟨ht, hg, ⟨hclose, hline⟩, hkey⟩ := h
    have hpart : referencePart? (secondPart (.reference t g id) ++ suf) = some (id, suf) :=
      referencePart?_eq_some_iff.2 ⟨g, hg, by simp [secondPart], hclose, hline⟩
    obtain ⟨url, hurl⟩ := Option.isSome_iff_exists.1 hkey
    have hanchor : anchor st start (.reference t g id) =
        ⟨span start (.reference t g id), start + (markup (.reference t g id)).length,
          .link (some (Text.lower (if id.isEmpty then t else id))) (some url)
            (st.titles.get? (Text.lower (if id.isEmpty then t else id)))⟩ := by
      rw [anchor, target, hurl]
      rfl
    rw [hanchor, ← hstop]
    exact ⟨_, .reference (IsText.footnoteId? ht) hpart hurl⟩
  | inline t u =>
    obtain ⟨ht, hu⟩ := h
    have hpart : inlinePart? (secondPart (.inline t u) ++ suf) = some ⟨u, none, suf⟩ := by
      simpa [secondPart] using isDestination_iff.1 hu suf
    have hanchor : anchor st start (.inline t u) =
        Anchor.inlineAnchor id (span start (.inline t u)) ⟨u, none, suf⟩
          (start + (markup (.inline t u)).length) := rfl
    rw [hanchor, ← hstop]
    exact ⟨_, .inline (IsText.footnoteId? ht) rfl hpart⟩
  | titled t u n mark w m =>
    obtain ⟨ht, hu, hm, hw⟩ := h
    have hpart : inlinePart? (secondPart (.titled t u n mark w m) ++ suf) =
        some ⟨u, some w, suf⟩ := by
      simpa [secondPart] using (isTitle_iff hu hm n m suf).1 hw
    have hanchor : anchor st start (.titled t u n mark w m) =
        Anchor.inlineAnchor id (span start (.titled t u n mark w m)) ⟨u, some w, suf⟩
          (start + (markup (.titled t u n mark w m)).length) := rfl
    rw [hanchor, ← hstop]
    exact ⟨_, .inline (IsText.footnoteId? ht) rfl hpart⟩

end Written

namespace Anchor

/-- A well-formed link is resolved to what it means, and taken whole. -/
theorem resolve_markup (l : Written) (st : RenderState) (h : l.WellFormed st) (pre suf : Text) :
    (resolve id (.ofText (pre ++ l.markup ++ suf)) pre.length st).1 =
      some (l.anchor st pre.length) := by
  have htext : pre ++ l.markup ++ suf = pre ++ '[' :: (l.text ++ ']' :: (l.secondPart ++ suf)) := by
    simp [Written.markup]
  have hspan := span?_balanced h.balanced pre (l.secondPart ++ suf)
  have hbehind := drop_closing (t := l.text) pre (l.secondPart ++ suf)
  obtain ⟨st', ho⟩ := h.outcome pre.length suf
  rw [← hbehind] at ho
  rw [htext]
  exact (resolve_of_outcome hspan ho).1

/-- A link with brackets in its text and quotation marks in its title, before a parenthesis that
could end another one. -/
theorem resolve_markup_titled :
    (Written.titled "a [b] c".toList "x".toList 1 '"' "say \"hi\"".toList 2).WellFormed {} ∧
      (resolve id (.ofText "[ [a [b] c](x \"say \"hi\"\"  )\")".toList) 2 {}).1 =
        some ⟨⟨"a [b] c".toList, 2, 11⟩, 27,
          .link none (some "x".toList) (some "say &quot;hi&quot;".toList)⟩ := by
  have h :
      (Written.titled "a [b] c".toList "x".toList 1 '"' "say \"hi\"".toList 2).WellFormed {} := by
    decide
  exact ⟨h, resolve_markup _ {} h "[ ".toList "\")".toList⟩

end Anchor

end WikiText
