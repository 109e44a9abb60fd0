import WikiText.Text.Blank
import WikiText.Html.Reference

/-! # Text without its tags -/

namespace WikiText.Html

/-- The text without its first comment. -/
private def dropComment? (s : Text) : Option Text := do
  let (before, inside) ← Text.splitOnce? "<!--".toList s
  let (_, after) ← Text.splitOnce? "-->".toList inside
  some (before ++ after)

/-- The text without its first tag. -/
private def dropTag? (s : Text) : Option Text := do
  let (before, inside) ← Text.splitOnce? ['<'] s
  let (_, after) ← Text.splitOnce? ['>'] inside
  some (before ++ after)

/-- Apply a step until it has nothing to do. Each step shortens the text, so as many steps suffice
as the text has characters. -/
private def exhaust (step? : Text → Option Text) : Nat → Text → Text
  | 0, s => s
  | n + 1, s => match step? s with
    | some t => exhaust step? n t
    | none => s

/-- Drop all comments, one formed by the removal of another included, and then all tags. A comment
or tag that is not closed stays, and so does what follows it. -/
def withoutTags (s : Text) : Text :=
  let s := exhaust dropComment? s.length s
  exhaust dropTag? s.length s

/-! ## What is dropped -/

/-- One text becomes the other by dropping stretches from `opening` to `closing`: the first one that
there is, until there is none. -/
inductive Drops (opening closing : Text) : Text → Text → Prop
  | first {s before inside within after t : Text}
      (hopen : Text.splitOnce? opening s = some (before, inside))
      (hclose : Text.splitOnce? closing inside = some (within, after))
      (h : Drops opening closing (before ++ after) t) : Drops opening closing s t
  | none {s : Text}
      (h : ∀ before inside, Text.splitOnce? opening s = some (before, inside) →
        Text.splitOnce? closing inside = Option.none) : Drops opening closing s s

/-- The text without its first stretch from `opening` to `closing`. -/
private def dropStretch? (opening closing s : Text) : Option Text := do
  let (before, inside) ← Text.splitOnce? opening s
  let (_, after) ← Text.splitOnce? closing inside
  some (before ++ after)

section Drops

variable {opening closing : Text}

private theorem dropStretch?_eq_some_iff {s t : Text} :
    dropStretch? opening closing s = some t ↔ ∃ before inside within after,
      Text.splitOnce? opening s = some (before, inside) ∧
        Text.splitOnce? closing inside = some (within, after) ∧ t = before ++ after := by
  simp only [dropStretch?, Option.bind_eq_bind, Option.bind_eq_some_iff, Prod.exists,
    Option.some.injEq]
  constructor
  · rintro ⟨before, inside, hopen, within, after, hclose, rfl⟩
    exact ⟨before, inside, within, after, hopen, hclose, rfl⟩
  · rintro ⟨before, inside, within, after, hopen, hclose, rfl⟩
    exact ⟨before, inside, hopen, within, after, hclose, rfl⟩

private theorem length_lt_of_dropStretch? (hopening : opening ≠ []) {s t : Text}
    (h : dropStretch? opening closing s = some t) : t.length < s.length := by
  obtain ⟨before, inside, within, after, hopen, hclose, rfl⟩ := dropStretch?_eq_some_iff.1 h
  have hpos := List.length_pos_iff.2 hopening
  rw [Text.eq_append_of_splitOnce? hopen, Text.eq_append_of_splitOnce? hclose]
  simp only [List.length_append]
  omega

private theorem drops_of_dropStretch?_eq_none {s : Text}
    (h : dropStretch? opening closing s = none) : Drops opening closing s s := by
  refine .none fun before inside hopen => Option.eq_none_iff_forall_ne_some.2 ?_
  rintro ⟨within, after⟩ hclose
  rw [dropStretch?_eq_some_iff.2 ⟨before, inside, within, after, hopen, hclose, rfl⟩] at h
  exact Option.some_ne_none _ h

private theorem drops_exhaust (hopening : opening ≠ []) {n : Nat} {s : Text} (hn : s.length ≤ n) :
    Drops opening closing s (exhaust (dropStretch? opening closing) n s) := by
  induction n generalizing s with
  | zero =>
    refine drops_of_dropStretch?_eq_none (Option.eq_none_iff_forall_ne_some.2 fun t ht => ?_)
    have := length_lt_of_dropStretch? hopening ht
    omega
  | succ n ih =>
    rw [exhaust]
    cases hstep : dropStretch? opening closing s with
    | none => exact drops_of_dropStretch?_eq_none hstep
    | some t =>
      have hshorter := length_lt_of_dropStretch? hopening hstep
      obtain ⟨before, inside, within, after, hopen, hclose, rfl⟩ :=
        dropStretch?_eq_some_iff.1 hstep
      exact .first hopen hclose (ih (by omega))

end Drops

/-- What is left is determined: each time it is the first stretch that is dropped. -/
theorem Drops.unique {opening closing s t t' : Text} (h : Drops opening closing s t)
    (h' : Drops opening closing s t') : t = t' := by
  induction h with
  | first hopen hclose _ ih =>
    cases h' with
    | first hopen' hclose' h' =>
      obtain ⟨rfl, rfl⟩ := Prod.mk.inj (Option.some.inj (hopen.symm.trans hopen'))
      obtain ⟨rfl, rfl⟩ := Prod.mk.inj (Option.some.inj (hclose.symm.trans hclose'))
      exact ih h'
    | none h' => exact absurd (hclose.symm.trans (h' _ _ hopen)) (Option.some_ne_none _)
  | none h =>
    cases h' with
    | first hopen' hclose' _ =>
      exact absurd (hclose'.symm.trans (h _ _ hopen')) (Option.some_ne_none _)
    | none => rfl

/-- Of a text without its tags, first the comments were dropped and then the tags. -/
theorem exists_drops_withoutTags (s : Text) :
    ∃ u, Drops "<!--".toList "-->".toList s u ∧ Drops ['<'] ['>'] u (withoutTags s) :=
  ⟨_, drops_exhaust (by decide) (Nat.le_refl s.length), drops_exhaust (by decide) (Nat.le_refl _)⟩

/-- The words of a markup: its tags dropped and its white space collapsed. -/
def visibleWords (s : Text) : Text := Text.collapseBlanks (withoutTags s)

/-- The text that a markup shows. -/
def visibleText (s : Text) : Text := unescape (visibleWords s)

end WikiText.Html
