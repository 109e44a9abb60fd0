import WikiText.Proofs.Anchor.Destination
import WikiText.Proofs.Anchor.Outcome

/-!
# Destinations and closing parentheses

A destination takes one character at least, whichever this is, and ends at the first closing
parenthesis behind it.  So it goes past its own parenthesis only where this stands at once: in
parentheses with nothing but spaces and an angle bracket between them.  Main statement:
`destination_of_resolve`.
-/

namespace WikiText

open Text (isSpace)

/-- Parentheses with no more than spaces and an angle bracket between them. -/
def EmptyParens (s : Text) : Prop :=
  ∃ n angle rest, (angle = [] ∨ angle = ['<']) ∧ s = '(' :: (spaces n ++ (angle ++ ')' :: rest))

/-- Behind its first character a destination holds no closing parenthesis, as this would end it. -/
theorem FirstEnd.paren_not_mem {c : Char} {v t : Text} (h : FirstEnd (c :: v) t) : ')' ∉ v := by
  intro hv
  obtain ⟨x, y, rfl⟩ := List.append_of_mem hv
  have hend : ending? (')' :: y ++ t) = none :=
    h (c :: x) (')' :: y) rfl (List.cons_ne_nil _ _) (List.cons_ne_nil _ _)
  rw [List.cons_append, ending?_paren] at hend
  exact Option.some_ne_none _ hend

/-- A destination holds a closing parenthesis just when it is read from one on. -/
theorem paren_of_shortestUrl? {s : Text} {p : InlinePart} (h : shortestUrl? s = some p) :
    ')' ∉ p.url.tail ∧ (')' ∈ p.url ↔ ∃ r, s = ')' :: r) := by
  obtain ⟨t, rfl, hne, -, hfirst, -⟩ := shortestUrl?_eq_some_iff.1 h
  obtain ⟨c, v, hu⟩ := List.exists_cons_of_ne_nil hne
  rw [hu] at hfirst ⊢
  have hv : ')' ∉ v := hfirst.paren_not_mem
  refine ⟨hv, ?_⟩
  rw [List.mem_cons, List.cons_append]
  constructor
  · rintro (rfl | hmem)
    · exact ⟨v ++ t, rfl⟩
    · exact absurd hmem hv
  · rintro ⟨r, hr⟩
    exact .inl (List.cons.inj hr).1.symm

theorem emptyParens_iff {s : Text} :
    EmptyParens ('(' :: s) ↔ ∃ angle rest, (angle = [] ∨ angle = ['<']) ∧
      s.dropWhile isSpace = angle ++ ')' :: rest := by
  constructor
  · rintro ⟨n, angle, rest, hangle, hs⟩
    refine ⟨angle, rest, hangle, ?_⟩
    rw [(List.cons.inj hs).2, dropWhile_spaces]
    rcases hangle with rfl | rfl
    · rfl
    · rfl
  · rintro ⟨angle, rest, hangle, hs⟩
    obtain ⟨n, hn⟩ := exists_spaces s
    exact ⟨n, angle, rest, hangle, by rw [← hs, ← hn]⟩

/-- Only in empty parentheses a destination holds a closing parenthesis, and then it is its first
character.  There, a space or an angle bracket may be the destination instead. -/
theorem paren_of_inlinePart? {s : Text} {p : InlinePart} (h : inlinePart? s = some p) :
    ')' ∉ p.url.tail ∧
      (')' ∈ p.url ↔ EmptyParens s ∧ p.url ≠ [' '] ∧ p.url ≠ ['<']) := by
  obtain ⟨inner, rfl, -⟩ := eq_append_of_inlinePart? h
  generalize inner ++ ')' :: p.rest = s at h ⊢
  -- A destination with a parenthesis in it is neither of the two single characters.
  have hsingle : ')' ∈ p.url → p.url ≠ [' '] ∧ p.url ≠ ['<'] := by
    intro hmem
    constructor
    · intro hu
      rw [hu] at hmem
      exact absurd hmem (by decide)
    · intro hu
      rw [hu] at hmem
      exact absurd hmem (by decide)
  rcases inlinePart?_cases h with ⟨t, ht, hp⟩ | ⟨_, -, -, hp⟩ | ⟨hangle, hp⟩ | hp
  · obtain ⟨htail, hiff⟩ := paren_of_shortestUrl? hp
    refine ⟨htail, fun hmem => ⟨?_, hsingle hmem⟩, ?_⟩
    · obtain ⟨r, rfl⟩ := hiff.1 hmem
      exact emptyParens_iff.2 ⟨['<'], r, .inr rfl, ht⟩
    · rintro ⟨hempty, -⟩
      obtain ⟨angle, r, rfl | rfl, hs⟩ := emptyParens_iff.1 hempty
      · exact absurd (List.cons.inj (hs.symm.trans ht)).1 (by decide)
      · exact hiff.2 ⟨r, (List.cons.inj (ht.symm.trans hs)).2⟩
  · rw [hp]
    exact ⟨List.not_mem_nil, fun hmem => absurd hmem (by decide),
      fun ⟨_, _, hne⟩ => absurd rfl hne⟩
  · obtain ⟨htail, hiff⟩ := paren_of_shortestUrl? hp
    refine ⟨htail, fun hmem => ⟨?_, hsingle hmem⟩, ?_⟩
    · obtain ⟨r, hr⟩ := hiff.1 hmem
      exact emptyParens_iff.2 ⟨[], r, .inl rfl, hr⟩
    · rintro ⟨hempty, -⟩
      obtain ⟨angle, r, rfl | rfl, hs⟩ := emptyParens_iff.1 hempty
      · exact hiff.2 ⟨r, hs⟩
      · exact absurd hs (hangle (')' :: r))
  · rw [hp]
    exact ⟨List.not_mem_nil, fun hmem => absurd hmem (by decide),
      fun ⟨_, hne, _⟩ => absurd rfl hne⟩

namespace Anchor

/-- An inline link is one with a second part in parentheses. -/
theorem Outcome.inline_of_target {unescape : Text → Text} {behind : Text} {span : Span}
    {st st' : RenderState} {a : Anchor} (h : Outcome unescape behind span st (some a) st')
    {href title : Option Text} (htarget : a.target = .link none href title) :
    ∃ part, inlinePart? behind = some part ∧
      a = inlineAnchor unescape span part (stopBefore span behind part.rest) := by
  cases h with
  | inline _ _ hinline => exact ⟨_, hinline, rfl⟩
  | footnote | undefined | reference => cases htarget

/-- The destination of an inline link is its target, or a number sign for the target that the link's
text names.  It holds no closing parenthesis behind its first character, and none at all unless the
parentheses behind the link's text are empty. -/
theorem destination_of_resolve {unescape : Text → Text} {b : Brackets} {start : Nat}
    {st : RenderState} {a : Anchor} {href title : Option Text}
    (h : (resolve unescape b start st).1 = some a) (htarget : a.target = .link none href title) :
    ∃ u, (∃ part, inlinePart? (b.text.drop a.span.stop) = some part ∧ part.url = u) ∧
      href = some (if unescape u = ['#'] then '#' :: unescape a.span.text else unescape u) ∧
      ')' ∉ u.tail ∧
      (')' ∈ u ↔ EmptyParens (b.text.drop a.span.stop) ∧ u ≠ [' '] ∧ u ≠ ['<']) := by
  cases hspan : (b.span? start).1 with
  | none =>
    rw [resolve_of_span?_eq_none hspan] at h
    cases h
  | some span =>
    have houtcome : Outcome unescape (b.text.drop span.stop) span st
        (resolve unescape b start st).1 (resolve unescape b start st).2.2 := outcome_resolve hspan
    rw [h] at houtcome
    obtain ⟨part, hpart, rfl⟩ := houtcome.inline_of_target htarget
    cases htarget
    exact ⟨part.url, ⟨part, hpart, rfl⟩, rfl, paren_of_inlinePart? hpart⟩

/-- A destination of two words, with a title in which a parenthesis is closed. -/
theorem destination_of_resolve_titled :
    let b := Brackets.ofText "[x](a b \"c) d\") (e)".toList
    ∃ a href title, (resolve id b 0 {}).1 = some a ∧ a.target = .link none href title ∧
      ∃ u, href = some u ∧ u = "a b".toList ∧ ')' ∉ u := by
  intro b
  have h : (resolve id b 0 {}).1 = some ⟨⟨['x'], 0, 3⟩, 15,
      .link none (some "a b".toList) (some "c) d".toList)⟩ := by decide
  obtain ⟨u, -, hhref, -, hparen⟩ := destination_of_resolve h rfl
  have hu : u = "a b".toList := by
    split at hhref
    · exact absurd hhref (by decide)
    · exact (Option.some.inj hhref).symm
  exact ⟨_, _, _, h, rfl, u, congrArg some hu.symm, hu, by rw [hu]; decide⟩

/-- The text behind empty parentheses is taken for a destination, if a parenthesis is closed in
it. -/
theorem destination_behind_empty_parens :
    (resolve id (.ofText "[x]() (y)".toList) 0 {}).1 =
        some ⟨⟨['x'], 0, 3⟩, 9, .link none (some ") (y".toList) none⟩ ∧
      ')' ∈ ") (y".toList := by decide

end Anchor

end WikiText
