import Mathlib.Data.List.Basic
import WikiText.Anchor.SecondPart

/-!
# What a second part may look like

The readers of second parts, described by the texts that they accept.  A reference part has one
reading only (`referencePart?_eq_some_iff`).  A destination ends at the first place where something
that may end it follows (`shortestUrl?_eq_some_iff`), and so does a title
(`titleEnd?_eq_some_iff`).
-/

namespace WikiText

open Text (isSpace)

/-! ## Runs of spaces -/

/-- `n` spaces. -/
abbrev spaces (n : Nat) : Text := Text.copies n ' '

theorem dropWhile_spaces (n : Nat) (s : Text) :
    (spaces n ++ s).dropWhile isSpace = s.dropWhile isSpace :=
  List.dropWhile_append_of_pos fun _ hc => by
    rw [List.eq_of_mem_replicate hc]
    rfl

theorem exists_spaces (s : Text) : ∃ n, s = spaces n ++ s.dropWhile isSpace := by
  refine ⟨(s.takeWhile isSpace).length, ?_⟩
  have hspaces : s.takeWhile isSpace = spaces (s.takeWhile isSpace).length := by
    refine List.eq_replicate_iff.2 ⟨rfl, fun c hc => ?_⟩
    simpa [isSpace] using List.all_eq_true.1 List.all_takeWhile c hc
  rw [← hspaces, List.takeWhile_append_dropWhile]

theorem afterParen?_spaces (n : Nat) (rest : Text) :
    afterParen? (spaces n ++ ')' :: rest) = some rest := by
  rw [afterParen?, dropWhile_spaces]
  rfl

theorem afterParen?_eq_some_iff {s rest : Text} :
    afterParen? s = some rest ↔ ∃ n, s = spaces n ++ ')' :: rest := by
  constructor
  · intro h
    rw [afterParen?] at h
    split at h
    · next r hr =>
      obtain ⟨n, hn⟩ := exists_spaces s
      rw [Option.some.injEq] at h
      exact ⟨n, by rw [hn, hr, h]⟩
    · simp at h
  · rintro ⟨n, rfl⟩
    exact afterParen?_spaces n rest

/-- What follows a character that is neither a space nor a parenthesis does not matter. -/
theorem afterParen?_append_eq_none {c : Char} (hs : c ≠ ' ') (hp : c ≠ ')') (s t : Text) :
    afterParen? (s ++ c :: t) = none ↔ afterParen? s = none := by
  rw [afterParen?, afterParen?, List.dropWhile_append]
  cases hd : s.dropWhile isSpace with
  | nil => simp [isSpace, hs, hp]
  | cons d r =>
    by_cases h : d = ')'
    · simp [h]
    · simp [h]

/-! ## Reference parts -/

/-- What may stand before the id: at most one space, and then a line end with any spaces after it,
or nothing. -/
def IsGap (g : Text) : Prop :=
  ∃ a b, g = a ++ b ∧ (a = [] ∨ a = [' ']) ∧ (b = [] ∨ ∃ n, b = '\n' :: spaces n)

theorem linkId?_append {id : Text} (hclose : ']' ∉ id) (hline : '\n' ∉ id) (rest : Text) :
    linkId? (id ++ ']' :: rest) = some (id, rest) := by
  induction id with
  | nil => rfl
  | cons c id ih =>
    rw [List.mem_cons, not_or] at hclose hline
    rw [List.cons_append, linkId?, if_neg (Ne.symm hline.1), if_neg (Ne.symm hclose.1),
      ih hclose.2 hline.2, Option.map_some]

theorem linkId?_eq_some_iff {s id rest : Text} :
    linkId? s = some (id, rest) ↔ s = id ++ ']' :: rest ∧ ']' ∉ id ∧ '\n' ∉ id := by
  constructor
  · intro h
    induction s generalizing id with
    | nil => simp [linkId?] at h
    | cons c s ih =>
      rw [linkId?] at h
      split at h
      · simp at h
      · next hline =>
        split at h
        · next hclose =>
          simp only [Option.some.injEq, Prod.mk.injEq] at h
          obtain ⟨rfl, rfl⟩ := h
          exact ⟨by rw [hclose, List.nil_append], List.not_mem_nil, List.not_mem_nil⟩
        · next hclose =>
          simp only [Option.map_eq_some_iff, Prod.exists, Prod.mk.injEq] at h
          obtain ⟨id', rest', hs, rfl, rfl⟩ := h
          obtain ⟨rfl, hc, hl⟩ := ih hs
          refine ⟨rfl, ?_, ?_⟩
          · simpa [eq_comm, hclose] using hc
          · simpa [eq_comm, hline] using hl
  · rintro ⟨rfl, hclose, hline⟩
    exact linkId?_append hclose hline rest

theorem dropGap_append {g : Text} (hg : IsGap g) (s : Text) :
    dropGap (g ++ '[' :: s) = '[' :: s := by
  obtain ⟨a, b, rfl, ha, hb⟩ := hg
  have hspace : ∀ t : Text, Text.dropAtMost isSpace 1 t = t → dropGap (a ++ t) = dropGap t := by
    intro t ht
    rcases ha with rfl | rfl
    · rfl
    · simp [dropGap, ht, Text.dropAtMost, isSpace]
  rcases hb with rfl | ⟨n, rfl⟩
  · rw [List.append_nil, hspace _ rfl]
    rfl
  · rw [List.append_assoc, List.cons_append, hspace _ rfl]
    exact dropWhile_spaces n ('[' :: s)

theorem exists_gap (s : Text) : ∃ g, IsGap g ∧ s = g ++ dropGap s := by
  have hspace : ∃ a, (a = [] ∨ a = [' ']) ∧ s = a ++ Text.dropAtMost isSpace 1 s := by
    cases s with
    | nil => exact ⟨[], .inl rfl, rfl⟩
    | cons c s =>
      by_cases hc : c = ' '
      · exact ⟨[' '], .inr rfl, by simp [hc, Text.dropAtMost, isSpace]⟩
      · exact ⟨[], .inl rfl, by simp [hc, Text.dropAtMost, isSpace]⟩
  obtain ⟨a, ha, hs⟩ := hspace
  rw [dropGap]
  split
  · next t ht =>
    obtain ⟨n, hn⟩ := exists_spaces t
    refine ⟨a ++ '\n' :: spaces n, ⟨a, _, rfl, ha, .inr ⟨n, rfl⟩⟩, ?_⟩
    rw [List.append_assoc, List.cons_append, ← hn, ← ht, ← hs]
  · exact ⟨a, ⟨a, [], (List.append_nil a).symm, ha, .inl rfl⟩, hs⟩

instance (g : Text) : Decidable (IsGap g) :=
  decidable_of_iff (dropGap (g ++ ['[']) = ['[']) <| by
    constructor
    · intro h
      obtain ⟨g', hg', hs⟩ := exists_gap (g ++ ['['])
      rw [h] at hs
      rwa [List.append_cancel_right hs]
    · intro hg
      exact dropGap_append hg []

/-- A reference part is an id in brackets, on one line, behind a gap. -/
theorem referencePart?_eq_some_iff {s id rest : Text} :
    referencePart? s = some (id, rest) ↔
      ∃ g, IsGap g ∧ s = g ++ '[' :: id ++ ']' :: rest ∧ ']' ∉ id ∧ '\n' ∉ id := by
  constructor
  · intro h
    obtain ⟨g, hg, hs⟩ := exists_gap s
    rw [referencePart?] at h
    split at h
    · next t ht =>
      obtain ⟨rfl, hid⟩ := linkId?_eq_some_iff.1 h
      exact ⟨g, hg, by rw [hs, ht]; simp, hid⟩
    · simp at h
  · rintro ⟨g, hg, rfl, hid⟩
    rw [List.append_assoc, List.cons_append, referencePart?, dropGap_append hg]
    exact linkId?_append hid.1 hid.2 rest

/-! ## Titles -/

/-- A title in quotation marks `mark` that is read to its end: it stays on its line, and nowhere
inside it a mark is followed by a closing parenthesis. -/
def IsTitle (mark : Char) (w : Text) : Prop :=
  '\n' ∉ w ∧ ∀ x n y, w ≠ x ++ mark :: (spaces n ++ ')' :: y)

theorem isTitle_cons {mark c : Char} {w : Text} :
    IsTitle mark (c :: w) ↔ c ≠ '\n' ∧ (c = mark → afterParen? w = none) ∧ IsTitle mark w := by
  constructor
  · rintro ⟨hl, ht⟩
    rw [List.mem_cons, not_or] at hl
    refine ⟨Ne.symm hl.1, ?_, hl.2, fun x n y hw => ht (c :: x) n y (by rw [hw]; rfl)⟩
    rintro rfl
    cases h : afterParen? w with
    | none => rfl
    | some y =>
      obtain ⟨n, hn⟩ := afterParen?_eq_some_iff.1 h
      exact absurd (by rw [hn]; rfl) (ht [] n y)
  · rintro ⟨hc, hmark, hl, ht⟩
    refine ⟨by simp [Ne.symm hc, hl], ?_⟩
    rintro (_ | ⟨d, x⟩) n y hw
    · simp only [List.nil_append, List.cons.injEq] at hw
      obtain ⟨rfl, rfl⟩ := hw
      simp [afterParen?_spaces] at hmark
    · simp only [List.cons_append, List.cons.injEq] at hw
      exact ht x n y hw.2

instance decidableIsTitle (mark : Char) : (w : Text) → Decidable (IsTitle mark w)
  | [] => isTrue (by simp [IsTitle])
  | c :: w =>
    have := decidableIsTitle mark w
    decidable_of_iff (c ≠ '\n' ∧ (c = mark → afterParen? w = none) ∧ IsTitle mark w)
      isTitle_cons.symm

section Title

variable {mark : Char} (hs : mark ≠ ' ') (hp : mark ≠ ')')
include hs hp

theorem titleEnd?_append {w : Text} (hw : IsTitle mark w) (n : Nat) (rest : Text) :
    titleEnd? mark (w ++ mark :: (spaces n ++ ')' :: rest)) = some (w, rest) := by
  induction w with
  | nil => simp [titleEnd?, afterParen?_spaces]
  | cons c w ih =>
    obtain ⟨hc, hmark, hw⟩ := isTitle_cons.1 hw
    have hnone : (if c = mark then afterParen? (w ++ mark :: (spaces n ++ ')' :: rest)) else none) =
        none := by
      split
      · next hcm => exact (afterParen?_append_eq_none hs hp _ _).2 (hmark hcm)
      · rfl
    rw [List.cons_append, titleEnd?, hnone]
    simp [hc, ih hw]

/-- A title ends at the first mark that spaces and a closing parenthesis follow. -/
theorem titleEnd?_eq_some_iff {s w rest : Text} :
    titleEnd? mark s = some (w, rest) ↔
      ∃ n, s = w ++ mark :: (spaces n ++ ')' :: rest) ∧ IsTitle mark w := by
  constructor
  · intro h
    induction s generalizing w with
    | nil => simp [titleEnd?] at h
    | cons c s ih =>
      rw [titleEnd?] at h
      split at h
      · next r hr =>
        simp only [Option.some.injEq, Prod.mk.injEq] at h
        obtain ⟨rfl, rfl⟩ := h
        split at hr
        · next hc =>
          obtain ⟨n, rfl⟩ := afterParen?_eq_some_iff.1 hr
          exact ⟨n, by rw [hc, List.nil_append], by simp [IsTitle]⟩
        · simp at hr
      · next hr =>
        split at h
        · simp at h
        · next hc =>
          simp only [Option.map_eq_some_iff, Prod.exists, Prod.mk.injEq] at h
          obtain ⟨w', rest', hw', rfl, rfl⟩ := h
          obtain ⟨n, rfl, ht⟩ := ih hw'
          refine ⟨n, rfl, isTitle_cons.2 ⟨hc, ?_, ht⟩⟩
          intro hmark
          rw [if_pos hmark] at hr
          exact (afterParen?_append_eq_none hs hp _ _).1 hr
  · rintro ⟨n, rfl, hw⟩
    exact titleEnd?_append hs hp hw n rest

end Title

/-- Text on one line is a title up to some mark, if a mark and a parenthesis come at its end. -/
theorem titleEnd?_ne_none {mark : Char} {s : Text} (hl : '\n' ∉ s) (rest : Text) :
    titleEnd? mark (s ++ mark :: ')' :: rest) ≠ none := by
  induction s with
  | nil => simp [titleEnd?, afterParen?, isSpace]
  | cons c s ih =>
    rw [List.mem_cons, not_or] at hl
    rw [List.cons_append, titleEnd?]
    split
    · simp
    · rw [if_neg (Ne.symm hl.1)]
      simpa using ih hl.2

/-! ## What ends a destination -/

/-- A quotation mark that a title may stand in. -/
def IsMark (c : Char) : Prop := c = '"' ∨ c = '\x27'

instance (c : Char) : Decidable (IsMark c) := inferInstanceAs (Decidable (_ ∨ _))

theorem ending?_paren (rest : Text) : ending? (')' :: rest) = some (none, rest) := rfl

theorem ending?_mark {mark : Char} (hm : IsMark mark) (n : Nat) (s : Text) :
    ending? (spaces n ++ mark :: s) =
      (titleEnd? mark s).map fun (title, rest) => (some title, rest) := by
  have hgt : ∀ t, spaces n ++ mark :: s ≠ '>' :: t := by
    intro t ht
    rcases hm with rfl | rfl <;> cases n <;> simp [Text.copies, List.replicate_succ] at ht
  rw [ending?.eq_2 _ hgt, dropWhile_spaces]
  rcases hm with rfl | rfl <;> simp [isSpace]

theorem IsMark.ne_space {mark : Char} (hm : IsMark mark) : mark ≠ ' ' := by
  rcases hm with rfl | rfl <;> decide

theorem IsMark.ne_paren {mark : Char} (hm : IsMark mark) : mark ≠ ')' := by
  rcases hm with rfl | rfl <;> decide

/-- Nothing ends a destination where an ordinary character comes next, after spaces. -/
theorem ending?_eq_none {s r : Text} {c : Char} (hgt : ∀ t, s ≠ '>' :: t)
    (hs : s.dropWhile isSpace = c :: r) (hp : c ≠ ')') (hm : ¬ IsMark c) : ending? s = none := by
  rw [ending?.eq_2 _ hgt, hs]
  simp only [IsMark] at hm
  simp [hm]

theorem ending?_gt_eq_none {s r : Text} {c : Char} (hs : s.dropWhile isSpace = c :: r)
    (hp : c ≠ ')') (hm : ¬ IsMark c) : ending? ('>' :: s) = none := by
  rw [ending?, hs]
  simp only [IsMark] at hm
  simp [hm]

/-- No place inside `u` but its front can be where a destination ends, when `s` follows `u`. -/
def FirstEnd (u s : Text) : Prop :=
  ∀ x y, u = x ++ y → x ≠ [] → y ≠ [] → ending? (y ++ s) = none

theorem firstEnd_singleton (c : Char) (s : Text) : FirstEnd [c] s := by
  intro x y hu hx hy
  have hlen := congrArg List.length hu
  have hx := List.length_pos_iff.2 hx
  have hy := List.length_pos_iff.2 hy
  simp only [List.length_singleton, List.length_append] at hlen
  omega

theorem firstEnd_cons {c d : Char} {u s : Text} :
    FirstEnd (c :: d :: u) s ↔ ending? (d :: u ++ s) = none ∧ FirstEnd (d :: u) s := by
  constructor
  · intro h
    refine ⟨h [c] (d :: u) rfl (by simp) (by simp), ?_⟩
    intro x y hu hx hy
    exact h (c :: x) y (by rw [hu]; rfl) (by simp) hy
  · rintro ⟨hd, h⟩ (_ | ⟨a, x⟩) y hu hx hy
    · exact absurd rfl hx
    · simp only [List.cons_append, List.cons.injEq] at hu
      cases x with
      | nil =>
        rw [← show d :: u = y from hu.2]
        exact hd
      | cons b x => exact h (b :: x) y hu.2 (by simp) hy

theorem shortestUrl?_append {u s rest : Text} {title : Option Text} (hne : u ≠ [])
    (hl : '\n' ∉ u) (hfirst : FirstEnd u s) (hend : ending? s = some (title, rest)) :
    shortestUrl? (u ++ s) = some ⟨u, title, rest⟩ := by
  induction u with
  | nil => exact absurd rfl hne
  | cons c u ih =>
    rw [List.mem_cons, not_or] at hl
    rw [List.cons_append, shortestUrl?, if_neg (Ne.symm hl.1)]
    cases u with
    | nil => rw [List.nil_append, hend]
    | cons d u =>
      obtain ⟨hd, hfirst⟩ := firstEnd_cons.1 hfirst
      rw [hd, ih (by simp) hl.2 hfirst]
      rfl

/-- A destination ends at the first place, behind one character at least, where something that may
end it follows. -/
theorem shortestUrl?_eq_some_iff {s : Text} {p : InlinePart} :
    shortestUrl? s = some p ↔
      ∃ t, s = p.url ++ t ∧ p.url ≠ [] ∧ '\n' ∉ p.url ∧ FirstEnd p.url t ∧
        ending? t = some (p.title, p.rest) := by
  constructor
  · intro h
    induction s generalizing p with
    | nil => simp [shortestUrl?] at h
    | cons c s ih =>
      rw [shortestUrl?] at h
      split at h
      · simp at h
      · next hl =>
        split at h
        · next title rest hend =>
          obtain rfl := Option.some.inj h
          exact ⟨s, rfl, by simp, by simp [Ne.symm hl], firstEnd_singleton c s, hend⟩
        · next hend =>
          simp only [Option.map_eq_some_iff] at h
          obtain ⟨q, hq, rfl⟩ := h
          obtain ⟨t, rfl, hne, hl', hfirst, ht⟩ := ih hq
          obtain ⟨d, u, hu⟩ := List.exists_cons_of_ne_nil hne
          refine ⟨t, rfl, by simp, by simp [Ne.symm hl, hl'], ?_, ht⟩
          rw [hu] at hend hfirst ⊢
          exact firstEnd_cons.2 ⟨hend, hfirst⟩
  · rintro ⟨t, rfl, hne, hl, hfirst, hend⟩
    exact shortestUrl?_append hne hl hfirst hend

/-! ## Where a second part ends -/

theorem newline_not_mem_spaces (n : Nat) : '\n' ∉ spaces n := by
  intro h
  exact absurd (List.eq_of_mem_replicate h) (by decide)

theorem IsGap.count_newline {g : Text} (hg : IsGap g) : g.count '\n' ≤ 1 := by
  obtain ⟨a, b, rfl, ha, hb⟩ := hg
  have hcount : a.count '\n' = 0 := by rcases ha with rfl | rfl <;> rfl
  rcases hb with rfl | ⟨n, rfl⟩
  · simp [hcount]
  · simp [hcount, List.count_eq_zero_of_not_mem (newline_not_mem_spaces n)]

/-- What ends a destination behind its angle bracket. -/
def endingBehind? (s : Text) : Option (Option Text × Text) :=
  match s.dropWhile isSpace with
  | ')' :: rest => some (none, rest)
  | c :: s =>
    if c = '"' ∨ c = '\x27' then (titleEnd? c s).map fun (title, rest) => (some title, rest)
    else none
  | [] => none

theorem ending?_gt (s : Text) : ending? ('>' :: s) = endingBehind? s := rfl

theorem ending?_of_ne {s : Text} (h : ∀ t, s ≠ '>' :: t) : ending? s = endingBehind? s :=
  ending?.eq_2 _ h

theorem eq_append_of_endingBehind? {s rest : Text} {title : Option Text}
    (h : endingBehind? s = some (title, rest)) :
    ∃ inner, s = inner ++ ')' :: rest ∧ '\n' ∉ inner := by
  obtain ⟨n, hn⟩ := exists_spaces s
  rw [endingBehind?] at h
  split at h
  · next r hr =>
    simp only [Option.some.injEq, Prod.mk.injEq] at h
    obtain ⟨-, rfl⟩ := h
    exact ⟨spaces n, by rw [← hr, ← hn], newline_not_mem_spaces n⟩
  · next c r hc hr =>
    split at h
    · next hmark =>
      simp only [Option.map_eq_some_iff, Prod.exists, Prod.mk.injEq] at h
      obtain ⟨w, r', hw, -, rfl⟩ := h
      obtain ⟨m, rfl, hline, -⟩ :=
        (titleEnd?_eq_some_iff (IsMark.ne_space hmark) (IsMark.ne_paren hmark)).1 hw
      refine ⟨spaces n ++ c :: (w ++ c :: spaces m), by rw [hn, hr]; simp, ?_⟩
      have hc : '\n' ≠ c := by rcases hmark with rfl | rfl <;> decide
      simp [newline_not_mem_spaces, hline, hc]
    · simp at h
  · simp at h

/-- What ends a destination stays on its line and ends with a parenthesis. -/
theorem eq_append_of_ending? {s rest : Text} {title : Option Text}
    (h : ending? s = some (title, rest)) :
    ∃ inner, s = inner ++ ')' :: rest ∧ '\n' ∉ inner := by
  by_cases hangle : ∃ t, s = '>' :: t
  · obtain ⟨t, rfl⟩ := hangle
    obtain ⟨inner, rfl, hline⟩ := eq_append_of_endingBehind? (ending?_gt t ▸ h)
    exact ⟨'>' :: inner, rfl, by simp [hline]⟩
  · rw [ending?_of_ne (not_exists.1 hangle)] at h
    exact eq_append_of_endingBehind? h

/-- A destination and what ends it stay on their line and end with a parenthesis. -/
theorem eq_append_of_shortestUrl? {s : Text} {p : InlinePart} (h : shortestUrl? s = some p) :
    ∃ inner, s = inner ++ ')' :: p.rest ∧ '\n' ∉ inner := by
  obtain ⟨t, rfl, -, hline, -, hend⟩ := shortestUrl?_eq_some_iff.1 h
  obtain ⟨inner, rfl, hinner⟩ := eq_append_of_ending? hend
  exact ⟨p.url ++ inner, by simp, by simp [hline, hinner]⟩

/-- The second part of an inline link goes from one parenthesis to another on the same line. -/
theorem eq_append_of_inlinePart? {s : Text} {p : InlinePart} (h : inlinePart? s = some p) :
    ∃ inner, s = '(' :: (inner ++ ')' :: p.rest) ∧ '\n' ∉ inner := by
  have hsingle : ∀ {c : Char} {t : Text}, singleUrl? c t = some p →
      ∃ inner, t = inner ++ ')' :: p.rest ∧ '\n' ∉ inner := by
    intro c t ht
    simp only [singleUrl?, Option.map_eq_some_iff, Prod.exists] at ht
    obtain ⟨title, rest, hend, rfl⟩ := ht
    exact eq_append_of_ending? hend
  rw [inlinePart?.eq_def] at h
  split at h
  · next s =>
    obtain ⟨n, hn⟩ := exists_spaces s
    -- Whatever is read as the destination is read behind spaces, or behind spaces and a bracket.
    have hbody : ∃ inner, s.dropWhile isSpace = inner ++ ')' :: p.rest ∧ '\n' ∉ inner := by
      rcases Option.or_eq_some_iff.1 h with h | ⟨-, h⟩
      · split at h
        · next t ht =>
          have ht' : ∃ inner, t = inner ++ ')' :: p.rest ∧ '\n' ∉ inner := by
            rcases Option.or_eq_some_iff.1 h with h | ⟨-, h⟩
            · exact eq_append_of_shortestUrl? h
            · exact hsingle h
          obtain ⟨inner, rfl, hinner⟩ := ht'
          exact ⟨'<' :: inner, ht, by simp [hinner]⟩
        · exact eq_append_of_shortestUrl? h
      · split at h
        · exact hsingle h
        · simp at h
    obtain ⟨inner, hinner, hline⟩ := hbody
    refine ⟨spaces n ++ inner, by rw [hn, hinner]; simp, ?_⟩
    simp [newline_not_mem_spaces, hline]
  · simp at h

end WikiText
