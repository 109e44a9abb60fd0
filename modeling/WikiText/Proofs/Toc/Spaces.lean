import WikiText.Proofs.Text.Search
import WikiText.Proofs.Toc.Line
import WikiText.Toc.Expand

/-!
# Spaces before the closing brace

A placeholder line is an opening, what says its parameter, a brace and spaces
(`Placeholder.ofLine?_eq_some_iff`).  Spaces that are put before the brace leave the table as it is.
They go unreported but for one case: behind a bare name, where two spaces or more are taken for a
parameter.  Main statement: `expandLine_spaced`.
-/

namespace WikiText

open Text (isSpace copies)

namespace Text

theorem dropAtMost_append_cons {f : Char → Bool} {c : Char} (hc : f c = false) {i : Text} {n : Nat}
    (hn : i.length ≤ n) (hi : i.all f = true) (s : Text) :
    dropAtMost f n (i ++ c :: s) = c :: s := by
  induction i generalizing n with
  | nil =>
    cases n with
    | zero => rfl
    | succ n => rw [List.nil_append, dropAtMost, hc, if_neg Bool.false_ne_true]
  | cons d i ih =>
    rw [List.all_cons, Bool.and_eq_true] at hi
    cases n with
    | zero => simp at hn
    | succ n => rw [List.cons_append, dropAtMost, if_pos hi.1, ih (by simpa using hn) hi.2]

theorem exists_of_dropAtMost {f : Char → Bool} {n : Nat} {s t : Text} (h : dropAtMost f n s = t) :
    ∃ i : Text, i.length ≤ n ∧ i.all f = true ∧ s = i ++ t := by
  induction n generalizing s with
  | zero => exact ⟨[], le_rfl, rfl, h⟩
  | succ n ih =>
    cases s with
    | nil => exact ⟨[], Nat.zero_le _, rfl, h⟩
    | cons c s =>
      rw [dropAtMost] at h
      split at h
      · next hc =>
        obtain ⟨i, hn, hi, rfl⟩ := ih h
        exact ⟨c :: i, Nat.succ_le_succ hn, by rw [List.all_cons, hc, hi]; rfl, rfl⟩
      · exact ⟨[], Nat.zero_le _, rfl, h⟩

theorem all_copies {f : Char → Bool} {c : Char} (hc : f c = true) (n : Nat) :
    (copies n c).all f = true := by
  rw [copies, List.all_replicate, hc, ite_self]

end Text

namespace Toc

/-! ## How a placeholder is written -/

/-- The mark of a side. -/
def mark : Option Side → Text
  | none => []
  | some .left => ['<']
  | some .right => ['>']

/-- A placeholder up to its name: three spaces at most, a brace, the mark of its side with any
number of spaces before it, and the name in either case. -/
inductive IsOpening : Option Side → Text → Prop where
  | mk {side : Option Side} {indent spaces name : Text} (hindent : indent.length ≤ 3)
      (hspace : indent.all isSpace = true) (hspaces : spaces.all isSpace = true)
      (hname : name.map Char.toLower = ['t', 'o', 'c']) :
      IsOpening side (indent ++ '\x7b' :: (spaces ++ (mark side ++ name)))

theorem eq_mark_append (s : Text) : s = mark (side? s).1 ++ (side? s).2 := by
  rw [side?.eq_def]
  split <;> rfl

theorem afterWord?_eq_some_iff {word s rest : Text} :
    afterWord? word s = some rest ↔ ∃ w, w.map Char.toLower = word ∧ s = w ++ rest := by
  induction word generalizing s with
  | nil => simp [afterWord?]
  | cons a word ih =>
    cases s with
    | nil =>
      refine iff_of_false (by simp [afterWord?]) ?_
      rintro ⟨w, hw, hs⟩
      rw [(List.append_eq_nil_iff.1 hs.symm).1] at hw
      simp at hw
    | cons c s =>
      rw [afterWord?]
      constructor
      · intro h
        split at h
        · next hc =>
          obtain ⟨w, rfl, rfl⟩ := ih.1 h
          exact ⟨c :: w, by rw [List.map_cons, hc], rfl⟩
        · simp at h
      · rintro ⟨v, hv, hs⟩
        obtain ⟨d, w, rfl, rfl, hw⟩ := List.map_eq_cons_iff.1 hv
        obtain ⟨rfl, rfl⟩ := List.cons.inj hs
        rw [if_pos rfl]
        exact ih.2 ⟨w, hw, rfl⟩

theorem exists_isOpening {s rest : Text} {side : Option Side} (h : opening? s = some (side, rest)) :
    ∃ front, IsOpening side front ∧ s = front ++ rest := by
  rw [opening?.eq_def] at h
  split at h
  · next t ht =>
    obtain ⟨indent, hindent, hspace, rfl⟩ := Text.exists_of_dropAtMost ht
    simp only [Option.map_eq_some_iff, Prod.mk.injEq] at h
    obtain ⟨r, hr, rfl, rfl⟩ := h
    obtain ⟨name, hname, hafter⟩ := afterWord?_eq_some_iff.1 hr
    refine ⟨_, .mk hindent hspace (List.all_takeWhile (l := t)) hname, ?_⟩
    have hsplit : t = t.takeWhile isSpace ++
        (mark (side? (t.dropWhile isSpace)).1 ++ (name ++ r)) := by
      rw [← hafter, ← eq_mark_append, List.takeWhile_append_dropWhile]
    simpa using hsplit
  · simp at h

section Name

variable {name : Text} (hname : name.map Char.toLower = ['t', 'o', 'c'])
include hname

/-- The first letter of the name is neither a space nor the mark of a side. -/
theorem exists_first_letter : ∃ c t, name = c :: t ∧ c ≠ ' ' ∧ c ≠ '<' ∧ c ≠ '>' := by
  obtain ⟨c, t, rfl, hc, -⟩ := List.map_eq_cons_iff.1 hname
  have hne : ∀ d : Char, d.toLower ≠ 't' → c ≠ d := fun d hd he => hd (he ▸ hc)
  exact ⟨c, t, rfl, hne _ (by decide), hne _ (by decide), hne _ (by decide)⟩

theorem exists_last_letter : ∃ t c, name = t ++ [c] ∧ c ≠ ' ' := by
  obtain ⟨a, t, rfl, -, ht⟩ := List.map_eq_cons_iff.1 hname
  obtain ⟨b, t, rfl, -, ht⟩ := List.map_eq_cons_iff.1 ht
  obtain ⟨c, t, rfl, hc, ht⟩ := List.map_eq_cons_iff.1 ht
  rw [List.map_eq_nil_iff.1 ht]
  refine ⟨[a, b], c, rfl, ?_⟩
  rintro rfl
  exact absurd hc (by decide)

end Name

/-- An opening is read whatever follows it. -/
theorem IsOpening.opening? {side : Option Side} {front : Text} (h : IsOpening side front)
    (t : Text) : opening? (front ++ t) = some (side, t) := by
  obtain ⟨hindent, hspace, hspaces, hname⟩ := h
  next indent spaces name =>
  obtain ⟨c, letters, hletters, hspaceNe, hleft, hright⟩ := exists_first_letter hname
  have hfirst : ∀ d : Char, d ≠ ' ' → ∀ u : Text,
      (spaces ++ d :: u).dropWhile isSpace = d :: u := by
    intro d hd u
    exact Text.dropWhile_append_cons hspaces (by simpa [isSpace] using hd) u
  have hword : afterWord? ['t', 'o', 'c'] (name ++ t) = some t :=
    afterWord?_eq_some_iff.2 ⟨name, hname, rfl⟩
  rw [List.append_assoc, List.cons_append, List.append_assoc, List.append_assoc, Toc.opening?,
    Text.dropAtMost_append_cons (by decide) hindent hspace]
  cases side with
  | none =>
    have hside : side? (name ++ t) = (none, name ++ t) := by
      simp [hletters, side?, hleft, hright]
    have hdrop : (spaces ++ (mark none ++ (name ++ t))).dropWhile isSpace = name ++ t := by
      rw [hletters]
      exact hfirst c hspaceNe _
    simp only [hdrop, hside, hword]
    rfl
  | some side =>
    cases side with
    | left =>
      have hdrop : (spaces ++ (mark (some .left) ++ (name ++ t))).dropWhile isSpace =
          '<' :: (name ++ t) := hfirst '<' (by decide) _
      simp only [hdrop, side?, hword]
      rfl
    | right =>
      have hdrop : (spaces ++ (mark (some .right) ++ (name ++ t))).dropWhile isSpace =
          '>' :: (name ++ t) := hfirst '>' (by decide) _
      simp only [hdrop, side?, hword]
      rfl

/-- A line is a placeholder if an opening stands on it, then what says the parameter, and then a
brace and spaces. -/
theorem Placeholder.ofLine?_eq_some_iff {line : Text} {p : Placeholder} :
    ofLine? line = some p ↔ ∃ front body w, IsOpening p.side front ∧ w.all isSpace = true ∧
      '\n' ∉ body ∧ parameterOf? body = some p.parameter ∧
      line = front ++ (body ++ '\x7d' :: w) := by
  have hnewline : ∀ {w : Text}, w.all isSpace = true → '\n' ∉ w := fun hw hmem =>
    absurd (List.all_eq_true.1 hw _ hmem) (by decide)
  rw [ofLine?]
  simp only [Option.bind_eq_bind, Option.bind_eq_some_iff, Option.map_eq_some_iff, Prod.exists]
  constructor
  · rintro ⟨side, s, hopening, q, hq, rfl⟩
    obtain ⟨front, hfront, rfl⟩ := exists_isOpening hopening
    obtain ⟨body, hends⟩ := endsWithBrace_of_parameterOfLine? hq
    have hs : '\n' ∉ s := by
      intro hmem
      simp [parameterOfLine?, hmem] at hq
    rw [parameterOfLine?_eq hs hends] at hq
    obtain ⟨w, hw, rfl⟩ := hends
    exact ⟨front, body, w, hfront, hw, fun hmem => hs (List.mem_append_left _ hmem), hq, rfl⟩
  · rintro ⟨front, body, w, hfront, hw, hbody, hq, rfl⟩
    refine ⟨p.side, _, hfront.opening? _, p.parameter, ?_, rfl⟩
    rw [parameterOfLine?_eq ?_ ⟨w, hw, rfl⟩, hq]
    simp [hbody, hnewline hw]

/-! ## Spaces behind the parameter -/

theorem parameter_append {w : Text} (hw : w.all isSpace = true) (s : Text) :
    parameter (s ++ w) = parameter s := by
  rw [parameter, parameter, Text.dropEndWhile_append hw]

/-- Two spaces or more are a parameter. -/
theorem parameterOf?_copies (n : Nat) :
    parameterOf? (copies n ' ') = some (if 2 ≤ n then some [' '] else none) := by
  match n with
  | 0 => rfl
  | 1 => rfl
  | n + 2 =>
    have hdrop : (copies (n + 1) ' ').dropWhile isSpace = [] :=
      Text.dropWhile_eq_nil_iff_all.2 (Text.all_copies rfl _)
    rw [if_pos (Nat.le_add_left 2 n)]
    show some (some (parameter ((copies (n + 1) ' ').dropWhile isSpace))) = _
    rw [hdrop]
    rfl

/-- There is no parameter in one space at most. -/
theorem eq_copies_of_parameterOf? {body : Text} (h : parameterOf? body = some none) :
    ∃ n < 2, body = copies n ' ' := by
  rw [parameterOf?.eq_def] at h
  split at h
  · exact ⟨0, by decide, rfl⟩
  · exact ⟨1, by decide, rfl⟩
  · simp at h
  · simp at h
  · simp at h

/-- Spaces more do not change a parameter. -/
theorem parameterOf?_append_copies {body q : Text} (h : parameterOf? body = some (some q))
    (n : Nat) : parameterOf? (body ++ copies n ' ') = some (some q) := by
  have hspaces : (copies n ' ').all isSpace = true := Text.all_copies rfl n
  rw [parameterOf?.eq_def] at h
  split at h
  · simp at h
  · simp at h
  · next c s =>
    rw [← h]
    show some (some (parameter (c :: s ++ copies n ' '))) = _
    rw [parameter_append hspaces]
  · next s hs =>
    rw [← h]
    have hne : s ≠ [] := fun he => hs (he ▸ rfl)
    obtain ⟨d, t, rfl⟩ := List.exists_cons_of_ne_nil hne
    show some (some (parameter ((d :: t ++ copies n ' ').dropWhile isSpace))) = _
    rw [List.dropWhile_append]
    split
    · next hall =>
      rw [Text.dropWhile_eq_nil_iff_all.2 hspaces, List.isEmpty_iff.1 hall]
    · rw [parameter_append hspaces]
  · simp at h

/-! ## Spaces before the brace -/

theorem takeWhile_isSpace_reverse {side : Option Side} {front : Text} (h : IsOpening side front)
    {w : Text} (hw : w.all isSpace = true) :
    (front ++ w).reverse.takeWhile isSpace = w.reverse := by
  obtain ⟨-, -, -, hname⟩ := h
  obtain ⟨t, c, rfl, hc⟩ := exists_last_letter hname
  have hlast : isSpace c = false := decide_eq_false hc
  have hreverse : ∀ u : Text, (u ++ [c] ++ w).reverse = w.reverse ++ c :: u.reverse := by simp
  simp only [← List.append_assoc, ← List.cons_append, hreverse]
  exact Text.takeWhile_append_cons (by rwa [List.all_reverse]) hlast _

/-- A placeholder line that has no parameter. -/
def isBare (line : Text) : Bool := (Placeholder.ofLine? line).any (·.parameter.isNone)

/-- What a placeholder line asks for when `n` spaces more stand before its last brace. -/
theorem Placeholder.ofLine?_spaced {before after : Text} {p : Placeholder}
    (hline : ofLine? (before ++ '\x7d' :: after) = some p) (hlast : '\x7d' ∉ after) (n : Nat) :
    ofLine? (before ++ (copies n ' ' ++ '\x7d' :: after)) =
      some (if p.parameter = none ∧ 2 ≤ Text.countFront isSpace before.reverse + n
        then ⟨p.side, some [' ']⟩ else p) := by
  obtain ⟨front, body, w, hfront, hw, hbody, hparameter, heq⟩ := ofLine?_eq_some_iff.1 hline
  have hbrace : '\x7d' ∉ w := fun hmem =>
    absurd (List.all_eq_true.1 hw _ hmem) (by decide)
  obtain ⟨rfl, rfl⟩ := Text.eq_of_append_cons_last hlast hbrace
    (heq.trans (List.append_assoc _ _ _).symm)
  have hnewline : '\n' ∉ body ++ copies n ' ' := by
    simp [hbody, copies]
  refine ofLine?_eq_some_iff.2 ⟨front, body ++ copies n ' ', after, ?_, hw, hnewline, ?_, ?_⟩
  · split <;> exact hfront
  · cases hp : p.parameter with
    | some q =>
      rw [if_neg (by simp), hp]
      exact parameterOf?_append_copies (hp ▸ hparameter) n
    | none =>
      obtain ⟨m, -, rfl⟩ := eq_copies_of_parameterOf? (hp ▸ hparameter)
      have hcount : Text.countFront isSpace (front ++ copies m ' ').reverse = m := by
        rw [Text.countFront, takeWhile_isSpace_reverse hfront (Text.all_copies rfl m)]
        simp [copies]
      have hcopies : copies m ' ' ++ copies n ' ' = copies (m + n) ' ' :=
        List.replicate_append_replicate
      rw [hcount, hcopies, parameterOf?_copies]
      split
      · rw [if_pos ⟨rfl, ‹_›⟩]
      · rw [if_neg fun h => ‹¬ _› h.2, hp]
  · simp

theorem expandLine_of_ofLine? (src : Source) {line : Text} {p : Placeholder}
    (h : Placeholder.ofLine? line = some p) : expandLine src line = ofPlaceholder src p := by
  rw [expandLine, h]

/-- A space for a parameter asks for the same table as no parameter, and is reported. -/
theorem ofPlaceholder_space (src : Source) (side : Option Side) :
    ofPlaceholder src ⟨side, some [' ']⟩ =
      ((ofPlaceholder src ⟨side, none⟩).1,
        .illegalTocParameter [' '] :: (ofPlaceholder src ⟨side, none⟩).2) := rfl

/-- Spaces put before the last brace of a placeholder line leave a placeholder for the same table.
What is reported is the same but for one case: if there is no parameter, and two spaces or more
come to stand behind the name, then these are taken for a parameter that names no levels. -/
theorem expandLine_spaced (src : Source) {before after : Text}
    (hline : isPlaceholder (before ++ '\x7d' :: after) = true) (hlast : '\x7d' ∉ after) (n : Nat) :
    let line := before ++ '\x7d' :: after
    let spaced := before ++ (copies n ' ' ++ '\x7d' :: after)
    isPlaceholder spaced = true ∧
      (expandLine src spaced).1 = (expandLine src line).1 ∧
      (expandLine src spaced).2 =
        (if isBare line ∧ 2 ≤ Text.countFront isSpace before.reverse + n
          then [.illegalTocParameter [' ']] else []) ++ (expandLine src line).2 := by
  intro line spaced
  obtain ⟨p, hp⟩ := Option.isSome_iff_exists.1 hline
  have hspaced : Placeholder.ofLine? spaced = _ := Placeholder.ofLine?_spaced hp hlast n
  have hbare : isBare line = true ↔ p.parameter = none := by
    rw [isBare, hp, Option.any_some, Option.isNone_iff_eq_none]
  refine ⟨by rw [isPlaceholder, hspaced]; rfl, ?_⟩
  rw [expandLine_of_ofLine? src hspaced, expandLine_of_ofLine? src hp]
  by_cases hmore : p.parameter = none ∧ 2 ≤ Text.countFront isSpace before.reverse + n
  · rw [if_pos hmore, if_pos ⟨hbare.2 hmore.1, hmore.2⟩]
    obtain ⟨side, parameter⟩ := p
    obtain rfl : parameter = none := hmore.1
    rw [ofPlaceholder_space]
    exact ⟨rfl, rfl⟩
  · rw [if_neg hmore, if_neg fun h => hmore ⟨hbare.1 h.1, h.2⟩]
    exact ⟨rfl, rfl⟩

/-- A parameter may have any number of spaces behind it. -/
theorem expandLine_spaced_levels :
    let src : Source := ⟨[⟨2, "a".toList, "A".toList⟩], "toc".toList⟩
    (isPlaceholder "\x7b>toc h2..h3\x7d  ".toList = true ∧ '\x7d' ∉ "  ".toList) ∧
      expandLine src "\x7b>toc h2..h3   \x7d  ".toList =
        expandLine src "\x7b>toc h2..h3\x7d  ".toList := by
  intro src
  refine ⟨⟨by decide, by decide⟩, ?_⟩
  obtain ⟨-, htable, hreports⟩ :=
    @expandLine_spaced src "\x7b>toc h2..h3".toList "  ".toList (by decide) (by decide) 3
  exact Prod.ext htable hreports

/-- Behind a bare name two spaces are reported, while one is not. -/
theorem spaces_reported_behind_name :
    let src : Source := ⟨[], "toc".toList⟩
    isPlaceholder "\x7btoc\x7d".toList = true ∧ (expandLine src "\x7btoc\x7d".toList).2 = [] ∧
      (expandLine src "\x7btoc \x7d".toList).2 = [] ∧
      (expandLine src "\x7btoc  \x7d".toList).2 = [.illegalTocParameter [' ']] := by
  decide

end Toc

end WikiText
