import WikiText.Proofs.Anchor.SecondPart

/-!
# Destinations that can be relied on

An inline part can be read in more than one way, and text behind a link may take part in it.
`IsDestination` and `IsTitle` are the exact conditions for a destination and its title to be read
back whatever this text is (`isDestination_iff`, `isTitle_iff`).
-/

namespace WikiText

open Text (isSpace)

/-! ## Destinations -/

/-- A destination that is read back whatever text comes behind it: on its line, it begins neither
with a space nor with an angle bracket, no parenthesis or quotation mark stands behind its first
character, and it does not end with a space or an angle bracket there. -/
def IsDestination : Text → Prop
  | [] => False
  | c :: v =>
    (c ≠ ' ' ∧ c ≠ '<' ∧ c ≠ '\n') ∧ (∀ d ∈ v, d ≠ ')' ∧ ¬ IsMark d ∧ d ≠ '\n') ∧
      ∀ d, v.getLast? = some d → d ≠ ' ' ∧ d ≠ '>'

instance : (u : Text) → Decidable (IsDestination u)
  | [] => isFalse id
  | c :: v => decidable_of_iff
      ((c ≠ ' ' ∧ c ≠ '<' ∧ c ≠ '\n') ∧ (v.all fun d => d ≠ ')' ∧ ¬ IsMark d ∧ d ≠ '\n') = true ∧
        v.getLast? ≠ some ' ' ∧ v.getLast? ≠ some '>') <| by
    rw [List.all_eq_true]
    simp only [decide_eq_true_eq]
    refine and_congr_right fun _ => and_congr_right fun _ => ?_
    constructor
    · rintro ⟨hs, hgt⟩ d hd
      exact ⟨fun h => hs (h ▸ hd), fun h => hgt (h ▸ hd)⟩
    · intro h
      exact ⟨fun hs => (h _ hs).1 rfl, fun hgt => (h _ hgt).2 rfl⟩

/-- Behind text that does not end with a space, a run of spaces is over before the text is. -/
private theorem exists_dropWhile_append {y : Text} (hy : y ≠ []) (hlast : y.getLast? ≠ some ' ')
    (s : Text) : ∃ d r, (y ++ s).dropWhile isSpace = d :: r ∧ d ∈ y := by
  induction y with
  | nil => exact absurd rfl hy
  | cons c y ih =>
    by_cases hc : c = ' '
    · subst hc
      have hne : y ≠ [] := by
        rintro rfl
        exact hlast rfl
      obtain ⟨d, r, hd, hmem⟩ := ih hne (by rwa [List.getLast?_cons_of_ne_nil hne] at hlast)
      exact ⟨d, r, by rwa [List.cons_append, List.dropWhile_cons_of_pos rfl],
        List.mem_cons_of_mem _ hmem⟩
    · exact ⟨c, y ++ s, List.dropWhile_cons_of_neg (by simpa [isSpace] using hc),
        List.mem_cons_self⟩

theorem IsDestination.firstEnd {u : Text} (hu : IsDestination u) (s : Text) : FirstEnd u s := by
  cases u with
  | nil => exact absurd hu id
  | cons c v =>
    obtain ⟨-, hv, hlast⟩ := hu
    rintro (_ | ⟨c', x⟩) y he hx hy
    · exact absurd rfl hx
    simp only [List.cons_append, List.cons.injEq] at he
    obtain ⟨rfl, rfl⟩ := he
    have hy_last : ∀ d, y.getLast? = some d → d ≠ ' ' ∧ d ≠ '>' := by
      intro d hd
      exact hlast d (by rw [List.getLast?_append, hd]; rfl)
    have hy_mem : ∀ d ∈ y, d ≠ ')' ∧ ¬ IsMark d := fun d hd =>
      ⟨(hv d (List.mem_append_right _ hd)).1, (hv d (List.mem_append_right _ hd)).2.1⟩
    cases y with
    | nil => exact absurd rfl hy
    | cons e z =>
      by_cases hgt : e = '>'
      · subst hgt
        -- An angle bracket is passed over, so that the last character decides behind it.
        have hz : z ≠ [] := by
          rintro rfl
          exact (hy_last '>' rfl).2 rfl
        rw [List.getLast?_cons_of_ne_nil hz] at hy_last
        obtain ⟨d, r, hd, hmem⟩ := exists_dropWhile_append hz (fun h => (hy_last _ h).1 rfl) s
        obtain ⟨hp, hm⟩ := hy_mem d (List.mem_cons_of_mem _ hmem)
        exact ending?_gt_eq_none hd hp hm
      · obtain ⟨d, r, hd, hmem⟩ := exists_dropWhile_append hy (fun h => (hy_last _ h).1 rfl) s
        obtain ⟨hp, hm⟩ := hy_mem d hmem
        exact ending?_eq_none (fun t ht => hgt (List.cons.inj ht).1) hd hp hm

/-- A destination is read whole, whatever ends it. -/
theorem inlinePart?_append {u s rest : Text} {title : Option Text} (hu : IsDestination u)
    (hend : ending? s = some (title, rest)) :
    inlinePart? ('(' :: (u ++ s)) = some ⟨u, title, rest⟩ := by
  have hfirst := hu.firstEnd s
  cases u with
  | nil => exact absurd hu id
  | cons c v =>
    obtain ⟨⟨hs, hlt, hc⟩, hv, -⟩ := hu
    have hl : '\n' ∉ c :: v := by
      rw [List.mem_cons, not_or]
      exact ⟨Ne.symm hc, fun h => (hv _ h).2.2 rfl⟩
    have hbody : (c :: v ++ s).dropWhile isSpace = c :: v ++ s :=
      List.dropWhile_cons_of_neg (by simpa [isSpace] using hs)
    rw [inlinePart?]
    simp only [hbody]
    split
    · next inner hi => exact absurd (List.cons.inj hi).1 hlt
    · rw [shortestUrl?_append (by simp) hl hfirst hend]
      rfl

theorem shortestUrl?_ne_none {u : Text} (hne : u ≠ []) (hl : '\n' ∉ u) (rest : Text) :
    shortestUrl? (u ++ ')' :: rest) ≠ none := by
  induction u with
  | nil => exact absurd rfl hne
  | cons c u ih =>
    rw [List.mem_cons, not_or] at hl
    rw [List.cons_append, shortestUrl?, if_neg (Ne.symm hl.1)]
    cases u with
    | nil => simp [ending?_paren]
    | cons d u =>
      split
      · simp
      · simpa using ih (by simp) hl.2

/-- The four ways to read an inline part: with or without an angle bracket before the destination,
or with this bracket, or a space, as the destination. -/
theorem inlinePart?_cases {s : Text} {p : InlinePart} (h : inlinePart? ('(' :: s) = some p) :
    (∃ inner, s.dropWhile isSpace = '<' :: inner ∧ shortestUrl? inner = some p) ∨
      (∃ inner, s.dropWhile isSpace = '<' :: inner ∧ shortestUrl? inner = none ∧ p.url = ['<']) ∨
      ((∀ inner, s.dropWhile isSpace ≠ '<' :: inner) ∧
        shortestUrl? (s.dropWhile isSpace) = some p) ∨
      p.url = [' '] := by
  have hsingle : ∀ {c : Char} {t : Text}, singleUrl? c t = some p → p.url = [c] := by
    intro c t ht
    simp only [singleUrl?, Option.map_eq_some_iff] at ht
    obtain ⟨_, -, rfl⟩ := ht
    rfl
  rw [inlinePart?] at h
  rcases Option.or_eq_some_iff.1 h with h | ⟨-, h⟩
  · split at h
    · next inner hi =>
      rcases Option.or_eq_some_iff.1 h with h | ⟨hnone, h⟩
      · exact .inl ⟨inner, hi, h⟩
      · exact .inr (.inl ⟨inner, hi, hnone, hsingle h⟩)
    · next hi => exact .inr (.inr (.inl ⟨hi, h⟩))
  · split at h
    · exact .inr (.inr (.inr (hsingle h)))
    · simp at h

/-- Nothing is passed over before a destination that begins with an ordinary character. -/
theorem ending_of_inlinePart? {c : Char} {v s rest : Text} {title : Option Text} (hs : c ≠ ' ')
    (hlt : c ≠ '<') (h : inlinePart? ('(' :: (c :: v ++ s)) = some ⟨c :: v, title, rest⟩) :
    FirstEnd (c :: v) s ∧ ending? s = some (title, rest) := by
  have hbody : (c :: v ++ s).dropWhile isSpace = c :: v ++ s :=
    List.dropWhile_cons_of_neg (by simpa [isSpace] using hs)
  rcases inlinePart?_cases h with ⟨inner, hi, -⟩ | ⟨inner, hi, -⟩ | ⟨-, hp⟩ | hp
  · rw [hbody] at hi
    exact absurd (List.cons.inj hi).1 hlt
  · rw [hbody] at hi
    exact absurd (List.cons.inj hi).1 hlt
  · rw [hbody] at hp
    obtain ⟨t, ht, -, -, hfirst, hend⟩ := shortestUrl?_eq_some_iff.1 hp
    rw [List.append_cancel_left ht]
    exact ⟨hfirst, hend⟩
  · exact absurd (List.cons.inj hp).1 hs

section Exact

variable {u : Text} (h : ∀ rest, inlinePart? ('(' :: (u ++ ')' :: rest)) = some ⟨u, none, rest⟩)
include h

private theorem ne_nil_and_line_of_forall : u ≠ [] ∧ '\n' ∉ u := by
  rcases inlinePart?_cases (h []) with ⟨_, -, hp⟩ | ⟨_, -, -, hp⟩ | ⟨-, hp⟩ | hp
  · obtain ⟨_, -, hne, hl, -⟩ := shortestUrl?_eq_some_iff.1 hp
    exact ⟨hne, hl⟩
  · obtain rfl : u = ['<'] := hp
    simp
  · obtain ⟨_, -, hne, hl, -⟩ := shortestUrl?_eq_some_iff.1 hp
    exact ⟨hne, hl⟩
  · obtain rfl : u = [' '] := hp
    simp

/-- A space at the front is passed over, so that what is read has fewer of them. -/
private theorem head_ne_space_of_forall {c : Char} {v : Text} (hu : u = c :: v) : c ≠ ' ' := by
  rintro rfl
  subst hu
  have hfew : ((' ' :: v ++ [')', ')']).dropWhile isSpace).count ' ' ≤ v.count ' ' := by
    rw [List.cons_append, List.dropWhile_cons_of_pos rfl]
    simpa using (List.dropWhile_sublist isSpace (l := v ++ [')', ')'])).count_le ' '
  have hmore : v.count ' ' < (' ' :: v).count ' ' := by
    rw [List.count_cons_self]
    exact Nat.lt_succ_self _
  rcases inlinePart?_cases (h [')']) with ⟨inner, hi, hp⟩ | ⟨_, -, -, hp⟩ | ⟨-, hp⟩ | hp
  · obtain ⟨t, rfl, -⟩ := shortestUrl?_eq_some_iff.1 hp
    rw [hi] at hfew
    have hle := ((List.sublist_append_left (' ' :: v) t).cons '<').count_le ' '
    exact absurd (Nat.lt_of_lt_of_le hmore hle) (Nat.not_lt.2 hfew)
  · simp at hp
  · obtain ⟨t, ht, -⟩ := shortestUrl?_eq_some_iff.1 hp
    rw [ht] at hfew
    have hle := (List.sublist_append_left (' ' :: v) t).count_le ' '
    exact absurd (Nat.lt_of_lt_of_le hmore hle) (Nat.not_lt.2 hfew)
  · obtain rfl : v = [] := (List.cons.inj hp).2
    have hread : inlinePart? ('(' :: ([' '] ++ [')', ')'])) = some ⟨[')'], none, []⟩ := by decide
    exact absurd ((h [')']).symm.trans hread) (by simp)

/-- An angle bracket at the front is passed over where another destination follows. -/
private theorem head_ne_angle_of_forall {c : Char} {v : Text} (hu : u = c :: v) : c ≠ '<' := by
  rintro rfl
  subst hu
  have hbody : ('<' :: v ++ [')', ')']).dropWhile isSpace = '<' :: (v ++ [')', ')']) := rfl
  rcases inlinePart?_cases (h [')']) with ⟨inner, hi, hp⟩ | ⟨inner, hi, hnone, -⟩ | ⟨hi, -⟩ | hp
  · rw [hbody, List.cons.injEq] at hi
    obtain ⟨t, ht, -⟩ := shortestUrl?_eq_some_iff.1 hp
    have hcount := congrArg (List.count '<') (hi.2.trans ht)
    simp at hcount
    omega
  · rw [hbody, List.cons.injEq] at hi
    have hl : '\n' ∉ v ++ [')'] := by simpa using (ne_nil_and_line_of_forall h).2
    refine shortestUrl?_ne_none (u := v ++ [')']) (by simp) hl [] ?_
    rw [List.append_assoc]
    exact hi.2 ▸ hnone
  · exact hi _ hbody
  · simp at hp

/-- Only destinations are read back whatever text comes behind the link. -/
theorem isDestination_of_forall : IsDestination u := by
  obtain ⟨hne, hl⟩ := ne_nil_and_line_of_forall h
  obtain ⟨c, v, rfl⟩ := List.exists_cons_of_ne_nil hne
  rw [List.mem_cons, not_or] at hl
  have hspace := head_ne_space_of_forall h rfl
  have hangle := head_ne_angle_of_forall h rfl
  have hend : ∀ rest, FirstEnd (c :: v) (')' :: rest) := fun rest =>
    (ending_of_inlinePart? hspace hangle (h rest)).1
  refine ⟨⟨hspace, hangle, Ne.symm hl.1⟩, ?_, ?_⟩
  · intro d hd
    obtain ⟨x, y, rfl⟩ := List.append_of_mem hd
    have hline : '\n' ∉ y := fun hy => hl.2 (by simp [hy])
    refine ⟨?_, ?_, fun hd' => hl.2 (hd' ▸ hd)⟩
    · rintro rfl
      have := hend [] (c :: x) (')' :: y) rfl (by simp) (by simp)
      simp [ending?_paren] at this
    · intro hm
      -- A second mark behind the link would make a title of what stands between the two.
      have hnone : ending? (spaces 0 ++ d :: (y ++ [')'] ++ d :: ')' :: [])) = none := by
        simpa [Text.copies] using hend [d, ')'] (c :: x) (d :: y) rfl (by simp) (by simp)
      rw [ending?_mark hm, Option.map_eq_none_iff] at hnone
      exact titleEnd?_ne_none (by simpa using hline) [] hnone
  · intro d hd
    obtain ⟨x, rfl⟩ := List.getLast?_eq_some_iff.1 hd
    have := hend [] (c :: x) [d] (by simp) (by simp) (by simp)
    constructor
    · rintro rfl
      exact absurd this (by decide)
    · rintro rfl
      exact absurd this (by decide)

end Exact

/-- The destinations that are read back, whatever text comes behind the link, are these. -/
theorem isDestination_iff {u : Text} :
    IsDestination u ↔
      ∀ rest, inlinePart? ('(' :: (u ++ ')' :: rest)) = some ⟨u, none, rest⟩ :=
  ⟨fun hu rest => inlinePart?_append hu (ending?_paren rest), isDestination_of_forall⟩

/-- With a destination before it, a title is read back just when it is one. -/
theorem isTitle_iff {u w : Text} {mark : Char} (hu : IsDestination u) (hm : IsMark mark)
    (n m : Nat) (rest : Text) :
    IsTitle mark w ↔
      inlinePart? ('(' :: (u ++ (spaces n ++ mark :: (w ++ mark :: (spaces m ++ ')' :: rest))))) =
        some ⟨u, some w, rest⟩ := by
  constructor
  · intro hw
    apply inlinePart?_append hu
    rw [ending?_mark hm, titleEnd?_append hm.ne_space hm.ne_paren hw]
    rfl
  · intro h
    cases u with
    | nil => exact absurd hu id
    | cons c v =>
      have hend := (ending_of_inlinePart? hu.1.1 hu.1.2.1 h).2
      rw [ending?_mark hm, Option.map_eq_some_iff] at hend
      obtain ⟨⟨w', rest'⟩, htitle, he⟩ := hend
      simp only [Prod.mk.injEq, Option.some.injEq] at he
      obtain ⟨rfl, rfl⟩ := he
      obtain ⟨_, -, hw⟩ := (titleEnd?_eq_some_iff hm.ne_space hm.ne_paren).1 htitle
      exact hw

end WikiText
