import Mathlib.Data.List.Induction
import WikiText.Anchor.Brackets

/-!
# Where a bracket is closed

Two descriptions of the closing bracket that belongs to an opening one: by a running count over
positions (`closer?`), and by the text between the two, in which brackets nest properly
(`Balanced`).  The recursion `closing?` is the link between them.  Everything that is proved about
the brackets of a text goes through `closer?_eq_some_iff_balanced`.
-/

namespace WikiText

namespace Text

/-- In every beginning of `s` at most `d` brackets are closed that `s` did not open, and in the
whole of `s` these are `d`. -/
def Closing (d : Nat) (s : Text) : Prop :=
  (∀ p, p <+: s → p.count ']' ≤ d + p.count '[') ∧ s.count ']' = d + s.count '['

/-- The brackets of a text nest properly. -/
def Balanced (s : Text) : Prop :=
  (∀ p, p <+: s → p.count ']' ≤ p.count '[') ∧ s.count ']' = s.count '['

theorem closing_zero {s : Text} : Closing 0 s ↔ Balanced s := by simp [Closing, Balanced]

/-! ## Reading a text that closes `d` brackets -/

theorem closing_nil {d : Nat} : Closing d [] ↔ d = 0 := by
  constructor
  · intro h
    have := h.2
    simp only [List.count_nil] at this
    omega
  · rintro rfl
    exact ⟨by simp, rfl⟩

private theorem forall_isPrefix_cons {P : Text → Prop} {c : Char} {s : Text} :
    (∀ p, p <+: c :: s → P p) ↔ P [] ∧ ∀ p, p <+: s → P (c :: p) := by
  constructor
  · intro h
    exact ⟨h [] (List.nil_prefix), fun p hp => h (c :: p) (List.cons_prefix_cons.2 ⟨rfl, hp⟩)⟩
  · rintro ⟨h₀, h⟩ p hp
    rcases List.prefix_cons_iff.1 hp with rfl | ⟨q, rfl, hq⟩
    · exact h₀
    · exact h q hq

theorem closing_open {d : Nat} {s : Text} : Closing d ('[' :: s) ↔ Closing (d + 1) s := by
  simp only [Closing, forall_isPrefix_cons, List.count_cons, List.count_nil]
  simp [Nat.add_assoc, Nat.add_comm 1]

theorem closing_close {d : Nat} {s : Text} : Closing (d + 1) (']' :: s) ↔ Closing d s := by
  simp only [Closing, forall_isPrefix_cons, List.count_cons, List.count_nil]
  simp [Nat.add_right_comm d 1]

theorem not_closing_close {s : Text} : ¬ Closing 0 (']' :: s) := by
  intro h
  have := h.1 [']'] (by simp)
  simp at this

theorem closing_cons {d : Nat} {c : Char} {s : Text} (ho : c ≠ '[') (hc : c ≠ ']') :
    Closing d (c :: s) ↔ Closing d s := by
  simp [Closing, forall_isPrefix_cons, List.count_cons_of_ne ho, List.count_cons_of_ne hc]

theorem balanced_of_not_mem {s : Text} (ho : '[' ∉ s) (hc : ']' ∉ s) : Balanced s := by
  rw [← closing_zero]
  induction s with
  | nil => exact closing_nil.2 rfl
  | cons c s ih =>
    rw [List.mem_cons, not_or] at ho hc
    exact (closing_cons (Ne.symm ho.1) (Ne.symm hc.1)).2 (ih ho.2 hc.2)

end Text

open Text

/-- A text that closes `d` brackets and is followed by one more, read from its first character. -/
private theorem exists_closing_cons {d i stop : Nat} {c : Char} {s : Text} :
    (∃ t rest, c :: s = t ++ ']' :: rest ∧ Closing d t ∧ stop = i + t.length + 1) ↔
      (c = ']' ∧ d = 0 ∧ stop = i + 1) ∨
        ∃ t rest, s = t ++ ']' :: rest ∧ Closing d (c :: t) ∧ stop = i + 1 + t.length + 1 := by
  constructor
  · rintro ⟨_ | ⟨c', t⟩, rest, hs, ht, rfl⟩
    · simp only [List.nil_append, List.cons.injEq] at hs
      exact .inl ⟨hs.1, closing_nil.1 ht, rfl⟩
    · simp only [List.cons_append, List.cons.injEq] at hs
      obtain ⟨rfl, rfl⟩ := hs
      exact .inr ⟨t, rest, rfl, ht, by rw [List.length_cons]; omega⟩
  · rintro (⟨rfl, rfl, rfl⟩ | ⟨t, rest, rfl, ht, rfl⟩)
    · exact ⟨[], s, rfl, closing_nil.2 rfl, rfl⟩
    · exact ⟨c :: t, rest, rfl, ht, by rw [List.length_cons]; omega⟩

/-- The closing bracket is the first one that follows a text which closes `d` brackets. -/
theorem closing?_eq_some_iff {d i stop : Nat} {s : Text} :
    closing? d i s = some stop ↔
      ∃ t rest, s = t ++ ']' :: rest ∧ Closing d t ∧ stop = i + t.length + 1 := by
  induction s generalizing d i with
  | nil => simp
  | cons c s ih =>
    rw [exists_closing_cons]
    by_cases ho : c = '['
    · subst ho
      simp [ih, closing_open]
    · by_cases hc : c = ']'
      · subst hc
        cases d with
        | zero => simp [not_closing_close, eq_comm]
        | succ d => simp [ih, closing_close]
      · simp [closing?_cons ho hc, ih, closing_cons ho hc, hc]

/-- A text is balanced if a closing bracket at its end is one too many, and the first such. -/
theorem balanced_iff_closing? {s : Text} :
    Balanced s ↔ closing? 0 0 (s ++ [']']) = some (s.length + 1) := by
  rw [closing?_eq_some_iff]
  constructor
  · intro h
    exact ⟨s, [], rfl, closing_zero.2 h, by omega⟩
  · rintro ⟨t, rest, hs, ht, hlen⟩
    obtain ⟨rfl, -⟩ := List.append_inj hs (by omega)
    exact closing_zero.1 ht

instance (s : Text) : Decidable (Balanced s) := decidable_of_iff _ balanced_iff_closing?.symm

/-! ## The running count

The count is one at the opening bracket.  It can come to zero at a closing bracket only, so that
the first time it does the brackets in between are balanced. -/

/-- The number of open brackets just before `stop`, the first of them standing at `start`. -/
def openAt (s : Text) (start stop : Nat) : Int :=
  let inside := (s.take stop).drop (start + 1)
  1 + inside.count '[' - inside.count ']'

/-- `stop` is just past a closing bracket after `start` at which no bracket is open any more. -/
def ClosedAt (s : Text) (start stop : Nat) : Prop :=
  start + 1 < stop ∧ s[stop - 1]? = some ']' ∧ openAt s start stop = 0

instance (s : Text) (start stop : Nat) : Decidable (ClosedAt s start stop) :=
  inferInstanceAs (Decidable (_ ∧ _ ∧ _))

/-- The index just past the bracket that closes the one at `start`, found by counting from there.
Nothing is remembered from one question to the next. -/
def closer? (s : Text) (start : Nat) : Option Nat :=
  (List.range (s.length + 1)).find? fun stop => ClosedAt s start stop

theorem closedAt_iff {s : Text} {start stop : Nat} :
    ClosedAt s start stop ↔
      ∃ t rest, s.drop (start + 1) = t ++ ']' :: rest ∧ t.count ']' = t.count '[' ∧
        stop = start + t.length + 2 := by
  have inside : (s.take stop).drop (start + 1) = (s.drop (start + 1)).take (stop - (start + 1)) :=
    List.drop_take
  unfold ClosedAt openAt
  simp only [inside]
  constructor
  · rintro ⟨hlt, hc, hz⟩
    obtain ⟨k, rfl⟩ : ∃ k, stop = start + k + 2 := ⟨stop - start - 2, by omega⟩
    have hc' : (s.drop (start + 1))[k]? = some ']' := by
      rw [List.getElem?_drop, ← hc]
      congr 1
      omega
    obtain ⟨hk, hget⟩ := List.getElem?_eq_some_iff.1 hc'
    have hu : s.drop (start + 1) =
        (s.drop (start + 1)).take k ++ ']' :: (s.drop (start + 1)).drop (k + 1) := by
      rw [← hget, ← List.drop_eq_getElem_cons hk, List.take_append_drop]
    have htake : (s.drop (start + 1)).take (start + k + 2 - (start + 1)) =
        (s.drop (start + 1)).take k ++ [']'] := by
      rw [show start + k + 2 - (start + 1) = k + 1 by omega, List.take_add_one, hc']
      rfl
    rw [htake] at hz
    refine ⟨_, _, hu, ?_, ?_⟩
    · simp at hz
      omega
    · rw [List.length_take, Nat.min_eq_left (Nat.le_of_lt hk)]
  · rintro ⟨t, rest, hu, hcount, rfl⟩
    refine ⟨by omega, ?_, ?_⟩
    · rw [show start + t.length + 2 - 1 = start + 1 + t.length by omega, ← List.getElem?_drop, hu]
      simp
    · rw [hu, show start + t.length + 2 - (start + 1) = t.length + 1 by omega,
        List.take_length_add_append]
      simp
      omega

theorem closer?_eq_some_iff {s : Text} {start stop : Nat} :
    closer? s start = some stop ↔
      ClosedAt s start stop ∧ ∀ j, j < stop → ¬ ClosedAt s start j := by
  rw [closer?, List.find?_range_eq_some]
  simp only [decide_eq_true_eq, List.mem_range, Bool.not_eq_true', decide_eq_false_iff_not]
  refine and_congr_right fun h => and_iff_right ?_
  have := (List.getElem?_eq_some_iff.1 h.2.1).1
  omega

/-- The text between a bracket and the one that closes it is balanced, and this determines the
latter. -/
theorem closer?_eq_some_iff_balanced {s : Text} {start stop : Nat} :
    closer? s start = some stop ↔
      ∃ t rest, s.drop (start + 1) = t ++ ']' :: rest ∧ Balanced t ∧
        stop = start + t.length + 2 := by
  rw [closer?_eq_some_iff, closedAt_iff]
  constructor
  · rintro ⟨⟨t, rest, hu, hcount, rfl⟩, hfirst⟩
    refine ⟨t, rest, hu, ⟨?_, hcount⟩, rfl⟩
    intro p
    -- The count would come to zero at the bracket with which a beginning goes wrong first.
    induction p using List.reverseRecOn with
    | nil => simp
    | append_singleton p c ih =>
      intro hp
      have hle := ih ((List.prefix_append p [c]).trans hp)
      by_cases hc : c = ']'
      · subst hc
        obtain ⟨r, rfl⟩ := hp
        have hne : p.count ']' ≠ p.count '[' := by
          intro he
          refine hfirst (start + p.length + 2) (by simp)
            (closedAt_iff.2 ⟨p, r ++ ']' :: rest, ?_, he, rfl⟩)
          simpa using hu
        simp
        omega
      · have : (p ++ [c]).count ']' = p.count ']' := by simp [hc]
        have : p.count '[' ≤ (p ++ [c]).count '[' := by simp
        omega
  · rintro ⟨t, rest, hu, ht, rfl⟩
    refine ⟨⟨t, rest, hu, ht.2, rfl⟩, ?_⟩
    intro j hj hclosed
    obtain ⟨p, r, hp, hcount, rfl⟩ := closedAt_iff.1 hclosed
    have hpre : p ++ [']'] <+: t := by
      have hp' : p ++ [']'] <+: s.drop (start + 1) := ⟨r, by simp [hp]⟩
      refine List.prefix_of_prefix_length_le hp' ⟨']' :: rest, hu.symm⟩ ?_
      simp only [List.length_append, List.length_singleton]
      omega
    have := ht.1 _ hpre
    simp at this
    omega

/-- At the end of a stretch that is closed stands its closing bracket, behind the opening one. -/
theorem drop_of_closer? {s : Text} {start stop : Nat} (h : closer? s start = some stop) :
    s.drop (stop - 1) = ']' :: s.drop stop ∧ start + 2 ≤ stop ∧ stop ≤ s.length := by
  obtain ⟨t, rest, hdrop, -, rfl⟩ := closer?_eq_some_iff_balanced.1 h
  have hclosing : s.drop (start + t.length + 1) = ']' :: rest := by
    rw [Nat.add_right_comm, ← List.drop_drop, hdrop, List.drop_left]
  have hrest : s.drop (start + t.length + 2) = rest := by
    rw [← List.drop_drop (i := 1), hclosing]
    rfl
  have hlength := congrArg List.length hclosing
  rw [List.length_drop, List.length_cons] at hlength
  exact ⟨hrest ▸ hclosing, by omega, by omega⟩

/-- Counting over positions and counting along the text find the same bracket. -/
theorem closer?_eq_closing? (s : Text) (start : Nat) :
    closer? s start = closing? 0 (start + 1) (s.drop (start + 1)) := by
  apply Option.ext
  intro stop
  rw [closer?_eq_some_iff_balanced, closing?_eq_some_iff]
  simp only [closing_zero, show ∀ n, start + 1 + n + 1 = start + n + 2 by omega]

end WikiText
