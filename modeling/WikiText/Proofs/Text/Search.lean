import Mathlib.Data.List.Infix
import WikiText.Text.Basic

/-!
# Search in a text

What is known of the place at which a search finds its first occurrence, and of texts in which a
reader finds nothing.
-/

namespace WikiText.Text

/-! ## The first and the last place of a character -/

section Split

variable {d : Char} {a b a' b' : Text}

/-- A text is split in one way at the first place of a character. -/
theorem eq_of_append_cons (ha : d ∉ a) (ha' : d ∉ a') (h : a ++ d :: b = a' ++ d :: b') :
    a = a' ∧ b = b' := by
  have hfront : ∀ {l : Text}, d ∉ l → ∀ r : Text, (l ++ d :: r).takeWhile (· ≠ d) = l := by
    intro l hl r
    rw [takeWhile_ne_append hl, List.takeWhile_cons_of_neg (by simp), List.append_nil]
  have heq : a = a' := by rw [← hfront ha b, h, hfront ha' b']
  rw [heq] at h
  exact ⟨heq, (List.cons.inj (List.append_cancel_left h)).2⟩

/-- A text is split in one way at the last place of a character. -/
theorem eq_of_append_cons_last (hb : d ∉ b) (hb' : d ∉ b') (h : a ++ d :: b = a' ++ d :: b') :
    a = a' ∧ b = b' := by
  have hreverse : b.reverse ++ d :: a.reverse = b'.reverse ++ d :: a'.reverse := by
    simpa using congrArg List.reverse h
  obtain ⟨hafter, hbefore⟩ := eq_of_append_cons (by simpa using hb) (by simpa using hb') hreverse
  exact ⟨List.reverse_injective hbefore, List.reverse_injective hafter⟩

/-- A character that stands at one place of a text stands at no other. -/
theorem eq_of_append_cons_only (ha : d ∉ a) (hb : d ∉ b) (h : a' ++ d :: b' = a ++ d :: b) :
    a' = a ∧ b' = b := by
  have hcount := congrArg (List.count d) h
  simp only [List.count_append, List.count_cons_self, List.count_eq_zero.2 ha,
    List.count_eq_zero.2 hb] at hcount
  have ha' : d ∉ a' := List.count_eq_zero.1 (by omega)
  exact eq_of_append_cons ha' ha h

end Split

/-! ## Texts that stand at one place -/

/-- The text `p` stands at one place of `s` and at no other. -/
def OccursOnce (p s : Text) : Prop := ∃! around : Text × Text, s = around.1 ++ p ++ around.2

section TwoPlaces

variable {d : Char} {p x y u v : Text}

/-- The places of a character that begins a text and stands once more in it. -/
theorem eq_of_cons_append_cons (hx : d ∉ x) (hy : d ∉ y) (h : d :: (x ++ d :: y) = u ++ d :: v) :
    (u = [] ∧ v = x ++ d :: y) ∨ (u = d :: x ∧ v = y) := by
  cases u with
  | nil => exact .inl ⟨rfl, (List.cons.inj h).2.symm⟩
  | cons c u =>
    obtain ⟨rfl, htail⟩ := List.cons.inj h
    obtain ⟨rfl, rfl⟩ := eq_of_append_cons_only hx hy htail.symm
    exact .inr ⟨rfl, rfl⟩

/-- What begins a text stands nowhere else in it if it does not go on so at the second place. -/
theorem occursOnce_front (hx : d ∉ p ++ x) (hy : d ∉ y) (hp : ¬ p <+: y) :
    OccursOnce (d :: p) (d :: (p ++ x ++ d :: y)) := by
  refine ⟨([], x ++ d :: y), by simp, fun (u, v) h => ?_⟩
  simp only [List.append_assoc u, List.cons_append] at h
  rcases eq_of_cons_append_cons hx hy h with ⟨rfl, hv⟩ | ⟨-, hv⟩
  · rw [List.append_assoc] at hv
    rw [List.append_cancel_left hv]
  · exact absurd ⟨v, hv⟩ hp

/-- What stands at the second place stands nowhere else if the text does not begin so. -/
theorem occursOnce_back (hx : d ∉ x) (hy : d ∉ p ++ y) (hp : ¬ p <+: x ++ d :: (p ++ y)) :
    OccursOnce (d :: p) (d :: (x ++ d :: (p ++ y))) := by
  refine ⟨(d :: x, y), by simp, fun (u, v) h => ?_⟩
  simp only [List.append_assoc u, List.cons_append] at h
  rcases eq_of_cons_append_cons hx hy h with ⟨-, hv⟩ | ⟨rfl, hv⟩
  · exact absurd ⟨v, hv⟩ hp
  · rw [List.append_cancel_left hv]

end TwoPlaces

/-! ## Texts that are searched for -/

/-- A text that cannot begin `p` is passed over in the search for `p`. -/
theorem splitOnce?_append_of_not_mem {a : Char} {p g : Text} (hg : a ∉ g) (s : Text) :
    splitOnce? (a :: p) (g ++ s) =
      (splitOnce? (a :: p) s).map fun (before, after) => (g ++ before, after) := by
  induction g with
  | nil =>
    rw [List.nil_append]
    cases splitOnce? (a :: p) s <;> rfl
  | cons c g ih =>
    rw [List.mem_cons, not_or] at hg
    have hstrip : strip? (a :: p) (c :: (g ++ s)) = none := by rw [strip?, if_neg hg.1]
    rw [List.cons_append, splitOnce?, hstrip, ih hg.2, Option.map_map]
    rfl

theorem splitOnce?_append_self {p : Text} (hp : p ≠ []) (s : Text) :
    splitOnce? p (p ++ s) = some ([], s) := by
  have hstrip := strip?_append p s
  cases p with
  | nil => exact absurd rfl hp
  | cons a p =>
    rw [List.cons_append] at hstrip ⊢
    rw [splitOnce?, hstrip]

/-- A text is found behind what cannot begin it. -/
theorem splitOnce?_append_of_head_not_mem {a : Char} {p g : Text} (hg : a ∉ g) (s : Text) :
    splitOnce? (a :: p) (g ++ (a :: p ++ s)) = some (g, s) := by
  rw [splitOnce?_append_of_not_mem hg, splitOnce?_append_self (List.cons_ne_nil a p)]
  simp only [Option.map_some, List.append_nil]

theorem strip?_eq_none_iff {p s : Text} : strip? p s = none ↔ ¬ p <+: s := by
  constructor
  · rintro h ⟨r, rfl⟩
    simp [strip?_append] at h
  · intro h
    cases hs : strip? p s with
    | none => rfl
    | some r => exact absurd ⟨r, (eq_append_of_strip? hs).symm⟩ h

/-- The first occurrence is found. -/
theorem not_infix_of_splitOnce? {p s before after : Text} (hp : p ≠ [])
    (h : splitOnce? p s = some (before, after)) : ¬ p <:+: before := by
  induction s generalizing before with
  | nil =>
    have hnil := eq_append_of_splitOnce? h
    simp [hp] at hnil
  | cons c s ih =>
    rw [splitOnce?] at h
    split at h
    · simp only [Option.some.injEq, Prod.mk.injEq] at h
      rw [← h.1, List.infix_nil]
      exact hp
    · next hstrip =>
      simp only [Option.map_eq_some_iff, Prod.exists, Prod.mk.injEq] at h
      obtain ⟨before, after, hs, rfl, rfl⟩ := h
      rw [List.infix_cons_iff, not_or]
      refine ⟨fun hpre => strip?_eq_none_iff.1 hstrip ?_, ih hs⟩
      rw [eq_append_of_splitOnce? hs, List.append_assoc, ← List.cons_append]
      exact hpre.trans (List.prefix_append _ _)

/-- What is found in a text is found there with any text behind it. -/
theorem splitOnce?_append {p s before after : Text} (h : splitOnce? p s = some (before, after))
    (t : Text) : splitOnce? p (s ++ t) = some (before, after ++ t) := by
  induction s generalizing before with
  | nil =>
    have hnil := eq_append_of_splitOnce? h
    simp only [List.nil_eq, List.append_eq_nil_iff] at hnil
    obtain ⟨⟨rfl, rfl⟩, rfl⟩ := hnil
    cases t <;> rfl
  | cons c s ih =>
    rw [splitOnce?] at h
    rw [List.cons_append, splitOnce?]
    split at h
    · next rest hrest =>
      simp only [Option.some.injEq, Prod.mk.injEq] at h
      obtain ⟨rfl, rfl⟩ := h
      rw [← List.cons_append, eq_append_of_strip? hrest, List.append_assoc, strip?_append]
    · next hstrip =>
      simp only [Option.map_eq_some_iff, Prod.exists, Prod.mk.injEq] at h
      obtain ⟨before, after, hs, rfl, rfl⟩ := h
      have hlater : strip? p (c :: (s ++ t)) = none := by
        refine strip?_eq_none_iff.2 fun hpre => strip?_eq_none_iff.1 hstrip ?_
        refine List.prefix_of_prefix_length_le hpre (List.prefix_append (c :: s) t) ?_
        have := congrArg List.length (eq_append_of_splitOnce? hs)
        simp only [List.length_append, List.length_cons] at this ⊢
        omega
      rw [hlater, ih hs]
      rfl

/-- What stands in a text is found there. -/
theorem exists_splitOnce?_of_infix {p s : Text} (h : p <:+: s) :
    ∃ before after, splitOnce? p s = some (before, after) := by
  induction s with
  | nil =>
    obtain rfl := List.infix_nil.1 h
    exact ⟨[], [], rfl⟩
  | cons c s ih =>
    rw [splitOnce?]
    cases hstrip : strip? p (c :: s) with
    | some rest => exact ⟨_, _, rfl⟩
    | none =>
      have hs : p <:+: s :=
        (List.infix_cons_iff.1 h).resolve_left (strip?_eq_none_iff.1 hstrip)
      obtain ⟨before, after, hsplit⟩ := ih hs
      exact ⟨c :: before, after, by simp only [hsplit]; rfl⟩

/-! ## Texts in which nothing is found -/

section Nowhere

variable {α : Type} {read? : Text → Option α}

/-- The reader finds nothing at any character of the text. -/
def Nowhere (read? : Text → Option α) : Text → Prop
  | [] => True
  | c :: s => (read? (c :: s)).isNone = true ∧ Nowhere read? s

instance decidableNowhere (read? : Text → Option α) : (s : Text) → Decidable (Nowhere read? s)
  | [] => .isTrue trivial
  | _ :: s =>
    have := decidableNowhere read? s
    inferInstanceAs (Decidable (_ ∧ _))

theorem Nowhere.eq_none {c : Char} {s : Text} (h : Nowhere read? (c :: s)) :
    read? (c :: s) = none :=
  Option.isNone_iff_eq_none.1 h.1

theorem nowhere_of_append {s t : Text} (h : Nowhere read? (s ++ t)) : Nowhere read? t := by
  induction s with
  | nil => exact h
  | cons c s ih => exact ih h.2

/-- A reader of what begins with the character `a` finds nothing where it does not stand. -/
theorem nowhere_append {a : Char} (hread : ∀ c s, c ≠ a → read? (c :: s) = none) {s t : Text}
    (hs : a ∉ s) (ht : Nowhere read? t) : Nowhere read? (s ++ t) := by
  induction s with
  | nil => exact ht
  | cons c s ih =>
    rw [List.mem_cons, not_or] at hs
    exact ⟨Option.isNone_iff_eq_none.2 (hread c _ (Ne.symm hs.1)), ih hs.2⟩

theorem nowhere_of_not_mem {a : Char} (hread : ∀ c s, c ≠ a → read? (c :: s) = none) {s : Text}
    (hs : a ∉ s) : Nowhere read? s :=
  s.append_nil ▸ nowhere_append hread hs trivial

end Nowhere
end WikiText.Text
