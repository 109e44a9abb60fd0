import WikiText.Proofs.Text.Blank
import WikiText.Text.Word

/-!
# Plain words

A word of letters and digits holds no mark of the markup and no white space, so every reader passes
over it.
-/

namespace WikiText.Text

/-- A letter, a digit or a numeral. -/
def IsLetter (c : Char) : Prop := isWord c = true ∧ c ≠ '_'

instance (c : Char) : Decidable (IsLetter c) := inferInstanceAs (Decidable (_ ∧ _))

theorem IsLetter.ne {c d : Char} (h : IsLetter c) (hd : ¬ IsLetter d) : c ≠ d := fun hcd =>
  hd (hcd ▸ h)

/-- No white space is among the word characters. -/
theorem has_wordRanges_of_blank : ∀ n ∈ [9, 10, 11, 12, 13, 28, 29, 30, 31, 32, 0x85, 0xA0, 0x1680,
    0x2000, 0x2001, 0x2002, 0x2003, 0x2004, 0x2005, 0x2006, 0x2007, 0x2008, 0x2009, 0x200A, 0x2028,
    0x2029, 0x202F, 0x205F, 0x3000], CodePoints.has n wordRanges = false := by decide +kernel

theorem IsLetter.isBlank {c : Char} (h : IsLetter c) : isBlank c = false := by
  refine eq_false_of_ne_true fun hblank => ?_
  have hword : CodePoints.has c.toNat wordRanges = true := h.1
  rw [has_wordRanges_of_blank c.toNat ?_] at hword
  · cases hword
  · simp only [Text.isBlank, Bool.or_eq_true, Bool.and_eq_true, decide_eq_true_eq, beq_iff_eq]
      at hblank
    simp only [List.mem_cons, List.not_mem_nil, or_false]
    omega

/-- A word of letters. -/
structure IsPlain (w : Text) : Prop where
  ne_nil : w ≠ []
  letters : ∀ c ∈ w, IsLetter c

instance (w : Text) : Decidable (IsPlain w) :=
  decidable_of_iff (w ≠ [] ∧ ∀ c ∈ w, IsLetter c) ⟨fun h => ⟨h.1, h.2⟩, fun h => ⟨h.1, h.2⟩⟩

theorem IsPlain.not_mem {w : Text} (h : IsPlain w) {d : Char} (hd : ¬ IsLetter d) : d ∉ w :=
  fun hmem => hd (h.letters d hmem)

end WikiText.Text
