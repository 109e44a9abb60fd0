import Mathlib.Data.List.TakeWhile
import WikiText.Markdown.Fence
import WikiText.Proofs.Text.Blank

/-!
# Opening lines with a language

Behind the marks of a fence the language stands as it is: see `Fence.ofLine?_tag`.
-/

namespace WikiText.Markdown.Fence

/-- Three marks or more, all of them the same. -/
def IsMarks (marks : Text) : Prop :=
  3 ≤ marks.length ∧ ((∀ c ∈ marks, c = '~') ∨ ∀ c ∈ marks, c = '\x60')

/-- What can be written as a language: word characters, number signs, full stops, plus signs and
hyphens, the first of which is no full stop. -/
structure IsTag (tag : Text) : Prop where
  ne_nil : tag ≠ []
  chars : ∀ c ∈ tag, isLanguageChar c = true
  head : tag.head? ≠ some '.'

instance (marks : Text) : Decidable (IsMarks marks) := inferInstanceAs (Decidable (_ ∧ _))

instance (tag : Text) : Decidable (IsTag tag) :=
  decidable_of_iff (tag ≠ [] ∧ (∀ c ∈ tag, isLanguageChar c = true) ∧ tag.head? ≠ some '.')
    ⟨fun h => ⟨h.1, h.2.1, h.2.2⟩, fun h => ⟨h.ne_nil, h.chars, h.head⟩⟩

theorem ne_of_isLanguageChar {c d : Char} (hc : isLanguageChar c = true)
    (hd : isLanguageChar d = false) : c ≠ d := by
  rintro rfl
  exact Bool.false_ne_true (hd.symm.trans hc)

theorem IsTag.not_mem {tag : Text} (h : IsTag tag) {c : Char} (hc : isLanguageChar c = false) :
    c ∉ tag := fun hmem => ne_of_isLanguageChar (h.chars c hmem) hc rfl

/-- A language is read up to the end of the line. -/
theorem IsTag.language? {tag : Text} (h : IsTag tag) : Fence.language? tag = some tag := by
  have hname : tag.takeWhile isLanguageChar = tag := List.takeWhile_eq_self_iff.2 h.chars
  have hend : isLineChoice (dropSpaces []) = true := rfl
  have hdot : ∀ t, tag = '.' :: t → False := fun t ht => h.head (by rw [ht]; rfl)
  rw [Fence.language?, hname, List.drop_length, if_pos hend]
  exact hdot

/-- The marks and the language of an opening line are what stands in it. -/
theorem ofLine?_tag {marks tag : Text} (hmarks : IsMarks marks) (htag : IsTag tag) :
    ofLine? (marks ++ tag) = some { marks, language := tag } := by
  obtain ⟨hlength, hall⟩ := hmarks
  obtain ⟨d, hd, hall, hno⟩ : ∃ d, (d = '~' ∨ d = '\x60') ∧ (∀ c ∈ marks, c = d) ∧ d ∉ tag :=
    hall.elim (fun hall => ⟨'~', .inl rfl, hall, htag.not_mem (by decide)⟩)
      fun hall => ⟨'\x60', .inr rfl, hall, htag.not_mem (by decide)⟩
  obtain ⟨m, marks, rfl⟩ := List.exists_cons_of_length_pos (Nat.lt_of_lt_of_le (by decide) hlength)
  obtain ⟨c, tag, rfl⟩ := List.exists_cons_of_ne_nil htag.ne_nil
  obtain rfl : m = d := hall m List.mem_cons_self
  have hc : c ≠ m := fun hcm => hno (hcm ▸ List.mem_cons_self)
  have htake : (m :: marks ++ c :: tag).takeWhile (· = m) = m :: marks :=
    Text.takeWhile_append_cons (List.all_eq_true.2 fun b hb => decide_eq_true (hall b hb))
      (decide_eq_false hc) tag
  have hspace : c ≠ ' ' :=
    ne_of_isLanguageChar (htag.chars c List.mem_cons_self) (by decide)
  have hbrace : c ≠ '\x7b' :=
    ne_of_isLanguageChar (htag.chars c List.mem_cons_self) (by decide)
  have hdrop : dropSpaces (c :: tag) = c :: tag :=
    List.dropWhile_cons_of_neg (by simpa using hspace)
  have hline : m :: marks ++ c :: tag = m :: (marks ++ c :: tag) := rfl
  -- what stands behind the marks is no list of attributes
  have hlist : ∀ t, c :: tag = '\x7b' :: t → False := fun t ht => hbrace (List.cons.inj ht).1
  rw [hline, ofLine?]
  dsimp only
  rw [← hline, htake, if_pos ⟨hd, hlength⟩, List.drop_left, hdrop]
  simp only [htag.language?, Option.map_some]

end WikiText.Markdown.Fence
