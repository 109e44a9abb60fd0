import Mathlib.Data.List.DropRight
import WikiText.Text.Blank

/-!
# Trimmed texts

What trimming and taking apart at white space leave, and which texts they leave alone.
-/

namespace WikiText.Text

/-- What holds of every character of a text is decided along the text, not over all characters. -/
instance (priority := high) {p : Char → Prop} [DecidablePred p] (s : Text) :
    Decidable (∀ c ∈ s, p c) :=
  List.decidableBAll p s

/-- The text is not empty, and no white space stands at its ends. -/
structure IsTrimmed (s : Text) : Prop where
  ne_nil : s ≠ []
  head : ∀ c ∈ s.head?, isBlank c = false
  last : ∀ c ∈ s.getLast?, isBlank c = false

instance (s : Text) : Decidable (IsTrimmed s) :=
  have hiff : s ≠ [] ∧ s.head?.all (!isBlank ·) = true ∧ s.getLast?.all (!isBlank ·) = true ↔
      IsTrimmed s := by
    simp only [Option.all_eq_true, Bool.not_eq_true']
    exact ⟨fun h => ⟨h.1, h.2.1, h.2.2⟩, fun h => ⟨h.1, h.2, h.3⟩⟩
  decidable_of_iff _ hiff

theorem trim_eq (s : Text) : trim s = (s.dropWhile isBlank).rdropWhile isBlank := rfl

theorem dropWhile_eq_self_of_head {f : Char → Bool} {s : Text} (h : ∀ c ∈ s.head?, f c = false) :
    s.dropWhile f = s := by
  cases s with
  | nil => rfl
  | cons c s => rw [List.dropWhile_cons_of_neg (by simp [h c rfl])]

theorem rdropWhile_eq_self_of_getLast {f : Char → Bool} {s : Text}
    (h : ∀ c ∈ s.getLast?, f c = false) : s.rdropWhile f = s := by
  rw [List.rdropWhile, dropWhile_eq_self_of_head (by rwa [List.head?_reverse]),
    List.reverse_reverse]

theorem head?_dropWhile {f : Char → Bool} {s : Text} {c : Char} (h : c ∈ (s.dropWhile f).head?) :
    f c = false := by
  have := List.head?_dropWhile_not f s
  rw [Option.mem_def.1 h] at this
  exact this

section IsTrimmed

variable {s : Text} (h : IsTrimmed s) {f : Char → Bool} (hf : ∀ c, isBlank c = false → f c = false)
include h hf

theorem IsTrimmed.dropWhile_append (t : Text) : (s ++ t).dropWhile f = s ++ t :=
  dropWhile_eq_self_of_head fun c hc =>
    hf c (h.head c (by rwa [List.head?_append_of_ne_nil _ h.ne_nil] at hc))

theorem IsTrimmed.rdropWhile : s.rdropWhile f = s :=
  rdropWhile_eq_self_of_getLast fun c hc => hf c (h.last c hc)

end IsTrimmed

theorem trimWhile_subset (f : Char → Bool) (s : Text) : trimWhile f s ⊆ s := fun _ hc =>
  (List.dropWhile_suffix _).subset (List.mem_reverse.1
    ((List.dropWhile_suffix _).subset (List.mem_reverse.1 hc)))

theorem trim_eq_self {s : Text} (h : IsTrimmed s) : trim s = s := by
  rw [trim_eq, dropWhile_eq_self_of_head h.head, rdropWhile_eq_self_of_getLast h.last]

theorem isTrimmed_trim {s : Text} (h : trim s ≠ []) : IsTrimmed (trim s) where
  ne_nil := h
  head c hc := by
    -- what is dropped at the end leaves the first character where it is
    obtain ⟨t, ht⟩ : trim s <+: s.dropWhile isBlank :=
      List.rdropWhile_prefix isBlank _
    refine head?_dropWhile (f := isBlank) (s := s) ?_
    rw [← ht, List.head?_append_of_ne_nil _ h]
    exact hc
  last c hc := by
    rw [trim_eq] at h hc
    have := List.rdropWhile_last_not isBlank _ h
    rw [List.getLast?_eq_some_getLast h, Option.mem_some] at hc
    rw [← hc]
    exact eq_false_of_ne_true this

theorem isTrimmed_of_not_mem {s : Text} (hs : s ≠ []) (h : ∀ c ∈ s, isBlank c = false) :
    IsTrimmed s :=
  ⟨hs, fun c hc => h c (List.mem_of_mem_head? hc), fun c hc => h c (List.mem_of_getLast? hc)⟩

/-- The words found so far are made of what is not white space, and so is the word at hand. -/
theorem consWord_ne_blank (s : Text) :
    (∀ w ∈ (s.foldr consWord ([], [])).1, w ≠ [] ∧ ∀ c ∈ w, isBlank c = false) ∧
      ∀ c ∈ (s.foldr consWord ([], [])).2, isBlank c = false := by
  induction s with
  | nil => exact ⟨fun _ h => absurd h List.not_mem_nil, fun _ h => absurd h List.not_mem_nil⟩
  | cons c s ih =>
    obtain ⟨hws, hw⟩ := ih
    rw [List.foldr_cons, consWord]
    split
    · split
      · exact ⟨hws, hw⟩
      · next hne =>
        refine ⟨?_, fun _ h => absurd h List.not_mem_nil⟩
        exact List.forall_mem_cons.2 ⟨⟨fun h => hne (by rw [h]; rfl), hw⟩, hws⟩
    · next hc => exact ⟨hws, List.forall_mem_cons.2 ⟨eq_false_of_ne_true hc, hw⟩⟩

theorem isTrimmed_of_mem_words {s w : Text} (h : w ∈ words s) : IsTrimmed w := by
  obtain ⟨hws, hw⟩ := consWord_ne_blank s
  rw [words] at h
  split at h
  next ws w' heq =>
    rw [heq] at hws hw
    split at h
    · exact isTrimmed_of_not_mem (hws _ h).1 (hws _ h).2
    · next hne =>
      obtain rfl | h := List.mem_cons.1 h
      · exact isTrimmed_of_not_mem (fun h => hne (by rw [h]; rfl)) hw
      · exact isTrimmed_of_not_mem (hws _ h).1 (hws _ h).2

/-! ## Words -/

/-- The text consists of these words, with white space between them and at its ends. -/
inductive SplitsInto : Text → List Text → Prop
  | blank {gap : Text} (h : ∀ c ∈ gap, isBlank c = true) : SplitsInto gap []
  | word {gap w rest : Text} {ws : List Text} (hgap : ∀ c ∈ gap, isBlank c = true) (hne : w ≠ [])
      (hw : ∀ c ∈ w, isBlank c = false) (hrest : ∀ c ∈ rest.head?, isBlank c = true)
      (h : SplitsInto rest ws) : SplitsInto (gap ++ w ++ rest) (w :: ws)

theorem SplitsInto.cons {c : Char} {s : Text} {ws : List Text} (hc : isBlank c = true)
    (h : SplitsInto s ws) : SplitsInto (c :: s) ws := by
  cases h with
  | blank h => exact .blank (List.forall_mem_cons.2 ⟨hc, h⟩)
  | word hgap hne hw hrest h => exact .word (List.forall_mem_cons.2 ⟨hc, hgap⟩) hne hw hrest h

theorem SplitsInto.cons_word {w rest : Text} {ws : List Text} (hw : ∀ c ∈ w, isBlank c = false)
    (hrest : ∀ c ∈ rest.head?, isBlank c = true) (h : SplitsInto rest ws) :
    SplitsInto (w ++ rest) (if w.isEmpty then ws else w :: ws) := by
  split
  · next hempty => rwa [List.isEmpty_iff.1 hempty]
  · next hne =>
    have hnone : ∀ c ∈ ([] : Text), isBlank c = true := fun _ h => absurd h List.not_mem_nil
    exact .word hnone (fun he => hne (by rw [he]; rfl)) hw hrest h

/-- The word at hand begins the text, and the words found so far are those of what follows it. -/
theorem splitsInto_foldr_consWord (s : Text) :
    ∃ rest, s = (s.foldr consWord ([], [])).2 ++ rest ∧ (∀ c ∈ rest.head?, isBlank c = true) ∧
      SplitsInto rest (s.foldr consWord ([], [])).1 := by
  induction s with
  | nil => exact ⟨[], rfl, nofun, .blank fun _ h => absurd h List.not_mem_nil⟩
  | cons c s ih =>
    obtain ⟨rest, hs, hrest, h⟩ := ih
    have hw := (consWord_ne_blank s).2
    rw [List.foldr_cons, consWord]
    generalize s.foldr consWord ([], []) = found at hs h hw ⊢
    split
    · next hc =>
      have hwords := (SplitsInto.cons_word hw hrest h).cons hc
      rw [← hs] at hwords
      have hhead : ∀ d ∈ (c :: s).head?, isBlank d = true := by
        rintro d hd
        rwa [← Option.some.inj hd]
      split
      · next hempty =>
        rw [if_pos hempty] at hwords
        exact ⟨c :: s, by rw [List.isEmpty_iff.1 hempty]; rfl, hhead, hwords⟩
      · next hne =>
        rw [if_neg hne] at hwords
        exact ⟨c :: s, rfl, hhead, hwords⟩
    · exact ⟨rest, by rw [List.cons_append, ← hs], hrest, h⟩

theorem splitsInto_words (s : Text) : SplitsInto s (words s) := by
  obtain ⟨rest, hs, hrest, h⟩ := splitsInto_foldr_consWord s
  have hwords := SplitsInto.cons_word (consWord_ne_blank s).2 hrest h
  rwa [← hs] at hwords

theorem words_cons_of_isBlank {c : Char} (hc : isBlank c = true) (s : Text) :
    words (c :: s) = words s := by
  rw [words, words, List.foldr_cons, consWord, if_pos hc]
  obtain ⟨ws, w⟩ := s.foldr consWord ([], [])
  cases w <;> rfl

theorem foldr_consWord_append {w : Text} (hw : ∀ c ∈ w, isBlank c = false)
    (found : List Text × Text) : w.foldr consWord found = (found.1, w ++ found.2) := by
  induction w with
  | nil => rfl
  | cons c w ih =>
    rw [List.forall_mem_cons] at hw
    rw [List.foldr_cons, ih hw.2, consWord, hw.1]
    rfl

/-- White space ends the word before it, so that all words behind it are found already. -/
theorem foldr_consWord_of_head {s : Text} (h : ∀ c ∈ s.head?, isBlank c = true) :
    s.foldr consWord ([], []) = (words s, []) := by
  have hempty : (s.foldr consWord ([], [])).2 = [] := by
    cases s with
    | nil => rfl
    | cons c s =>
      rw [List.foldr_cons, consWord, if_pos (h c rfl)]
      split
      · next hempty => exact List.isEmpty_iff.1 hempty
      · rfl
  rw [words]
  generalize s.foldr consWord ([], []) = found at hempty ⊢
  obtain ⟨ws, w⟩ := found
  cases hempty
  rfl

theorem words_append {w rest : Text} (hne : w ≠ []) (hw : ∀ c ∈ w, isBlank c = false)
    (hrest : ∀ c ∈ rest.head?, isBlank c = true) : words (w ++ rest) = w :: words rest := by
  rw [words, List.foldr_append, foldr_consWord_append hw, foldr_consWord_of_head hrest,
    List.append_nil]
  cases w with
  | nil => exact absurd rfl hne
  | cons c w => rfl

theorem SplitsInto.words_eq {s : Text} {ws : List Text} (h : SplitsInto s ws) : words s = ws := by
  have hskip {gap : Text} (hgap : ∀ c ∈ gap, isBlank c = true) (t : Text) :
      words (gap ++ t) = words t := by
    induction gap with
    | nil => rfl
    | cons c gap ih =>
      rw [List.forall_mem_cons] at hgap
      rw [List.cons_append, words_cons_of_isBlank hgap.1, ih hgap.2]
  induction h with
  | blank h =>
    have hnone := hskip h []
    rwa [List.append_nil] at hnone
  | word hgap hne hw hrest _ ih =>
    rw [List.append_assoc, hskip hgap, words_append hne hw hrest, ih]

/-- A text is taken apart in one way. -/
theorem splitsInto_iff {s : Text} {ws : List Text} : SplitsInto s ws ↔ words s = ws :=
  ⟨SplitsInto.words_eq, fun h => h ▸ splitsInto_words s⟩

end WikiText.Text
