import Mathlib.Data.List.DropRight
import WikiText.Proofs.Text.Pieces
import WikiText.Toc.Placeholder

/-!
# Placeholders on a line and in a text

A line is read from its last brace, a text from its front, with the shortest parameter that will do.
The two come to the same: what the reader of texts finds on a line does not depend on what follows
the line (`Placeholder.read?_append`), and it is what the reader of lines finds
(`Placeholder.read?_line`).
-/

namespace WikiText

open Text (isSpace IsLineEnd)

namespace Text

theorem dropWhile_append_of_eq_self {f : Char → Bool} {e : Text} (he : e.dropWhile f = e)
    (s : Text) : (s ++ e).dropWhile f = s.dropWhile f ++ e := by
  rw [List.dropWhile_append]
  split
  · next h => rw [he, List.isEmpty_iff.1 h, List.nil_append]
  · rfl

section NotMem

variable {d : Char} {f : Char → Bool} {s : Text} (h : d ∉ s)
include h

theorem not_mem_dropWhile : d ∉ s.dropWhile f :=
  fun hmem => h ((List.dropWhile_suffix f).subset hmem)

theorem not_mem_of_dropWhile_eq {t : Text} (ht : s.dropWhile f = t) : d ∉ t :=
  ht ▸ not_mem_dropWhile h

end NotMem

theorem dropWhile_isSpace_append {e : Text} (he : IsLineEnd e) (s : Text) :
    (s ++ e).dropWhile isSpace = s.dropWhile isSpace ++ e :=
  dropWhile_append_of_eq_self (by rcases he with rfl | ⟨t, rfl⟩ <;> rfl) s

theorem dropAtMost_isSpace_append {e : Text} (he : IsLineEnd e) (n : Nat) (s : Text) :
    dropAtMost isSpace n (s ++ e) = dropAtMost isSpace n s ++ e := by
  induction n generalizing s with
  | zero => rfl
  | succ n ih =>
    cases s with
    | nil => rcases he with rfl | ⟨t, rfl⟩ <;> rfl
    | cons c s =>
      rw [List.cons_append, dropAtMost, dropAtMost, ih]
      split <;> rfl

theorem dropWhile_eq_nil_iff_all {f : Char → Bool} {s : Text} :
    s.dropWhile f = [] ↔ s.all f = true := by
  rw [List.dropWhile_eq_nil_iff, List.all_eq_true]

theorem dropEndWhile_eq_nil_iff {f : Char → Bool} {s : Text} :
    dropEndWhile f s = [] ↔ s.all f = true :=
  List.rdropWhile_eq_nil_iff.trans List.all_eq_true.symm

theorem dropEndWhile_cons (f : Char → Bool) (c : Char) (s : Text) :
    dropEndWhile f (c :: s) =
      if s.all f then (if f c then [] else [c]) else c :: dropEndWhile f s := by
  have hnil : (s.reverse.dropWhile f).isEmpty = s.all f := by
    rw [Bool.eq_iff_iff, List.isEmpty_iff, dropWhile_eq_nil_iff_all, List.all_reverse]
  rw [dropEndWhile, dropEndWhile, List.reverse_cons, List.dropWhile_append, hnil]
  split
  · rw [List.dropWhile_cons]
    split <;> rfl
  · rw [List.reverse_append]
    rfl

theorem dropEndWhile_append {f : Char → Bool} {w : Text} (hw : w.all f = true) (s : Text) :
    dropEndWhile f (s ++ w) = dropEndWhile f s := by
  rw [dropEndWhile, dropEndWhile, List.reverse_append, List.dropWhile_append_of_pos]
  intro c hc
  exact List.all_eq_true.1 hw c (List.mem_reverse.1 hc)

/-- What is dropped from the end. -/
theorem exists_eq_dropEndWhile_append (f : Char → Bool) (s : Text) :
    ∃ w : Text, w.all f = true ∧ s = dropEndWhile f s ++ w := by
  refine ⟨(s.reverse.takeWhile f).reverse, ?_, ?_⟩
  · rw [List.all_reverse]
    exact List.all_takeWhile
  · rw [dropEndWhile, ← List.reverse_append, List.takeWhile_append_dropWhile, List.reverse_reverse]

end Text

namespace Toc

/-! ## What follows a line does not matter -/

section Append

variable {e : Text} (he : IsLineEnd e)
include he

theorem side?_append (s : Text) : side? (s ++ e) = ((side? s).1, (side? s).2 ++ e) := by
  cases s with
  | nil => rcases he with rfl | ⟨t, rfl⟩ <;> rfl
  | cons c s =>
    by_cases hl : c = '<'
    · subst hl; rfl
    · by_cases hr : c = '>'
      · subst hr; rfl
      · simp [side?, hl, hr]

theorem afterWord?_append {word : Text} (hword : '\n' ∉ word) (s : Text) :
    afterWord? word (s ++ e) = (afterWord? word s).map (· ++ e) := by
  induction word generalizing s with
  | nil => rfl
  | cons a word ih =>
    rw [List.mem_cons, not_or] at hword
    cases s with
    | nil =>
      rcases he with rfl | ⟨t, rfl⟩
      · rfl
      · exact if_neg hword.1
    | cons c s =>
      rw [List.cons_append, afterWord?, afterWord?, ih hword.2]
      split <;> rfl

theorem opening?_append (s : Text) :
    opening? (s ++ e) = (opening? s).map fun (side, t) => (side, t ++ e) := by
  have hword : '\n' ∉ ['t', 'o', 'c'] := by decide
  rw [opening?, opening?, Text.dropAtMost_isSpace_append he]
  cases Text.dropAtMost isSpace 3 s with
  | nil => rcases he with rfl | ⟨t, rfl⟩ <;> rfl
  | cons c s =>
    by_cases hc : c = '\x7b'
    · subst hc
      simp only [List.cons_append, Text.dropWhile_isSpace_append he, side?_append he,
        afterWord?_append he hword]
      cases afterWord? ['t', 'o', 'c'] (side? (s.dropWhile isSpace)).2 <;> rfl
    · simp [hc]

variable {s : Text} (hs : '\n' ∉ s)
include hs

theorem lineEnd?_append : lineEnd? (s ++ e) = (lineEnd? s).map (· ++ e) := by
  rw [lineEnd?, lineEnd?, Text.dropWhile_isSpace_append he]
  cases h : s.dropWhile isSpace with
  | nil => rcases he with rfl | ⟨t, rfl⟩ <;> rfl
  | cons c t =>
    have hct : '\n' ∉ c :: t := Text.not_mem_of_dropWhile_eq hs h
    rw [List.mem_cons, not_or] at hct
    simp [Ne.symm hct.1]

theorem closing?_append : closing? (s ++ e) = (closing? s).map (· ++ e) := by
  rw [closing?, closing?, Text.dropWhile_isSpace_append he]
  cases h : s.dropWhile isSpace with
  | nil => rcases he with rfl | ⟨t, rfl⟩ <;> rfl
  | cons c t =>
    have ht : '\n' ∉ t := List.not_mem_of_not_mem_cons (Text.not_mem_of_dropWhile_eq hs h)
    by_cases hc : c = '\x7d'
    · subst hc
      exact lineEnd?_append he ht
    · simp [hc]

theorem shortest?_append :
    shortest? (s ++ e) = (shortest? s).map fun (p, rest) => (p, rest ++ e) := by
  induction s with
  | nil => rcases he with rfl | ⟨t, rfl⟩ <;> rfl
  | cons c s ih =>
    rw [List.mem_cons, not_or] at hs
    rw [List.cons_append, shortest?, shortest?, closing?_append he hs.2, ih hs.2]
    split
    · rfl
    · cases closing? s with
      | some rest => rfl
      | none => cases shortest? s <;> rfl

theorem introduced?_append :
    introduced? (s ++ e) = (introduced? s).map fun (p, rest) => (p, rest ++ e) := by
  cases s with
  | nil => rcases he with rfl | ⟨t, rfl⟩ <;> rfl
  | cons c s =>
    rw [List.mem_cons, not_or] at hs
    by_cases hcolon : c = ':'
    · subst hcolon
      exact shortest?_append he hs.2
    · by_cases hspace : c = ' '
      · subst hspace
        have hcontent : '\n' ∉ s.dropWhile isSpace := Text.not_mem_dropWhile hs.2
        simp only [List.cons_append, introduced?, Text.dropWhile_isSpace_append he,
          shortest?_append he hcontent, closing?_append he hcontent, List.length_append,
          Nat.add_lt_add_iff_right]
        cases shortest? (s.dropWhile isSpace) with
        | some found => rfl
        | none =>
          simp only [Option.map_none, Option.none_or]
          split
          · cases closing? (s.dropWhile isSpace) <;> rfl
          · rfl
      · simp [introduced?, hcolon, hspace]

theorem parameterInText?_append :
    parameterInText? (s ++ e) = (parameterInText? s).map fun (p, rest) => (p, rest ++ e) := by
  rw [parameterInText?, parameterInText?, introduced?_append he hs, closing?_append he hs]
  cases introduced? s with
  | some found => rfl
  | none => cases closing? s <;> rfl

omit he in
theorem newline_not_mem_of_opening? {side : Option Side} {t : Text}
    (h : opening? s = some (side, t)) : '\n' ∉ t := by
  obtain ⟨u, htu, hus⟩ := suffix_of_opening? h
  exact fun hmem => hs (hus.subset (List.mem_cons_of_mem _ (htu.subset hmem)))

/-- A placeholder on a line is found with the same parameter whatever lines follow. -/
theorem Placeholder.read?_append :
    read? (s ++ e) = (read? s).map fun (p, rest) => (p, rest ++ e) := by
  rw [read?, read?, opening?_append he]
  cases h : opening? s with
  | none => rfl
  | some found =>
    obtain ⟨side, t⟩ := found
    have ht : '\n' ∉ t := newline_not_mem_of_opening? hs h
    simp only [Option.map_some, Option.bind_eq_bind, Option.bind_some,
      parameterInText?_append he ht]
    cases parameterInText? t <;> rfl

end Append

/-! ## From the last brace and from the front

On a line a placeholder ends with a brace and spaces.  `body` is what stands between its name and
this brace. -/

section LastBrace

/-- Apart from spaces, the line ends with a closing brace behind `body`. -/
def EndsWithBrace (s body : Text) : Prop :=
  ∃ w : Text, w.all isSpace = true ∧ s = body ++ '\x7d' :: w

theorem EndsWithBrace.append {s body : Text} (h : EndsWithBrace s body) (t : Text) :
    EndsWithBrace (t ++ s) (t ++ body) := by
  obtain ⟨w, hw, rfl⟩ := h
  exact ⟨w, hw, (List.append_assoc _ _ _).symm⟩

theorem parameterOfLine?_eq {s body : Text} (hs : '\n' ∉ s) (h : EndsWithBrace s body) :
    parameterOfLine? s = parameterOf? body := by
  obtain ⟨w, hw, rfl⟩ := h
  have hdrop : Text.dropEndWhile isSpace (body ++ '\x7d' :: w) = body ++ ['\x7d'] := by
    rw [List.append_cons, Text.dropEndWhile_append hw]
    exact List.rdropWhile_concat_neg _ _ _ (by decide)
  rw [parameterOfLine?, if_neg (by simpa using hs), hdrop, List.reverse_append]
  exact congrArg parameterOf? (List.reverse_reverse body)

theorem endsWithBrace_of_parameterOfLine? {s : Text} {p : Option Text}
    (h : parameterOfLine? s = some p) : ∃ body, EndsWithBrace s body := by
  rw [parameterOfLine?] at h
  split at h
  · simp at h
  · split at h
    · next body hbody =>
      obtain ⟨w, hw, hs⟩ := Text.exists_eq_dropEndWhile_append isSpace s
      refine ⟨body.reverse, w, hw, ?_⟩
      rw [List.reverse_eq_iff.1 hbody] at hs
      simpa using hs
    · simp at h

theorem lineEnd?_eq {s : Text} (hs : '\n' ∉ s) :
    lineEnd? s = if s.all isSpace then some [] else none := by
  rw [lineEnd?]
  cases h : s.dropWhile isSpace with
  | nil => rw [if_pos (Text.dropWhile_eq_nil_iff_all.1 h)]
  | cons c t =>
    have hct : '\n' ∉ c :: t := Text.not_mem_of_dropWhile_eq hs h
    rw [List.mem_cons, not_or] at hct
    have hall : ¬ s.all isSpace = true := by
      rw [← Text.dropWhile_eq_nil_iff_all, h]
      simp
    rw [if_neg hall]
    simp [Ne.symm hct.1]

theorem closing?_eq {s body : Text} (h : EndsWithBrace s body) (hs : '\n' ∉ s) :
    closing? s = if body.all isSpace then some [] else none := by
  obtain ⟨w, hw, rfl⟩ := h
  rw [List.mem_append, List.mem_cons, not_or, not_or] at hs
  rw [closing?, Text.dropWhile_append_of_eq_self rfl]
  cases hbody : body.dropWhile isSpace with
  | nil =>
    rw [if_pos (Text.dropWhile_eq_nil_iff_all.1 hbody)]
    show lineEnd? w = some []
    rw [lineEnd?_eq hs.2.2, if_pos hw]
  | cons c t =>
    have hall : ¬ body.all isSpace = true := by
      rw [← Text.dropWhile_eq_nil_iff_all, hbody]
      simp
    rw [if_neg hall]
    by_cases hc : c = '\x7d'
    · subst hc
      have ht : '\n' ∉ t :=
        List.not_mem_of_not_mem_cons (Text.not_mem_of_dropWhile_eq hs.1 hbody)
      show lineEnd? (t ++ '\x7d' :: w) = none
      rw [lineEnd?_eq (by simp [ht, hs.2.2]), if_neg (by simp [isSpace])]
    · simp [hc]

theorem endsWithBrace_of_closing? {s rest : Text} (hs : '\n' ∉ s) (h : closing? s = some rest) :
    ∃ body, EndsWithBrace s body := by
  rw [closing?] at h
  split at h
  · next t ht =>
    have hline : '\n' ∉ t := List.not_mem_of_not_mem_cons (Text.not_mem_of_dropWhile_eq hs ht)
    rw [lineEnd?_eq hline] at h
    split at h
    · next hall =>
      refine ⟨s.takeWhile isSpace, t, hall, ?_⟩
      rw [← ht, List.takeWhile_append_dropWhile]
    · simp at h
  · simp at h

theorem endsWithBrace_of_shortest? {s p rest : Text} (hs : '\n' ∉ s)
    (h : shortest? s = some (p, rest)) : ∃ body, EndsWithBrace s body := by
  induction s generalizing p rest with
  | nil => simp [shortest?] at h
  | cons c s ih =>
    rw [List.mem_cons, not_or] at hs
    rw [shortest?, if_neg (Ne.symm hs.1)] at h
    split at h
    · next hclose =>
      obtain ⟨body, hbody⟩ := endsWithBrace_of_closing? hs.2 hclose
      exact ⟨_, hbody.append [c]⟩
    · simp only [Option.map_eq_some_iff, Prod.exists, Prod.mk.injEq] at h
      obtain ⟨p', r, hr, -, -⟩ := h
      obtain ⟨body, hbody⟩ := ih hs.2 hr
      exact ⟨_, hbody.append [c]⟩

theorem endsWithBrace_of_introduced? {s p rest : Text} (hs : '\n' ∉ s)
    (h : introduced? s = some (p, rest)) : ∃ body, EndsWithBrace s body := by
  rw [introduced?.eq_def] at h
  split at h
  · next s =>
    rw [List.mem_cons, not_or] at hs
    obtain ⟨body, hbody⟩ := endsWithBrace_of_shortest? hs.2 h
    exact ⟨_, hbody.append [':']⟩
  · next s =>
    rw [List.mem_cons, not_or] at hs
    have hcontent : '\n' ∉ s.dropWhile isSpace := Text.not_mem_dropWhile hs.2
    have hends : ∃ body, EndsWithBrace (s.dropWhile isSpace) body := by
      rcases Option.or_eq_some_iff.1 h with h | ⟨-, h⟩
      · exact endsWithBrace_of_shortest? hcontent h
      · split at h
        · simp only [Option.map_eq_some_iff] at h
          obtain ⟨r, hr, -⟩ := h
          exact endsWithBrace_of_closing? hcontent hr
        · simp at h
    obtain ⟨body, hbody⟩ := hends
    rw [← List.takeWhile_append_dropWhile (p := isSpace) (l := s)]
    exact ⟨_, (hbody.append _).append [' ']⟩
  · simp at h

theorem endsWithBrace_of_parameterInText? {s rest : Text} {p : Option Text} (hs : '\n' ∉ s)
    (h : parameterInText? s = some (p, rest)) : ∃ body, EndsWithBrace s body := by
  rw [parameterInText?] at h
  split at h
  · next hi => exact endsWithBrace_of_introduced? hs hi
  · simp only [Option.map_eq_some_iff] at h
    obtain ⟨r, hr, -⟩ := h
    exact endsWithBrace_of_closing? hs hr

theorem parameter_cons (c : Char) (s : Text) :
    parameter (c :: s) = if s.all isSpace then [c] else c :: parameter s := by
  rw [parameter, Text.dropEndWhile_cons]
  by_cases hs : s.all isSpace = true
  · rw [if_pos hs, if_pos hs]
    by_cases hc : isSpace c = true
    · rw [if_pos hc, of_decide_eq_true hc]
    · rw [if_neg hc]
  · rw [if_neg hs, if_neg hs, parameter]
    cases h : Text.dropEndWhile isSpace s with
    | nil => exact absurd (Text.dropEndWhile_eq_nil_iff.1 h) hs
    | cons d t => rfl

/-- The shortest parameter reaches up to the last brace, without the spaces before it. -/
theorem shortest?_eq {s body : Text} (h : EndsWithBrace s body) (hs : '\n' ∉ s) :
    shortest? s = if body = [] then none else some (parameter body, []) := by
  induction body generalizing s with
  | nil =>
    obtain ⟨w, hw, rfl⟩ := h
    rw [List.nil_append, List.mem_cons, not_or] at hs
    -- No brace stands among the spaces.
    have hbrace : ¬ ∃ body, EndsWithBrace w body := by
      rintro ⟨body, v, -, rfl⟩
      simp [isSpace] at hw
    have hclose : closing? w = none := Option.eq_none_iff_forall_ne_some.2 fun _ h =>
      hbrace (endsWithBrace_of_closing? hs.2 h)
    have hshort : shortest? w = none := Option.eq_none_iff_forall_ne_some.2 fun _ h =>
      hbrace (endsWithBrace_of_shortest? hs.2 h)
    rw [List.nil_append, shortest?, if_neg (by decide), hclose, hshort]
    rfl
  | cons c body ih =>
    obtain ⟨w, hw, rfl⟩ := h
    rw [List.cons_append, List.mem_cons, not_or] at hs
    have hends : EndsWithBrace (body ++ '\x7d' :: w) body := ⟨w, hw, rfl⟩
    rw [List.cons_append, shortest?, if_neg (Ne.symm hs.1), closing?_eq hends hs.2,
      ih hends hs.2, parameter_cons, if_neg (List.cons_ne_nil c body)]
    by_cases hall : body.all isSpace = true
    · rw [if_pos hall, if_pos hall]
    · have hne : body ≠ [] := by
        rintro rfl
        exact hall rfl
      rw [if_neg hall, if_neg hall, if_neg hne]
      rfl

theorem introduced?_space {w u : Text} (hw : w.all isSpace = true) (hs : '\n' ∉ u ++ '\x7d' :: w) :
    introduced? (' ' :: (u ++ '\x7d' :: w)) =
      if u = [] then none else some (parameter (u.dropWhile isSpace), []) := by
  have hcontent : (u ++ '\x7d' :: w).dropWhile isSpace = u.dropWhile isSpace ++ '\x7d' :: w :=
    Text.dropWhile_append_of_eq_self rfl u
  have hends : EndsWithBrace (u.dropWhile isSpace ++ '\x7d' :: w) (u.dropWhile isSpace) :=
    ⟨w, hw, rfl⟩
  have hline : '\n' ∉ u.dropWhile isSpace ++ '\x7d' :: w :=
    Text.not_mem_of_dropWhile_eq hs hcontent
  simp only [introduced?, hcontent, shortest?_eq hends hline, closing?_eq hends hline,
    List.length_append, Nat.add_lt_add_iff_right]
  cases hu : u.dropWhile isSpace with
  | nil =>
    cases u with
    | nil => rfl
    | cons d u => simp [parameter, Text.dropEndWhile]
  | cons d v =>
    have hne : u ≠ [] := by
      rintro rfl
      simp at hu
    simp [hne]

theorem parameterInText?_eq {s body : Text} (h : EndsWithBrace s body) (hs : '\n' ∉ s) :
    parameterInText? s = (parameterOf? body).map (·, []) := by
  rw [parameterInText?, closing?_eq h hs]
  obtain ⟨w, hw, rfl⟩ := h
  cases body with
  | nil => rfl
  | cons c u =>
    rw [List.cons_append, List.mem_cons, not_or] at hs
    have hends : EndsWithBrace (u ++ '\x7d' :: w) u := ⟨w, hw, rfl⟩
    by_cases hcolon : c = ':'
    · subst hcolon
      have hintro : introduced? (':' :: (u ++ '\x7d' :: w)) = shortest? (u ++ '\x7d' :: w) := rfl
      rw [List.cons_append, hintro, shortest?_eq hends hs.2]
      cases u <;> rfl
    · by_cases hspace : c = ' '
      · subst hspace
        rw [List.cons_append, introduced?_space hw hs.2]
        cases u with
        | nil => rfl
        | cons d u =>
          rw [if_neg (by simp)]
          rfl
      · have hintro : introduced? (c :: (u ++ '\x7d' :: w)) = none := by
          simp [introduced?, hcolon, hspace]
        have hparam : parameterOf? (c :: u) = none := by
          simp [parameterOf?, hcolon, hspace]
        rw [List.cons_append, hintro, hparam, if_neg (by simp [isSpace, hspace])]
        rfl

end LastBrace

/-- The reader of texts and the reader of lines agree on every line. -/
theorem Placeholder.read?_line {s : Text} (hs : '\n' ∉ s) : read? s = (ofLine? s).map (·, []) := by
  rw [read?, ofLine?]
  cases h : opening? s with
  | none => rfl
  | some found =>
    obtain ⟨side, t⟩ := found
    have ht : '\n' ∉ t := newline_not_mem_of_opening? hs h
    have hagree : parameterInText? t = (parameterOfLine? t).map (·, []) := by
      by_cases hends : ∃ body, EndsWithBrace t body
      · obtain ⟨body, hbody⟩ := hends
        rw [parameterInText?_eq hbody ht, parameterOfLine?_eq ht hbody]
      · have hline : parameterOfLine? t = none := Option.eq_none_iff_forall_ne_some.2 fun _ h =>
          hends (endsWithBrace_of_parameterOfLine? h)
        have htext : parameterInText? t = none := Option.eq_none_iff_forall_ne_some.2 fun _ h =>
          hends (endsWithBrace_of_parameterInText? ht h)
        rw [hline, htext]
        rfl
    simp only [Option.bind_eq_bind, Option.bind_some, hagree]
    cases parameterOfLine? t <;> rfl

end Toc

end WikiText
