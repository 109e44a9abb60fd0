import Mathlib.Data.List.TakeWhile
import WikiText.Html.Escape
import WikiText.Html.Reference

/-!
# Escaped text read back

An escaped text is read back as it was, whatever references it holds itself (`unescape_escape`).
Where the ampersands that start a reference are kept, a text without ampersands is still read back
(`unescape_escapeOnce`), and escaping twice is escaping once (`escapeOnce_escapeOnce`): whether a
reference starts is told from characters that are not escaped (`startsReference_takeWhile`).
-/

namespace WikiText.Html

@[simp] theorem unescape_nil : unescape [] = [] := by rw [unescape]

theorem unescape_cons {c : Char} (h : c ≠ '&') (s : Text) :
    unescape (c :: s) = c :: unescape s := by
  rw [unescape, if_neg h]

theorem unescape_reference {s t : Text} {n : Nat} (h : reference? s = some (n, t)) :
    unescape ('&' :: s) = t ++ unescape (s.drop n) := by
  rw [unescape, if_pos rfl]
  split
  · next h' =>
    rw [h] at h'
    simp only [Option.some.injEq, Prod.mk.injEq] at h'
    rw [h'.1, h'.2]
  · next h' => simp [h] at h'

/-- A reference by `name` stands for the character `c`, whatever follows its semicolon. -/
structure Names (name : Text) (c : Char) : Prop where
  ne_nil : name ≠ []
  all : name.all fun c => !endsName c
  length_lt : name.length < 32
  found : namedReference? (name ++ [';']) = some [c]

theorem Names.reference? {name : Text} {c : Char} (h : Names name c) (rest : Text) :
    reference? (name ++ ';' :: rest) = some (name.length + 1, [c]) := by
  have htake : ((name ++ ';' :: rest).take 32).takeWhile (fun c => !endsName c) = name := by
    have hlength := h.length_lt
    obtain ⟨n, hn⟩ : ∃ n, 32 - name.length = n + 1 := ⟨31 - name.length, by omega⟩
    rw [List.take_append, List.take_of_length_le (Nat.le_of_lt hlength), hn, List.take_succ_cons]
    exact Text.takeWhile_append_cons h.all (by decide) _
  have hsemicolon : withSemicolon name.length (';' :: rest) = name.length + 1 := rfl
  have hwhole : (name ++ ';' :: rest).take (name.length + 1) = name ++ [';'] := by
    rw [List.take_append, List.take_of_length_le (Nat.le_succ _), Nat.add_sub_cancel_left]
    rfl
  rw [Html.reference?]
  · simp only [htake, if_neg h.ne_nil, List.drop_left, hsemicolon, hwhole, h.found]
  · -- A number sign would begin a numbered reference.
    intro s hs
    have hsharp : '#' ∉ name := fun hmem => absurd (List.all_eq_true.1 h.all _ hmem) (by decide)
    cases name with
    | nil => exact h.ne_nil rfl
    | cons c name => exact hsharp ((List.cons.inj hs).1 ▸ List.mem_cons_self)

theorem Names.unescape {name : Text} {c : Char} (h : Names name c) (rest : Text) :
    unescape ('&' :: name ++ ';' :: rest) = c :: unescape rest := by
  rw [List.cons_append, unescape_reference (h.reference? rest), ← List.drop_drop, List.drop_left]
  rfl

theorem names_amp : Names "amp".toList '&' := ⟨by decide, by decide, by decide, by decide +kernel⟩

theorem names_lt : Names "lt".toList '<' := ⟨by decide, by decide, by decide, by decide +kernel⟩

theorem names_gt : Names "gt".toList '>' := ⟨by decide, by decide, by decide, by decide +kernel⟩

theorem names_quot : Names "quot".toList '"' := ⟨by decide, by decide, by decide, by decide +kernel⟩

/-! ## What starts a reference -/

/-- A character that may stand in a reference behind its ampersand. -/
def isReferenceChar (c : Char) : Bool := isNameChar c || c = '#' || c = ';'

theorem isReferenceChar_of_isNameChar {c : Char} (h : isNameChar c = true) :
    isReferenceChar c = true := by
  simp [isReferenceChar, h]

theorem isReferenceChar_of_isAsciiDigit {c : Char} (h : Text.isAsciiDigit c = true) :
    isReferenceChar c = true :=
  isReferenceChar_of_isNameChar (by simp [isNameChar, Text.isAsciiAlnum, h])

theorem isReferenceChar_of_isHexDigit {c : Char} (h : Text.isHexDigit c = true) :
    isReferenceChar c = true := by
  have hletter : Text.isAsciiLetter c = true → isReferenceChar c = true := fun h =>
    isReferenceChar_of_isNameChar (by simp [isNameChar, Text.isAsciiAlnum, h])
  rw [Text.isHexDigit, Text.hexDigit?] at h
  split at h
  · next hc => exact isReferenceChar_of_isAsciiDigit hc
  split at h
  · next hc =>
    rw [Bool.and_eq_true, decide_eq_true_eq, decide_eq_true_eq] at hc
    have hz : c ≤ 'z' := Char.le_trans hc.2 (by decide)
    exact hletter (by simp [Text.isAsciiLetter, hc.1, hz])
  split at h
  · next hc =>
    rw [Bool.and_eq_true, decide_eq_true_eq, decide_eq_true_eq] at hc
    have hz : c ≤ 'Z' := Char.le_trans hc.2 (by decide)
    exact hletter (by simp [Text.isAsciiLetter, hc.1, hz])
  · simp at h

/-- Whether a semicolon stands behind characters of a class, of which there is one at least. -/
def closesRun (f : Char → Bool) (s : Text) : Bool :=
  Text.countFront f s > 0 && (s.dropWhile f).head? = some ';'

section Run

variable {f : Char → Bool} (hf : ∀ c, f c = true → isReferenceChar c = true)
include hf

theorem countFront_takeWhile (s : Text) :
    Text.countFront f (s.takeWhile isReferenceChar) = Text.countFront f s := by
  have hboth : (fun c => decide (f c = true ∧ isReferenceChar c = true)) = f := by
    funext c
    by_cases hc : f c = true
    · simp [hc, hf c hc]
    · simp [hc]
  rw [Text.countFront, Text.countFront, List.takeWhile_takeWhile, hboth]

theorem closed_takeWhile (s : Text) :
    ((s.takeWhile isReferenceChar).dropWhile f).head? = some ';' ↔
      (s.dropWhile f).head? = some ';' := by
  induction s with
  | nil => rfl
  | cons c s ih =>
    by_cases hc : f c = true
    · simpa [hc, hf c hc] using ih
    · by_cases href : isReferenceChar c = true
      · simp [hc, href]
      · have hsemicolon : c ≠ ';' := fun h => href (h ▸ rfl)
        simp [hc, href, hsemicolon]

theorem closesRun_takeWhile (s : Text) :
    closesRun f (s.takeWhile isReferenceChar) = closesRun f s := by
  rw [closesRun, closesRun, countFront_takeWhile hf, decide_eq_decide.2 (closed_takeWhile hf s)]

end Run

theorem startsReference_sharp (s : Text) :
    startsReference ('#' :: s) =
      (((s.head? = some 'x' || s.head? = some 'X') && closesRun Text.isHexDigit s.tail) ||
        closesRun Text.isAsciiDigit s) := by
  cases s with
  | nil => rfl
  | cons x t =>
    rw [closesRun, ← Bool.and_assoc]
    simp only [List.head?_cons, Option.some.injEq]
    rfl

theorem startsReference_of_head?_ne {s : Text} (h : s.head? ≠ some '#') :
    startsReference s = closesRun isNameChar s := by
  rw [startsReference.eq_def]
  split
  · exact absurd rfl h
  · rfl

/-- Whether a reference starts is told from the characters that may stand in one. -/
theorem startsReference_takeWhile (s : Text) :
    startsReference (s.takeWhile isReferenceChar) = startsReference s := by
  have hhex := closesRun_takeWhile (f := Text.isHexDigit) fun _ => isReferenceChar_of_isHexDigit
  have hdigit := closesRun_takeWhile (f := Text.isAsciiDigit)
    fun _ => isReferenceChar_of_isAsciiDigit
  by_cases hs : s.head? = some '#'
  · obtain ⟨t, rfl⟩ : ∃ t, s = '#' :: t := by
      cases s with
      | nil => simp at hs
      | cons c t => exact ⟨t, by rw [Option.some.inj hs]⟩
    have hsharp : ('#' :: t).takeWhile isReferenceChar = '#' :: t.takeWhile isReferenceChar := by
      simp [isReferenceChar]
    rw [hsharp, startsReference_sharp, startsReference_sharp, hdigit]
    cases t with
    | nil => rfl
    | cons x t =>
      by_cases hx : isReferenceChar x = true
      · rw [List.takeWhile_cons_of_pos hx, List.tail_cons, List.tail_cons, hhex]
        rfl
      · have hne : ∀ d, isReferenceChar d = true → x ≠ d := fun d hd he => hx (he ▸ hd)
        rw [List.takeWhile_cons_of_neg hx]
        simp [hne 'x' (by decide), hne 'X' (by decide)]
  · have hfront : (s.takeWhile isReferenceChar).head? ≠ some '#' := by
      cases s with
      | nil => simp
      | cons c t =>
        rw [List.takeWhile_cons]
        split
        · exact hs
        · simp
    rw [startsReference_of_head?_ne hs, startsReference_of_head?_ne hfront,
      closesRun_takeWhile fun _ => isReferenceChar_of_isNameChar]

theorem startsReference_congr {s t : Text}
    (h : s.takeWhile isReferenceChar = t.takeWhile isReferenceChar) :
    startsReference s = startsReference t := by
  rw [← startsReference_takeWhile, h, startsReference_takeWhile]

/-! ## Escaped characters -/

theorem escapeChar_of_not_mem (q : QuoteStyle) {c : Char} (h : c ∉ "&<>\"\x27".toList) :
    escapeChar q c = [c] := by
  have hne : ∀ d ∈ "&<>\"\x27".toList, c ≠ d := fun d hd he => h (he ▸ hd)
  rw [escapeChar, if_neg (hne _ (by decide)), if_neg (hne _ (by decide)),
    if_neg (hne _ (by decide)), if_neg (hne _ (by decide)), if_neg (hne _ (by decide))]

/-- The ways to escape a character: five are escaped, of which the style decides about the quotation
marks, and any other stands for itself. -/
theorem escapeChar_cases (q : QuoteStyle) {P : Char → Text → Prop} (amp : P '&' "&amp;".toList)
    (lt : P '<' "&lt;".toList) (gt : P '>' "&gt;".toList) (double : P '"' q.double)
    (single : P '\x27' q.single) (other : ∀ c, c ∉ "&<>\"\x27".toList → P c [c]) (c : Char) :
    P c (escapeChar q c) := by
  by_cases hc : c ∈ ['&', '<', '>', '"', '\x27']
  · simp only [List.mem_cons, List.not_mem_nil, or_false] at hc
    rcases hc with rfl | rfl | rfl | rfl | rfl
    exacts [amp, lt, gt, double, single]
  · exact (escapeChar_of_not_mem q hc).symm ▸ other c hc

/-- Both quotation marks are read back from the way they are written, and are not escaped again.  No
reference reaches into them. -/
structure QuoteStyle.IsSound (q : QuoteStyle) : Prop where
  unescape_double : ∀ s, unescape (q.double ++ s) = '"' :: unescape s
  unescape_single : ∀ s, unescape (q.single ++ s) = '\x27' :: unescape s
  escapeOnce_double : ∀ s, escapeOnce q (q.double ++ s) = q.double ++ escapeOnce q s
  escapeOnce_single : ∀ s, escapeOnce q (q.single ++ s) = q.single ++ escapeOnce q s
  takeWhile_double : ∀ s, (q.double ++ s).takeWhile isReferenceChar = []
  takeWhile_single : ∀ s, (q.single ++ s).takeWhile isReferenceChar = []

theorem isSound_plain : QuoteStyle.plain.IsSound where
  unescape_double := unescape_cons (by decide)
  unescape_single := unescape_cons (by decide)
  escapeOnce_double _ := rfl
  escapeOnce_single _ := rfl
  takeWhile_double _ := rfl
  takeWhile_single _ := rfl

theorem isSound_doubleOnly : QuoteStyle.doubleOnly.IsSound where
  unescape_double := names_quot.unescape
  unescape_single := unescape_cons (by decide)
  escapeOnce_double _ := rfl
  escapeOnce_single _ := rfl
  takeWhile_double _ := rfl
  takeWhile_single _ := rfl

theorem isSound_numbered : QuoteStyle.numbered.IsSound where
  unescape_double s := unescape_reference (s := "#34;".toList ++ s) (n := 4) (t := ['"']) rfl
  unescape_single s := unescape_reference (s := "#39;".toList ++ s) (n := 4) (t := ['\x27']) rfl
  escapeOnce_double _ := rfl
  escapeOnce_single _ := rfl
  takeWhile_double _ := rfl
  takeWhile_single _ := rfl

section Sound

variable {q : QuoteStyle} (hq : q.IsSound)
include hq

theorem unescape_escapeChar (c : Char) (s : Text) :
    unescape (escapeChar q c ++ s) = c :: unescape s := by
  refine escapeChar_cases q (P := fun c t => unescape (t ++ s) = c :: unescape s)
    (names_amp.unescape s) (names_lt.unescape s) (names_gt.unescape s) (hq.unescape_double s)
    (hq.unescape_single s) (fun c hc => ?_) c
  have hand : c ≠ '&' := fun he => hc (he ▸ by decide)
  exact unescape_cons hand s

/-- To escape a text and to decode its references again gives the text. -/
theorem unescape_escape (s : Text) : unescape (escape q s) = s := by
  induction s with
  | nil => exact unescape_nil
  | cons c s ih => rw [escape_cons, unescape_escapeChar hq, ih]

theorem escapeOnce_escapeChar (c : Char) (s : Text) :
    escapeOnce q (escapeChar q c ++ s) = escapeChar q c ++ escapeOnce q s := by
  refine escapeChar_cases q (P := fun _ t => escapeOnce q (t ++ s) = t ++ escapeOnce q s) rfl rfl
    rfl (hq.escapeOnce_double s) (hq.escapeOnce_single s) (fun c hc => ?_) c
  have hand : c ≠ '&' := fun he => hc (he ▸ by decide)
  rw [List.singleton_append, escapeOnce, escapeChar_of_not_mem q hc, decide_eq_false hand,
    Bool.false_and]
  rfl

/-- Escaped text is its own escaped form. -/
theorem escapeOnce_escape (s : Text) : escapeOnce q (escape q s) = escape q s := by
  induction s with
  | nil => rfl
  | cons c s ih => rw [escape_cons, escapeOnce_escapeChar hq, ih]

/-- A character that may stand in a reference is not escaped, and of all others the escaped form
ends the reference. -/
theorem takeWhile_escapeChar (c : Char) (s : Text) :
    (escapeChar q c ++ s).takeWhile isReferenceChar =
      if isReferenceChar c then c :: s.takeWhile isReferenceChar else [] := by
  refine escapeChar_cases q (P := fun c t => (t ++ s).takeWhile isReferenceChar =
      if isReferenceChar c then c :: s.takeWhile isReferenceChar else []) rfl rfl rfl
    (hq.takeWhile_double s) (hq.takeWhile_single s) (fun c _ => ?_) c
  rw [List.singleton_append, List.takeWhile_cons]

theorem takeWhile_escapeOnce (s : Text) :
    (escapeOnce q s).takeWhile isReferenceChar = s.takeWhile isReferenceChar := by
  induction s with
  | nil => rfl
  | cons c s ih =>
    rw [escapeOnce]
    split
    · next hand =>
      rw [Bool.and_eq_true, decide_eq_true_eq] at hand
      rw [hand.1]
      rfl
    · rw [takeWhile_escapeChar hq, ih, List.takeWhile_cons]

/-- To escape a text twice is to escape it once. -/
theorem escapeOnce_escapeOnce (s : Text) : escapeOnce q (escapeOnce q s) = escapeOnce q s := by
  induction s with
  | nil => rfl
  | cons c s ih =>
    rw [escapeOnce]
    split
    · next hand =>
      rw [startsReference_congr (takeWhile_escapeOnce hq s).symm] at hand
      rw [Bool.and_eq_true, decide_eq_true_eq] at hand
      rw [List.singleton_append, escapeOnce, hand.2, ih]
      rfl
    · rw [escapeOnce_escapeChar hq, ih]

/-- A text without ampersands is read back. -/
theorem unescape_escapeOnce {s : Text} (hs : '&' ∉ s) : unescape (escapeOnce q s) = s := by
  induction s with
  | nil => exact unescape_nil
  | cons c s ih =>
    rw [List.mem_cons, not_or] at hs
    rw [escapeOnce, decide_eq_false (Ne.symm hs.1), Bool.false_and, if_neg Bool.false_ne_true,
      unescape_escapeChar hq, ih hs.2]

end Sound

theorem unescape_of_not_mem {s : Text} (hs : '&' ∉ s) : unescape s = s := by
  induction s with
  | nil => exact unescape_nil
  | cons c s ih =>
    rw [List.mem_cons, not_or] at hs
    rw [unescape_cons (Ne.symm hs.1), ih hs.2]

/-- No ampersand gets lost. -/
theorem amp_mem_escapeOnce {q : QuoteStyle} {s : Text} (hs : '&' ∈ s) : '&' ∈ escapeOnce q s := by
  induction s with
  | nil => exact hs
  | cons c s ih =>
    rw [escapeOnce, List.mem_append]
    rcases List.mem_cons.1 hs with rfl | hs
    · left
      split
      · exact List.mem_singleton_self _
      · exact List.mem_cons_self
    · exact .inr (ih hs)

/-- A text with its double quotation marks written by their name. -/
def nameQuotes (s : Text) : Text := s.flatMap fun c => if c = '"' then "&quot;".toList else [c]

theorem nameQuotes_cons (c : Char) (s : Text) :
    nameQuotes (c :: s) = (if c = '"' then "&quot;".toList else [c]) ++ nameQuotes s := rfl

theorem takeWhile_nameQuotes (s : Text) :
    (nameQuotes s).takeWhile isReferenceChar = s.takeWhile isReferenceChar := by
  induction s with
  | nil => rfl
  | cons c s ih =>
    rw [nameQuotes_cons]
    split
    · next h => exact h ▸ rfl
    · rw [List.singleton_append, List.takeWhile_cons, List.takeWhile_cons, ih]

/-- Marks that are written by their name are not escaped again, and the others are written so. -/
theorem escapeOnce_nameQuotes (s : Text) :
    escapeOnce .doubleOnly (nameQuotes s) = escapeOnce .doubleOnly s := by
  induction s with
  | nil => rfl
  | cons c s ih =>
    rw [nameQuotes_cons]
    split
    · next h =>
      have hquot : ∀ t, escapeOnce .doubleOnly ("&quot;".toList ++ t) =
          "&quot;".toList ++ escapeOnce .doubleOnly t := fun _ => rfl
      rw [h, hquot, ih]
      rfl
    · rw [List.singleton_append, escapeOnce, escapeOnce, ih,
        startsReference_congr (takeWhile_nameQuotes s)]

/-- The escaped form of a character begins with it or with an ampersand. -/
theorem exists_escapeChar_eq_cons (c : Char) :
    ∃ d t, escapeChar .doubleOnly c = d :: t ∧ (d = c ∨ d = '&') :=
  escapeChar_cases .doubleOnly (P := fun c s => ∃ d t, s = d :: t ∧ (d = c ∨ d = '&'))
    ⟨'&', _, rfl, .inr rfl⟩ ⟨'&', _, rfl, .inr rfl⟩ ⟨'&', _, rfl, .inr rfl⟩
    ⟨'&', _, rfl, .inr rfl⟩ ⟨'\x27', [], rfl, .inl rfl⟩ (fun c _ => ⟨c, [], rfl, .inl rfl⟩) c

theorem escape_ne_nil {s : Text} (h : s ≠ []) : escape .doubleOnly s ≠ [] := by
  cases s with
  | nil => exact absurd rfl h
  | cons c s =>
    obtain ⟨d, t, hd, -⟩ := exists_escapeChar_eq_cons c
    rw [escape_cons, hd]
    exact List.cons_ne_nil _ _

/-- A text of characters that are their own escaped form is its own. -/
theorem escape_eq_self {q : QuoteStyle} {s : Text} (h : ∀ c ∈ s, escapeChar q c = [c]) :
    escape q s = s := by
  induction s with
  | nil => rfl
  | cons c s ih =>
    rw [List.forall_mem_cons] at h
    rw [escape_cons, h.1, ih h.2]
    rfl

theorem escapeOnce_eq_self {q : QuoteStyle} {s : Text} (h : ∀ c ∈ s, escapeChar q c = [c]) :
    escapeOnce q s = s := by
  induction s with
  | nil => rfl
  | cons c s ih =>
    rw [List.forall_mem_cons] at h
    rw [escapeOnce, ih h.2]
    split
    · next hand =>
      rw [Bool.and_eq_true, decide_eq_true_eq] at hand
      rw [hand.1]
      rfl
    · rw [h.1]
      rfl

/-- No character of the text is escaped, in whatever style. -/
def IsVerbatim (s : Text) : Prop := ∀ c ∈ s, c ∉ "&<>\"\x27".toList

instance (s : Text) : Decidable (IsVerbatim s) :=
  inferInstanceAs (Decidable (∀ c ∈ s, c ∉ "&<>\"\x27".toList))

theorem IsVerbatim.append {s t : Text} (hs : IsVerbatim s) (ht : IsVerbatim t) :
    IsVerbatim (s ++ t) :=
  List.forall_mem_append.2 ⟨hs, ht⟩

theorem IsVerbatim.escapeOnce {s : Text} (h : IsVerbatim s) (q : QuoteStyle) :
    escapeOnce q s = s :=
  escapeOnce_eq_self fun c hc => escapeChar_of_not_mem q (h c hc)

section NotMem

variable {q : QuoteStyle} {d : Char} (hmarks : d ∉ "&amp;&lt;&gt;".toList) (hdouble : d ∉ q.double)
  (hsingle : d ∉ q.single)
include hmarks hdouble hsingle

theorem not_mem_escapeChar {c : Char} (hc : d ≠ c) : d ∉ escapeChar q c := by
  have hmark : ∀ {t : Text}, t ⊆ "&amp;&lt;&gt;".toList → d ∉ t := fun ht hmem => hmarks (ht hmem)
  refine escapeChar_cases q (P := fun c t => d ≠ c → d ∉ t) (fun _ => hmark (by decide))
    (fun _ => hmark (by decide)) (fun _ => hmark (by decide)) (fun _ => hdouble) (fun _ => hsingle)
    (fun c _ hc => ?_) c hc
  exact fun hmem => hc (List.mem_singleton.1 hmem)

/-- Escaping brings no other character into a text than those of the references. -/
theorem not_mem_escape {s : Text} (hs : d ∉ s) : d ∉ escape q s := by
  intro hmem
  obtain ⟨c, hc, hmem⟩ := List.mem_flatMap.1 hmem
  exact not_mem_escapeChar hmarks hdouble hsingle (fun he => hs (he ▸ hc)) hmem

theorem not_mem_escapeOnce {s : Text} (hs : d ∉ s) : d ∉ escapeOnce q s := by
  induction s with
  | nil => exact hs
  | cons c s ih =>
    rw [List.mem_cons, not_or] at hs
    rw [escapeOnce, List.mem_append, not_or]
    refine ⟨?_, ih hs.2⟩
    split
    · exact fun hmem => hmarks (List.mem_singleton.1 hmem ▸ by decide)
    · exact not_mem_escapeChar hmarks hdouble hsingle hs.1

end NotMem

/-- The character is escaped, and no reference of another has it. -/
def QuoteStyle.Hides (q : QuoteStyle) (d : Char) : Prop :=
  d ∉ "&amp;&lt;&gt;".toList ∧ d ∉ q.double ∧ d ∉ q.single ∧ d ∉ escapeChar q d

instance (q : QuoteStyle) (d : Char) : Decidable (q.Hides d) := inferInstanceAs (Decidable (_ ∧ _))

namespace QuoteStyle.Hides

variable {q : QuoteStyle} {d : Char} (h : q.Hides d)
include h

theorem not_mem_escapeChar (c : Char) : d ∉ escapeChar q c := by
  obtain ⟨hmarks, hdouble, hsingle, hself⟩ := h
  by_cases hc : d = c
  · exact hc ▸ hself
  · exact Html.not_mem_escapeChar hmarks hdouble hsingle hc

/-- A character that is escaped does not stand in escaped text. -/
theorem not_mem_escape (s : Text) : d ∉ escape q s := by
  intro hmem
  obtain ⟨c, -, hc⟩ := List.mem_flatMap.1 hmem
  exact h.not_mem_escapeChar c hc

theorem not_mem_escapeOnce (s : Text) : d ∉ escapeOnce q s := by
  induction s with
  | nil => exact List.not_mem_nil
  | cons c s ih =>
    rw [escapeOnce, List.mem_append, not_or]
    refine ⟨?_, ih⟩
    split
    · exact fun hmem => h.1 (List.mem_singleton.1 hmem ▸ by decide)
    · exact h.not_mem_escapeChar c

end QuoteStyle.Hides

/-- No tag begins in escaped text. -/
theorem lt_not_mem_escape {q : QuoteStyle} (hdouble : '<' ∉ q.double) (hsingle : '<' ∉ q.single)
    (s : Text) : '<' ∉ escape q s :=
  QuoteStyle.Hides.not_mem_escape
    ⟨by decide, hdouble, hsingle, show '<' ∉ "&lt;".toList by decide⟩ s

end WikiText.Html
