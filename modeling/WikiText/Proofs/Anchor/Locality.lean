import WikiText.Proofs.Anchor.LeftToRight

/-!
# Parts of a text that are read on their own

A second part stays on its line, but for the one line end that may stand in a gap.  So nothing is
read across an empty line: a text that ends with one, and closes all its brackets, can be read
before the rest and apart from it.  Main statement: `resolveEach_append`.
-/

namespace WikiText

open Text (isSpace)

/-! ## Second parts do not reach across line ends -/

section Line

variable {s : Text} (h : '\n' ∈ s) (t : Text)
include h

theorem dropWhile_isSpace_append_of_newline :
    (s ++ t).dropWhile isSpace = s.dropWhile isSpace ++ t ∧ '\n' ∈ s.dropWhile isSpace := by
  have hmem : '\n' ∈ s.dropWhile isSpace := by
    obtain ⟨n, hn⟩ := exists_spaces s
    rw [hn] at h
    exact (List.mem_append.1 h).resolve_left (newline_not_mem_spaces n)
  have hne : (s.dropWhile isSpace).isEmpty = false := by
    rw [List.isEmpty_eq_false_iff]
    exact List.ne_nil_of_mem hmem
  exact ⟨by rw [List.dropWhile_append, hne, if_neg Bool.false_ne_true], hmem⟩

theorem afterParen?_append_of_newline : afterParen? (s ++ t) = (afterParen? s).map (· ++ t) := by
  obtain ⟨hdrop, hmem⟩ := dropWhile_isSpace_append_of_newline h t
  rw [afterParen?, afterParen?, hdrop]
  cases hs : s.dropWhile isSpace with
  | nil => simp [hs] at hmem
  | cons c r =>
    by_cases hc : c = ')'
    · simp [hc]
    · simp [hc]

theorem titleEnd?_append_of_newline {mark : Char} (hm : IsMark mark) :
    titleEnd? mark (s ++ t) =
      (titleEnd? mark s).map fun (title, rest) => (title, rest ++ t) := by
  induction s with
  | nil => simp at h
  | cons c s ih =>
    rw [List.cons_append, titleEnd?, titleEnd?]
    by_cases hc : c = '\n'
    · have hmark : c ≠ mark := by
        subst hc
        rcases hm with rfl | rfl <;> decide
      rw [if_neg hmark, if_neg hmark, if_pos hc, if_pos hc]
      rfl
    · have hs : '\n' ∈ s := (List.mem_cons.1 h).resolve_left (Ne.symm hc)
      rw [afterParen?_append_of_newline hs t, ih hs, if_neg hc, if_neg hc]
      by_cases hmark : c = mark
      · rw [if_pos hmark, if_pos hmark]
        cases afterParen? s with
        | some rest => rfl
        | none => simp [Function.comp_def]
      · rw [if_neg hmark, if_neg hmark]
        simp [Function.comp_def]

theorem endingBehind?_append_of_newline :
    endingBehind? (s ++ t) = (endingBehind? s).map fun (title, rest) => (title, rest ++ t) := by
  obtain ⟨hdrop, hmem⟩ := dropWhile_isSpace_append_of_newline h t
  rw [endingBehind?, endingBehind?, hdrop]
  cases hr : s.dropWhile isSpace with
  | nil => simp [hr] at hmem
  | cons c r =>
    by_cases hc : c = ')'
    · simp [hc]
    · by_cases hm : IsMark c
      · have hr' : '\n' ∈ r := by
          rw [hr] at hmem
          refine (List.mem_cons.1 hmem).resolve_left ?_
          rcases hm with rfl | rfl <;> decide
        have htitle := titleEnd?_append_of_newline hr' t hm
        simp only [IsMark] at hm
        simp [hm, htitle, Function.comp_def]
      · simp only [IsMark] at hm
        simp [hm]

theorem ending?_append_of_newline :
    ending? (s ++ t) = (ending? s).map fun (title, rest) => (title, rest ++ t) := by
  cases s with
  | nil => simp at h
  | cons c s =>
    by_cases hc : c = '>'
    · subst hc
      have hs : '\n' ∈ s := (List.mem_cons.1 h).resolve_left (by decide)
      rw [List.cons_append, ending?_gt, ending?_gt, endingBehind?_append_of_newline hs t]
    · have hne : ∀ u r, c :: u ≠ '>' :: r := fun u r he => hc (List.cons.inj he).1
      rw [List.cons_append, ending?_of_ne (hne _), ending?_of_ne (hne _), ← List.cons_append,
        endingBehind?_append_of_newline h t]

theorem shortestUrl?_append_of_newline :
    shortestUrl? (s ++ t) = (shortestUrl? s).map fun p => { p with rest := p.rest ++ t } := by
  induction s with
  | nil => simp at h
  | cons c s ih =>
    rw [List.cons_append, shortestUrl?, shortestUrl?]
    by_cases hc : c = '\n'
    · rw [if_pos hc, if_pos hc]
      rfl
    · have hs : '\n' ∈ s := (List.mem_cons.1 h).resolve_left (Ne.symm hc)
      rw [if_neg hc, if_neg hc, ending?_append_of_newline hs t, ih hs]
      cases ending? s with
      | some r => rfl
      | none => simp [Function.comp_def]

theorem singleUrl?_append_of_newline (c : Char) :
    singleUrl? c (s ++ t) = (singleUrl? c s).map fun p => { p with rest := p.rest ++ t } := by
  rw [singleUrl?, singleUrl?, ending?_append_of_newline h t]
  simp [Function.comp_def]

theorem inlinePart?_append_of_newline :
    inlinePart? (s ++ t) = (inlinePart? s).map fun p => { p with rest := p.rest ++ t } := by
  cases s with
  | nil => simp at h
  | cons c s =>
    by_cases hc : c = '('
    · subst hc
      have hs : '\n' ∈ s := (List.mem_cons.1 h).resolve_left (by decide)
      obtain ⟨hdrop, hmem⟩ := dropWhile_isSpace_append_of_newline hs t
      rw [List.cons_append, inlinePart?, inlinePart?]
      simp only [hdrop, List.length_append, Nat.add_lt_add_iff_right,
        singleUrl?_append_of_newline hmem, Option.map_or]
      congr 1
      · cases hr : s.dropWhile isSpace with
        | nil => simp [hr] at hmem
        | cons d r =>
          rw [hr] at hmem
          by_cases hd : d = '<'
          · subst hd
            have hr' : '\n' ∈ r := (List.mem_cons.1 hmem).resolve_left (by decide)
            simp only [List.cons_append, shortestUrl?_append_of_newline hr',
              singleUrl?_append_of_newline hr', Option.map_or]
          · have hurl := shortestUrl?_append_of_newline hmem t
            rw [List.cons_append] at hurl
            simp [hd, hurl]
      · split <;> rfl
    · have hne : ∀ u : Text, inlinePart? (c :: u) = none := fun u =>
        inlinePart?.eq_2 _ fun r he => hc (List.cons.inj he).1
      rw [List.cons_append, hne, hne]
      rfl

theorem linkId?_append_of_newline :
    linkId? (s ++ t) = (linkId? s).map fun (id, rest) => (id, rest ++ t) := by
  induction s with
  | nil => simp at h
  | cons c s ih =>
    rw [List.cons_append, linkId?, linkId?]
    by_cases hc : c = '\n'
    · rw [if_pos hc, if_pos hc]
      rfl
    · rw [if_neg hc, if_neg hc, ih ((List.mem_cons.1 h).resolve_left (Ne.symm hc))]
      split
      · rfl
      · simp [Function.comp_def]

end Line

/-- A gap takes one line end at most. -/
theorem dropGap_append_of_newlines {s : Text} (h : 2 ≤ s.count '\n') (t : Text) :
    dropGap (s ++ t) = dropGap s ++ t ∧ '\n' ∈ dropGap s := by
  have hspace : ∃ u, 2 ≤ u.count '\n' ∧ Text.dropAtMost isSpace 1 s = u ∧
      Text.dropAtMost isSpace 1 (s ++ t) = u ++ t := by
    cases s with
    | nil => simp at h
    | cons c s =>
      by_cases hc : c = ' '
      · subst hc
        exact ⟨s, by simpa using h, rfl, rfl⟩
      · exact ⟨c :: s, h, by simp [Text.dropAtMost, isSpace, hc],
          by simp [Text.dropAtMost, isSpace, hc]⟩
  obtain ⟨u, hu, hs, hst⟩ := hspace
  rw [dropGap, dropGap, hs, hst]
  cases u with
  | nil => simp at hu
  | cons c u =>
    by_cases hc : c = '\n'
    · subst hc
      rw [List.count_cons_self] at hu
      have hmem : '\n' ∈ u := List.count_pos_iff.1 (by omega)
      simpa using dropWhile_isSpace_append_of_newline hmem t
    · have hmem : '\n' ∈ c :: u := List.count_pos_iff.1 (by omega)
      simpa [hc] using hmem

theorem referencePart?_append_of_newlines {s : Text} (h : 2 ≤ s.count '\n') (t : Text) :
    referencePart? (s ++ t) = (referencePart? s).map fun (id, rest) => (id, rest ++ t) := by
  obtain ⟨hgap, hmem⟩ := dropGap_append_of_newlines h t
  rw [referencePart?, referencePart?, hgap]
  cases hs : dropGap s with
  | nil => simp [hs] at hmem
  | cons c r =>
    by_cases hc : c = '['
    · subst hc
      rw [hs] at hmem
      exact linkId?_append_of_newline ((List.mem_cons.1 hmem).resolve_left (by decide)) t
    · simp [hc]

/-! ## Brackets of two parts -/

theorem closer?_append_left {a : Text} {start stop : Nat} (h : closer? a start = some stop)
    (b : Text) : closer? (a ++ b) start = some stop := by
  obtain ⟨t, rest, hdrop, ht, rfl⟩ := closer?_eq_some_iff_balanced.1 h
  have hle : start + 1 ≤ a.length := by
    by_contra hlt
    rw [List.drop_of_length_le (by omega)] at hdrop
    simp at hdrop
  refine closer?_eq_some_iff_balanced.2 ⟨t, rest ++ b, ?_, ht, rfl⟩
  rw [List.drop_append_of_le_length hle, hdrop, List.append_assoc, List.cons_append]

theorem closer?_append_right (a b : Text) (start : Nat) :
    closer? (a ++ b) (a.length + start) = (closer? b start).map (a.length + ·) := by
  apply Option.ext
  intro stop
  rw [Option.map_eq_some_iff]
  simp only [closer?_eq_some_iff_balanced, Nat.add_assoc, List.drop_length_add_append]
  constructor
  · rintro ⟨t, rest, hdrop, ht, rfl⟩
    exact ⟨_, ⟨t, rest, hdrop, ht, rfl⟩, rfl⟩
  · rintro ⟨_, ⟨t, rest, hdrop, ht, rfl⟩, rfl⟩
    exact ⟨t, rest, hdrop, ht, rfl⟩

/-- Every bracket that is opened is closed. -/
def Closed (s : Text) : Prop :=
  ∀ start < s.length, s[start]? = some '[' → (closer? s start).isSome = true

instance (s : Text) : Decidable (Closed s) :=
  inferInstanceAs (Decidable (∀ start < s.length, _ → _))

namespace Brackets

theorem spanTo_append_left {a : Text} {stop : Nat} (h : stop ≤ a.length) (start : Nat) (b : Text) :
    spanTo (a ++ b) start stop = spanTo a start stop := by
  rw [spanTo, spanTo, List.take_append_of_le_length (by omega)]

theorem spanTo_append_right (a b : Text) (start : Nat) {stop : Nat} (h : 0 < stop) :
    spanTo (a ++ b) (a.length + start) (a.length + stop) =
      (spanTo b start stop).shift a.length := by
  rw [spanTo, spanTo, Span.shift, Nat.add_sub_assoc h, List.take_length_add_append, Nat.add_assoc,
    List.drop_length_add_append]

end Brackets

namespace Anchor

open Brackets (spanTo)

/-- An anchor in a text that stands behind `n` characters. -/
def shift (n : Nat) (a : Anchor) : Anchor :=
  { a with span := a.span.shift n, stop := n + a.stop }

variable {unescape : Text → Text}

/-! ## Ends of a span -/

theorem Outcome.shift {behind : Text} {span : Span} {st st' : RenderState} {a : Option Anchor}
    (h : Outcome unescape behind span st a st') (n : Nat) :
    Outcome unescape behind (span.shift n) st (a.map (Anchor.shift n)) st' := by
  have hstop : ∀ rest, stopBefore (span.shift n) behind rest = n + stopBefore span behind rest :=
    fun rest => Nat.add_assoc _ _ _
  cases h with
  | footnote hid hdef => exact .footnote hid hdef
  | undefined hid hdef => exact .undefined hid hdef
  | @reference id rest url hid hpart hurl =>
    have hend : Outcome unescape behind (span.shift n) st _ st := .reference hid hpart hurl
    rwa [hstop] at hend
  | unknown hid hpart hurl => exact .unknown hid hpart hurl
  | @inline part hid hpart hinline =>
    have hend : Outcome unescape behind (span.shift n) st _ st := .inline hid hpart hinline
    rwa [hstop] at hend
  | plain hid hpart hinline => exact .plain hid hpart hinline

/-- Behind two line ends, what follows does not matter. -/
theorem Outcome.append {behind : Text} {span : Span} {st st' : RenderState} {a : Option Anchor}
    (h : Outcome unescape behind span st a st') (hline : 2 ≤ behind.count '\n') (t : Text) :
    Outcome unescape (behind ++ t) span st a st' := by
  have hreference := referencePart?_append_of_newlines hline t
  have hmem : '\n' ∈ behind := List.count_pos_iff.1 (by omega)
  have hinlinePart := inlinePart?_append_of_newline hmem t
  have hstop : ∀ rest, stopBefore span (behind ++ t) (rest ++ t) = stopBefore span behind rest := by
    intro rest
    rw [stopBefore, stopBefore, List.length_append, List.length_append, Nat.add_sub_add_right]
  cases h with
  | footnote hid hdef => exact .footnote hid hdef
  | undefined hid hdef => exact .undefined hid hdef
  | @reference id rest url hid hpart hurl =>
    rw [hpart] at hreference
    rw [← hstop]
    exact .reference hid hreference hurl
  | unknown hid hpart hurl =>
    rw [hpart] at hreference
    exact .unknown hid hreference hurl
  | @inline part hid hpart hinline =>
    rw [hpart] at hreference
    rw [hinline] at hinlinePart
    rw [← hstop]
    exact .inline hid hreference hinlinePart
  | plain hid hpart hinline =>
    rw [hpart] at hreference
    rw [hinline] at hinlinePart
    exact .plain hid hreference hinlinePart

/-! ## Passes -/

/-- The second part of a text is read as it is on its own. -/
theorem Pass.append_right (a : Text) {b : Text} {st st' : RenderState} {i : Nat}
    {as : List Anchor} (h : Pass unescape b st i as st') :
    Pass unescape (a ++ b) st (a.length + i) (as.map (Anchor.shift a.length)) st' := by
  have hnext : ∀ i, nextBracket? (a.length + i) ((a ++ b).drop (a.length + i)) =
      (nextBracket? i (b.drop i)).map (a.length + ·) := by
    intro i
    rw [List.drop_length_add_append, nextBracket?_add]
  have houtcome : ∀ {start stop : Nat} {st st' : RenderState} {r : Option Anchor},
      closer? b start = some stop →
      Outcome unescape (b.drop stop) (spanTo b start stop) st r st' →
        Outcome unescape ((a ++ b).drop (a.length + stop))
          (spanTo (a ++ b) (a.length + start) (a.length + stop)) st
          (r.map (Anchor.shift a.length)) st' := by
    intro start stop st st' r hclose ho
    have hpos : 0 < stop := Nat.lt_of_lt_of_le (Nat.succ_pos _) (drop_of_closer? hclose).2.1
    rw [List.drop_length_add_append, Brackets.spanTo_append_right a b start hpos]
    exact ho.shift a.length
  induction h with
  | @done _ i hn => exact .done (by rw [hnext, hn]; rfl)
  | @unclosed _ i start hn hclose =>
    exact .unclosed (by rw [hnext, hn]; rfl) (by rw [closer?_append_right, hclose]; rfl)
  | @anchor _ _ _ i start stop _ _ hn hclose ho _ ih =>
    exact .anchor (by rw [hnext, hn]; rfl) (by rw [closer?_append_right, hclose]; rfl)
      (houtcome hclose ho) ih
  | @rejected _ _ _ i start stop _ hn hclose ho _ ih =>
    exact .rejected (by rw [hnext, hn]; rfl) (by rw [closer?_append_right, hclose]; rfl)
      (houtcome hclose ho) ih

/-- A pass depends on the index only through the next bracket. -/
theorem Pass.congr {s : Text} {st st' : RenderState} {i j : Nat} {as : List Anchor}
    (h : Pass unescape s st i as st')
    (hnext : nextBracket? j (s.drop j) = nextBracket? i (s.drop i)) :
    Pass unescape s st j as st' := by
  cases h with
  | done hn => exact .done (hnext.trans hn)
  | unclosed hn hclose => exact .unclosed (hnext.trans hn) hclose
  | anchor hn hclose ho hrest => exact .anchor (hnext.trans hn) hclose ho hrest
  | rejected hn hclose ho hrest => exact .rejected (hnext.trans hn) hclose ho hrest

/-- A bracket that is closed before an empty line has this line behind its span. -/
theorem two_le_count_of_closer? {a : Text} (hend : ['\n', '\n'] <:+ a) {start stop : Nat}
    (hclose : closer? a start = some stop) : stop ≤ a.length ∧ 2 ≤ (a.drop stop).count '\n' := by
  obtain ⟨hclosing, -, hle⟩ := drop_of_closer? hclose
  have hsuffix : ']' :: a.drop stop <:+ a := hclosing ▸ List.drop_suffix _ a
  have hlines : ['\n', '\n'] <:+ a.drop stop := by
    rcases List.suffix_or_suffix_of_suffix hend hsuffix with h | h
    · rcases List.suffix_cons_iff.1 h with he | h
      · simp at he
      · exact h
    · have hmem : ']' ∈ ['\n', '\n'] := h.subset List.mem_cons_self
      simp at hmem
  exact ⟨hle, hlines.sublist.count_le '\n'⟩

/-- The first part of a text, which ends with an empty line and closes its brackets, is read before
the second, as it is on its own. -/
theorem Pass.append_left {a b : Text} (hend : ['\n', '\n'] <:+ a) (hclosed : Closed a)
    {st st' st'' : RenderState} {i : Nat} {as bs : List Anchor}
    (h : Pass unescape a st i as st') (hi : i ≤ a.length)
    (hb : Pass unescape (a ++ b) st' a.length bs st'') :
    Pass unescape (a ++ b) st i (as ++ bs) st'' := by
  have hnext : ∀ {i start : Nat}, nextBracket? i (a.drop i) = some start → i ≤ a.length →
      nextBracket? i ((a ++ b).drop i) = some start := by
    intro i start hn hi
    rw [List.drop_append_of_le_length hi, nextBracket?_append, hn]
    rfl
  have houtcome : ∀ {start stop : Nat} {st st' : RenderState} {r : Option Anchor},
      closer? a start = some stop →
      Outcome unescape (a.drop stop) (spanTo a start stop) st r st' →
        Outcome unescape ((a ++ b).drop stop) (spanTo (a ++ b) start stop) st r st' := by
    intro start stop st st' r hclose ho
    obtain ⟨hle, hline⟩ := two_le_count_of_closer? hend hclose
    rw [List.drop_append_of_le_length hle, Brackets.spanTo_append_left hle]
    exact ho.append hline b
  induction h with
  | @done _ i hn =>
    refine hb.congr ?_
    rw [List.drop_append_of_le_length hi, nextBracket?_append, hn, List.drop_left,
      List.length_drop, Nat.add_sub_cancel' hi]
    rfl
  | @unclosed _ i start hn hclose =>
    obtain ⟨_, hopen⟩ := (drop_of_nextBracket? hn).2
    have hget := getElem?_of_drop hopen
    have := hclosed start (List.getElem?_eq_some_iff.1 hget).1 hget
    rw [hclose] at this
    exact absurd this Bool.false_ne_true
  | @anchor _ _ _ i start stop _ _ hn hclose ho _ ih =>
    have htakes := takes_of_outcome (drop_of_nextBracket? hn).2 hclose ho
    exact .anchor (hnext hn hi) (closer?_append_left hclose b) (houtcome hclose ho)
      (ih htakes.le_length hb)
  | @rejected _ _ _ i start stop _ hn hclose ho _ ih =>
    obtain ⟨_, hopen⟩ := (drop_of_nextBracket? hn).2
    have hlt := (List.getElem?_eq_some_iff.1 (getElem?_of_drop hopen)).1
    exact .rejected (hnext hn hi) (closer?_append_left hclose b) (houtcome hclose ho) (ih hlt hb)

/-- The anchors of two parts with an empty line between them are those of the first part and, from
the state that it leaves, those of the second. -/
theorem resolveEach_append (unescape : Text → Text) (st : RenderState) {a : Text} (b : Text)
    (hend : ['\n', '\n'] <:+ a) (hclosed : Closed a) :
    resolveEach unescape (a ++ b) st =
      (let (as, st) := resolveEach unescape a st
       let (bs, st) := resolveEach unescape b st
       (as ++ bs.map (Anchor.shift a.length), st)) := by
  have ha := pass_resolveEach unescape a st
  have hb := (pass_resolveEach unescape b (resolveEach unescape a st).2).append_right a
  have hab := ha.append_left hend hclosed (Nat.zero_le _) hb
  obtain ⟨hanchors, hstate⟩ := (pass_resolveEach unescape (a ++ b) st).unique hab
  exact Prod.ext hanchors hstate

/-- A footnote that is referred to in both parts gets its number in the first. -/
theorem resolveEach_append_footnotes :
    let a := "[x](y) [[z]] [^f]\n\n".toList
    let b := "[^f][ (".toList
    let st : RenderState := { footnotes := .ofList [("f".toList, [])] }
    ['\n', '\n'] <:+ a ∧ Closed a ∧
      resolveEach id (a ++ b) st =
        (let (as, st) := resolveEach id a st
         let (bs, st) := resolveEach id b st
         (as ++ bs.map (Anchor.shift a.length), st)) := by
  intro a b st
  have hend : ['\n', '\n'] <:+ a := by decide
  have hclosed : Closed a := by decide
  exact ⟨hend, hclosed, resolveEach_append id st b hend hclosed⟩

end Anchor

end WikiText
