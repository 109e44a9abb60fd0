import WikiText.Proofs.Brackets.Balance

/-!
# What the search for brackets remembers

A search notes the closing bracket of each bracket that it opens and closes on its way, and the
start at which it ran out of text.  Whatever was asked before, these notes agree with `closer?`,
which remembers nothing: this is the invariant `Agrees`, kept by every question
(`Agrees.span?`).  The answers follow from it.
-/

namespace WikiText

/-- A span in a text that stands behind `n` characters. -/
def Span.shift (n : Nat) (span : Span) : Span :=
  { span with start := n + span.start, stop := n + span.stop }

namespace Brackets

/-! ## One search -/

/-- The brackets at `opened`, the last one first, are open at index `i`: the closing bracket of each
is the one that closes it from there. -/
def Open (s : Text) (opened : List Nat) (i : Nat) : Prop :=
  ∀ k o, opened[k]? = some o → closer? s o = closing? k i (s.drop i)

/-- Every pair of closed brackets is right. -/
def Sound (s : Text) (closers : List (Nat × Nat)) : Prop :=
  ∀ p ∈ closers, closer? s p.1 = some p.2

section Step

variable {s u : Text} {i : Nat} {c : Char}

private theorem drop_succ (hu : s.drop i = c :: u) : s.drop (i + 1) = u := by
  rw [← List.drop_drop, hu]
  rfl

theorem Open.start (start : Nat) : Open s [start] (start + 1) := by
  intro k o hk
  cases k with
  | zero =>
    obtain rfl : start = o := by simpa using hk
    exact closer?_eq_closing? s start
  | succ k => simp at hk

theorem Open.opening {os : List Nat} (h : Open s os i) (hu : s.drop i = '[' :: u) :
    Open s (i :: os) (i + 1) := by
  intro k o hk
  cases k with
  | zero =>
    obtain rfl : i = o := by simpa using hk
    exact closer?_eq_closing? s i
  | succ k =>
    rw [h k o (by simpa using hk), hu, closing?_open, drop_succ hu]

theorem Open.closing {o : Nat} {os : List Nat} (h : Open s (o :: os) i)
    (hu : s.drop i = ']' :: u) : closer? s o = some (i + 1) ∧ Open s os (i + 1) := by
  constructor
  · rw [h 0 o rfl, hu, closing?_close_zero]
  · intro k o' hk
    rw [h (k + 1) o' (by simpa using hk), hu, closing?_close_succ, drop_succ hu]

theorem Open.other {os : List Nat} (h : Open s os i) (hu : s.drop i = c :: u) (ho : c ≠ '[')
    (hc : c ≠ ']') : Open s os (i + 1) := by
  intro k o hk
  rw [h k o hk, hu, closing?_cons ho hc, drop_succ hu]

theorem Sound.cons {closers : List (Nat × Nat)} {o stop : Nat} (h : Sound s closers)
    (ho : closer? s o = some stop) : Sound s ((o, stop) :: closers) := by
  intro p hp
  rcases List.mem_cons.1 hp with rfl | hp
  · exact ho
  · exact h p hp

end Step

theorem search_open (start : Nat) (inner : List Nat) (closers : List (Nat × Nat)) (i : Nat)
    (u : Text) : search start inner closers i ('[' :: u) =
      search start (i :: inner) closers (i + 1) u := by cases inner <;> rfl

theorem search_other {c : Char} (ho : c ≠ '[') (hc : c ≠ ']') (start : Nat) (inner : List Nat)
    (closers : List (Nat × Nat)) (i : Nat) (u : Text) :
    search start inner closers i (c :: u) = search start inner closers (i + 1) u := by
  cases inner <;> simp [search, ho, hc]

/-- A search finds the closing bracket of its start, and what it notes is right even when there is
none. -/
theorem search_spec {s u : Text} {start : Nat} {inner : List Nat} {closers : List (Nat × Nat)}
    {i : Nat} (hu : s.drop i = u) (ho : Open s (inner ++ [start]) i) (hs : Sound s closers) :
    (search start inner closers i u).1 = closer? s start ∧
      Sound s (search start inner closers i u).2 := by
  induction u generalizing inner closers i with
  | nil =>
    have hstart : closer? s start = none := by
      rw [ho inner.length start (by simp), hu, closing?_nil]
    exact ⟨hstart.symm, hs⟩
  | cons c u ih =>
    have hdrop := drop_succ hu
    by_cases hopen : c = '['
    · subst hopen
      rw [search_open]
      exact ih hdrop (ho.opening hu) hs
    · by_cases hclose : c = ']'
      · subst hclose
        cases inner with
        | nil =>
          obtain ⟨hstart, -⟩ := ho.closing hu
          exact ⟨hstart.symm, hs.cons hstart⟩
        | cons o inner =>
          obtain ⟨hclosed, hrest⟩ := ho.closing hu
          exact ih hdrop hrest (hs.cons hclosed)
      · rw [search_other hopen hclose]
        exact ih hdrop (ho.other hu hopen hclose) hs

/-! ## Any number of questions -/

/-- What is known about the brackets of `s` after the starts `past` were asked for: the pairs are
right, and the search halted at the least of those starts that is never closed. -/
structure Agrees (s : Text) (past : List Nat) (b : Brackets) : Prop where
  text : b.text = s
  sound : Sound s b.closers
  halted : ∀ h, b.haltedAt = some h → h ∈ past ∧ closer? s h = none
  least : ∀ t ∈ past, closer? s t = none → ∃ h, b.haltedAt = some h ∧ h ≤ t

theorem agrees_ofText (s : Text) : Agrees s [] (ofText s) where
  text := rfl
  sound := by simp [Sound, ofText]
  halted := by simp [ofText]
  least := by simp

/-- The starts that no search is made for any more are those behind one that failed. -/
theorem Agrees.givenUp_iff {s : Text} {past : List Nat} {b : Brackets} (h : Agrees s past b)
    (start : Nat) : b.givenUp start = true ↔ ∃ t ∈ past, t ≤ start ∧ closer? s t = none := by
  simp only [givenUp, Option.any_eq_true, decide_eq_true_eq]
  constructor
  · rintro ⟨t, ht, hle⟩
    obtain ⟨hmem, hnone⟩ := h.halted t ht
    exact ⟨t, hmem, hle, hnone⟩
  · rintro ⟨t, hmem, hle, hnone⟩
    obtain ⟨t', ht', hle'⟩ := h.least t hmem hnone
    exact ⟨t', ht', Nat.le_trans hle' hle⟩

theorem Agrees.halted_iff {s : Text} {past : List Nat} {b : Brackets} (h : Agrees s past b) :
    b.halted = true ↔ ∃ t ∈ past, closer? s t = none := by
  rw [Brackets.halted, Option.isSome_iff_exists]
  constructor
  · rintro ⟨t, ht⟩
    exact ⟨t, h.halted t ht⟩
  · rintro ⟨t, hmem, hnone⟩
    obtain ⟨t', ht', -⟩ := h.least t hmem hnone
    exact ⟨t', ht'⟩

/-- A start that is asked for after a search failed at or before it adds nothing. -/
theorem Agrees.skip {s : Text} {past : List Nat} {b : Brackets} (h : Agrees s past b) {start : Nat}
    (hup : ∃ t ∈ past, t ≤ start ∧ closer? s t = none) : Agrees s (past ++ [start]) b where
  text := h.text
  sound := h.sound
  halted t ht := ⟨List.mem_append_left _ (h.halted t ht).1, (h.halted t ht).2⟩
  least t ht hnone := by
    rcases List.mem_append.1 ht with ht | ht
    · exact h.least t ht hnone
    · obtain rfl := List.mem_singleton.1 ht
      obtain ⟨t', hmem, hle, hnone'⟩ := hup
      obtain ⟨h', hh, hle'⟩ := h.least t' hmem hnone'
      exact ⟨h', hh, Nat.le_trans hle' hle⟩

/-- A start whose bracket is closed adds nothing but right pairs. -/
theorem Agrees.found {s : Text} {past : List Nat} {b : Brackets} (h : Agrees s past b)
    {start stop : Nat} {closers : List (Nat × Nat)} (hs : Sound s closers)
    (hstart : closer? s start = some stop) :
    Agrees s (past ++ [start]) { b with closers := closers } where
  text := h.text
  sound := hs
  halted t ht := ⟨List.mem_append_left _ (h.halted t ht).1, (h.halted t ht).2⟩
  least t ht hnone := by
    rcases List.mem_append.1 ht with ht | ht
    · exact h.least t ht hnone
    · rw [List.mem_singleton.1 ht, hstart] at hnone
      exact absurd hnone (by simp)

/-- A search that fails becomes the halt, since it was made before the halt that there was. -/
theorem Agrees.fail {s : Text} {past : List Nat} {b : Brackets} (h : Agrees s past b)
    {start : Nat} {closers : List (Nat × Nat)} (hs : Sound s closers)
    (hstart : closer? s start = none) (hup : ¬ ∃ t ∈ past, t ≤ start ∧ closer? s t = none) :
    Agrees s (past ++ [start]) { b with closers := closers, haltedAt := some start } where
  text := h.text
  sound := hs
  halted t ht := by
    obtain rfl : start = t := by simpa using ht
    exact ⟨by simp, hstart⟩
  least t ht hnone := by
    refine ⟨start, rfl, ?_⟩
    rcases List.mem_append.1 ht with ht | ht
    · exact Nat.le_of_not_le fun hle => hup ⟨t, ht, hle, hnone⟩
    · exact Nat.le_of_eq (List.mem_singleton.1 ht).symm

/-- The span from a bracket to the one that closes it. -/
def spanTo (s : Text) (start stop : Nat) : Span :=
  ⟨(s.take (stop - 1)).drop (start + 1), start, stop⟩

theorem span_inside (s : Text) (start stop : Nat) :
    (⟨inside s start stop, start, stop⟩ : Span) = spanTo s start stop := by
  rw [inside, spanTo, List.drop_take]

private theorem lookup_mem {closers : List (Nat × Nat)} {o stop : Nat}
    (h : closers.lookup o = some stop) : (o, stop) ∈ closers := by
  induction closers with
  | nil => simp at h
  | cons p closers ih =>
    rw [List.lookup_cons] at h
    split at h
    · next he =>
      rw [Option.some.injEq] at h
      rw [eq_of_beq he, ← h]
      exact List.mem_cons_self
    · exact List.mem_cons_of_mem _ (ih h)

/-- One question keeps the notes right, and is answered as if there were none, but for the starts
that are given up. -/
theorem Agrees.span? {s : Text} {past : List Nat} {b : Brackets} (h : Agrees s past b)
    (start : Nat) :
    (b.span? start).1 =
        (if ∃ t ∈ past, t ≤ start ∧ closer? s t = none then none
          else (closer? s start).map (spanTo s start)) ∧
      Agrees s (past ++ [start]) (b.span? start).2 := by
  obtain rfl := h.text
  by_cases hup : ∃ t ∈ past, t ≤ start ∧ closer? b.text t = none
  · rw [Brackets.span?, if_pos ((h.givenUp_iff start).2 hup), if_pos hup]
    exact ⟨rfl, h.skip hup⟩
  · rw [Brackets.span?, if_neg (fun hg => hup ((h.givenUp_iff start).1 hg)), if_neg hup]
    cases hl : b.closers.lookup start with
    | some stop =>
      have hstart : closer? b.text start = some stop := h.sound _ (lookup_mem hl)
      refine ⟨?_, h.found h.sound hstart⟩
      simp only [hstart, Option.map_some, span_inside]
    | none =>
      have hsearch : (search start [] b.closers (start + 1) (b.text.drop (start + 1))).1 =
            closer? b.text start ∧
          Sound b.text (search start [] b.closers (start + 1) (b.text.drop (start + 1))).2 :=
        search_spec rfl (Open.start start) h.sound
      simp only [close]
      generalize search start [] b.closers (start + 1) (b.text.drop (start + 1)) = r at hsearch ⊢
      obtain ⟨stop?, closers⟩ := r
      obtain ⟨hstart, hsound⟩ := hsearch
      cases stop? with
      | some stop =>
        refine ⟨?_, h.found hsound hstart.symm⟩
        simp only [← hstart, Option.map_some, span_inside]
      | none =>
        refine ⟨?_, h.fail hsound hstart.symm hup⟩
        simp only [← hstart, Option.map_none]

/-- The brackets of `s` after the starts `past` were asked for, one after the other. -/
def after (s : Text) (past : List Nat) : Brackets :=
  past.foldl (fun b start => (b.span? start).2) (ofText s)

theorem agrees_after (s : Text) (past : List Nat) : Agrees s past (after s past) := by
  induction past using List.reverseRecOn with
  | nil => exact agrees_ofText s
  | append_singleton past start ih =>
    rw [after, List.foldl_append]
    exact (ih.span? start).2

/-- A first question is answered by `closer?`. -/
theorem span?_ofText (s : Text) (start : Nat) :
    ((ofText s).span? start).1 = (closer? s start).map (spanTo s start) := by
  rw [((agrees_ofText s).span? start).1, if_neg (by simp)]

/-- Every question of every sequence of questions is answered as `closer?` says, but that nothing
is found from a start on that is never closed; and the search has halted when there was such a
start. -/
theorem span?_after (s : Text) (past : List Nat) (start : Nat) :
    ((after s past).span? start).1 =
        (if ∃ t ∈ past, t ≤ start ∧ closer? s t = none then none
          else (closer? s start).map fun stop =>
            ⟨(s.take (stop - 1)).drop (start + 1), start, stop⟩) ∧
      (((after s past).span? start).2.halted = true ↔
        ∃ t ∈ past ++ [start], closer? s t = none) :=
  ⟨((agrees_after s past).span? start).1, ((agrees_after s past).span? start).2.halted_iff⟩

example : ((after "[ [x]".toList []).span? 2).1 = some ⟨"x".toList, 2, 5⟩ ∧
    ((after "[ [x]".toList [2, 0]).span? 2).1 = none := by decide

end Brackets

end WikiText
