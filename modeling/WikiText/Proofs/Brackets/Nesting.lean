import WikiText.Proofs.Brackets.Search

/-!
# Spans inside each other

The spans of a text that begin at opening brackets form a nested family: of any two, either they
have nothing in common, or one stands in the text of the other.  This comes from one fact about
balanced texts, that each bracket opened in one is closed in it (`Balanced.exists_of_open`), and it
holds of all answers to a sequence of questions, since each answer is what `closer?` says
(`Agrees.answers`).  Main statement: `answers_nested`.
-/

namespace WikiText

namespace Text

/-! ## Brackets that are opened and closed in a text -/

/-- A text that closes `k + 1 + d` brackets closes `k` of them, then one, and then `d`. -/
theorem Closing.split {k d : Nat} {s : Text} (h : Closing (k + 1 + d) s) :
    ∃ w rest, s = w ++ ']' :: rest ∧ Closing k w ∧ Closing d rest := by
  induction s generalizing k with
  | nil =>
    have := closing_nil.1 h
    omega
  | cons c s ih =>
    by_cases hopen : c = '['
    · subst hopen
      rw [closing_open, show k + 1 + d + 1 = k + 1 + 1 + d by omega] at h
      obtain ⟨w, rest, rfl, hw, hrest⟩ := ih h
      exact ⟨'[' :: w, rest, rfl, closing_open.2 hw, hrest⟩
    by_cases hclose : c = ']'
    · subst hclose
      cases k with
      | zero =>
        rw [show 0 + 1 + d = d + 1 by omega, closing_close] at h
        exact ⟨[], s, rfl, closing_nil.2 rfl, h⟩
      | succ k =>
        rw [show k + 1 + 1 + d = k + 1 + d + 1 by omega, closing_close] at h
        obtain ⟨w, rest, rfl, hw, hrest⟩ := ih h
        exact ⟨']' :: w, rest, rfl, closing_close.2 hw, hrest⟩
    · obtain ⟨w, rest, rfl, hw, hrest⟩ := ih ((closing_cons hopen hclose).1 h)
      exact ⟨c :: w, rest, rfl, (closing_cons hopen hclose).2 hw, hrest⟩

/-- What stands behind any beginning of a text closes some number of brackets. -/
theorem Closing.exists_of_append {d : Nat} {u v : Text} (h : Closing d (u ++ v)) :
    ∃ d', Closing d' v := by
  induction u generalizing d with
  | nil => exact ⟨d, h⟩
  | cons c u ih =>
    rw [List.cons_append] at h
    by_cases hopen : c = '['
    · subst hopen
      exact ih (closing_open.1 h)
    by_cases hclose : c = ']'
    · subst hclose
      cases d with
      | zero => exact absurd h not_closing_close
      | succ d => exact ih (closing_close.1 h)
    · exact ih ((closing_cons hopen hclose).1 h)

/-- A bracket that is opened in a balanced text is closed in it. -/
theorem Balanced.exists_of_open {u v : Text} (h : Balanced (u ++ '[' :: v)) :
    ∃ w rest, v = w ++ ']' :: rest ∧ Balanced w := by
  obtain ⟨d, hd⟩ := (closing_zero.2 h).exists_of_append
  rw [closing_open, show d + 1 = 0 + 1 + d by omega] at hd
  obtain ⟨w, rest, hv, hw, -⟩ := hd.split
  exact ⟨w, rest, hv, closing_zero.1 hw⟩

end Text

open Text Brackets

/-! ## Stretches -/

/-- The text of a stretch that is closed is balanced, and a closing bracket follows it. -/
theorem exists_of_closer? {s : Text} {start stop : Nat} (h : closer? s start = some stop) :
    Balanced (spanTo s start stop).text ∧
      stop = start + (spanTo s start stop).text.length + 2 ∧
      ∃ rest, s.drop (start + 1) = (spanTo s start stop).text ++ ']' :: rest := by
  obtain ⟨t, rest, hdrop, ht, rfl⟩ := closer?_eq_some_iff_balanced.1 h
  have htext : (spanTo s start (start + t.length + 2)).text = t := by
    rw [spanTo, List.drop_take, hdrop,
      show start + t.length + 2 - 1 - (start + 1) = t.length by omega]
    exact List.take_left
  rw [htext]
  exact ⟨ht, rfl, rest, hdrop⟩

theorem getElem?_of_closer? {s : Text} {start stop : Nat} (h : closer? s start = some stop) :
    s[stop - 1]? = some ']' :=
  (closer?_eq_some_iff.1 h).1.2.1

/-- In the text of a stretch that is closed, each opening bracket has its closing one: the one that
it has in this text taken on its own. -/
theorem exists_closer?_inside {s : Text} {start stop k : Nat} (h : closer? s start = some stop)
    (hk : (spanTo s start stop).text[k]? = some '[') :
    ∃ n, closer? (spanTo s start stop).text k = some n ∧
      closer? s (start + 1 + k) = some (start + 1 + n) ∧ start + 1 + n < stop := by
  obtain ⟨ht, hstop, rest, hdrop⟩ := exists_of_closer? h
  generalize (spanTo s start stop).text = t at hk ht hstop hdrop ⊢
  obtain ⟨hlt, hget⟩ := List.getElem?_eq_some_iff.1 hk
  have hsplit : t = t.take k ++ '[' :: t.drop (k + 1) := by
    rw [← hget, ← List.drop_eq_getElem_cons hlt, List.take_append_drop]
  rw [hsplit] at ht
  obtain ⟨w, after, hw, hbalanced⟩ := ht.exists_of_open
  have hlength : k + 1 + w.length + 1 ≤ t.length := by
    have := congrArg List.length hw
    simp only [List.length_drop, List.length_append, List.length_cons] at this
    omega
  have hbehind : s.drop (start + 1 + k + 1) = w ++ ']' :: (after ++ ']' :: rest) := by
    rw [Nat.add_assoc (start + 1), ← List.drop_drop, hdrop,
      List.drop_append_of_le_length (by omega), hw, List.append_assoc]
    rfl
  refine ⟨k + w.length + 2, ?alone, ?inside, by omega⟩
  case alone => exact closer?_eq_some_iff_balanced.2 ⟨w, after, hw, hbalanced, rfl⟩
  case inside => exact closer?_eq_some_iff_balanced.2 ⟨w, _, hbehind, hbalanced, by omega⟩

/-- Of two stretches, the one that begins later does so behind the other, or it ends inside it. -/
theorem apart_or_inside {s : Text} {start stop start' stop' : Nat}
    (h : closer? s start = some stop) (h' : closer? s start' = some stop')
    (hopen : s[start']? = some '[') (hlt : start < start') : stop ≤ start' ∨ stop' < stop := by
  by_cases hle : stop ≤ start'
  · exact .inl hle
  right
  -- the last place of a stretch is taken by its closing bracket
  have hne : start' ≠ stop - 1 := by
    rintro rfl
    rw [getElem?_of_closer? h] at hopen
    exact absurd hopen (by decide)
  obtain ⟨k, rfl⟩ : ∃ k, start' = start + 1 + k := ⟨start' - (start + 1), by omega⟩
  have hk : (spanTo s start stop).text[k]? = some '[' := by
    rw [spanTo, List.getElem?_drop, List.getElem?_take_of_lt (by omega), hopen]
  obtain ⟨n, -, hn, hinside⟩ := exists_closer?_inside h hk
  obtain rfl := Option.some.inj (h'.symm.trans hn)
  exact hinside

/-! ## Answers -/

/-- The spans have nothing in common. -/
def Span.IsApart (a b : Span) : Prop := a.stop ≤ b.start ∨ b.stop ≤ a.start

/-- The span stands in the text of the other, and so between its brackets. -/
def Span.IsInside (a b : Span) : Prop := b.start < a.start ∧ a.stop < b.stop

namespace Brackets

/-- The answers to a sequence of questions, each asked after those before it. -/
def answers (b : Brackets) : List Nat → List (Option Span)
  | [] => []
  | start :: starts => (b.span? start).1 :: answers (b.span? start).2 starts

/-- Whatever was asked before, a span that is found is the one of its start. -/
theorem Agrees.answers {s : Text} {past : List Nat} {b : Brackets} (h : Agrees s past b)
    {starts : List Nat} {a : Span} (ha : some a ∈ b.answers starts) :
    closer? s a.start = some a.stop ∧ a = spanTo s a.start a.stop := by
  induction starts generalizing past b with
  | nil => exact absurd ha List.not_mem_nil
  | cons start starts ih =>
    obtain ⟨hanswer, hafter⟩ := h.span? start
    rcases List.mem_cons.1 ha with ha | ha
    · rw [hanswer] at ha
      split at ha
      · cases ha
      · obtain ⟨stop, hstop, rfl⟩ := Option.map_eq_some_iff.1 ha.symm
        exact ⟨hstop, rfl⟩
    · exact ih hafter ha

/-- An opening bracket in the text of a span has a span in this text, and the same one in the whole
text. -/
theorem exists_span_inside {s : Text} {start stop k : Nat} (h : closer? s start = some stop)
    (hk : (spanTo s start stop).text[k]? = some '[') :
    ∃ inner, ((ofText (spanTo s start stop).text).span? k).1 = some inner ∧
      ((ofText s).span? (start + 1 + k)).1 = some (inner.shift (start + 1)) ∧
      (inner.shift (start + 1)).IsInside (spanTo s start stop) := by
  obtain ⟨n, hinner, houter, hlt⟩ := exists_closer?_inside h hk
  have hn := (closer?_eq_some_iff.1 hinner).1.1
  have hshift : (spanTo (spanTo s start stop).text k n).shift (start + 1) =
      spanTo s (start + 1 + k) (start + 1 + n) := by
    simp only [spanTo, Span.shift, Span.mk.injEq, and_true]
    rw [List.take_drop, List.drop_drop, List.take_take, Nat.min_eq_left (by omega),
      Nat.add_sub_assoc (by omega), Nat.add_assoc (start + 1)]
  refine ⟨spanTo (spanTo s start stop).text k n, ?_, ?_, ?_⟩
  · rw [span?_ofText, hinner, Option.map_some]
  · rw [span?_ofText, houter, Option.map_some, hshift]
  · have hlater : start < start + 1 + k := by omega
    rw [hshift]
    exact ⟨hlater, hlt⟩

/-- Whatever is asked of the brackets of a text, and in whichever order: a span that is found holds
the text between its brackets, which is balanced, and each opening bracket in there has a span in
there, with this text on its own as well as in the whole.  Spans that begin at different opening
brackets end at different places, and they have nothing in common unless one of them stands in the
text of the other. -/
theorem answers_nested (s : Text) (starts : List Nat) :
    (∀ a, some a ∈ (ofText s).answers starts →
      a.text = (s.take (a.stop - 1)).drop (a.start + 1) ∧ Balanced a.text ∧
        s[a.stop - 1]? = some ']' ∧
        ∀ k, a.text[k]? = some '[' →
          ∃ inner, ((ofText a.text).span? k).1 = some inner ∧
            ((ofText s).span? (a.start + 1 + k)).1 = some (inner.shift (a.start + 1)) ∧
            (inner.shift (a.start + 1)).IsInside a) ∧
      ∀ a b, some a ∈ (ofText s).answers starts → some b ∈ (ofText s).answers starts →
        s[a.start]? = some '[' → s[b.start]? = some '[' → a.start ≠ b.start →
          a.stop ≠ b.stop ∧ (a.IsApart b ∨ a.IsInside b ∨ b.IsInside a) := by
  have hfirst := agrees_ofText s
  constructor
  · intro a ha
    obtain ⟨hclose, haeq⟩ := hfirst.answers ha
    refine ⟨congrArg Span.text haeq, ?_, getElem?_of_closer? hclose, ?_⟩
    · rw [haeq]
      exact (exists_of_closer? hclose).1
    · intro k hk
      rw [haeq] at hk ⊢
      exact exists_span_inside hclose hk
  · intro a b ha hb hopen hopen' hne
    obtain ⟨hclose, -⟩ := hfirst.answers ha
    obtain ⟨hclose', -⟩ := hfirst.answers hb
    have hlt := (closer?_eq_some_iff.1 hclose).1.1
    have hlt' := (closer?_eq_some_iff.1 hclose').1.1
    rcases Nat.lt_or_gt_of_ne hne with horder | horder
    · rcases apart_or_inside hclose hclose' hopen' horder with hapart | hinside
      · exact ⟨by omega, .inl (.inl hapart)⟩
      · exact ⟨by omega, .inr (.inr ⟨horder, hinside⟩)⟩
    · rcases apart_or_inside hclose' hclose hopen horder with hapart | hinside
      · exact ⟨by omega, .inl (.inr hapart)⟩
      · exact ⟨by omega, .inr (.inl ⟨horder, hinside⟩)⟩

/-- Three spans, the inner one asked for before the outer one and again at the end. -/
theorem answers_nested_three :
    let s := "[a [b] c] [d]".toList
    let outer : Span := ⟨"a [b] c".toList, 0, 9⟩
    let inner : Span := ⟨"b".toList, 3, 6⟩
    (ofText s).answers [3, 0, 10, 3] =
        [some inner, some outer, some ⟨"d".toList, 10, 13⟩, some inner] ∧
      Balanced outer.text ∧ s[outer.start]? = some '[' ∧ s[inner.start]? = some '[' ∧
      (outer.IsApart inner ∨ outer.IsInside inner ∨ inner.IsInside outer) := by
  intro s outer inner
  have hanswers : (ofText s).answers [3, 0, 10, 3] =
      [some inner, some outer, some ⟨"d".toList, 10, 13⟩, some inner] := by decide
  have houter : some outer ∈ (ofText s).answers [3, 0, 10, 3] := by simp [hanswers]
  have hinner : some inner ∈ (ofText s).answers [3, 0, 10, 3] := by simp [hanswers]
  obtain ⟨hone, htwo⟩ := answers_nested s [3, 0, 10, 3]
  have hopen : s[outer.start]? = some '[' := rfl
  have hopen' : s[inner.start]? = some '[' := rfl
  exact ⟨hanswers, (hone outer houter).2.1, hopen, hopen',
    (htwo outer inner houter hinner hopen hopen' (by decide)).2⟩

end Brackets

end WikiText
