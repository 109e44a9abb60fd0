import WikiText.Proofs.Anchor.Outcome
import WikiText.Proofs.Anchor.SecondPart

/-!
# The brackets of a text from left to right

A text is read by resolving one bracket after the other, with one memory of its brackets.
`Reading` is this loop, step by step.  `Pass` tells the same without a memory: since the brackets
come from left to right, a bracket that is never closed ends it (`Reading.pass`).  What is proved of
whole texts is proved by induction on a pass.  Main statement: the loop ends, and its anchors take
pieces of the text, one behind the other (`resolveEach_pieces`).
-/

namespace WikiText.Anchor

open Brackets (Agrees spanTo)

/-! ## The next bracket -/

theorem nextBracket?_append (i : Nat) (s t : Text) :
    nextBracket? i (s ++ t) = (nextBracket? i s).or (nextBracket? (i + s.length) t) := by
  induction s generalizing i with
  | nil => rfl
  | cons c s ih =>
    rw [List.cons_append, nextBracket?, nextBracket?]
    split
    · rfl
    · rw [ih, List.length_cons, Nat.add_assoc, Nat.add_comm 1]

theorem nextBracket?_add (n i : Nat) (s : Text) :
    nextBracket? (n + i) s = (nextBracket? i s).map (n + ·) := by
  induction s generalizing i with
  | nil => rfl
  | cons c s ih =>
    rw [nextBracket?, nextBracket?]
    split
    · rfl
    · exact ih (i + 1)

theorem exists_of_nextBracket? {i j : Nat} {s : Text} (h : nextBracket? i s = some j) :
    ∃ gap rest, s = gap ++ '[' :: rest ∧ j = i + gap.length := by
  induction s generalizing i with
  | nil => simp [nextBracket?] at h
  | cons c s ih =>
    rw [nextBracket?] at h
    split at h
    · next hc => exact ⟨[], s, by rw [hc, List.nil_append], (Option.some.inj h).symm⟩
    · obtain ⟨gap, rest, rfl, rfl⟩ := ih h
      exact ⟨c :: gap, rest, rfl, by rw [List.length_cons]; omega⟩

/-- A bracket that is found stands in the text, not before the index. -/
theorem drop_of_nextBracket? {i start : Nat} {s : Text}
    (h : nextBracket? i (s.drop i) = some start) :
    i ≤ start ∧ ∃ rest, s.drop start = '[' :: rest := by
  obtain ⟨gap, rest, hs, rfl⟩ := exists_of_nextBracket? h
  refine ⟨Nat.le_add_right _ _, rest, ?_⟩
  rw [← List.drop_drop, hs, List.drop_left]

/-! ## What an anchor takes -/

/-- What an anchor takes behind its span. -/
def IsSecondPart (part : Text) : AnchorTarget → Prop
  | .footnote _ _ _ => part = []
  | .link (some _) _ _ => (∃ r, part = r ++ [']']) ∧ part.count '\n' ≤ 1
  | .link none _ _ => (∃ r, part = r ++ [')']) ∧ '\n' ∉ part

/-- An anchor takes its span, and a second part of its kind at the front of what is behind it. -/
theorem Outcome.taken {unescape : Text → Text} {behind : Text} {span : Span} {st st' : RenderState}
    {a : Anchor} (h : Outcome unescape behind span st (some a) st') :
    a.span = span ∧ ∃ part rest, behind = part ++ rest ∧ a.stop = span.stop + part.length ∧
      IsSecondPart part a.target := by
  cases h with
  | footnote | undefined => exact ⟨rfl, [], behind, rfl, rfl, rfl⟩
  | @reference id rest _ _ hpart _ =>
    obtain ⟨g, hg, rfl, -, hline⟩ := referencePart?_eq_some_iff.1 hpart
    refine ⟨rfl, g ++ '[' :: (id ++ [']']), rest, by simp, ?_, ⟨g ++ '[' :: id, by simp⟩, ?_⟩
    · simp only [stopBefore, List.length_append, List.length_cons, List.length_nil]
      omega
    · have hid : ('[' :: (id ++ [']'])).count '\n' = 0 := by
        rw [List.count_eq_zero]
        simp [hline]
      rw [List.count_append, hid]
      exact hg.count_newline
  | @inline part _ _ hinline =>
    obtain ⟨inner, rfl, hline⟩ := eq_append_of_inlinePart? hinline
    refine ⟨rfl, '(' :: (inner ++ [')']), part.rest, by simp, ?_, ⟨'(' :: inner, rfl⟩, ?_⟩
    · simp only [inlineAnchor, stopBefore, List.length_append, List.length_cons, List.length_nil]
      omega
    · simp [hline]

/-- The piece of a text that an anchor takes: balanced brackets with what is in them, and a second
part behind them, if its kind has one. -/
structure Takes (s : Text) (a : Anchor) : Prop where
  opening : s[a.span.start]? = some '['
  closing : s[a.span.stop - 1]? = some ']'
  text : a.span.text = (s.take (a.span.stop - 1)).drop (a.span.start + 1)
  start_lt : a.span.start < a.span.stop
  stop_le : a.span.stop ≤ a.stop
  le_length : a.stop ≤ s.length
  secondPart : match a.target with
    | .footnote _ _ _ => a.stop = a.span.stop
    | .link (some _) _ _ => s[a.stop - 1]? = some ']' ∧
        ((s.take a.stop).drop a.span.stop).count '\n' ≤ 1
    | .link none _ _ => s[a.stop - 1]? = some ')' ∧ '\n' ∉ (s.take a.stop).drop a.span.stop

theorem getElem?_of_drop {s r : Text} {c : Char} {i : Nat} (h : s.drop i = c :: r) :
    s[i]? = some c := by
  rw [← List.head?_drop, h]
  rfl

theorem takes_of_outcome {unescape : Text → Text} {s : Text} {start stop : Nat}
    {st st' : RenderState} {a : Anchor} (hopen : ∃ rest, s.drop start = '[' :: rest)
    (hclose : closer? s start = some stop)
    (ho : Outcome unescape (s.drop stop) (spanTo s start stop) st (some a) st') : Takes s a := by
  obtain ⟨_, hopen⟩ := hopen
  obtain ⟨hclosing, hlt, hle⟩ := drop_of_closer? hclose
  obtain ⟨hspan, part, suf, hpart, hstop, hkind⟩ := ho.taken
  replace hstop : a.stop = stop + part.length := hstop
  have htake : (s.take a.stop).drop stop = part := by
    rw [List.drop_take, hpart, hstop, Nat.add_sub_cancel_left, List.take_left]
  have hlast : ∀ {r : Text} {c : Char}, part = r ++ [c] → s[a.stop - 1]? = some c := by
    rintro r c rfl
    have hdrop : s.drop (stop + r.length) = c :: suf := by
      rw [← List.drop_drop, hpart, List.append_assoc, List.drop_left]
      rfl
    rw [hstop, List.length_append, List.length_singleton]
    exact getElem?_of_drop hdrop
  have hlength := congrArg List.length hpart
  rw [List.length_drop, List.length_append] at hlength
  constructor
  case opening => exact hspan ▸ getElem?_of_drop hopen
  case closing => exact hspan ▸ getElem?_of_drop hclosing
  case text => exact hspan ▸ rfl
  case start_lt => exact hspan ▸ Nat.lt_of_succ_lt hlt
  case stop_le => exact hspan ▸ hstop ▸ Nat.le_add_right stop part.length
  case le_length => omega
  case secondPart =>
    rw [hspan]
    cases htarget : a.target with
    | footnote =>
      rw [htarget] at hkind
      obtain rfl : part = [] := hkind
      exact hstop
    | link id =>
      rw [htarget] at hkind
      cases id with
      | some id =>
        obtain ⟨⟨r, hr⟩, hcount⟩ := hkind
        exact ⟨hlast hr, by rwa [← htake] at hcount⟩
      | none =>
        obtain ⟨⟨r, hr⟩, hline⟩ := hkind
        exact ⟨hlast hr, by rwa [← htake] at hline⟩

/-! ## The loop, with and without a memory -/

/-- The brackets of a text resolved from index `i` on: the anchors, and the state at the end. -/
inductive Reading (unescape : Text → Text) :
    Brackets → RenderState → Nat → List Anchor → RenderState → Prop where
  | done {b : Brackets} {st : RenderState} {i : Nat}
      (hnext : nextBracket? i (b.text.drop i) = none) : Reading unescape b st i [] st
  | anchor {b b' : Brackets} {st st' st'' : RenderState} {i start : Nat} {a : Anchor}
      {as : List Anchor} (hnext : nextBracket? i (b.text.drop i) = some start)
      (hresolve : resolve unescape b start st = (some a, b', st'))
      (hrest : Reading unescape b' st' a.stop as st'') : Reading unescape b st i (a :: as) st''
  | rejected {b b' : Brackets} {st st' st'' : RenderState} {i start : Nat} {as : List Anchor}
      (hnext : nextBracket? i (b.text.drop i) = some start)
      (hresolve : resolve unescape b start st = (none, b', st'))
      (hrest : Reading unescape b' st' (start + 1) as st'') : Reading unescape b st i as st''

/-- The brackets of a text resolved from index `i` on, up to the first that is never closed. -/
inductive Pass (unescape : Text → Text) (s : Text) :
    RenderState → Nat → List Anchor → RenderState → Prop where
  | done {st : RenderState} {i : Nat} (hnext : nextBracket? i (s.drop i) = none) :
      Pass unescape s st i [] st
  | unclosed {st : RenderState} {i start : Nat} (hnext : nextBracket? i (s.drop i) = some start)
      (hclose : closer? s start = none) : Pass unescape s st i [] st
  | anchor {st st' st'' : RenderState} {i start stop : Nat} {a : Anchor} {as : List Anchor}
      (hnext : nextBracket? i (s.drop i) = some start) (hclose : closer? s start = some stop)
      (houtcome : Outcome unescape (s.drop stop) (spanTo s start stop) st (some a) st')
      (hrest : Pass unescape s st' a.stop as st'') : Pass unescape s st i (a :: as) st''
  | rejected {st st' st'' : RenderState} {i start stop : Nat} {as : List Anchor}
      (hnext : nextBracket? i (s.drop i) = some start) (hclose : closer? s start = some stop)
      (houtcome : Outcome unescape (s.drop stop) (spanTo s start stop) st none st')
      (hrest : Pass unescape s st' (start + 1) as st'') : Pass unescape s st i as st''

section Memory

variable {unescape : Text → Text} {s : Text} {past : List Nat} {b b' : Brackets}
  {st st' : RenderState} {start : Nat} {a : Option Anchor}

theorem brackets_resolve (unescape : Text → Text) (b : Brackets) (start : Nat)
    (st : RenderState) : (resolve unescape b start st).2.1 = (b.span? start).2 := by
  rw [resolve]
  generalize b.span? start = r
  obtain ⟨span, b'⟩ := r
  cases span with
  | none => rfl
  | some span =>
    simp only
    split
    · rfl
    · split
      · rfl
      · split <;> rfl

theorem agrees_resolve (h : Agrees s past b)
    (hresolve : resolve unescape b start st = (a, b', st')) :
    Agrees s (past ++ [start]) b' := by
  have hb : b' = (b.span? start).2 := by rw [← brackets_resolve unescape b start st, hresolve]
  rw [hb]
  exact (h.span? start).2

/-- Behind a bracket that is never closed, nothing is resolved. -/
theorem resolve_of_unclosed (h : Agrees s past b)
    (hup : ∃ t ∈ past ++ [start], t ≤ start ∧ closer? s t = none)
    (hresolve : resolve unescape b start st = (a, b', st')) : a = none ∧ st' = st := by
  have hspan : (b.span? start).1 = none := by
    rw [(h.span? start).1]
    split
    · rfl
    · next hpast =>
      obtain ⟨t, ht, hle, hnone⟩ := hup
      rcases List.mem_append.1 ht with ht | ht
      · exact absurd ⟨t, ht, hle, hnone⟩ hpast
      · rw [← List.mem_singleton.1 ht, hnone]
        rfl
  rw [resolve_of_span?_eq_none hspan] at hresolve
  simp only [Prod.mk.injEq] at hresolve
  exact ⟨hresolve.1.symm, hresolve.2.2.symm⟩

/-- A bracket that is closed comes to the end that its span comes to, as long as no bracket before
it was found unclosed. -/
theorem outcome_of_closed (h : Agrees s past b) (hpast : ∀ t ∈ past, closer? s t ≠ none)
    {stop : Nat} (hclose : closer? s start = some stop)
    (hresolve : resolve unescape b start st = (a, b', st')) :
    Outcome unescape (s.drop stop) (spanTo s start stop) st a st' := by
  have hspan : (b.span? start).1 = some (spanTo s start stop) := by
    rw [(h.span? start).1, if_neg fun ⟨t, ht, _, hnone⟩ => hpast t ht hnone, hclose]
    rfl
  have houtcome : Outcome unescape (b.text.drop (spanTo s start stop).stop) (spanTo s start stop) st
      (resolve unescape b start st).1 (resolve unescape b start st).2.2 := outcome_resolve hspan
  rw [hresolve, h.text] at houtcome
  exact houtcome

end Memory

variable {unescape : Text → Text} {s : Text}

/-- Once a bracket was found unclosed, the rest of the text gives no anchors. -/
theorem Reading.eq_nil {past : List Nat} {b : Brackets} {st st' : RenderState} {i : Nat}
    {as : List Anchor} (h : Reading unescape b st i as st') (hb : Agrees s past b)
    (hup : ∃ t ∈ past, t ≤ i ∧ closer? s t = none) : as = [] ∧ st' = st := by
  induction h generalizing past with
  | done => exact ⟨rfl, rfl⟩
  | anchor hnext hresolve _ _ =>
    rw [hb.text] at hnext
    obtain ⟨t, ht, hle, hnone⟩ := hup
    have hle' := Nat.le_trans hle (drop_of_nextBracket? hnext).1
    exact absurd (resolve_of_unclosed hb ⟨t, List.mem_append_left _ ht, hle', hnone⟩ hresolve).1
      (Option.some_ne_none _)
  | rejected hnext hresolve _ ih =>
    rw [hb.text] at hnext
    obtain ⟨t, ht, hle, hnone⟩ := hup
    have hle' := Nat.le_trans hle (drop_of_nextBracket? hnext).1
    obtain ⟨-, rfl⟩ := resolve_of_unclosed hb ⟨t, List.mem_append_left _ ht, hle', hnone⟩ hresolve
    exact ih (agrees_resolve hb hresolve)
      ⟨t, List.mem_append_left _ ht, Nat.le_succ_of_le hle', hnone⟩

theorem closed_append {past : List Nat} (hpast : ∀ t ∈ past, closer? s t ≠ none)
    {start stop : Nat} (hclose : closer? s start = some stop) :
    ∀ t ∈ past ++ [start], closer? s t ≠ none := by
  intro t ht
  rcases List.mem_append.1 ht with ht | ht
  · exact hpast t ht
  · rw [List.mem_singleton.1 ht, hclose]
    exact Option.some_ne_none _

/-- The loop does what a pass without a memory does. -/
theorem Reading.pass {past : List Nat} {b : Brackets} {st st' : RenderState} {i : Nat}
    {as : List Anchor} (h : Reading unescape b st i as st') (hb : Agrees s past b)
    (hpast : ∀ t ∈ past, closer? s t ≠ none) : Pass unescape s st i as st' := by
  induction h generalizing past with
  | done hnext =>
    rw [hb.text] at hnext
    exact .done hnext
  | @anchor _ _ _ _ _ _ start _ _ hnext hresolve _ ih =>
    rw [hb.text] at hnext
    cases hclose : closer? s start with
    | none =>
      have hmem : start ∈ past ++ [start] := List.mem_append_right _ (List.mem_singleton_self _)
      exact absurd (resolve_of_unclosed hb ⟨start, hmem, Nat.le_refl _, hclose⟩ hresolve).1
        (Option.some_ne_none _)
    | some stop =>
      exact .anchor hnext hclose (outcome_of_closed hb hpast hclose hresolve)
        (ih (agrees_resolve hb hresolve) (closed_append hpast hclose))
  | @rejected _ _ _ _ _ _ start _ hnext hresolve hrest ih =>
    rw [hb.text] at hnext
    cases hclose : closer? s start with
    | none =>
      have hmem : start ∈ past ++ [start] := List.mem_append_right _ (List.mem_singleton_self _)
      obtain ⟨-, rfl⟩ := resolve_of_unclosed hb ⟨start, hmem, Nat.le_refl _, hclose⟩ hresolve
      obtain ⟨rfl, rfl⟩ := hrest.eq_nil (agrees_resolve hb hresolve)
        ⟨start, hmem, Nat.le_succ _, hclose⟩
      exact .unclosed hnext hclose
    | some stop =>
      exact .rejected hnext hclose (outcome_of_closed hb hpast hclose hresolve)
        (ih (agrees_resolve hb hresolve) (closed_append hpast hclose))

theorem Reading.pass_ofText {st st' : RenderState} {i : Nat} {as : List Anchor}
    (h : Reading unescape (.ofText s) st i as st') : Pass unescape s st i as st' :=
  h.pass (Brackets.agrees_ofText s) (by simp)

/-! ## What a pass does -/

section Step

variable {st st' : RenderState} {i : Nat} {as : List Anchor} (h : Pass unescape s st i as st')
include h

/-- Where no bracket follows that is closed, a pass ends. -/
theorem Pass.eq_nil
    (hend : ∀ start, nextBracket? i (s.drop i) = some start → closer? s start = none) :
    as = [] ∧ st' = st := by
  cases h with
  | done | unclosed => exact ⟨rfl, rfl⟩
  | anchor hnext hclose | rejected hnext hclose =>
    exact absurd ((hend _ hnext).symm.trans hclose) (Option.some_ne_none _).symm

/-- A bracket that is closed has an outcome, and the pass goes on behind the anchor, or behind the
bracket if there is none. -/
theorem Pass.exists_outcome {start stop : Nat} (hnext : nextBracket? i (s.drop i) = some start)
    (hclose : closer? s start = some stop) :
    ∃ a st₁ as', Outcome unescape (s.drop stop) (spanTo s start stop) st a st₁ ∧
      as = a.toList ++ as' ∧ Pass unescape s st₁ (a.elim (start + 1) Anchor.stop) as' st' := by
  cases h with
  | done hnext' => exact absurd (hnext'.symm.trans hnext) (Option.some_ne_none _).symm
  | unclosed hnext' hclose' =>
    obtain rfl := Option.some.inj (hnext.symm.trans hnext')
    exact absurd (hclose'.symm.trans hclose) (Option.some_ne_none _).symm
  | anchor hnext' hclose' houtcome hrest | rejected hnext' hclose' houtcome hrest =>
    obtain rfl := Option.some.inj (hnext.symm.trans hnext')
    obtain rfl := Option.some.inj (hclose.symm.trans hclose')
    exact ⟨_, _, _, houtcome, rfl, hrest⟩

end Step

/-- A pass has one result. -/
theorem Pass.unique {st st₁ st₂ : RenderState} {i : Nat} {as₁ as₂ : List Anchor}
    (h₁ : Pass unescape s st i as₁ st₁) (h₂ : Pass unescape s st i as₂ st₂) :
    as₁ = as₂ ∧ st₁ = st₂ := by
  induction h₁ generalizing as₂ st₂ with
  | done hnext =>
    obtain ⟨rfl, rfl⟩ := h₂.eq_nil fun _ h =>
      absurd (hnext.symm.trans h) (Option.some_ne_none _).symm
    exact ⟨rfl, rfl⟩
  | unclosed hnext hclose =>
    obtain ⟨rfl, rfl⟩ := h₂.eq_nil fun _ h => Option.some.inj (hnext.symm.trans h) ▸ hclose
    exact ⟨rfl, rfl⟩
  | anchor hnext hclose houtcome _ ih | rejected hnext hclose houtcome _ ih =>
    obtain ⟨a, st', as', houtcome', rfl, hrest⟩ := h₂.exists_outcome hnext hclose
    obtain ⟨rfl, rfl⟩ := houtcome.unique houtcome'
    obtain ⟨rfl, rfl⟩ := ih hrest
    exact ⟨rfl, rfl⟩

theorem Pass.takes {st st' : RenderState} {i : Nat} {as : List Anchor}
    (h : Pass unescape s st i as st') : ∀ a ∈ as, Takes s a := by
  induction h with
  | done | unclosed => simp
  | anchor hnext hclose houtcome _ ih =>
    rw [List.forall_mem_cons]
    exact ⟨takes_of_outcome (drop_of_nextBracket? hnext).2 hclose houtcome, ih⟩
  | rejected _ _ _ _ ih => exact ih

/-- An anchor begins at the bracket that it was resolved from. -/
theorem start_of_outcome {start stop : Nat} {st st' : RenderState} {a : Anchor}
    (houtcome : Outcome unescape (s.drop stop) (spanTo s start stop) st (some a) st') :
    a.span.start = start := congrArg Span.start houtcome.taken.1

theorem Pass.le_start {st st' : RenderState} {i : Nat} {as : List Anchor}
    (h : Pass unescape s st i as st') : ∀ a ∈ as, i ≤ a.span.start := by
  induction h with
  | done | unclosed => simp
  | anchor hnext hclose houtcome _ ih =>
    have hle := (drop_of_nextBracket? hnext).1
    have hstart := start_of_outcome houtcome
    have htakes := takes_of_outcome (drop_of_nextBracket? hnext).2 hclose houtcome
    rw [List.forall_mem_cons]
    refine ⟨by rwa [hstart], fun a ha => ?_⟩
    have := ih a ha
    have := htakes.start_lt
    have := htakes.stop_le
    omega
  | rejected hnext _ _ _ ih =>
    intro a ha
    have := (drop_of_nextBracket? hnext).1
    have := ih a ha
    omega

/-- An anchor begins where the one before it ends, or behind that. -/
theorem Pass.pairwise {st st' : RenderState} {i : Nat} {as : List Anchor}
    (h : Pass unescape s st i as st') :
    as.Pairwise fun a a' => a.stop ≤ a'.span.start := by
  induction h with
  | done | unclosed => exact .nil
  | anchor _ _ _ hrest ih => exact .cons hrest.le_start ih
  | rejected _ _ _ _ ih => exact ih

/-! ## The loop ends -/

/-- What is resolved has a closing bracket, and so ends behind its start. -/
theorem lt_stop_of_resolve {past : List Nat} {b b' : Brackets} (hb : Agrees s past b) {start : Nat}
    {st st' : RenderState} {a : Anchor}
    (hresolve : resolve unescape b start st = (some a, b', st')) : start < a.stop := by
  cases hspan : (b.span? start).1 with
  | none =>
    rw [resolve_of_span?_eq_none hspan] at hresolve
    exact absurd (congrArg Prod.fst hresolve) (Option.some_ne_none a).symm
  | some span =>
    have houtcome : Outcome unescape (b.text.drop span.stop) span st
        (resolve unescape b start st).1 (resolve unescape b start st).2.2 := outcome_resolve hspan
    rw [hresolve] at houtcome
    obtain ⟨-, part, _, -, hstop, -⟩ := houtcome.taken
    rw [(hb.span? start).1] at hspan
    split at hspan
    · exact absurd hspan (Option.some_ne_none span).symm
    · obtain ⟨stop, hclose, rfl⟩ := Option.map_eq_some_iff.1 hspan
      have hspanStop : (spanTo s start stop).stop = stop := rfl
      have hlt := (drop_of_closer? hclose).2.1
      omega

/-- Each step moves on, so that the fuel is enough. -/
theorem reading_resolveFrom {past : List Nat} {b : Brackets} (hb : Agrees s past b)
    (st : RenderState) {fuel i : Nat} (hfuel : s.length ≤ i + fuel) :
    Reading unescape b st i (resolveFrom unescape b st fuel i).1
      (resolveFrom unescape b st fuel i).2 := by
  induction fuel generalizing past b st i with
  | zero =>
    refine .done ?_
    rw [hb.text, List.drop_of_length_le (Nat.add_zero i ▸ hfuel)]
    rfl
  | succ fuel ih =>
    rw [resolveFrom]
    cases hnext : nextBracket? i (b.text.drop i) with
    | none => exact .done hnext
    | some start =>
      have hle : i ≤ start := (drop_of_nextBracket? hnext).1
      simp only
      generalize hresolve : resolve unescape b start st = r
      obtain ⟨_ | a, b', st'⟩ := r
      · exact .rejected hnext hresolve (ih (agrees_resolve hb hresolve) st' (by omega))
      · have hstop := lt_stop_of_resolve hb hresolve
        exact .anchor hnext hresolve (ih (agrees_resolve hb hresolve) st' (by omega))

theorem reading_resolveEach (unescape : Text → Text) (s : Text) (st : RenderState) :
    Reading unescape (.ofText s) st 0 (resolveEach unescape s st).1
      (resolveEach unescape s st).2 :=
  reading_resolveFrom (Brackets.agrees_ofText s) st (by omega)

theorem pass_resolveEach (unescape : Text → Text) (s : Text) (st : RenderState) :
    Pass unescape s st 0 (resolveEach unescape s st).1 (resolveEach unescape s st).2 :=
  (reading_resolveEach unescape s st).pass_ofText

/-- The loop ends, in one way, and its anchors take pieces of the text one behind the other. -/
theorem resolveEach_pieces (unescape : Text → Text) (s : Text) (st : RenderState) :
    (∀ as st', Reading unescape (.ofText s) st 0 as st' ↔ (as, st') = resolveEach unescape s st) ∧
      (∀ a ∈ (resolveEach unescape s st).1, Takes s a) ∧
      (resolveEach unescape s st).1.Pairwise fun a a' => a.stop ≤ a'.span.start := by
  have hpass := pass_resolveEach unescape s st
  refine ⟨fun as st' => ⟨fun h => ?_, fun h => ?_⟩, hpass.takes, hpass.pairwise⟩
  · obtain ⟨rfl, rfl⟩ := h.pass_ofText.unique hpass
    rfl
  · have hreading := reading_resolveEach unescape s st
    rwa [← h] at hreading

example : (resolveAll "[a [b](c) [d](e)".toList {}).1 = [] ∧
    (resolveAll "[a] [b](c)[d](e \"f\") [".toList {}).1.map (fun a => (a.span.start, a.stop)) =
      [(4, 10), (10, 20)] := by decide

end WikiText.Anchor
