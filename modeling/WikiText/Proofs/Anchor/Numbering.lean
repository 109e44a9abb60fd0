import Mathlib.Data.List.Basic
import WikiText.Proofs.Anchor.Outcome

/-!
# The numbers of footnotes

Footnotes are numbered by their first references.  `Numbering` says what holds of the numbers over
any run of resolved brackets; `numbering_run` proves it, from what one call can do to the list of
footnotes (`Call.Noted`) and an induction on the calls.
-/

namespace WikiText

namespace Anchor

/-! ## Footnote references among the anchors -/

/-- The footnote that an anchor refers to. -/
def footnoteId? (a : Anchor) : Option Text :=
  match a.target with
  | .footnote _ _ _ => a.span.footnoteId?
  | .link _ _ _ => none

def label? (a : Anchor) : Option Text :=
  match a.target with
  | .footnote _ label _ => label
  | .link _ _ _ => none

/-- The identifier of a reference to a footnote, which a back-link leads to. -/
def refId? (a : Anchor) : Option Text :=
  match a.target with
  | .footnote _ _ refId => refId
  | .link _ _ _ => none

theorem footnoteLabel_inj {m n : Nat} (h : footnoteLabel m = footnoteLabel n) : m = n :=
  Text.ofNat_inj (List.append_cancel_right (List.cons.inj h).2)

/-! ## One call -/

/-- A bracket to be resolved.  The brackets of its text are given in any condition: calls may share
them, or not. -/
structure Call where
  unescape : Text → Text
  brackets : Brackets
  start : Nat

/-- The anchor of a call, and the state that it leaves. -/
def Call.resolve (c : Call) (st : RenderState) : Option Anchor × RenderState :=
  let (a, _, st) := Anchor.resolve c.unescape c.brackets c.start st
  (a, st)

/-- What a call can do to the list of footnotes: nothing, when its anchor does not refer to a
defined one; or it registers the footnote that the anchor refers to. -/
inductive Call.Noted (st : RenderState) : Option Anchor → RenderState → Prop where
  | other {a : Option Anchor} {st' : RenderState} (hfound : st'.found = st.found)
      (hdef : st'.footnotes = st.footnotes)
      (ha : ∀ a', a = some a' → a'.refId? = none ∧
        ∀ id, a'.footnoteId? = some id → st.footnotes.contains id = false) :
      Call.Noted st a st'
  | footnote {a : Anchor} {id : Text} (hdef : st.footnotes.contains id = true)
      (hid : a.footnoteId? = some id)
      (hlabel : a.label? = some (footnoteLabel ((st.register id).found.idxOf id + 1)))
      (href : a.refId? = if id ∈ st.found then none else some (footnoteReferenceId id)) :
      Call.Noted st (some a) (st.register id)

theorem Outcome.noted {unescape : Text → Text} {behind : Text} {span : Span} {st st' : RenderState}
    {a : Option Anchor} (h : Outcome unescape behind span st a st') : Call.Noted st a st' := by
  cases h with
  | @footnote id hid hdef =>
    refine .footnote hdef hid rfl ?_
    simp only [refId?, footnoteTarget, List.elem_iff]
  | @undefined id hid hdef =>
    refine .other rfl rfl ?_
    rintro _ ⟨⟩
    refine ⟨rfl, fun id' hid' => ?_⟩
    obtain rfl : id = id' := Option.some.inj (hid.symm.trans hid')
    exact hdef
  | reference | inline =>
    refine .other rfl rfl ?_
    rintro _ ⟨⟩
    refine ⟨rfl, fun id' hid' => ?_⟩
    exact absurd hid' (Option.some_ne_none id').symm
  | unknown | plain =>
    refine .other rfl rfl ?_
    rintro _ ⟨⟩

theorem Call.noted (c : Call) (st : RenderState) : Noted st (c.resolve st).1 (c.resolve st).2 := by
  rw [Call.resolve]
  cases h : (c.brackets.span? c.start).1 with
  | none =>
    rw [resolve_of_span?_eq_none h]
    exact .other rfl rfl (by rintro _ ⟨⟩)
  | some span => exact (outcome_resolve h).noted

/-! ## Any number of calls -/

/-- The anchors of a run of calls, and the state at its end. -/
def run : List Call → RenderState → List (Option Anchor) × RenderState
  | [], st => ([], st)
  | c :: cs, st =>
    let (a, st) := c.resolve st
    let (as, st) := run cs st
    (a :: as, st)

/-- The state after the first `i` calls of a run. -/
def stateAt (calls : List Call) (st : RenderState) (i : Nat) : RenderState :=
  (run (calls.take i) st).2

theorem run_append (cs ds : List Call) (st : RenderState) :
    run (cs ++ ds) st = ((run cs st).1 ++ (run ds (run cs st).2).1, (run ds (run cs st).2).2) := by
  induction cs generalizing st with
  | nil => rfl
  | cons c cs ih => simp only [List.cons_append, run, ih]

/-- What holds of the list of footnotes at the two ends of a run. -/
structure Grows (st st' : RenderState) : Prop where
  footnotes : st'.footnotes = st.footnotes
  found : st.found <+: st'.found
  nodup : st.found.Nodup → st'.found.Nodup
  defined : ∀ id ∈ st'.found, id ∈ st.found ∨ st.footnotes.contains id = true

theorem Grows.refl (st : RenderState) : Grows st st where
  footnotes := rfl
  found := List.prefix_refl _
  nodup := id
  defined _ h := .inl h

theorem Grows.trans {st₁ st₂ st₃ : RenderState} (h : Grows st₁ st₂) (h' : Grows st₂ st₃) :
    Grows st₁ st₃ where
  footnotes := h'.footnotes.trans h.footnotes
  found := h.found.trans h'.found
  nodup hn := h'.nodup (h.nodup hn)
  defined id hid := by
    rcases h'.defined id hid with hid | hdef
    · exact h.defined id hid
    · exact .inr (h.footnotes ▸ hdef)

/-- Registering a footnote that is defined. -/
theorem grows_register {id : Text} {st : RenderState} (hdef : st.footnotes.contains id = true) :
    Grows st (st.register id) where
  footnotes := RenderState.footnotes_register id st
  found := by
    by_cases h : id ∈ st.found
    · simp only [RenderState.found_register_of_mem h, List.prefix_refl]
    · simp only [RenderState.found_register_of_not_mem h, List.prefix_append]
  nodup hn := by
    by_cases h : id ∈ st.found
    · rwa [RenderState.found_register_of_mem h]
    · rw [RenderState.found_register_of_not_mem h]
      refine List.nodup_append.2 ⟨hn, by simp, ?_⟩
      rintro _ ha b hb rfl
      exact h (List.mem_singleton.1 hb ▸ ha)
  defined id' hid' := by
    rcases RenderState.mem_found_register.1 hid' with rfl | hmem
    · exact .inr hdef
    · exact .inl hmem

theorem Call.Noted.grows {st st' : RenderState} {a : Option Anchor} (h : Noted st a st') :
    Grows st st' := by
  cases h with
  | other hfound hdef _ =>
    exact ⟨hdef, hfound ▸ List.prefix_refl _, fun hn => hfound ▸ hn,
      fun id hid => .inl (hfound ▸ hid)⟩
  | footnote hdef => exact grows_register hdef

theorem grows_run (calls : List Call) (st : RenderState) : Grows st (run calls st).2 := by
  induction calls generalizing st with
  | nil => exact .refl st
  | cons c cs ih => exact (c.noted st).grows.trans (ih _)

/-- The state at a moment of a run grows up to any later moment. -/
theorem grows_stateAt (calls : List Call) (st : RenderState) {i j : Nat} (h : i ≤ j) :
    Grows (stateAt calls st i) (stateAt calls st j) := by
  have htake : calls.take j = calls.take i ++ (calls.drop i).take (j - i) := by
    rw [← List.take_add, Nat.add_sub_cancel' h]
  rw [stateAt, stateAt, htake, run_append]
  exact grows_run _ _

/-- The anchor of a call is what the call gives in the state before it. -/
theorem noted_of_getElem? {calls : List Call} {st : RenderState} {i : Nat} {a : Option Anchor}
    (h : (run calls st).1[i]? = some a) :
    Call.Noted (stateAt calls st i) a (stateAt calls st (i + 1)) := by
  induction calls generalizing st i with
  | nil => simp [run] at h
  | cons c cs ih =>
    cases i with
    | zero =>
      obtain rfl : (c.resolve st).1 = a := Option.some.inj h
      exact c.noted st
    | succ i => exact ih h

/-- The label of a reference to a defined footnote is the place of the footnote in the list, there
and from then on. -/
theorem label_of_getElem? {calls : List Call} {st : RenderState} {i : Nat} {a : Anchor} {id : Text}
    (h : (run calls st).1[i]? = some (some a)) (hid : a.footnoteId? = some id)
    (hdef : st.footnotes.contains id = true) :
    ∃ n, a.label? = some (footnoteLabel (n + 1)) ∧
      ∀ j, i < j → (stateAt calls st j).found[n]? = some id := by
  have hnoted := noted_of_getElem? h
  have hkeep : (stateAt calls st i).footnotes = st.footnotes := (grows_run _ _).footnotes
  have hafter := fun j (hj : i < j) => (grows_stateAt calls st (show i + 1 ≤ j from hj)).found
  generalize stateAt calls st i = s at hnoted hkeep
  generalize stateAt calls st (i + 1) = s' at hnoted hafter
  cases hnoted with
  | other _ _ ha =>
    have := (ha a rfl).2 id hid
    rw [hkeep, hdef] at this
    exact absurd this (by simp)
  | @footnote _ id' _ hid' hlabel _ =>
    obtain rfl : id = id' := Option.some.inj (hid.symm.trans hid')
    refine ⟨_, hlabel, fun j hj => ?_⟩
    have hmem : id ∈ (s.register id).found := RenderState.mem_found_register.2 (.inl rfl)
    have hplace := List.getElem?_idxOf hmem
    obtain ⟨r, hr⟩ := hafter j hj
    rw [← hr, List.getElem?_append_left (List.idxOf_lt_length_iff.2 hmem)]
    exact hplace

/-- Whether an anchor refers to a footnote and can be led back to. -/
def isFirst (id : Text) (a : Option Anchor) : Bool :=
  a.any fun a => a.refId?.isSome && a.footnoteId? = some id

theorem Call.Noted.isFirst_iff {st st' : RenderState} {a : Option Anchor} (h : Noted st a st')
    (id : Text) : isFirst id a = true ↔ id ∈ st'.found ∧ id ∉ st.found := by
  cases h with
  | other hfound _ ha =>
    refine iff_of_false ?_ (by rw [hfound]; exact fun h => h.2 h.1)
    cases a with
    | none => simp [isFirst]
    | some a => simp [isFirst, (ha a rfl).1]
  | @footnote a id' _ hid _ href =>
    have hrefId : a.refId?.isSome = true ↔ id' ∉ st.found := by
      rw [href]
      split
      · next hold => exact iff_of_false Bool.false_ne_true fun hnew => hnew hold
      · next hnew => exact iff_of_true rfl hnew
    rw [RenderState.mem_found_register]
    simp only [isFirst, Option.any_some, Bool.and_eq_true, hrefId, hid, decide_eq_true_eq,
      Option.some.injEq]
    constructor
    · rintro ⟨hnew, rfl⟩
      exact ⟨.inl rfl, hnew⟩
    · rintro ⟨rfl | hmem, hnew⟩
      · exact ⟨hnew, rfl⟩
      · exact absurd hmem hnew

theorem Call.Noted.refId {st st' : RenderState} {a : Anchor} (h : Noted st (some a) st') {r : Text}
    (hr : a.refId? = some r) : ∃ id, a.footnoteId? = some id ∧ r = footnoteReferenceId id := by
  cases h with
  | other _ _ ha => rw [(ha a rfl).1] at hr; exact absurd hr (Option.some_ne_none r).symm
  | @footnote _ id _ hid _ href =>
    refine ⟨id, hid, ?_⟩
    rw [href] at hr
    split at hr
    · exact absurd hr (Option.some_ne_none r).symm
    · exact (Option.some.inj hr).symm

/-- The footnotes that a run registers are those with a first reference in it, and they have one
each. -/
theorem countP_isFirst (calls : List Call) (st : RenderState) (id : Text) :
    (run calls st).1.countP (isFirst id) =
      if id ∈ (run calls st).2.found ∧ id ∉ st.found then 1 else 0 := by
  induction calls generalizing st with
  | nil => simp [run]
  | cons c cs ih =>
    have hfirst := (c.noted st).isFirst_iff id
    have hgrow := (c.noted st).grows.found
    have hrest := (grows_run cs (c.resolve st).2).found
    have hrun : run (c :: cs) st =
        ((c.resolve st).1 :: (run cs (c.resolve st).2).1, (run cs (c.resolve st).2).2) := rfl
    rw [hrun, List.countP_cons, ih]
    by_cases hold : id ∈ st.found
    · rw [if_neg fun h => h.2 (hgrow.subset hold), if_neg fun h => (hfirst.1 h).2 hold,
        if_neg fun h => h.2 hold]
    · by_cases hnew : id ∈ (c.resolve st).2.found
      · rw [if_neg fun h => h.2 hnew, if_pos (hfirst.2 ⟨hnew, hold⟩),
          if_pos ⟨hrest.subset hnew, hold⟩]
      · rw [if_neg fun h => hnew (hfirst.1 h).1]
        simp only [hnew, hold, not_false_eq_true, and_true, Nat.add_zero]

/-- The numbers of footnotes over a run: at each moment, and between any two references. -/
structure Numbering (calls : List Call) (st : RenderState) : Prop where
  /-- No footnote has two numbers. -/
  nodup : ∀ i, (stateAt calls st i).found.Nodup
  /-- Numbers are given in order, and for good. -/
  grows : ∀ i j, i ≤ j → (stateAt calls st i).found <+: (stateAt calls st j).found
  /-- Only defined footnotes get a number. -/
  defined : ∀ i, ∀ id ∈ (stateAt calls st i).found,
    id ∈ st.found ∨ st.footnotes.contains id = true
  /-- The label of a reference is the number of its footnote, then and at each later moment. -/
  label : ∀ i a id, (run calls st).1[i]? = some (some a) → a.footnoteId? = some id →
    st.footnotes.contains id = true →
      ∃ n, a.label? = some (footnoteLabel (n + 1)) ∧
        ∀ j, i < j → (stateAt calls st j).found[n]? = some id
  /-- References have the same label just when they refer to the same footnote. -/
  label_inj : ∀ a a' id id', some a ∈ (run calls st).1 → some a' ∈ (run calls st).1 →
    a.footnoteId? = some id → a'.footnoteId? = some id' → st.footnotes.contains id = true →
      st.footnotes.contains id' = true → (a.label? = a'.label? ↔ id = id')
  /-- A footnote that gets a number has one first reference, and no other footnote has any. -/
  first : ∀ id, (run calls st).1.countP (isFirst id) =
    if id ∈ (run calls st).2.found ∧ id ∉ st.found then 1 else 0
  /-- Only references to footnotes can be led back to, under the names of their footnotes. -/
  refId : ∀ a r, some a ∈ (run calls st).1 → a.refId? = some r →
    ∃ id, a.footnoteId? = some id ∧ r = footnoteReferenceId id

theorem numbering_run (calls : List Call) (st : RenderState) (hst : st.found.Nodup) :
    Numbering calls st where
  nodup i := (grows_run (calls.take i) st).nodup hst
  grows i j h := (grows_stateAt calls st h).found
  defined i := (grows_run (calls.take i) st).defined
  label i a id h hid hdef := label_of_getElem? h hid hdef
  label_inj a a' id id' h h' hid hid' hdef hdef' := by
    obtain ⟨i, hi, hget⟩ := List.getElem_of_mem h
    obtain ⟨i', hi', hget'⟩ := List.getElem_of_mem h'
    obtain ⟨n, hlabel, hn⟩ := label_of_getElem? (List.getElem?_eq_some_iff.2 ⟨hi, hget⟩) hid hdef
    obtain ⟨n', hlabel', hn'⟩ :=
      label_of_getElem? (List.getElem?_eq_some_iff.2 ⟨hi', hget'⟩) hid' hdef'
    have hplace := hn (max i i' + 1) (by omega)
    have hplace' := hn' (max i i' + 1) (by omega)
    have hnodup := (grows_run (calls.take (max i i' + 1)) st).nodup hst
    rw [hlabel, hlabel']
    constructor
    · intro he
      obtain rfl : n = n' := by simpa using footnoteLabel_inj (Option.some.inj he)
      exact Option.some.inj (hplace.symm.trans hplace')
    · rintro rfl
      obtain ⟨hlt, -⟩ := List.getElem?_eq_some_iff.1 hplace
      rw [(List.getElem?_inj hlt hnodup).1 (hplace.trans hplace'.symm)]
  first := countP_isFirst calls st
  refId a r h hr := by
    obtain ⟨i, hi, hget⟩ := List.getElem_of_mem h
    exact (noted_of_getElem? (List.getElem?_eq_some_iff.2 ⟨hi, hget⟩)).refId hr

/-- Three references to two footnotes, in one text. -/
theorem numbering_run_repeated :
    let b := Brackets.ofText "[^b] [^a] [^b]".toList
    let st : RenderState := { footnotes := .ofList [("a".toList, []), ("b".toList, [])] }
    let calls : List Call := [⟨id, b, 0⟩, ⟨id, b, 5⟩, ⟨id, b, 10⟩]
    st.found.Nodup ∧ Numbering calls st ∧
      (run calls st).1.map (fun a => a.bind label?) =
        [some "[1]".toList, some "[2]".toList, some "[1]".toList] :=
  ⟨by decide, numbering_run _ _ (by decide), by decide⟩

end Anchor

end WikiText
