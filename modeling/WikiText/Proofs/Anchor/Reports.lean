import WikiText.Proofs.Anchor.LeftToRight

/-!
# What is reported of brackets

A bracket is reported when what it refers to is not there: a footnote that is not defined, or a link
id that is not known (`Refers`).  A second part in brackets is always read as a link id, also where
it would be a reference to a footnote if it stood alone.  Main statement: `warnings_iff_refers`.
-/

namespace WikiText.Anchor

open Brackets (spanTo)

/-- What a span refers to is there: the footnote that it names is defined; or it names none, and no
part in brackets follows it, or one with a key that is known. -/
def Refers (st : RenderState) (behind : Text) (span : Span) : Prop :=
  match span.footnoteId? with
  | some id => st.footnotes.contains id = true
  | none => ∀ part ∈ referencePart? behind, st.urls.contains (referenceKey span part.1) = true

instance (st : RenderState) (behind : Text) (span : Span) : Decidable (Refers st behind span) :=
  match h : span.footnoteId? with
  | some id => decidable_of_iff (st.footnotes.contains id = true) (by rw [Refers, h])
  | none => decidable_of_iff
      (∀ part ∈ referencePart? behind, st.urls.contains (referenceKey span part.1) = true)
      (by rw [Refers, h])

theorem refers_of_footnoteId? {st : RenderState} {behind : Text} {span : Span} {id : Text}
    (hid : span.footnoteId? = some id) :
    Refers st behind span ↔ st.footnotes.contains id = true := by
  rw [Refers, hid]

theorem refers_of_none {st : RenderState} {behind : Text} {span : Span}
    (hid : span.footnoteId? = none) :
    Refers st behind span ↔
      ∀ part ∈ referencePart? behind, st.urls.contains (referenceKey span part.1) = true := by
  rw [Refers, hid]

theorem refers_of_referencePart? {st : RenderState} {behind : Text} {span : Span} {id rest : Text}
    (hid : span.footnoteId? = none) (hpart : referencePart? behind = some (id, rest)) :
    Refers st behind span ↔ st.urls.contains (referenceKey span id) = true := by
  rw [refers_of_none hid, hpart]
  constructor
  · intro h
    exact h (id, rest) rfl
  · rintro h _ ⟨⟩
    exact h

/-- Reading brackets changes neither what is defined nor what is known. -/
theorem Refers.congr {st st' : RenderState} (hfootnotes : st'.footnotes = st.footnotes)
    (hurls : st'.urls = st.urls) {behind : Text} {span : Span} (h : Refers st behind span) :
    Refers st' behind span := by
  cases hid : span.footnoteId? with
  | some id =>
    rw [refers_of_footnoteId? hid] at h ⊢
    rwa [hfootnotes]
  | none =>
    rw [refers_of_none hid] at h ⊢
    rwa [hurls]

/-! ## One bracket -/

section

variable {unescape : Text → Text} {behind : Text} {span : Span} {st st' : RenderState}
  {a : Option Anchor}

theorem Outcome.tables (h : Outcome unescape behind span st a st') :
    st'.footnotes = st.footnotes ∧ st'.urls = st.urls := by
  cases h with
  | footnote =>
    rw [RenderState.register]
    split
    · exact ⟨rfl, rfl⟩
    · exact ⟨rfl, rfl⟩
  | undefined | reference | unknown | inline | plain => exact ⟨rfl, rfl⟩

theorem warnings_warn_ne (w : Warning) (st : RenderState) : (st.warn w).warnings ≠ st.warnings := by
  intro h
  exact List.cons_ne_nil w [] (List.append_right_eq_self.1 h)

theorem warnings_register (id : Text) (st : RenderState) :
    (st.register id).warnings = st.warnings := by
  rw [RenderState.register]
  split
  · rfl
  · rfl

theorem Outcome.warnings_iff (h : Outcome unescape behind span st a st') :
    st'.warnings = st.warnings ↔ Refers st behind span := by
  cases h with
  | footnote hid hdef =>
    rw [refers_of_footnoteId? hid]
    exact iff_of_true (warnings_register _ st) hdef
  | undefined hid hdef =>
    rw [refers_of_footnoteId? hid, hdef]
    exact iff_of_false (warnings_warn_ne _ st) Bool.false_ne_true
  | reference hid hpart hurl =>
    rw [refers_of_referencePart? hid hpart, Dictionary.contains, hurl]
    exact iff_of_true rfl rfl
  | unknown hid hpart hurl =>
    rw [refers_of_referencePart? hid hpart, Dictionary.contains, hurl]
    exact iff_of_false (warnings_warn_ne _ st) Bool.false_ne_true
  | inline hid hpart | plain hid hpart =>
    rw [refers_of_none hid, hpart]
    exact iff_of_true rfl fun _ h => absurd h (Option.not_mem_none _)

end

/-- Behind other brackets, what would be a reference to a footnote is read as a link id. -/
theorem refers_before_footnote {st : RenderState} {span : Span} {g id rest : Text}
    (hspan : span.footnoteId? = none) (hg : IsGap g) (hclose : ']' ∉ id) (hline : '\n' ∉ id) :
    Refers st (g ++ '[' :: '^' :: (id ++ ']' :: rest)) span ↔
      st.urls.contains ('^' :: Text.lower id) = true := by
  have hpart :
      referencePart? (g ++ '[' :: '^' :: (id ++ ']' :: rest)) = some ('^' :: id, rest) := by
    refine referencePart?_eq_some_iff.2 ⟨g, hg, by simp, ?_, ?_⟩
    · rw [List.mem_cons, not_or]
      exact ⟨by decide, hclose⟩
    · rw [List.mem_cons, not_or]
      exact ⟨by decide, hline⟩
  rw [refers_of_referencePart? hspan hpart, referenceKey, List.isEmpty_cons,
    if_neg Bool.false_ne_true, Text.lower_caret]

/-! ## A whole text -/

/-- A pass over brackets that all refer to what is there reports nothing. -/
theorem Pass.warnings_eq {unescape : Text → Text} {s : Text} {st st' : RenderState} {i : Nat}
    {as : List Anchor} (h : Pass unescape s st i as st')
    (hs : ∀ start stop, s[start]? = some '[' → closer? s start = some stop →
      Refers st (s.drop stop) (spanTo s start stop)) : st'.warnings = st.warnings := by
  induction h with
  | done | unclosed => rfl
  | @anchor _ _ _ _ start stop _ _ hnext hclose houtcome _ ih
  | @rejected _ _ _ _ start stop _ hnext hclose houtcome _ ih =>
    obtain ⟨hfootnotes, hurls⟩ := houtcome.tables
    obtain ⟨-, _, hopen⟩ := drop_of_nextBracket? hnext
    have hnone := houtcome.warnings_iff.2 (hs start stop (getElem?_of_drop hopen) hclose)
    refine (ih ?_).trans hnone
    intro start' stop' hopen' hclose'
    exact (hs start' stop' hopen' hclose').congr hfootnotes hurls

/-- Resolving a bracket reports nothing just when what it refers to is there; so nothing is reported
of a text in which this holds of all brackets.  Where a reference to a footnote stands behind other
brackets, it is not asked whether the footnote is defined, but whether the caret with the id is a
link id. -/
theorem warnings_iff_refers (unescape : Text → Text) (st : RenderState) :
    (∀ b start span, (b.span? start).1 = some span →
        ((resolve unescape b start st).2.2.warnings = st.warnings ↔
          Refers st (b.text.drop span.stop) span)) ∧
      (∀ span g id rest, span.footnoteId? = none → IsGap g → ']' ∉ id → '\n' ∉ id →
        (Refers st (g ++ '[' :: '^' :: (id ++ ']' :: rest)) span ↔
          st.urls.contains ('^' :: Text.lower id) = true)) ∧
      ∀ s, (∀ start stop, s[start]? = some '[' → closer? s start = some stop →
          Refers st (s.drop stop) (spanTo s start stop)) →
        (resolveEach unescape s st).2.warnings = st.warnings := by
  refine ⟨?_, ?_, ?_⟩
  · intro b start span hspan
    exact (outcome_resolve hspan).warnings_iff
  · intro span g id rest hspan hg hclose hline
    exact refers_before_footnote hspan hg hclose hline
  · intro s hs
    exact (pass_resolveEach unescape s st).warnings_eq hs

/-- Plain brackets and references to one footnote, with a word behind the brackets. -/
theorem warnings_iff_refers_apart :
    let st : RenderState := { footnotes := .ofList [(['a'], [])] }
    let s := "[^a] [x [y]] z [^a]".toList
    (∀ start stop, s[start]? = some '[' → closer? s start = some stop →
        Refers st (s.drop stop) (spanTo s start stop)) ∧
      (resolveAll s st).2.warnings = [] := by
  intro st s
  have hs : ∀ start < s.length, ∀ stop ∈ closer? s start, s[start]? = some '[' →
      Refers st (s.drop stop) (spanTo s start stop) := by decide
  have hall : ∀ start stop, s[start]? = some '[' → closer? s start = some stop →
      Refers st (s.drop stop) (spanTo s start stop) := by
    intro start stop hopen hclose
    exact hs start (List.getElem?_eq_some_iff.1 hopen).1 stop hclose hopen
  exact ⟨hall, (warnings_iff_refers id st).2.2 s hall⟩

/-- A footnote that is defined is taken for a link id that is not known, and still resolved. -/
theorem footnote_taken_for_link_id :
    let st : RenderState := { footnotes := .ofList [(['a'], [])] }
    let s := "[x] [^a]".toList
    (resolveAll s st).2.warnings = [.linkIdNotFound "^a".toList] ∧
      (resolveAll s st).1 = [⟨⟨"^a".toList, 4, 8⟩, 8, footnoteTarget ['a'] st⟩] := by decide

end WikiText.Anchor
