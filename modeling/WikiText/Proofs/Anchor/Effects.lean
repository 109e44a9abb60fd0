import WikiText.Proofs.Anchor.Numbering
import WikiText.Proofs.Anchor.Reports

/-!
# What resolving a bracket changes

Resolving a bracket adds to the state in two places only: a footnote that is met for the first time
is registered (`IsNew`), and what is referred to but missing is reported (`Missing`).  A bracket is
one or the other, or neither, so that at most one thing is added by each (`Outcome.adds`) and at
most as many as there are brackets by a run of them (`adds_run`).  Main statement:
`resolve_effects`.
-/

namespace WikiText

/-- The state with footnotes registered and warnings reported, and else the same. -/
def RenderState.adding (noted : List Text) (reported : List Warning) (st : RenderState) :
    RenderState :=
  { st with found := st.found ++ noted, warnings := st.warnings ++ reported }

namespace RenderState

theorem adding_nil (st : RenderState) : st.adding [] [] = st := by
  rw [adding, List.append_nil, List.append_nil]

theorem adding_adding (noted noted' : List Text) (reported reported' : List Warning)
    (st : RenderState) :
    (st.adding noted reported).adding noted' reported' =
      st.adding (noted ++ noted') (reported ++ reported') := by
  simp only [adding, List.append_assoc]

theorem register_of_mem {id : Text} {st : RenderState} (h : id ∈ st.found) :
    st.register id = st.adding [] [] := by
  rw [adding_nil, register, if_pos (by simpa using h)]

theorem register_of_not_mem {id : Text} {st : RenderState} (h : id ∉ st.found) :
    st.register id = st.adding [id] [] := by
  rw [register, if_neg (by simpa using h), adding, List.append_nil]

theorem warn_eq (w : Warning) (st : RenderState) : st.warn w = st.adding [] [w] := by
  rw [warn, adding, List.append_nil]

end RenderState

namespace Anchor

open Brackets (after)

/-! ## One bracket -/

/-- The span refers to a footnote that is defined and was not referred to before. -/
def IsNew (st : RenderState) (span : Span) (id : Text) : Prop :=
  span.footnoteId? = some id ∧ st.footnotes.contains id = true ∧ id ∉ st.found

/-- What the span refers to is missing: the footnote that it names is not defined; or it names none,
and the bracket part behind it makes it a reference link with a key that is not known. -/
inductive Missing (st : RenderState) (behind : Text) (span : Span) : Warning → Prop
  | footnote {id : Text} (hid : span.footnoteId? = some id)
      (hdef : st.footnotes.contains id = false) : Missing st behind span (.undefinedFootnote id)
  | reference {id rest : Text} (hid : span.footnoteId? = none)
      (hpart : referencePart? behind = some (id, rest))
      (hurl : st.urls.contains (referenceKey span id) = false) :
      Missing st behind span (.linkIdNotFound (referenceKey span id))

/-- Brackets that are neither a reference nor a link. -/
def IsPlain (behind : Text) (span : Span) : Prop :=
  span.footnoteId? = none ∧ referencePart? behind = none ∧ inlinePart? behind = none

/-- What is added for the span that a bracket has, if it has one. -/
structure Adds (s : Text) (st : RenderState) (span? : Option Span) (noted : Option Text)
    (reported : Option Warning) : Prop where
  noted_iff : ∀ id, noted = some id ↔ ∃ span ∈ span?, IsNew st span id
  reported_iff : ∀ w, reported = some w ↔ ∃ span ∈ span?, Missing st (s.drop span.stop) span w

theorem adds_none (s : Text) (st : RenderState) : Adds s st none none none where
  noted_iff _ := by simp
  reported_iff _ := by simp

section

variable {unescape : Text → Text} {s behind : Text} {span : Span} {st st' : RenderState}
  {a : Option Anchor}

theorem Missing.unique {w w' : Warning} (h : Missing st behind span w)
    (h' : Missing st behind span w') : w = w' := by
  cases h with
  | footnote hid =>
    cases h' with
    | footnote hid' => rw [Option.some.inj (hid.symm.trans hid')]
    | reference hid' => exact absurd (hid'.symm.trans hid) (Option.some_ne_none _).symm
  | reference hid hpart =>
    cases h' with
    | footnote hid' => exact absurd (hid.symm.trans hid') (Option.some_ne_none _).symm
    | reference _ hpart' => rw [(Prod.mk.inj (Option.some.inj (hpart.symm.trans hpart'))).1]

theorem reported_iff_of_missing {w : Warning} (h : Missing st behind span w) (w' : Warning) :
    some w = some w' ↔ Missing st behind span w' := by
  constructor
  · rintro ⟨⟩
    exact h
  · intro h'
    rw [h.unique h']

theorem not_missing_of_refers (h : Refers st behind span) (w : Warning) :
    ¬ Missing st behind span w := by
  intro hw
  cases hw with
  | footnote hid hdef =>
    rw [refers_of_footnoteId? hid, hdef] at h
    cases h
  | reference hid hpart hurl =>
    rw [refers_of_referencePart? hid hpart, hurl] at h
    cases h

theorem not_isNew_of_none (hid : span.footnoteId? = none) (id : Text) : ¬ IsNew st span id := by
  rintro ⟨hid', -⟩
  exact absurd (hid.symm.trans hid') (Option.some_ne_none id).symm

theorem adds_some {noted : Option Text} {reported : Option Warning}
    (hnoted : ∀ id, noted = some id ↔ IsNew st span id)
    (hreported : ∀ w, reported = some w ↔ Missing st (s.drop span.stop) span w) :
    Adds s st (some span) noted reported where
  noted_iff id := by simp [hnoted]
  reported_iff w := by simp [hreported]

/-- Nothing is added for a span that names no footnote and is no reference link to what is
missing. -/
theorem adds_of_refers (hid : span.footnoteId? = none) (h : Refers st (s.drop span.stop) span) :
    Adds s st (some span) none none :=
  adds_some (fun id => iff_of_false (Option.some_ne_none id).symm (not_isNew_of_none hid id))
    fun w => iff_of_false (Option.some_ne_none w).symm (not_missing_of_refers h w)

/-- For a span nothing is done to the state but the two additions, each where it is due. -/
theorem Outcome.adds (h : Outcome unescape (s.drop span.stop) span st a st') :
    ∃ noted reported, st' = st.adding noted.toList reported.toList ∧
      Adds s st (some span) noted reported := by
  have hrefers := h.warnings_iff
  cases h with
  | @footnote id hid hdef =>
    have hnone := not_missing_of_refers (hrefers.1 (warnings_register id st))
    have hsilent := fun w => iff_of_false (Option.some_ne_none w).symm (hnone w)
    by_cases hold : id ∈ st.found
    · refine ⟨none, none, RenderState.register_of_mem hold, adds_some (fun id' => ?_) hsilent⟩
      refine iff_of_false (Option.some_ne_none id').symm ?_
      rintro ⟨hid', -, hnew⟩
      exact hnew (Option.some.inj (hid.symm.trans hid') ▸ hold)
    · refine ⟨some id, none, RenderState.register_of_not_mem hold,
        adds_some (fun id' => ?_) hsilent⟩
      constructor
      · rintro ⟨⟩
        exact ⟨hid, hdef, hold⟩
      · rintro ⟨hid', -⟩
        exact hid.symm.trans hid'
  | @undefined id hid hdef =>
    refine ⟨none, some (.undefinedFootnote id), RenderState.warn_eq _ st,
      adds_some (fun id' => ?_) (reported_iff_of_missing (.footnote hid hdef))⟩
    refine iff_of_false (Option.some_ne_none id').symm ?_
    rintro ⟨hid', hdef', -⟩
    rw [← Option.some.inj (hid.symm.trans hid'), hdef] at hdef'
    cases hdef'
  | @unknown id rest hid hpart hurl =>
    have hmissing : st.urls.contains (referenceKey span id) = false := by
      rw [Dictionary.contains, hurl]
      rfl
    refine ⟨none, some (.linkIdNotFound (referenceKey span id)), RenderState.warn_eq _ st,
      adds_some (fun id' => ?_) (reported_iff_of_missing (.reference hid hpart hmissing))⟩
    exact iff_of_false (Option.some_ne_none id').symm (not_isNew_of_none hid id')
  | reference hid | inline hid | plain hid =>
    exact ⟨none, none, (RenderState.adding_nil st).symm, adds_of_refers hid (hrefers.1 rfl)⟩

end

/-- Resolving a bracket comes down to the span that the scan of its text gives. -/
theorem adds_resolve (unescape : Text → Text) (b : Brackets) (start : Nat) (st : RenderState) :
    ∃ noted reported,
      (resolve unescape b start st).2.2 = st.adding noted.toList reported.toList ∧
        Adds b.text st (b.span? start).1 noted reported := by
  cases h : (b.span? start).1 with
  | none =>
    rw [resolve_of_span?_eq_none h]
    exact ⟨none, none, (RenderState.adding_nil st).symm, adds_none b.text st⟩
  | some span => exact (outcome_resolve h).adds

/-- A run of calls leaves the state as it is but for what its calls add, each a footnote and a
warning at most. -/
theorem adds_run (calls : List Call) (st : RenderState) :
    ∃ noted reported, (run calls st).2 = st.adding noted reported ∧
      noted.length ≤ calls.length ∧ reported.length ≤ calls.length := by
  induction calls generalizing st with
  | nil => exact ⟨[], [], st.adding_nil.symm, Nat.le_refl 0, Nat.le_refl 0⟩
  | cons c cs ih =>
    obtain ⟨noted, reported, hstep, -⟩ := adds_resolve c.unescape c.brackets c.start st
    obtain ⟨noted', reported', hrun, hnoted, hreported⟩ := ih (c.resolve st).2
    have hstep' : (c.resolve st).2 = st.adding noted.toList reported.toList := hstep
    rw [hstep', RenderState.adding_adding] at hrun
    refine ⟨noted.toList ++ noted', reported.toList ++ reported', ?_, ?_, ?_⟩
    · rw [← hrun, ← hstep']
      rfl
    · have := Option.length_toList_le (o := noted)
      rw [List.length_append, List.length_cons]
      omega
    · have := Option.length_toList_le (o := reported)
      rw [List.length_append, List.length_cons]
      omega

/-- There is no span for a bracket that is never closed, nor at or behind the place at which the
search was given up. -/
theorem span?_after_eq_none {s : Text} {past : List Nat} {start : Nat}
    (h : closer? s start = none ∨ ∃ t, (after s past).haltedAt = some t ∧ t ≤ start) :
    ((after s past).span? start).1 = none := by
  rw [((Brackets.agrees_after s past).span? start).1]
  split
  · rfl
  · next hup =>
    rcases h with hclose | ⟨t, hhalted, hle⟩
    · rw [hclose, Option.map_none]
    · obtain ⟨hmem, hclose⟩ := (Brackets.agrees_after s past).halted t hhalted
      exact absurd ⟨t, hmem, hle, hclose⟩ hup

/-- Whatever was asked of the brackets of a text before, resolving one of them leaves the state as
it is but for two additions.  A footnote is registered exactly when the bracket is a reference to
it, it is defined and it was not registered before.  A warning is added exactly when what the
bracket refers to is missing; then a footnote reference has the label of missing footnotes, without
a target and an identifier, and a link is left alone.  A bracket without a span, or with one that is
neither a reference nor a link, is left alone and adds nothing. -/
theorem resolve_effects (unescape : Text → Text) (s : Text) (past : List Nat) (start : Nat)
    (st : RenderState) :
    let b := after s past
    let a := (resolve unescape b start st).1
    let st' := (resolve unescape b start st).2.2
    (∃ (noted : Option Text) (reported : Option Warning),
      st' = { st with
        found := st.found ++ noted.toList
        warnings := st.warnings ++ reported.toList } ∧
      (∀ id, noted = some id ↔ ∃ span ∈ (b.span? start).1, IsNew st span id) ∧
      ∀ w, reported = some w ↔ ∃ span ∈ (b.span? start).1, Missing st (s.drop span.stop) span w) ∧
    (∀ span ∈ (b.span? start).1, ∀ id, Missing st (s.drop span.stop) span (.undefinedFootnote id) →
      a = some ⟨span, span.stop, .footnote none (some "[?]".toList) none⟩) ∧
    (∀ span ∈ (b.span? start).1, ∀ key, Missing st (s.drop span.stop) span (.linkIdNotFound key) →
      a = none) ∧
    (closer? s start = none ∨ (∃ t, b.haltedAt = some t ∧ t ≤ start) → a = none ∧ st' = st) ∧
    ∀ span ∈ (b.span? start).1, IsPlain (s.drop span.stop) span → a = none ∧ st' = st := by
  intro b a st'
  have htext : b.text = s := (Brackets.agrees_after s past).text
  have houtcome : ∀ span ∈ (b.span? start).1, Outcome unescape (s.drop span.stop) span st a st' :=
    fun span hspan => htext ▸ outcome_resolve hspan
  refine ⟨?additions, ?undefined, ?unknown, ?unclosed, ?plain⟩
  case additions =>
    obtain ⟨noted, reported, hst', hadds⟩ := adds_resolve unescape b start st
    rw [htext] at hadds
    exact ⟨noted, reported, hst', hadds.noted_iff, hadds.reported_iff⟩
  case undefined =>
    rintro span hspan id (@⟨_, hid, hdef⟩)
    exact ((houtcome span hspan).unique (.undefined hid hdef)).1
  case unknown =>
    rintro span hspan key hmissing
    cases hmissing with
    | reference hid hpart hurl =>
      exact ((houtcome span hspan).unique
        (.unknown hid hpart (Option.not_isSome_iff_eq_none.1 (ne_true_of_eq_false hurl)))).1
  case unclosed =>
    intro hunclosed
    have hresolve : resolve unescape b start st = (none, (b.span? start).2, st) :=
      resolve_of_span?_eq_none (span?_after_eq_none hunclosed)
    exact ⟨congrArg (·.1) hresolve, congrArg (·.2.2) hresolve⟩
  case plain =>
    rintro span hspan ⟨hid, hpart, hinline⟩
    exact (houtcome span hspan).unique (.plain hid hpart hinline)

/-- A reference link with a key that is not known, and a bracket that is never closed, both after
other brackets of the same text were asked for. -/
theorem resolve_effects_unknown :
    let s := "[^a] [x][k] [p] [".toList
    let st : RenderState := { footnotes := .ofList [(['a'], [])] }
    let b := after s [0, 16]
    (b.span? 5).1 = some ⟨['x'], 5, 8⟩ ∧
      Missing st (s.drop 8) ⟨['x'], 5, 8⟩ (.linkIdNotFound ['k']) ∧
      (resolve id b 5 st).1 = none ∧
      (resolve id b 5 st).2.2 = { st with warnings := [.linkIdNotFound ['k']] } ∧
      closer? s 16 = none ∧ (resolve id b 16 st).2.2 = st := by
  intro s st b
  have hspan : (b.span? 5).1 = some ⟨['x'], 5, 8⟩ := by decide
  have hmissing : Missing st (s.drop 8) ⟨['x'], 5, 8⟩ (.linkIdNotFound ['k']) :=
    .reference rfl (show referencePart? (s.drop 8) = some (['k'], " [p] [".toList) by decide)
      (by decide)
  have hclose : closer? s 16 = none := by decide
  obtain ⟨⟨noted, reported, hst', hnoted, hreported⟩, -, hunknown, -⟩ :=
    resolve_effects id s [0, 16] 5 st
  obtain ⟨-, -, -, hunclosed, -⟩ := resolve_effects id s [0, 16] 16 st
  have hreport : reported = some (.linkIdNotFound ['k']) :=
    (hreported _).2 ⟨_, hspan, hmissing⟩
  have hnone : noted = none := by
    rw [Option.eq_none_iff_forall_ne_some]
    intro id hid
    obtain ⟨span, hspan', hnew⟩ := (hnoted id).1 hid
    obtain rfl := Option.some.inj (hspan.symm.trans hspan')
    exact not_isNew_of_none rfl id hnew
  rw [hreport, hnone] at hst'
  exact ⟨hspan, hmissing, hunknown _ hspan _ hmissing, hst', hclose, (hunclosed (.inl hclose)).2⟩

end Anchor

end WikiText
