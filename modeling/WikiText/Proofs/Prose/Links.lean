import WikiText.Proofs.Anchor.LeftToRight
import WikiText.Proofs.Markdown.Quiet
import WikiText.Proofs.Markdown.Settled
import WikiText.Proofs.Prose.Document

/-!
# Plain links are resolved

What becomes of a link of plain words: it is taken whole, or it refers to nothing that is known and
is left as it is (`outcome_of_plain`).  The element that it becomes needs nothing done to it
(`Neat`).
-/

namespace WikiText.Prose

open Anchor (Outcome)
open Html (Element)
open Markdown
open Text (IsLetter)

/-! ## What stands behind a link -/

/-- What may stand behind a link: nothing, or a space and a word. -/
def Bounded (s : Text) : Prop := s = [] ∨ ∃ c t, s = ' ' :: c :: t ∧ IsLetter c

theorem Bounded.referencePart? {s : Text} (h : Bounded s) : referencePart? s = none := by
  rcases h with rfl | ⟨c, t, rfl, hc⟩
  · rfl
  · have hgap : dropGap (' ' :: c :: t) = c :: t := by
      have hspace : Text.dropAtMost Text.isSpace 1 (' ' :: c :: t) = c :: t := rfl
      rw [dropGap, hspace]
      split
      · next heq => exact absurd (List.cons.inj heq).1 (hc.ne (by decide))
      · rfl
    rw [WikiText.referencePart?, hgap]
    split
    · next heq => exact absurd (List.cons.inj heq).1 (hc.ne (by decide))
    · rfl

theorem Bounded.inlinePart? {s : Text} (h : Bounded s) : inlinePart? s = none := by
  rcases h with rfl | ⟨c, t, rfl, -⟩ <;> rfl

/-! ## Texts -/

/-- A text without braces, and without the characters that markers are made of. -/
structure IsBare (s : Text) : Prop where
  brace : '\x7b' ∉ s
  opening : Stash.opening ∉ s

theorem IsBare.isSettled {s : Text} (h : IsBare s) : IsSettled s :=
  isSettled_of_not_mem h.brace h.opening

theorem IsBare.unmarked {s : Text} (h : IsBare s) : Node.Unmarked s :=
  Text.nowhere_of_not_mem Node.marker?_of_ne h.opening

theorem IsBare.append {s t : Text} (hs : IsBare s) (ht : IsBare t) : IsBare (s ++ t) where
  brace h := (List.mem_append.1 h).elim hs.brace ht.brace
  opening h := (List.mem_append.1 h).elim hs.opening ht.opening

theorem isBare_of_plain {w : Text} (h : Text.IsPlain w) : IsBare w :=
  ⟨h.not_mem (by decide), h.not_mem (by decide)⟩

/-! ## States -/

/-- What is known of reference links: where they lead, and no titles. -/
structure Ready (st : RenderState) : Prop where
  urls : ∀ k url, st.urls.get? k = some url → IsBare url
  titles : ∀ k, st.titles.get? k = none

/-- Between two states warnings were added, and what is defined stayed. -/
structure Reports (st st' : RenderState) (ws : List Warning) : Prop where
  urls : st'.urls = st.urls
  titles : st'.titles = st.titles
  footnotes : st'.footnotes = st.footnotes
  warnings : st'.warnings = st.warnings ++ ws

/-- What is to be reported of a link in a state. -/
def reported (st : RenderState) : Written → Option Warning
  | .footnote id => if st.footnotes.contains id then none else some (.undefinedFootnote id)
  | .reference _ _ id =>
    if st.urls.contains (Text.lower id) then none else some (.linkIdNotFound (Text.lower id))
  | .inline _ _ | .titled _ _ _ _ _ _ => none

section Reports

variable {st st' st'' : RenderState} {ws ws' : List Warning}

theorem Reports.refl (st : RenderState) : Reports st st [] :=
  ⟨rfl, rfl, rfl, (List.append_nil _).symm⟩

theorem Reports.trans (h : Reports st st' ws) (h' : Reports st' st'' ws') :
    Reports st st'' (ws ++ ws') where
  urls := h'.urls.trans h.urls
  titles := h'.titles.trans h.titles
  footnotes := h'.footnotes.trans h.footnotes
  warnings := by rw [h'.warnings, h.warnings, List.append_assoc]

theorem Reports.ready (h : Reports st st' ws) (hst : Ready st) : Ready st' where
  urls k url := by
    rw [h.urls]
    exact hst.urls k url
  titles k := by
    rw [h.titles]
    exact hst.titles k

theorem Reports.reported (h : Reports st st' ws) : reported st' = reported st := by
  funext l
  cases l with
  | footnote id => rw [Prose.reported, Prose.reported, h.footnotes]
  | reference t g id => rw [Prose.reported, Prose.reported, h.urls]
  | inline t u => rfl
  | titled t u n mark w m => rfl

theorem reports_warn (w : Warning) (st : RenderState) : Reports st (st.warn w) [w] :=
  ⟨rfl, rfl, rfl, rfl⟩

theorem reports_register (id : Text) (st : RenderState) : Reports st (st.register id) [] := by
  rw [RenderState.register]
  split
  · exact .refl st
  · exact ⟨rfl, rfl, rfl, (List.append_nil _).symm⟩

end Reports

/-! ## Elements -/

/-- An element that needs nothing done to it: what stands in it is not read again, no piece is to be
put in it, and it is written without a brace. -/
structure Neat (e : Element) : Prop where
  tail : e.tail = .empty
  settled : AllSettled e
  unmarked : Node.Unmarked e.data.text
  unmarkedBelow : ∀ c ∈ e.children, Node.Unmarked c.data.text ∧ Node.Unmarked c.tail.text
  still : ∀ c ∈ e.children, c.Every IsStill
  finished : ∀ ctx depth st,
    Rule.finish (Rule.applyTo ctx depth) false .anchor (Rule.all.drop 3) e st = (e, st)

theorem quiet_of_plain {w : Text} (h : Text.IsPlain w) : Quiet w := by
  intro c hc hmem
  have hnot : ∀ d ∈ triggers, ¬ IsLetter d := by decide
  exact hnot c hmem (h.letters c hc)

theorem allSettled_setIf {e : Element} (h : AllSettled e) {name : String}
    (hname : '\x7b' ∉ name.toList) {v : Option Text} (hv : ∀ s ∈ v, IsBare s) :
    AllSettled (Anchor.setIf name v e) := by
  cases v with
  | none => exact h
  | some s => exact h.set hname (hv s rfl).isSettled

theorem isBare_of_present {v : Option Text} (hv : ∀ s ∈ v, IsBare s) :
    ∀ s ∈ Anchor.present v, IsBare s :=
  fun s hs => hv s (Option.mem_filter_iff.1 hs).1

theorem neat_footnote {a : Anchor} {href label refId : Option Text}
    (h : a.target = .footnote href label refId) (hhref : ∀ s ∈ href, IsBare s)
    (hlabel : IsBare (label.getD [])) (hrefId : ∀ s ∈ refId, IsBare s) : Neat a.element := by
  have hlink : AllSettled (((Anchor.setIf "href" (Anchor.present href) (.ofTag "a")).set "rel"
      "footnote".toList).withData ⟨label.getD [], true⟩) :=
    ((allSettled_setIf (allSettled_ofTag (by decide) (by decide) (by decide)) (by decide)
      (isBare_of_present hhref)).set (by decide) (by decide)).withData hlabel.isSettled
  have hsettled : AllSettled a.element := by
    rw [Anchor.element, h]
    exact (allSettled_setIf (allSettled_ofTag (by decide) (by decide) (by decide)) (by decide)
      (isBare_of_present hrefId)).push hlink
  obtain ⟨attributes, link, helement, -, hdata, hchildren, htail⟩ :=
    Rule.children_element_footnote h
  have hfinished : ∀ ctx depth st, Rule.finish (Rule.applyTo ctx depth) false .anchor
      (Rule.all.drop 3) a.element st = (a.element, st) := fun ctx depth st =>
    congrFun (Rule.finish_footnote _ _ _ _ h) st
  rw [helement] at hsettled hfinished ⊢
  have hbelow : Node.Unmarked link.data.text ∧ Node.Unmarked link.tail.text := by
    rw [hdata, htail]
    exact ⟨hlabel.unmarked, trivial⟩
  have hstill : link.Every IsStill := by
    refine Element.every_iff.2 ⟨⟨.inl ?_, ?_⟩, ?_⟩
    · rw [hdata]
    · rw [htail]
      rfl
    · rw [hchildren]
      exact fun _ hc => absurd hc List.not_mem_nil
  exact ⟨rfl, hsettled, trivial, fun c hc => List.mem_singleton.1 hc ▸ hbelow,
    fun c hc => List.mem_singleton.1 hc ▸ hstill, hfinished⟩

theorem neat_link {a : Anchor} {id : Option Text} {url : Text}
    (h : a.target = .link id (some url) none) (hurl : IsBare url)
    (htext : Text.IsPlain a.span.text) : Neat a.element := by
  have helement : a.element =
      .mk "a".toList [("href".toList, url)] ⟨a.span.text, false⟩ [] .empty := by
    rw [Anchor.element, h]
    rfl
  have hsettled : AllSettled a.element := by
    rw [Anchor.element, h]
    exact ((allSettled_ofTag (by decide) (by decide) (by decide)).set (by decide)
      hurl.isSettled).withData (isBare_of_plain htext).isSettled
  rw [helement] at hsettled ⊢
  exact ⟨rfl, hsettled, (isBare_of_plain htext).unmarked, fun _ hc => absurd hc List.not_mem_nil,
    fun _ hc => absurd hc List.not_mem_nil, fun ctx depth st => Rule.finish_of_quiet ctx depth false
      .anchor _ _ (quiet_of_plain htext) (fun hmem => absurd hmem (by decide)) st⟩

/-! ## What becomes of a link -/

theorem footnoteId?_of_plain {w : Text} (h : Text.IsPlain w) (start stop : Nat) :
    (⟨w, start, stop⟩ : Span).footnoteId? = none := by
  rw [Span.footnoteId?]
  split
  · next heq => exact absurd (heq ▸ List.mem_cons_self) (h.not_mem (by decide))
  · rfl

theorem isDestination_of_plain {u : Text} (h : Text.IsPlain u) : IsDestination u := by
  cases u with
  | nil => exact absurd rfl h.ne_nil
  | cons c v =>
    have hne : ∀ d ∈ c :: v, ∀ e, ¬ IsLetter e → d ≠ e := fun d hd _ he => (h.letters d hd).ne he
    refine ⟨⟨?_, ?_, ?_⟩, fun d hd => ⟨?_, ?_, ?_⟩, fun d hd => ⟨?_, ?_⟩⟩
    all_goals try exact hne c List.mem_cons_self _ (by decide)
    · exact hne d (List.mem_cons_of_mem c hd) _ (by decide)
    · rintro (rfl | rfl)
      · exact hne _ (List.mem_cons_of_mem c hd) _ (by decide) rfl
      · exact hne _ (List.mem_cons_of_mem c hd) _ (by decide) rfl
    · exact hne d (List.mem_cons_of_mem c hd) _ (by decide)
    · exact hne d (List.mem_cons_of_mem c (List.mem_of_getLast? hd)) _ (by decide)
    · exact hne d (List.mem_cons_of_mem c (List.mem_of_getLast? hd)) _ (by decide)

theorem isBare_footnoteLabel (n : Nat) : IsBare (Anchor.footnoteLabel n) := by
  have hnot : ∀ c, Text.isAsciiDigit c = false → c ≠ '[' → c ≠ ']' →
      c ∉ Anchor.footnoteLabel n := by
    intro c hdigit hopen hclose hmem
    rcases List.mem_cons.1 hmem with hmem | hmem
    · exact hopen hmem
    rcases List.mem_append.1 hmem with hmem | hmem
    · exact Text.not_mem_ofNat hdigit n hmem
    · exact hclose (List.mem_singleton.1 hmem)
  exact ⟨hnot _ (by decide) (by decide) (by decide), hnot _ (by decide) (by decide) (by decide)⟩

theorem neat_of_footnoteTarget {a : Anchor} {id : Text} {st : RenderState}
    (h : a.target = Anchor.footnoteTarget id st) (hid : Text.IsPlain id) : Neat a.element := by
  refine neat_footnote h ?_ (isBare_footnoteLabel _) ?_
  · rintro _ ⟨⟩
    exact IsBare.append (s := "#footnote:".toList) ⟨by decide, by decide⟩ (isBare_of_plain hid)
  · intro s hs
    split at hs
    · cases hs
    · cases hs
      exact IsBare.append (s := "footnote-ref:".toList) ⟨by decide, by decide⟩ (isBare_of_plain hid)

section Outcome

variable {st : RenderState} {unescape : Text → Text} {suf t id u : Text} (start : Nat)

/-- A link is taken whole: it becomes an element that needs nothing done to it, and what is to be
reported of it is reported. -/
def IsTaken (unescape : Text → Text) (st : RenderState) (suf : Text) (start : Nat) (l : Written) :
    Prop :=
  ∃ a st', Outcome unescape (l.secondPart ++ suf) (l.span start) st (some a) st' ∧
    a.stop = start + l.markup.length ∧ Neat a.element ∧ Reports st st' (reported st l).toList

/-- A footnote is taken whether it is defined or not. -/
theorem isTaken_footnote (hid : Text.IsPlain id) :
    IsTaken unescape st suf start (.footnote id) := by
  have hspan : (Written.span start (.footnote id)).footnoteId? = some id := by
    obtain ⟨c, v, rfl⟩ := List.exists_cons_of_ne_nil hid.ne_nil
    rfl
  have hlength : start + id.length + 3 = start + (Written.markup (.footnote id)).length := by
    simp only [Written.markup, Written.text, Written.secondPart, List.length_append,
      List.length_cons, List.length_nil]
    omega
  cases hdef : st.footnotes.contains id with
  | true =>
    refine ⟨_, _, .footnote hspan hdef, hlength, neat_of_footnoteTarget rfl hid, ?_⟩
    rw [reported, if_pos hdef]
    exact reports_register id st
  | false =>
    have hneat : Neat (Anchor.element ⟨Written.span start (.footnote id),
        (Written.span start (.footnote id)).stop,
        .footnote none (some Anchor.missingLabel) none⟩) :=
      neat_footnote rfl (by rintro _ ⟨⟩) ⟨by decide, by decide⟩ (by rintro _ ⟨⟩)
    refine ⟨_, _, .undefined hspan hdef, hlength, hneat, ?_⟩
    rw [reported, hdef]
    exact reports_warn _ st

theorem referencePart?_of_plain (hid : Text.IsPlain id) :
    referencePart? (Written.secondPart (.reference t [] id) ++ suf) = some (id, suf) :=
  referencePart?_eq_some_iff.2 ⟨[], by decide, by simp [Written.secondPart],
    hid.not_mem (by decide), hid.not_mem (by decide)⟩

theorem referenceKey_of_plain (hid : Text.IsPlain id) :
    Anchor.referenceKey (Written.span start (.reference t [] id)) id = Text.lower id := by
  rw [Anchor.referenceKey, if_neg (by simpa using hid.ne_nil)]

/-- A reference link is taken if its id is known. -/
theorem isTaken_reference (ht : Text.IsPlain t) (hid : Text.IsPlain id) (hst : Ready st)
    {url : Text} (hurl : st.urls.get? (Text.lower id) = some url) :
    IsTaken unescape st suf start (.reference t [] id) := by
  have hkey := referenceKey_of_plain (t := t) start hid
  have hpart : referencePart? (Written.secondPart (.reference t [] id) ++ suf) = some (id, suf) :=
    referencePart?_of_plain hid
  have hresolved : Outcome unescape _ (Written.span start (.reference t [] id)) st _ _ :=
    .reference (footnoteId?_of_plain ht _ _) hpart (hkey ▸ hurl)
  rw [hkey, hst.titles, Written.stopBefore_span] at hresolved
  refine ⟨_, _, hresolved, rfl, neat_link rfl (hst.urls _ _ hurl) ht, ?_⟩
  have hknown : st.urls.contains (Text.lower id) = true := Option.isSome_iff_exists.2 ⟨url, hurl⟩
  rw [reported, if_pos hknown]
  exact .refl st

/-- A reference link whose id is not known is reported, and left as it is. -/
theorem outcome_of_unknown (ht : Text.IsPlain t) (hid : Text.IsPlain id)
    (hurl : st.urls.get? (Text.lower id) = none) :
    Outcome unescape (Written.secondPart (.reference t [] id) ++ suf)
      (Written.span start (.reference t [] id)) st none
      (st.warn (.linkIdNotFound (Text.lower id))) := by
  have hkey := referenceKey_of_plain (t := t) start hid
  have hpart : referencePart? (Written.secondPart (.reference t [] id) ++ suf) = some (id, suf) :=
    referencePart?_of_plain hid
  have hunknown : Outcome unescape _ (Written.span start (.reference t [] id)) st _ _ :=
    .unknown (footnoteId?_of_plain ht _ _) hpart (hkey ▸ hurl)
  rwa [hkey] at hunknown

theorem isTaken_inline (ht : Text.IsPlain t) (hu : Text.IsPlain u) (hunescape : unescape u = u) :
    IsTaken unescape st suf start (.inline t u) := by
  have hpart : inlinePart? (Written.secondPart (.inline t u) ++ suf) = some ⟨u, none, suf⟩ := by
    simpa [Written.secondPart] using isDestination_iff.1 (isDestination_of_plain hu) suf
  have hhash : u ≠ ['#'] := fun h => hu.not_mem (d := '#') (by decide) (h ▸ List.mem_cons_self)
  have htarget : (Anchor.inlineAnchor unescape (Written.span start (.inline t u)) ⟨u, none, suf⟩
      (Anchor.stopBefore (Written.span start (.inline t u))
        (Written.secondPart (.inline t u) ++ suf) suf)).target = .link none (some u) none := by
    rw [Anchor.inlineAnchor]
    dsimp only
    rw [hunescape, if_neg hhash]
    rfl
  exact ⟨_, _, .inline (footnoteId?_of_plain ht _ _) rfl hpart, Written.stopBefore_span start _ suf,
    neat_link htarget (isBare_of_plain hu) ht, .refl st⟩

/-- A link of plain words is taken whole, or it is a reference link whose id is not known. -/
theorem outcome_of_plain {l : Written} (hl : l.IsPlain) (suf : Text) (hst : Ready st)
    (hunescape : ∀ w, Text.IsPlain w → unescape w = w) (start : Nat) :
    IsTaken unescape st suf start l ∨
      ∃ t id, l = .reference t [] id ∧ Outcome unescape (l.secondPart ++ suf) (l.span start) st none
        (st.warn (.linkIdNotFound (Text.lower id))) ∧
        reported st l = some (.linkIdNotFound (Text.lower id)) := by
  cases l with
  | footnote id => exact .inl (isTaken_footnote start hl)
  | reference t g id =>
    obtain ⟨ht, rfl, hid⟩ := hl
    cases hurl : st.urls.get? (Text.lower id) with
    | some url => exact .inl (isTaken_reference start ht hid hst hurl)
    | none =>
      refine .inr ⟨t, id, rfl, outcome_of_unknown start ht hid hurl, ?_⟩
      rw [reported, if_neg (by rw [Dictionary.contains, hurl]; exact Bool.false_ne_true)]
  | inline t u => exact .inl (isTaken_inline start hl.1 hl.2 (hunescape u hl.2))
  | titled t u n mark w m => exact absurd hl not_false

end Outcome

end WikiText.Prose
