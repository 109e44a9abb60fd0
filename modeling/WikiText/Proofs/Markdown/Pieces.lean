import WikiText.Markdown.Inline.Rule
import WikiText.Proofs.Anchor.Numbering
import WikiText.Proofs.Yields

/-!
# What rules put aside

While the text of a document is read, footnotes are registered, and the references to them are among
the pieces that are put aside.  Whatever rule is at work, each reference that it adds has the number
of its footnote: see `yields_applyAll`.
-/

namespace WikiText.Markdown

open Html

/-! ## References to footnotes -/

/-- The element refers to a footnote by a number. -/
def IsReference (id : Text) (n : Nat) (e : Element) : Prop :=
  e.hasTag "sup" = true ∧ ∃ link, e.children = [link] ∧
    link.attribute? "href" = some ('#' :: Anchor.footnoteElementId id) ∧
    link.data.text = Anchor.footnoteLabel n

/-- If the element refers to a footnote, it does so by the place of the footnote, counted from
one. -/
def Numbered (found : List Text) (e : Element) : Prop :=
  ∀ id n, IsReference id n e → ∃ i, n = i + 1 ∧ found[i]? = some id

theorem Numbered.mono {found found' : List Text} {e : Element} (h : Numbered found e)
    (hfound : found <+: found') : Numbered found' e := by
  intro id n href
  obtain ⟨i, rfl, hi⟩ := h id n href
  obtain ⟨more, rfl⟩ := hfound
  have hlt := (List.getElem?_eq_some_iff.1 hi).1
  exact ⟨i, rfl, by rw [List.getElem?_append_left hlt, hi]⟩

theorem numbered_of_tag {found : List Text} {e : Element} (h : e.hasTag "sup" = false) :
    Numbered found e := fun _ _ href => absurd href.1 (by rw [h]; exact Bool.false_ne_true)

/-! ## States -/

/-- Footnotes are registered as numbers are given, and each reference put aside is numbered. -/
structure InlineState.Grows (st st' : InlineState) : Prop where
  render : Anchor.Grows st.render st'.render
  pieces : ∀ e, .element e ∈ st'.nodes → .element e ∈ st.nodes ∨ Numbered st'.render.found e

namespace InlineState

theorem Grows.of_eq {st st' : InlineState} (hrender : st'.render = st.render)
    (hnodes : st'.nodes = st.nodes) : Grows st st' where
  render := hrender ▸ .refl _
  pieces _ h := .inl (hnodes ▸ h)

instance : Std.Refl Grows := ⟨fun _ => .of_eq rfl rfl⟩

instance : IsTrans InlineState Grows where
  trans _ _ _ h h' := {
    render := h.render.trans h'.render
    pieces := fun e he => by
      rcases h'.pieces e he with he | he
      · exact (h.pieces e he).imp_right fun he => he.mono h'.render.found
      · exact .inr he }

end InlineState

open InlineState (Grows)

theorem grows_putAside (n : Node) {st : InlineState}
    (hn : ∀ e, n = .element e → Numbered st.render.found e) : Grows st (Node.putAside n st).2 where
  render := .refl _
  pieces e he := by
    rcases Array.mem_push.1 he with he | he
    · exact .inl he
    · exact .inr (hn e he.symm)

/-! ## What the rules but that of anchors find -/

/-- What was found is not raised, so it is no reference to a footnote. -/
def Hit.Level (h : Hit) : Prop := ∀ e rest, h = .piece (.element e) rest → e.hasTag "sup" = false

theorem level_miss : Hit.miss.Level := by rintro _ _ ⟨⟩

theorem level_pass (rest : Text) : (Hit.pass rest).Level := by rintro _ _ ⟨⟩

theorem level_text (s rest : Text) : (Hit.piece (.text s) rest).Level := by rintro _ _ ⟨⟩

theorem level_element {e : Element} (h : e.hasTag "sup" = false) (rest : Text) :
    (Hit.piece (.element e) rest).Level := by
  rintro _ _ ⟨⟩
  exact h

theorem level_codeHit (before : Option Char) (s : Text) : (codeHit before s).Level := by
  unfold codeHit
  split
  · exact level_miss
  split
  · split
    · split
      · exact level_element rfl _
      · exact level_miss
    · dsimp only
      split
      · split
        · exact level_text _ _
        · exact level_miss
      · exact level_miss
  · exact level_miss

theorem level_escapeHit (ctx : InlineContext) (before : Option Char) (s : Text) :
    (escapeHit ctx before s).Level := by
  unfold escapeHit
  repeat' split
  all_goals first
    | exact level_miss
    | exact level_text _ _
    | exact level_pass _

theorem level_image (src : Text) (title : Option Text) (alt rest : Text) :
    (Hit.piece (image src title alt) rest).Level := by
  rintro e r he
  unfold image at he
  cases title <;> cases he <;> rfl

theorem level_imageHit (nodes : Array Node) (before : Option Char) (s : Text) :
    (imageHit nodes before s).Level := by
  unfold imageHit
  repeat' split
  all_goals first
    | exact level_miss
    | exact level_image _ _ _ _

theorem level_referenceImage (ctx : InlineContext) (nodes : Array Node) (text id rest : Text) :
    (referenceImage ctx nodes text id rest).Level := by
  unfold referenceImage
  split
  · exact level_image _ _ _ _
  · exact level_pass _

theorem level_imageReferenceHit (ctx : InlineContext) (nodes : Array Node) (before : Option Char)
    (s : Text) : (imageReferenceHit ctx nodes before s).Level := by
  unfold imageReferenceHit
  dsimp only
  repeat' split
  all_goals first
    | exact level_miss
    | exact level_referenceImage _ _ _ _ _

theorem level_shortImageReferenceHit (ctx : InlineContext) (nodes : Array Node)
    (before : Option Char) (s : Text) : (shortImageReferenceHit ctx nodes before s).Level := by
  unfold shortImageReferenceHit
  split
  · exact level_miss
  · exact level_referenceImage _ _ _ _ _

theorem level_urlHit (nodes : Array Node) (before : Option Char) (s : Text) :
    (urlHit nodes before s).Level := by
  unfold urlHit
  repeat' split
  all_goals first
    | exact level_miss
    | exact level_element rfl _

theorem level_mailHit (nodes : Array Node) (before : Option Char) (s : Text) :
    (mailHit nodes before s).Level := by
  unfold mailHit
  repeat' split
  all_goals first
    | exact level_miss
    | exact level_element rfl _

theorem level_lineBreakHit (before : Option Char) (s : Text) : (lineBreakHit before s).Level := by
  unfold lineBreakHit
  split
  · exact level_element rfl _
  · exact level_miss

theorem level_looseMarksHit (before : Option Char) (s : Text) : (looseMarksHit before s).Level := by
  unfold looseMarksHit
  dsimp only
  repeat' split
  all_goals first
    | exact level_miss
    | exact level_text _ _

namespace Emphasis

/-- The tag around all of an emphasis. -/
def outer : Emphasis → String
  | .single tag _ _ => tag
  | .innerFirst outer _ _ _ _ => outer
  | .innerLast outer _ _ _ _ => outer

/-- The tags of emphasis. -/
def Known (e : Emphasis) : Prop := e.outer = "em" ∨ e.outer = "strong"

theorem known_bind {α : Type} {x : Option α} {f : α → Option Emphasis}
    (h : ∀ a, ∀ e ∈ f a, e.Known) : ∀ e ∈ x.bind f, e.Known := by
  intro e he
  obtain ⟨a, -, he⟩ := Option.bind_eq_some_iff.1 he
  exact h a e he

theorem known_some {e : Emphasis} (h : e.Known) : ∀ e' ∈ some e, e'.Known := by
  rintro _ ⟨⟩
  exact h

/-- Where a condition may stop the reading. -/
theorem known_guard {c : Prop} [Decidable c] {f : PUnit → Option Emphasis}
    (h : ∀ u, ∀ e ∈ f u, e.Known) : ∀ e ∈ if c then none >>= f else f ⟨⟩, e.Known := by
  split
  · exact known_bind h
  · exact h _

theorem known_strongThenMore (m : Char) (s : Text) : ∀ e ∈ strongThenMore? m s, e.Known :=
  known_bind fun _ => known_bind fun _ => known_bind fun _ => known_some (.inr rfl)

theorem known_emThenMore (m : Char) (s : Text) : ∀ e ∈ emThenMore? m s, e.Known :=
  known_bind fun _ => known_bind fun _ => known_bind fun _ => known_some (.inl rfl)

theorem known_starStrongEm (s : Text) : ∀ e ∈ starStrongEm? s, e.Known :=
  known_bind fun _ => known_guard fun _ => known_guard fun _ => known_bind fun _ =>
    known_guard fun _ => known_bind fun _ => known_some (.inr rfl)

theorem known_starStrong (s : Text) : ∀ e ∈ starStrong? s, e.Known :=
  known_bind fun _ => known_bind fun _ => known_some (.inr rfl)

theorem known_starEm (s : Text) : ∀ e ∈ starEm? s, e.Known :=
  known_bind fun _ => known_guard fun _ => known_bind fun _ => known_some (.inl rfl)

theorem known_lineStrongEm (before : Option Char) (s : Text) :
    ∀ e ∈ lineStrongEm? before s, e.Known := by
  unfold lineStrongEm?
  exact known_guard fun _ => known_bind fun _ => known_guard fun _ => known_bind fun _ =>
    known_bind fun _ => known_some (.inr rfl)

theorem known_lineBetween (n : Nat) {tag : String} (htag : tag = "em" ∨ tag = "strong")
    (before : Option Char) (s : Text) : ∀ e ∈ lineBetween? n tag before s, e.Known := by
  unfold lineBetween?
  exact known_guard fun _ => known_bind fun _ => known_guard fun _ => known_bind fun _ =>
    known_some htag

theorem known_read (mark : EmphasisMark) (form : Nat) (before : Option Char) (s : Text) :
    ∀ e ∈ read? mark form before s, e.Known := by
  unfold read?
  split
  · exact known_strongThenMore _ s
  · exact known_emThenMore _ s
  · exact known_starStrongEm s
  · exact known_lineStrongEm before s
  · exact known_starStrong s
  · exact known_lineBetween 2 (.inr rfl) before s
  · exact known_starEm s
  · exact known_lineBetween 1 (.inl rfl) before s
  · rintro _ ⟨⟩

theorem tag_elementWith (content : Nat → Text → Content) (form : Nat) (e : Emphasis) :
    (elementWith content form e).tag = e.outer.toList := by
  cases e <;> rfl

end Emphasis

theorem level_emphasisHit (mark : EmphasisMark) (before : Option Char) (s : Text) :
    (emphasisHit mark before s).Level := by
  unfold emphasisHit
  split
  · split
    · next e rest he =>
      refine level_element ?_ rest
      rw [Emphasis.element?] at he
      obtain ⟨form, -, he⟩ := List.exists_of_findSome?_eq_some he
      simp only [Option.map_eq_some_iff, Prod.mk.injEq] at he
      obtain ⟨e, hread, rfl, -⟩ := he
      rw [Element.hasTag, Emphasis.tag_elementWith]
      rcases Emphasis.known_read mark form before s e hread with h | h <;> rw [h] <;> decide
    · exact level_miss
  · exact level_miss

namespace Rule

theorem rawHit_keeps (read? : Text → Option (Text × Text)) (s : Text) (st : InlineState) :
    (rawHit read? s st).2.render = st.render ∧ (rawHit read? s st).2.nodes = st.nodes := by
  rw [rawHit]
  split <;> exact ⟨rfl, rfl⟩

/-- What is found by other rules than that of anchors changes nothing but the raw markup put
aside. -/
theorem hit_keeps (ctx : InlineContext) (before : Option Char) (s : Text) (r : Rule)
    (st : InlineState) :
    (r.hit ctx before s st).2.render = st.render ∧ (r.hit ctx before s st).2.nodes = st.nodes := by
  cases r with
  | markup => exact rawHit_keeps markup? s st
  | reference => exact rawHit_keeps reference? s st
  | _ => exact ⟨rfl, rfl⟩

theorem level_rawHit (read? : Text → Option (Text × Text)) (s : Text) (st : InlineState) :
    (rawHit read? s st).1.Level := by
  rw [rawHit]
  split
  · exact level_text _ _
  · exact level_miss

theorem level_hit (ctx : InlineContext) (before : Option Char) (s : Text) (r : Rule)
    (st : InlineState) : (r.hit ctx before s st).1.Level := by
  cases r with
  | code => exact level_codeHit before s
  | escape => exact level_escapeHit ctx before s
  | anchor => exact level_miss
  | image => exact level_imageHit st.nodes before s
  | imageReference => exact level_imageReferenceHit ctx st.nodes before s
  | shortImageReference => exact level_shortImageReferenceHit ctx st.nodes before s
  | url => exact level_urlHit st.nodes before s
  | mail => exact level_mailHit st.nodes before s
  | lineBreak => exact level_lineBreakHit before s
  | markup => exact level_rawHit markup? s st
  | reference => exact level_rawHit reference? s st
  | looseMarks => exact level_looseMarksHit before s
  | emphasis mark => exact level_emphasisHit mark before s

/-! ## Anchors -/

/-- What was found is a reference to a footnote with final data, and it is numbered; or it is not
raised. -/
def Sound (found : List Text) (h : Hit) : Prop :=
  ∀ e rest, h = .piece (.element e) rest → e.hasTag "sup" = false ∨
    Numbered found e ∧ ∃ a href label refId,
      e = Anchor.element a ∧ a.target = .footnote href label refId

theorem Sound.of_level {h : Hit} (hh : h.Level) (found : List Text) : Sound found h :=
  fun e rest he => .inl (hh e rest he)

theorem hasTag_element_link {a : Anchor} {id href title : Option Text}
    (h : a.target = .link id href title) : a.element.hasTag "sup" = false := by
  rw [Anchor.element, h]
  cases title <;> rfl

theorem children_element_footnote {a : Anchor} {href label refId : Option Text}
    (h : a.target = .footnote href label refId) : ∃ attributes link,
      a.element = .mk "sup".toList attributes .empty [link] .empty ∧
        link.attribute? "href" = Anchor.present href ∧ link.data = ⟨label.getD [], true⟩ ∧
        link.children = [] ∧ link.tail = .empty := by
  rw [Anchor.element, h]
  dsimp only
  refine ⟨(Anchor.setIf "id" (Anchor.present refId) (.ofTag "sup")).attributes,
    (((Anchor.setIf "href" (Anchor.present href) (.ofTag "a")).set "rel"
      "footnote".toList).withData ⟨label.getD [], true⟩), ?_, ?_, ?_, ?_, ?_⟩
  · cases Anchor.present refId <;> rfl
  · cases Anchor.present href <;> rfl
  · cases Anchor.present href <;> rfl
  · cases Anchor.present href <;> rfl
  · cases Anchor.present href <;> rfl

/-- A reference has the number that its footnote is registered under. -/
theorem numbered_element {a : Anchor} {st st' : RenderState} {unescape : Text → Text}
    {behind : Text} {span : Span} (h : Anchor.Outcome unescape behind span st (some a) st') :
    Numbered st'.found a.element := by
  cases h with
  | @footnote id _ _ =>
    intro id' n href
    obtain ⟨attributes, link, helement, hlink, hdata, -⟩ :=
      children_element_footnote (a := ⟨span, span.stop, Anchor.footnoteTarget id st⟩) rfl
    obtain ⟨-, link', hchildren, hhref, hlabel⟩ := href
    rw [helement] at hchildren
    obtain rfl : link = link' := (List.cons.inj hchildren).1
    obtain rfl : id = id' := by
      have hid : some ('#' :: Anchor.footnoteElementId id) =
          some ('#' :: Anchor.footnoteElementId id') := hlink.symm.trans hhref
      exact List.append_cancel_left (List.cons.inj (Option.some.inj hid)).2
    rw [hdata] at hlabel
    exact ⟨_, (Anchor.footnoteLabel_inj hlabel).symm,
      List.getElem?_idxOf (RenderState.mem_found_register.2 (.inl rfl))⟩
  | @undefined id _ _ =>
    rintro id' n ⟨-, link', hchildren, hhref, -⟩
    obtain ⟨attributes, link, helement, hlink, -, -⟩ := children_element_footnote
      (a := ⟨span, span.stop, .footnote none (some Anchor.missingLabel) none⟩) rfl
    rw [helement] at hchildren
    obtain rfl : link = link' := (List.cons.inj hchildren).1
    exact absurd (hlink.symm.trans hhref) (Option.some_ne_none _).symm
  | reference => exact numbered_of_tag (hasTag_element_link rfl)
  | inline => exact numbered_of_tag (hasTag_element_link rfl)

theorem numbered_of_resolve {unescape : Text → Text} {b b' : Brackets} {start : Nat}
    {st st' : RenderState} {a : Anchor}
    (h : Anchor.resolve unescape b start st = (some a, b', st')) :
    Numbered st'.found a.element := by
  cases hspan : (b.span? start).1 with
  | none =>
    rw [Anchor.resolve_of_span?_eq_none hspan] at h
    exact absurd (congrArg Prod.fst h) (Option.some_ne_none a).symm
  | some span =>
    have hends : Anchor.Outcome unescape (b.text.drop span.stop) span st
        (Anchor.resolve unescape b start st).1 (Anchor.resolve unescape b start st).2.2 :=
      Anchor.outcome_resolve hspan
    rw [h] at hends
    exact numbered_element hends

theorem sound_element {a : Anchor} {found : List Text} (h : Numbered found a.element)
    (rest : Text) : Sound found (.piece (.element a.element) rest) := by
  rintro _ _ ⟨⟩
  cases ha : a.target with
  | footnote href label refId => exact .inr ⟨h, a, href, label, refId, rfl, ha⟩
  | link id href title => exact .inl (hasTag_element_link ha)

theorem grows_anchorHit (b : Brackets) (before : Option Char) (s : Text) (st : InlineState) :
    Grows st (anchorHit b before s st).2 ∧
      Sound (anchorHit b before s st).2.render.found (anchorHit b before s st).1.1 := by
  rw [anchorHit]
  split
  · have hgrows := (Anchor.Call.noted
      ⟨Node.restoreText st.nodes, b, b.text.length - s.length⟩ st.render).grows
    rw [Anchor.Call.resolve] at hgrows
    rcases hresolve : Anchor.resolve (Node.restoreText st.nodes) b (b.text.length - s.length)
      st.render with ⟨_ | a, b', render⟩
    · rw [hresolve] at hgrows
      exact ⟨⟨hgrows, fun _ he => .inl he⟩, .of_level level_miss _⟩
    · rw [hresolve] at hgrows
      exact ⟨⟨hgrows, fun _ he => .inl he⟩, sound_element (numbered_of_resolve hresolve) _⟩
  · exact ⟨refl_of Grows st, .of_level level_miss _⟩

theorem grows_find (ctx : InlineContext) (r : Rule) (b : Brackets) (before : Option Char) (s : Text)
    (st : InlineState) :
    Grows st (r.find ctx b before s st).2 ∧
      Sound (r.find ctx b before s st).2.render.found (r.find ctx b before s st).1.1 := by
  rw [find]
  split
  · exact grows_anchorHit b before s st
  · obtain ⟨hrender, hnodes⟩ := hit_keeps ctx before s r st
    exact ⟨.of_eq hrender hnodes, .of_level (level_hit ctx before s r st) _⟩

/-! ## What stands inside a piece -/

section Finish

variable {R : InlineState → InlineState → Prop} [Std.Refl R] [IsTrans InlineState R] {read : Reader}
  (hread : ∀ inLink rules s, Yields R (fun _ => True) (read inLink rules s))
include hread

theorem yields_finishData (inLink : Bool) (rules : List Rule) (d : Data) :
    Yields R (fun _ => True) (finishData (read inLink rules) d) := by
  rw [finishData]
  split
  · exact .pure trivial
  · exact (hread _ _ _).bind fun _ _ => .pure trivial

theorem yields_finishInside (inLink : Bool) (later : List Rule) (e : Element) :
    Yields R (fun e' => e'.tag = e.tag) (finishInside read inLink later e) :=
  (yields_finishData hread _ _ _).bind fun _ _ => .pure (by cases e; rfl)

theorem yields_finish (inLink : Bool) (r : Rule) (later : List Rule) (e : Element) :
    Yields R (fun e' => e'.tag = e.tag) (finish read inLink r later e) := by
  rw [finish]
  split
  · exact .pure rfl
  · refine (yields_finishInside hread inLink later e).bind fun e' he' => ?_
    have hchild : ∀ child ∈ e'.children, Yields R (fun _ => True) (do
        let child ← finishInside read inLink later child
        return child.withTail (← finishData (read inLink (r :: later)) child.tail)) :=
      fun child _ => (yields_finishInside hread inLink later child).bind fun _ _ =>
        (yields_finishData hread _ _ _).bind fun _ _ => .pure trivial
    refine (Yields.mapM (S := fun _ _ => True) hchild).bind fun children _ => .pure ?_
    rw [← he']
    cases e'
    rfl

end Finish

/-- A reference is finished as it is. -/
theorem finish_footnote (read : Reader) (inLink : Bool) (r : Rule) (later : List Rule) {a : Anchor}
    {href label refId : Option Text} (h : a.target = .footnote href label refId) :
    finish read inLink r later a.element = pure a.element := by
  obtain ⟨attributes, link, helement, -, hdata, -, htail⟩ := children_element_footnote h
  rw [helement]
  cases link with
  | mk tag attributes data children tail =>
    obtain rfl : data = ⟨label.getD [], true⟩ := hdata
    obtain rfl : tail = .empty := htail
    rfl

theorem grows_finish {read : Reader}
    (hread : ∀ inLink rules s, Yields Grows (fun _ => True) (read inLink rules s))
    (inLink : Bool) (r : Rule) (later : List Rule) {e : Element} {rest : Text} {st : InlineState}
    (h : Sound st.render.found (.piece (.element e) rest)) :
    Grows st (finish read inLink r later e st).2 ∧
      Numbered (finish read inLink r later e st).2.render.found
        (finish read inLink r later e st).1 := by
  rcases h e rest rfl with htag | ⟨hnumbered, a, href, label, refId, rfl, ha⟩
  · obtain ⟨hgrows, he⟩ := yields_finish hread inLink r later e st
    refine ⟨hgrows, numbered_of_tag ?_⟩
    rwa [Element.hasTag, he]
  · rw [finish_footnote read inLink r later ha]
    exact ⟨refl_of Grows st, hnumbered⟩

/-! ## All rules -/

theorem bind_apply {α β : Type} (m : InlineM α) (f : α → InlineM β) (st : InlineState) :
    (m >>= f) st = f (m st).1 (m st).2 := rfl

theorem yields_passFrom (ctx : InlineContext) {read : Reader}
    (hread : ∀ inLink rules s, Yields Grows (fun _ => True) (read inLink rules s))
    (inLink : Bool) (r : Rule) (later : List Rule) (fuel : Nat) (b : Brackets)
    (before : Option Char) (s : Text) :
    Yields Grows (fun _ => True) (passFrom ctx (finish read inLink r later) r fuel b before s) := by
  induction fuel generalizing b before s with
  | zero => exact .pure trivial
  | succ fuel ih =>
    cases s with
    | nil => exact .pure trivial
    | cons c s =>
      intro st
      refine ⟨?_, trivial⟩
      obtain ⟨hgrows, hsound⟩ := grows_find ctx r b before (c :: s) st
      rw [passFrom, bind_apply]
      refine trans_of Grows hgrows ?_
      generalize r.find ctx b before (c :: s) st = found at hsound
      obtain ⟨⟨hit, b'⟩, st'⟩ := found
      have hgoOn : ∀ (b : Brackets) (before : Option Char) (s : Text) (f : Text → Text),
          Yields Grows (fun _ => True)
            (do return f (← passFrom ctx (finish read inLink r later) r fuel b before s)) :=
        fun b before s f => (ih b before s).bind fun _ _ => .pure trivial
      cases hit with
      | miss => exact (hgoOn b' (some c) s (c :: ·) st').1
      | pass rest => exact (hgoOn b' _ rest _ st').1
      | piece n rest =>
        cases n with
        | text t =>
          exact trans_of Grows (grows_putAside (.text t) (by rintro _ ⟨⟩))
            (hgoOn (.ofText rest) (some Stash.closing) rest _ _).1
        | element e =>
          obtain ⟨hfinish, hnumbered⟩ := grows_finish hread inLink r later hsound
          have hput := grows_putAside (.element (finish read inLink r later e st').1)
            (by rintro _ ⟨⟩; exact hnumbered)
          exact trans_of Grows hfinish (trans_of Grows hput
            (hgoOn (.ofText rest) (some Stash.closing) rest _ _).1)

section Rules

variable {R : InlineState → InlineState → Prop} [Std.Refl R] [IsTrans InlineState R]
  {ctx : InlineContext}

theorem yields_applyWith {read : Reader}
    (hpass : ∀ inLink r later s,
      Yields R (fun _ => True) (pass ctx (finish read inLink r later) r s))
    (inLink : Bool) (rules : List Rule) (s : Text) :
    Yields R (fun _ => True) (applyWith ctx read inLink rules s) := by
  induction rules generalizing s with
  | nil => exact .pure trivial
  | cons r later ih =>
    rw [applyWith]
    dsimp only
    split
    · exact ih s
    · exact (hpass inLink r later s).bind fun s _ => ih s

/-- What rules keep in one pass, they keep when they are applied to a text and to what stands inside
its pieces. -/
theorem yields_applyTo
    (hpass : ∀ read : Reader, (∀ inLink rules s, Yields R (fun _ => True) (read inLink rules s)) →
      ∀ inLink r later s, Yields R (fun _ => True) (pass ctx (finish read inLink r later) r s))
    (depth : Nat) (inLink : Bool) (rules : List Rule) (s : Text) :
    Yields R (fun _ => True) (applyTo ctx depth inLink rules s) := by
  induction depth generalizing inLink rules s with
  | zero => exact .pure trivial
  | succ depth ih => exact yields_applyWith (hpass _ ih) inLink rules s

end Rules

/-- Rules register footnotes as they number them. -/
theorem yields_applyAll (ctx : InlineContext) (inLink : Bool) (s : Text) :
    Yields Grows (fun _ => True) (applyAll ctx inLink s) :=
  yields_applyTo (fun _ hread inLink r later s => yields_passFrom ctx hread inLink r later _ _ _ s)
    _ inLink all s

end Rule

end WikiText.Markdown
