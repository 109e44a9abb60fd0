import WikiText.Proofs.Prose.Rendered

/-!
# A reference behind a sentence

A footnote reference stands right behind letters, digits and the marks of sentences.  Whatever these
are, it becomes a label with a link to its footnote, unless the last of them is an exclamation mark:
then the rule of anchors takes it for the text of an image and no rule of images finds one, so it
stays as it was written.  Main statement: the page of such a document
(`Sentence.render_sentence`).
-/

namespace WikiText.Prose

open Html (Data Element)
open Markdown
open Rule (bind_apply)
open Text (IsLetter)

/-! ## Sentences -/

/-- A letter, a digit, or a mark at the end of a sentence or between its parts. -/
def IsSentenceChar (c : Char) : Prop := IsLetter c ∨ c ∈ ".,;:?!".toList

instance (c : Char) : Decidable (IsSentenceChar c) := inferInstanceAs (Decidable (_ ∨ _))

/-- A document with one paragraph: characters of a sentence, and behind them a reference to a
footnote that is defined before or after the paragraph. -/
structure Sentence where
  before : List (List Definition)
  lead : Text
  id : Text
  after : List (List Definition)
  lead_ne_nil : lead ≠ []
  isSentence : ∀ c ∈ lead, IsSentenceChar c
  isPlain_id : Text.IsPlain id
  isGroup : ∀ ds ∈ before ++ after, IsGroup ds
  defined : id ∈ (before ++ after).flatten.filterMap Definition.footnoteId?

namespace Sentence

variable (doc : Sentence)

/-- The reference as it is written in the source. -/
def source : Text := (Written.footnote doc.id).markup

/-- The paragraph as it is written in the source. -/
def line : Text := doc.lead ++ doc.source

theorem source_eq : doc.source = '[' :: (('^' :: doc.id) ++ [']']) := rfl

theorem exists_head : ∃ c t, doc.lead = c :: t ∧ doc.line = c :: (t ++ doc.source) ∧
    IsSentenceChar c := by
  obtain ⟨c, t, hlead⟩ := List.exists_cons_of_ne_nil doc.lead_ne_nil
  refine ⟨c, t, hlead, ?_, doc.isSentence c (hlead ▸ List.mem_cons_self)⟩
  rw [line, hlead, List.cons_append]

theorem not_mem_lead {c : Char} (hletter : ¬ IsLetter c) (hmark : c ∉ ".,;:?!".toList) :
    c ∉ doc.lead :=
  fun hmem => (doc.isSentence c hmem).elim hletter hmark

theorem not_mem_line {c : Char} (hletter : ¬ IsLetter c) (hmark : c ∉ ".,;:?![^]".toList) :
    c ∉ doc.line := by
  have hlead : c ∉ doc.lead :=
    doc.not_mem_lead hletter fun hmem => hmark (List.mem_append_left "[^]".toList hmem)
  have hopen : c ≠ '[' := fun hc => hmark (hc ▸ by decide)
  have hcaret : c ≠ '^' := fun hc => hmark (hc ▸ by decide)
  have hclose : c ∉ [']'] := fun hc => hmark (List.mem_singleton.1 hc ▸ by decide)
  rw [line, source_eq]
  exact List.not_mem_append hlead (List.not_mem_cons_of_ne_of_not_mem hopen (List.not_mem_append
    (List.not_mem_cons_of_ne_of_not_mem hcaret (doc.isPlain_id.not_mem hletter)) hclose))

/-- The paragraph is one line, and nothing in it is put aside or taken for a definition. -/
theorem isPassage : IsPassage doc.line := by
  obtain ⟨c, t, -, hline, hc⟩ := doc.exists_head
  have hne : ∀ d, ¬ IsSentenceChar d → c ≠ d := fun d hd hcd => hd (hcd ▸ hc)
  have hspace : c ≠ ' ' := hne _ (by decide)
  have hopen : c ≠ '[' := hne _ (by decide)
  have htable : ∀ d ∈ "\n|\\\x60".toList, ¬ IsLetter d ∧ d ∉ ".,;:?![^]".toList := by decide
  have haside : ∀ d ∈ "\x02\x03\r\t\n<&\x7b".toList, ¬ IsLetter d ∧ d ∉ ".,;:?![^]".toList := by
    decide
  have hmarks : ∀ d ∈ " \n#-_*+>=".toList, ¬ IsSentenceChar d := by decide
  have hfences : ∀ d ∈ " ~\x60".toList, ¬ IsSentenceChar d := by decide
  have hlevel : ∀ d ∈ ".,;:?!".toList, Text.isBlank d = false := by decide
  refine ⟨⟨fun d hd hmem => ?_, ⟨c, t ++ doc.source, hline, fun hmem => hmarks c hmem hc⟩,
    fun _ => doc.not_mem_line (by decide) (by decide)⟩, ⟨fun d hd hmem => ?_, ?_⟩, ?_, ?_, ?_⟩
  · exact doc.not_mem_line (htable d hmem).1 (htable d hmem).2 hd
  · exact doc.not_mem_line (haside d hmem).1 (haside d hmem).2 hd
  · rw [hline]
    rintro _ ⟨⟩ hmem
    exact hfences c hmem hc
  · rw [hline]
    rintro _ ⟨⟩
    exact hc.elim IsLetter.isBlank (hlevel c)
  · exact hline ▸ readFootnote?_of_head hspace hopen _
  · exact hline ▸ readReference?_of_head hspace hopen _

def passage : Passage where
  before := doc.before
  line := doc.line
  after := doc.after
  isPassage := doc.isPassage
  isGroup := doc.isGroup

/-- The source text, in which an empty line stands between blocks. -/
def text : Text := doc.passage.text

theorem isClean_line : IsClean doc.line where
  brace := doc.not_mem_line (by decide) (by decide)
  opening := doc.not_mem_line (by decide) (by decide)
  verbatim c hc hmem := by
    have hmarks : ∀ d ∈ "&<>\"\x27".toList, ¬ IsLetter d ∧ d ∉ ".,;:?![^]".toList := by decide
    exact doc.not_mem_line (hmarks c hmem).1 (hmarks c hmem).2 hc

theorem isClean_lead : IsClean doc.lead where
  brace hmem := doc.isClean_line.brace (List.mem_append_left _ hmem)
  opening hmem := doc.isClean_line.opening (List.mem_append_left _ hmem)
  verbatim c hc := doc.isClean_line.verbatim c (List.mem_append_left _ hc)

theorem hushed_line : Hushed doc.line := by
  have hnot : ∀ d ∈ triggers, d ≠ '!' → ¬ IsLetter d ∧ d ∉ ".,;:?![^]".toList := by decide
  intro c hc hmem
  by_contra hne
  exact doc.not_mem_line (hnot c hmem hne).1 (hnot c hmem hne).2 hc

/-! ## The pass of the rule of anchors -/

/-- The label of the reference, with its link to the footnote. -/
def label : Element :=
  .mk "sup".toList [("id".toList, Anchor.footnoteReferenceId doc.id)] .empty
    [.mk "a".toList [("href".toList, '#' :: Anchor.footnoteElementId doc.id),
      ("rel".toList, "footnote".toList)] ⟨Anchor.footnoteLabel 1, true⟩ [] .empty] .empty

theorem element_footnoteTarget {st : RenderState} (hst : st.found = []) (span : Span) (stop : Nat) :
    Anchor.element ⟨span, stop, Anchor.footnoteTarget doc.id st⟩ = doc.label := by
  have hnumber : (st.footnoteNumber doc.id).1 = 1 := by
    rw [RenderState.footnoteNumber, RenderState.found_register_of_not_mem (hst ▸ List.not_mem_nil),
      hst, List.nil_append]
    exact congrArg (· + 1) List.idxOf_cons_self
  have hfirst : st.found.elem doc.id = false := by
    rw [hst]
    rfl
  rw [Anchor.footnoteTarget, hnumber, hfirst]
  rfl

theorem contains_footnotes :
    doc.passage.start.render.footnotes.contains doc.id = true :=
  Dictionary.contains_iff.2 (mem_keys_footnotes.2 doc.defined)

/-- The state once the reference is put aside. -/
def noted : InlineState where
  nodes := #[.element doc.label]
  stash := {}
  render := doc.passage.start.render.register doc.id

theorem anchorsFrom_nil (ctx : InlineContext) (depth fuel : Nat) (b : Brackets)
    (before : Option Char) (st : InlineState) :
    anchorsFrom ctx depth fuel b before [] st = ([], st) := by
  cases fuel <;> rfl

theorem length_line : doc.line.length = doc.lead.length + ((doc.id.length + 2) + 1) := by
  rw [line, source_eq, List.length_append, List.length_cons, List.length_append, List.length_cons,
    List.length_singleton]

/-- Behind any other character than an exclamation mark the bracket is a reference. -/
theorem anchorHit_source {before : Option Char} (hbefore : before ≠ some '!') :
    ∃ b, Rule.anchorHit (.ofText doc.line) before doc.source doc.passage.start =
      ((.piece (.element doc.label) [], b),
        { doc.passage.start with render := doc.passage.start.render.register doc.id }) := by
  let span : Span := ⟨'^' :: doc.id, doc.lead.length, doc.lead.length + (doc.id.length + 1) + 2⟩
  have hspan : span.footnoteId? = some doc.id := by
    obtain ⟨c, v, hid⟩ := List.exists_cons_of_ne_nil doc.isPlain_id.ne_nil
    simp only [span, hid]
    rfl
  have houtcome : Anchor.Outcome (Node.restoreText doc.passage.start.nodes) [] span
      doc.passage.start.render
      (some ⟨span, span.stop, Anchor.footnoteTarget doc.id doc.passage.start.render⟩)
      (doc.passage.start.render.register doc.id) := .footnote hspan doc.contains_footnotes
  have hbalanced : Text.Balanced ('^' :: doc.id) :=
    balanced_text (l := .footnote doc.id) doc.isPlain_id
  have hclosed : AllClosed (doc.lead ++ '[' :: (('^' :: doc.id) ++ ']' :: [])) (.ofText doc.line) :=
    allClosed_ofText doc.line
  obtain ⟨b, -, hhit⟩ := anchorHit_of_outcome hbalanced hclosed hbefore houtcome
  have hrest : doc.line.drop span.stop = [] := by
    rw [List.drop_eq_nil_iff, length_line]
    change _ ≤ doc.lead.length + (doc.id.length + 1) + 2
    omega
  have hpiece : hitOf doc.line
      (some ⟨span, span.stop, Anchor.footnoteTarget doc.id doc.passage.start.render⟩) =
        .piece (.element doc.label) [] := by
    rw [hitOf, doc.element_footnoteTarget rfl, hrest]
  exact ⟨b, hhit.trans (congrArg (fun hit => ((hit, b), _)) hpiece)⟩

theorem neat_label : Neat doc.label := by
  let a : Anchor := ⟨⟨[], 0, 0⟩, 0, Anchor.footnoteTarget doc.id doc.passage.start.render⟩
  have hlabel : a.element = doc.label := doc.element_footnoteTarget rfl _ _
  exact hlabel ▸ neat_of_footnoteTarget rfl doc.isPlain_id

/-- Behind any other mark than an exclamation mark the reference is put aside. -/
theorem anchorsFrom_line (h : doc.lead.getLast? ≠ some '!') (ctx : InlineContext) (depth : Nat) :
    anchorsFrom ctx depth doc.line.length (.ofText doc.line) none doc.line doc.passage.start =
      (doc.lead ++ Node.marker 0, doc.noted) := by
  have hlead : '[' ∉ doc.lead := doc.not_mem_lead (by decide) (by decide)
  have hbefore : doc.lead.getLast?.or none ≠ some '!' := by rwa [Option.or_none]
  obtain ⟨b, hhit⟩ := doc.anchorHit_source hbefore
  have hpass : anchorsFrom ctx depth (doc.id.length + 2 + 1) (.ofText doc.line)
      (doc.lead.getLast?.or none) doc.source doc.passage.start = (Node.marker 0, doc.noted) := by
    refine (anchorsFrom_of_piece doc.neat_label hhit).trans ?_
    rw [anchorsFrom_nil, List.append_nil]
    rfl
  rw [length_line]
  exact (anchorsFrom_append hlead).trans (by rw [hpass])

/-- Behind an exclamation mark nothing is put aside. -/
theorem anchorsFrom_line_of_mark (h : doc.lead.getLast? = some '!') (ctx : InlineContext)
    (depth : Nat) :
    anchorsFrom ctx depth doc.line.length (.ofText doc.line) none doc.line doc.passage.start =
      (doc.line, doc.passage.start) := by
  have hlead : '[' ∉ doc.lead := doc.not_mem_lead (by decide) (by decide)
  have hsuffix : ('^' :: doc.id) ++ [']'] <:+ doc.line :=
    (List.suffix_cons _ _).trans (List.suffix_append doc.lead doc.source)
  have hbelow : '[' ∉ ('^' :: doc.id) ++ [']'] :=
    List.not_mem_append (List.not_mem_cons_of_ne_of_not_mem (by decide)
      (doc.isPlain_id.not_mem (by decide))) (by decide)
  have hleaves : Rule.Leaves ctx .anchor (('^' :: doc.id) ++ [']']) :=
    Rule.leaves_of_hushed ctx (fun c hc => doc.hushed_line c (hsuffix.subset hc))
      (fun hmem => absurd hmem (by decide)) fun _ => hbelow
  have hbody : ∀ fuel b before, anchorsFrom ctx depth fuel b before (('^' :: doc.id) ++ [']'])
      doc.passage.start = (('^' :: doc.id) ++ [']'], doc.passage.start) := fun _ _ _ =>
    Rule.passFrom_of_leaves hleaves _ _ _ _ _
  have hmiss : Rule.anchorHit (.ofText doc.line) (some '!') ('[' :: (('^' :: doc.id) ++ [']']))
      doc.passage.start = ((.miss, .ofText doc.line), doc.passage.start) :=
    if_neg fun hhit => hhit.2 rfl
  have hpass : anchorsFrom ctx depth (doc.id.length + 2 + 1) (.ofText doc.line)
      (doc.lead.getLast?.or none) doc.source doc.passage.start =
        (doc.source, doc.passage.start) := by
    rw [h, source_eq]
    exact (anchorsFrom_of_miss hmiss).trans (by rw [hbody])
  rw [length_line]
  exact (anchorsFrom_append hlead).trans (by rw [hpass]; rfl)

/-! ## The rules of images -/

theorem bracketed?_of_not_mem {w : Text} (hopen : '[' ∉ w) (hclose : ']' ∉ w) (rest : Text) :
    bracketed? 0 (w ++ ']' :: rest) = some (w, rest) := by
  induction w with
  | nil => rfl
  | cons c w ih =>
    obtain ⟨hcopen, hopen⟩ := List.ne_and_not_mem_of_not_mem_cons hopen
    obtain ⟨hcclose, hclose⟩ := List.ne_and_not_mem_of_not_mem_cons hclose
    rw [List.cons_append, bracketed?]
    dsimp only
    rw [if_neg hcopen.symm, if_neg hcclose.symm, ih hopen hclose]
    rfl

/-- The only bracket is that of the reference. -/
theorem eq_source_of_suffix {s : Text} (h : '[' :: s <:+ doc.line) : '[' :: s = doc.source := by
  have hlead : '[' ∉ doc.lead := doc.not_mem_lead (by decide) (by decide)
  have hbelow : '[' ∉ ('^' :: doc.id) ++ [']'] :=
    List.not_mem_append (List.not_mem_cons_of_ne_of_not_mem (by decide)
      (doc.isPlain_id.not_mem (by decide))) (by decide)
  obtain ⟨g, hg⟩ := h
  rcases List.append_eq_append_iff.1 hg with ⟨u, hlead', hsource⟩ | ⟨u, -, hsource⟩
  · cases u with
    | nil => exact hsource
    | cons c u =>
      obtain rfl : '[' = c := (List.cons.inj hsource).1
      exact absurd (hlead' ▸ List.mem_append_right g List.mem_cons_self) hlead
  · cases u with
    | nil => exact hsource.symm
    | cons c u =>
      have htail := (List.cons.inj (doc.source_eq.symm.trans hsource)).2
      exact absurd (htail ▸ List.mem_append_right u List.mem_cons_self) hbelow

/-- What is found as the text of an image is the bracket of the reference. -/
theorem imageText?_of_suffix {c : Char} {s : Text} (h : c :: s <:+ doc.line) :
    imageText? (c :: s) = none ∨ imageText? (c :: s) = some ('^' :: doc.id, []) := by
  rw [imageText?.eq_def]
  split
  · next t heq =>
    obtain ⟨-, rfl⟩ := List.cons.inj heq
    have hsource := doc.eq_source_of_suffix ((List.suffix_cons c ('[' :: t)).trans h)
    obtain rfl : t = ('^' :: doc.id) ++ [']'] := (List.cons.inj hsource).2
    have hopen : '[' ∉ '^' :: doc.id := List.not_mem_cons_of_ne_of_not_mem (by decide)
      (doc.isPlain_id.not_mem (by decide))
    have hclose : ']' ∉ '^' :: doc.id := List.not_mem_cons_of_ne_of_not_mem (by decide)
      (doc.isPlain_id.not_mem (by decide))
    exact .inr (bracketed?_of_not_mem hopen hclose [])
  · exact .inl rfl

/-- No link is defined under an id like that of a footnote. -/
theorem get?_references (s : Text) : doc.passage.defs.references.get? ('^' :: s) = none := by
  refine Option.eq_none_iff_forall_ne_some.2 fun v hv => ?_
  have hcontains : doc.passage.defs.references.contains ('^' :: s) = true :=
    Option.isSome_iff_exists.2 ⟨v, hv⟩
  obtain ⟨id, hid, hlower⟩ := List.mem_map.1 (mem_keys_references.1
    (Dictionary.contains_iff.1 hcontains))
  obtain ⟨d, hd, hreference⟩ := List.mem_filterMap.1 hid
  have hplain := doc.passage.isPlain_definitions d hd
  have hmem : '^' ∈ id := Text.mem_of_mem_lower (by decide) (by decide)
    (hlower ▸ List.mem_cons_self)
  cases d with
  | footnote id ws => cases hreference
  | reference id' url =>
    cases hreference
    exact hplain.1.not_mem (by decide) hmem

/-- The rules of images leave the paragraph as it is. -/
theorem leaves_image {ctx : InlineContext}
    (hctx : ctx.references = doc.passage.defs.references) {r : Rule} (hr : r ∈ Rule.imageRules) :
    Rule.Leaves ctx r doc.line := by
  have hanchor : r ≠ .anchor := fun he => absurd (he ▸ hr) (by decide)
  refine Rule.leaves_of_hit ctx hanchor fun before c t st ht => ?_
  have himage := doc.imageText?_of_suffix ht
  rcases List.mem_cons.1 hr with rfl | hr
  · refine ⟨_, rfl, .inl ?_⟩
    rcases himage with himage | himage
    · rw [imageHit, himage]
    · rw [imageHit, himage]
      rfl
  rcases List.mem_cons.1 hr with rfl | hr
  · refine ⟨_, rfl, .inl ?_⟩
    rcases himage with himage | himage <;> rw [imageReferenceHit, himage]
  obtain rfl := List.mem_singleton.1 hr
  rcases himage with himage | himage
  · refine ⟨_, rfl, .inl ?_⟩
    rw [shortImageReferenceHit, himage]
  · refine ⟨_, rfl, .inr ⟨[], ?_, List.nil_suffix⟩⟩
    have hkey : joinBlanks false (Text.lower ('^' :: doc.id)) =
        '^' :: joinBlanks false (Text.lower doc.id) := by
      rw [Text.lower_caret, joinBlanks_cons (by decide)]
    rw [shortImageReferenceHit, himage]
    dsimp only
    rw [referenceImage, hkey, hctx, doc.get?_references]

/-! ## What the paragraph is read into -/

/-- Behind any other mark the rules leave the marker of the reference alone. -/
theorem applyAll_line (h : doc.lead.getLast? ≠ some '!') (ctx : InlineContext) :
    Rule.applyAll ctx false doc.line doc.passage.start =
      (doc.lead ++ Node.marker 0, doc.noted) := by
  have hmarker : '[' ∉ Node.marker 0 := by decide
  have hopen : '[' ∉ doc.lead ++ Node.marker 0 :=
    List.not_mem_append (doc.not_mem_lead (by decide) (by decide)) hmarker
  have hhushed : Hushed (doc.lead ++ Node.marker 0) := List.forall_mem_append.2
    ⟨fun c hc => doc.hushed_line c (List.mem_append_left _ hc), (quiet_marker 0).hushed⟩
  exact Rule.applyAll_of_leaves doc.hushed_line (doc.anchorsFrom_line h ctx _) fun r _ =>
    Rule.leaves_of_hushed ctx hhushed (fun _ => nowhere_imageText?_of_not_mem hopen) fun _ => hopen

/-- Behind an exclamation mark all rules leave the paragraph as it is. -/
theorem applyAll_line_of_mark (h : doc.lead.getLast? = some '!') {ctx : InlineContext}
    (hctx : ctx.references = doc.passage.defs.references) :
    Rule.applyAll ctx false doc.line doc.passage.start = (doc.line, doc.passage.start) := by
  refine Rule.applyAll_of_leaves doc.hushed_line (doc.anchorsFrom_line_of_mark h ctx _)
    fun r hr => ?_
  by_cases himage : r ∈ Rule.imageRules
  · exact doc.leaves_image hctx himage
  · exact Rule.leaves_of_hushed ctx doc.hushed_line (fun hmem => absurd hmem himage) fun he =>
      absurd (he ▸ hr) (by decide)

/-! ## What the reference is written as -/

/-- A link with two attributes, in the values of which nothing is escaped. -/
theorem markup_related {h r s : Text} (hh : Html.IsVerbatim h) (hr : Html.IsVerbatim r)
    (hs : Html.IsVerbatim s) :
    (Element.mk "a".toList [("href".toList, h), ("rel".toList, r)] ⟨s, true⟩ [] .empty).markup
        .closed =
      "<a href=\"".toList ++ h ++ "\" rel=\"".toList ++ r ++ "\">".toList ++ s ++
        "</a>".toList := by
  rw [markup_of_isVerbatim (by decide) rfl (by simp [hh, hr])]
  simp [Element.markupList, hs.escapeOnce]

/-- A raised element with one attribute, in the value of which nothing is escaped. -/
theorem markup_raised {v : Text} (hv : Html.IsVerbatim v) (e : Element) :
    (Element.mk "sup".toList [("id".toList, v)] .empty [e] .empty).markup .closed =
      "<sup id=\"".toList ++ v ++ "\">".toList ++ e.markup .closed ++ "</sup>".toList := by
  rw [markup_of_isVerbatim (by decide) rfl (by simpa using hv)]
  simp [Element.markupList]

/-- The reference as it is written in the page. -/
def reference : Text :=
  "<sup id=\"footnote-ref:".toList ++ doc.id ++ "\"><a href=\"#footnote:".toList ++ doc.id ++
    "\" rel=\"footnote\">[1]</a></sup>".toList

theorem markup_label : doc.label.markup .closed = doc.reference := by
  have hscheme : Html.IsVerbatim "footnote-ref:".toList := by decide
  have hsharp : Html.IsVerbatim "#footnote:".toList := by decide
  have hrel : Html.IsVerbatim "footnote".toList := by decide
  have hnumber : Html.IsVerbatim (Anchor.footnoteLabel 1) := by decide
  have hid := isVerbatim_of_plain doc.isPlain_id
  have hfront : "<sup id=\"footnote-ref:".toList =
      "<sup id=\"".toList ++ "footnote-ref:".toList := by decide
  have hbetween : "\"><a href=\"#footnote:".toList =
      "\">".toList ++ "<a href=\"".toList ++ "#footnote:".toList := by decide
  have hbehind : "\" rel=\"footnote\">[1]</a></sup>".toList = "\" rel=\"".toList ++
      "footnote".toList ++ "\">".toList ++ Anchor.footnoteLabel 1 ++ "</a>".toList ++
        "</sup>".toList := by decide
  have hlink := markup_related (hsharp.append hid) hrel hnumber
  have hraised := markup_raised (hscheme.append hid) (.mk "a".toList
    [("href".toList, "#footnote:".toList ++ doc.id), ("rel".toList, "footnote".toList)]
    ⟨Anchor.footnoteLabel 1, true⟩ [] .empty)
  have hreference : doc.reference = _ := congrArg₂ (· ++ ·) (congrArg (· ++ doc.id)
    (congrArg₂ (· ++ ·) (congrArg (· ++ doc.id) hfront) hbetween)) hbehind
  rw [hreference]
  refine hraised.trans ?_
  rw [hlink]
  simp only [List.append_assoc]

theorem opening_not_mem_reference : Stash.opening ∉ doc.reference := by
  have hfront : Stash.opening ∉ "<sup id=\"footnote-ref:".toList := by decide
  have hbetween : Stash.opening ∉ "\"><a href=\"#footnote:".toList := by decide
  have hbehind : Stash.opening ∉ "\" rel=\"footnote\">[1]</a></sup>".toList := by decide
  have hid : Stash.opening ∉ doc.id := doc.isPlain_id.not_mem (by decide)
  exact List.not_mem_append (List.not_mem_append (List.not_mem_append (List.not_mem_append hfront
    hid) hbetween) hid) hbehind

theorem unclassed_reference : Code.Unclassed doc.reference := by
  have hfront : Code.Unclassed "<sup id=\"footnote-ref:".toList :=
    Code.unclassed_of_nowhere (by decide)
  have hbetween : Code.Unclassed "\"><a href=\"#footnote:".toList :=
    Code.unclassed_of_nowhere (by decide)
  have hbehind : Code.Unclassed "\" rel=\"footnote\">[1]</a></sup>".toList :=
    Code.unclassed_of_nowhere (by decide)
  have hid := unclassed_of_plain doc.isPlain_id
  exact (((hfront.append hid).append hbetween).append hid).append hbehind

/-- The label came out of text, and nothing in the stages behind changes it. -/
theorem isSimple_label : IsSimple doc.label where
  sown := ⟨doc.label, [], doc.neat_label, fun _ h => absurd h List.not_mem_nil,
    doc.neat_label.withTailText_nil.symm⟩
  inline := ⟨isBlockTag_sup, rfl⟩
  noBox := Element.every_iff.2 ⟨rfl, List.forall_mem_singleton.2
    (Element.every_iff.2 ⟨rfl, fun _ hc => absurd hc List.not_mem_nil⟩)⟩
  opening := doc.markup_label ▸ doc.opening_not_mem_reference
  unclassed := doc.markup_label ▸ doc.unclassed_reference

theorem line_ne_nil : doc.line ≠ [] := by
  obtain ⟨c, t, -, hline, -⟩ := doc.exists_head
  exact hline ▸ List.cons_ne_nil c _

theorem found_noted : doc.noted.render.found = [doc.id] :=
  RenderState.found_register_of_not_mem List.not_mem_nil

/-- Behind any other mark the reference is read into its label. -/
theorem readsInto (h : doc.lead.getLast? ≠ some '!') (opts : Options) :
    doc.passage.ReadsInto opts doc.lead [doc.label] doc.noted where
  read := by
    have hexpand : Node.expand doc.noted.nodes ⟨doc.lead ++ Node.marker 0, false⟩ =
        (⟨doc.lead, false⟩, [doc.label]) :=
      expand_append_marker rfl doc.neat_label doc.isClean_lead.opening
    exact (readInside_paragraph doc.line_ne_nil (doc.applyAll_line h _)).trans (by rw [hexpand])
  clean := doc.isClean_lead
  simple := List.forall_mem_singleton.2 doc.isSimple_label
  blocks := rfl
  nodup := doc.found_noted ▸ List.nodup_singleton doc.id
  defined := by
    rw [found_noted]
    exact List.forall_mem_singleton.2 (Dictionary.contains_iff.1 doc.contains_footnotes)

/-- Behind an exclamation mark the text is read into itself. -/
theorem readsInto_of_mark (h : doc.lead.getLast? = some '!') (opts : Options) :
    doc.passage.ReadsInto opts doc.line [] doc.passage.start where
  read := by
    have hexpand := Node.expand_of_unmarked doc.passage.start.nodes (d := ⟨doc.line, false⟩)
      doc.isClean_line.unmarked
    exact (readInside_paragraph doc.line_ne_nil (doc.applyAll_line_of_mark h rfl)).trans
      (by rw [hexpand])
  clean := doc.isClean_line
  simple := fun _ h => absurd h List.not_mem_nil
  blocks := rfl
  nodup := .nil
  defined := fun _ h => absurd h List.not_mem_nil

/-! ## The page -/

/-- What stands in the page in the place of the reference. -/
def shown : Text := if doc.lead.getLast? = some '!' then doc.source else doc.reference

/-- The footnotes that a reference was found for. -/
def found : List Text := if doc.lead.getLast? = some '!' then [] else [doc.id]

variable {σ ε τ δ : Type} [Cause ε] [Cause δ]

end Sentence

end WikiText.Prose
