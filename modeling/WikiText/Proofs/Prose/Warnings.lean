import WikiText.Proofs.Prose.Footnotes
import WikiText.Proofs.Render.Failure

/-!
# What is reported of a document of plain words

The paragraph is read into elements that need nothing done to them, so what is reported while it is
read is all that is reported.  Main statement: the warnings of a render are one for each link that
refers to nothing, from left to right (`Document.render_warnings`).
-/

namespace WikiText.Prose

open Html (Element)
open Markdown
open Rule (bind_apply)

/-! ## Reading the tree -/

theorem isSettled_of_isProse {s : Text} (h : ∀ c ∈ s, IsProse c) : IsSettled s :=
  isSettled_of_not_mem (fun hmem => (h _ hmem).ne (by decide) (by decide) rfl)
    (fun hmem => (h _ hmem).ne (by decide) (by decide) rfl)

theorem Sown.settled {e : Element} (h : Sown e) : AllSettled e := by
  obtain ⟨e', t, hneat, ht, rfl⟩ := h
  exact hneat.settled.withTail (isSettled_of_isProse ht)

theorem Sown.still {e : Element} (h : Sown e) : ∀ c ∈ e.children, c.Every IsStill := by
  obtain ⟨e', t, hneat, -, rfl⟩ := h
  rw [Element.withTailText, Element.children_withTail]
  exact hneat.still

/-- What the reading of elements comes to: the elements, and the state after it. -/
structure Reads (st : InlineState) (ls : List Written) (r : List Element × InlineState) : Prop where
  settled : ∀ e ∈ r.1, AllSettled e
  stash : r.2.stash = st.stash
  reports : Reports st.render r.2.render (ls.filterMap (reported st.render))

/-- Elements that came out of text are left as they are. -/
theorem readBelow_of_sown (ctx : InlineContext) (fuel : Nat) {e : Element}
    (hchildren : e.children = []) {inserted : List Element} (h : ∀ i ∈ inserted, Sown i)
    (st : InlineState) :
    Swept.readBelow (readBelow ctx fuel) false ⟨e, inserted⟩ st =
      (e.withChildren inserted, st) := by
  have hsame : ∀ i ∈ inserted, ∀ st, (do
      let inLink := false || e.hasTag "a" || i.hasTag "a"
      return i.withChildren (← readBelow ctx fuel inLink i.children) : InlineM Element) st =
        (i, st) := by
    intro i hi st
    rw [bind_apply, readBelow_of_still ctx fuel _ (h i hi).still]
    cases i
    rfl
  rw [Swept.readBelow]
  dsimp only
  rw [bind_apply, mapM_apply_of_pure (g := id) hsame, List.map_id, hchildren]
  rfl

/-- The text of a paragraph goes through the rules, and then its pieces are put in their place. -/
theorem readInside_paragraph {ctx : InlineContext} {s out : Text} (hne : s ≠ [])
    {st st' : InlineState} (h : Rule.applyAll ctx false s st = (out, st')) :
    readInside ctx false ((Element.ofTag "p").withText s) st =
      (Node.expand st'.nodes ⟨out, false⟩, st') := by
  have hflag : (false || ((Element.ofTag "p").withText s).hasTag "a") = false := rfl
  have hdata : ((Element.ofTag "p").withText s).data = ⟨s, false⟩ := rfl
  rw [readInside, hflag, hdata]
  split
  · next hempty => exact absurd (List.isEmpty_iff.1 hempty) hne
  · rw [bind_apply, h]
    rfl

/-- What the text of a paragraph comes to: words, with elements among them. -/
theorem exists_readInside (ctx : InlineContext) {s : Text} {ls : List Written} (h : Strewn s ls)
    (hne : s ≠ []) {st : InlineState} (hst : Ready st.render) (hnodes : Tidy st.nodes) :
    ∃ data inserted st', readInside ctx false ((Element.ofTag "p").withText s) st =
        ((data, inserted), st') ∧
      (∀ c ∈ data.text, IsProse c) ∧ (∀ e ∈ inserted, Sown e) ∧ st'.stash = st.stash ∧
      Reports st.render st'.render (ls.filterMap (reported st.render)) := by
  have hcomes := comes_applyAll ctx h hst hnodes
  generalize hr : Rule.applyAll ctx false s st = r at hcomes
  obtain ⟨out, st'⟩ := r
  obtain ⟨htext, hinserted⟩ := sown_expand hcomes.tidy hcomes.marked
  exact ⟨_, _, st', readInside_paragraph hne hr, htext, hinserted, hcomes.stash, hcomes.reports⟩

/-- Before elements of which nothing is read, the first element is all that is read. -/
theorem sweep_cons_of_still (ctx : InlineContext) (m : Nat) {e : Element} (htail : e.tail.isEmpty)
    {boxes : List Element} (hboxes : ∀ e ∈ boxes, IsStill e) {data : Html.Data}
    {inserted : List Element} {st st' : InlineState}
    (h : readInside ctx false e st = ((data, inserted), st')) :
    sweep ctx false (m + 1) (e :: boxes) st =
      (⟨e.withData data, inserted⟩ :: boxes.map (⟨·, []⟩), st') := by
  rw [sweep, bind_apply, h, readAfter_of_isEmpty ctx false htail]
  dsimp only
  rw [pure_bind, bind_apply, List.nil_append, sweep_of_still ctx false m hboxes]
  cases e
  rfl

/-- A paragraph is read, and what is done stays as it is. -/
theorem readBelow_paragraph (ctx : InlineContext) {e : Element} (hchildren : e.children = [])
    (htail : e.tail.isEmpty) {boxes : List Element} (hboxes : ∀ e ∈ boxes, IsDone e)
    {data : Html.Data} {inserted : List Element} (hinserted : ∀ i ∈ inserted, Sown i)
    {st st' : InlineState} (h : readInside ctx false e st = ((data, inserted), st')) {fuel : Nat}
    (hfuel : 0 < fuel) :
    readBelow ctx fuel false (e :: boxes) st =
      ((e.withData data).withChildren inserted :: boxes, st') := by
  obtain ⟨fuel, rfl⟩ := Nat.exists_eq_add_of_le' hfuel
  obtain ⟨m, hm⟩ : ∃ m, weights (e :: boxes) = m + 1 :=
    Nat.exists_eq_add_of_le' (Nat.le_add_right_of_le (weight_pos _))
  have hstill : ∀ e ∈ boxes, IsStill e := fun e he => (Element.every_iff.1 (hboxes e he).still).1
  have hrest : ∀ x ∈ boxes.map (⟨·, []⟩), ∀ st, Swept.readBelow (readBelow ctx fuel) false x st =
      (x.element, st) := by
    intro x hx st
    obtain ⟨e, he, rfl⟩ := List.mem_map.1 hx
    have hbelow := (hboxes e he).still
    exact readBelow_swept_of_still
      (fun inLink _ st hes => readBelow_of_still ctx fuel inLink hes st) false hbelow st
  have hdata : (e.withData data).children = [] := (e.children_withData data).trans hchildren
  rw [readBelow, bind_apply, hm, sweep_cons_of_still ctx m htail hstill h]
  dsimp only
  rw [List.mapM_cons, bind_apply, readBelow_of_sown ctx fuel hdata hinserted, bind_apply,
    mapM_apply_of_pure hrest, List.map_map]
  exact congrArg (fun es => ((e.withData data).withChildren inserted :: es, st'))
    (List.map_id boxes)

/-- What the text of a paragraph comes to is settled, and what is to be reported of it is
reported. -/
theorem reads_paragraph (ctx : InlineContext) {s : Text} {ls : List Written} (h : Strewn s ls)
    (hne : s ≠ []) {boxes : List Element} (hboxes : ∀ e ∈ boxes, IsDone e) {st : InlineState}
    (hst : Ready st.render) (hnodes : Tidy st.nodes) {fuel : Nat} (hfuel : 0 < fuel) :
    Reads st ls (readBelow ctx fuel false ((Element.ofTag "p").withText s :: boxes) st) := by
  obtain ⟨data, inserted, st', hinside, htext, hinserted, hstash, hreports⟩ :=
    exists_readInside ctx h hne hst hnodes
  rw [readBelow_paragraph ctx rfl rfl hboxes hinserted hinside hfuel]
  refine ⟨List.forall_mem_cons.2 ⟨?_, fun e he => (hboxes e he).settled⟩, hstash, hreports⟩
  exact ((allSettled_ofTag (by decide) (by decide) (by decide)).withData
    (isSettled_of_isProse htext)).withChildren fun e he => (hinserted e he).settled

namespace Document

variable (doc : Document)

/-- The tree of a document is settled once its text is read, and what was reported is known. -/
theorem readText_parsed (opts : Options) :
    let read := doc.passage.parsed.readText opts
    AllSettled read.1 ∧ read.2.stash.blocks = [] ∧ read.2.render.warnings = doc.warnings := by
  intro read
  let st : InlineState := { stash := {}, render := (definitionsOf doc.definitions).renderState }
  have hready : Ready st.render := ready_renderState doc.passage.isPlain_definitions
  have htidy : Tidy st.nodes := fun k hk => absurd hk (Nat.not_lt_zero k)
  obtain ⟨hsettled, hstash, hreports⟩ :=
    reads_paragraph ⟨(definitionsOf doc.definitions).references, escapable opts⟩
      (strewn_line doc.isPlain_tokens doc.apart) doc.isProseLine_paragraph.ne_nil
      (isDone_noteBoxes doc.passage.isListed) hready htidy (weight_pos doc.passage.parsed.root)
  rw [funext doc.reported_renderState] at hreports
  refine ⟨?_, congrArg Stash.blocks hstash, hreports.warnings⟩
  exact ((allSettled_ofTag (by decide) (by decide) (by decide)).withChildren hsettled)

/-- What a document is written as has no brace, and its warnings are those of its links. -/
theorem write_parsed (opts : Options) :
    (doc.passage.parsed.write opts).2.warnings = doc.warnings ∧
      ∀ markup, (doc.passage.parsed.write opts).1 = .ok markup → '\x7b' ∉ markup := by
  obtain ⟨hsettled, hstash, hwarnings⟩ := doc.readText_parsed opts
  rw [Parsed.write]
  generalize doc.passage.parsed.readText opts = read at hsettled hstash hwarnings
  obtain ⟨root, st⟩ := read
  dsimp only
  cases hcomplete : complete opts doc.passage.parsed.definitions st root with
  | error e => exact ⟨hwarnings, by rintro _ ⟨⟩⟩
  | ok result =>
    obtain ⟨root', headings⟩ := result
    have hrestore : Toc.restore ⟨headings, opts.tocClass⟩ doc.passage.parsed.placeholders
        (writeTree st.stash root') = (writeTree st.stash root', []) := Toc.restore_nil _ _
    dsimp only
    rw [hrestore]
    refine ⟨(List.append_nil _).trans hwarnings, ?_⟩
    rintro _ ⟨⟩ hmem
    exact brace_not_mem_writeTree hstash (allSettled_of_complete hsettled hcomplete)
      (Text.trimWhile_subset _ _ hmem)

variable {σ ε τ δ : Type} [Cause ε] [Cause δ]

/-- The warnings of a render are one for each link that refers to nothing, from left to right. -/
theorem render_warnings {config : Config} (hconfig : (Options.ofConfig config).isOk = true)
    (resolver : Option (Macro.Resolver σ ε)) (highlighter : Highlighter τ δ) (calls : σ)
    (blocks : τ) :
    (render config resolver highlighter doc.text calls blocks).1.warnings = doc.warnings := by
  rw [warnings_render, untilHighlighting, convert]
  cases hopts : Options.ofConfig config with
  | error e =>
    rw [hopts] at hconfig
    cases hconfig
  | ok opts =>
    obtain ⟨hwarnings, hbrace⟩ := doc.write_parsed opts
    have hslash : '/' ∉ line doc.tokens := doc.isProseLine_paragraph.not_mem (by decide) (by decide)
    have hparse : parse opts doc.text = .ok doc.passage.parsed := doc.passage.parse_text opts hslash
    have hblank : Text.allBlank doc.text = false := doc.passage.allBlank_text
    dsimp only
    rw [hblank, if_neg Bool.false_ne_true, hparse]
    dsimp only
    rcases hmarkup : doc.passage.parsed.write opts with ⟨e | markup, st⟩
    · rw [hmarkup] at hwarnings
      exact hwarnings
    · rw [hmarkup] at hwarnings hbrace
      dsimp only
      rw [Macro.expand_of_not_mem resolver (hbrace markup rfl)]
      exact (List.append_nil _).trans hwarnings

end Document

/-- Two footnotes and a reference link are defined, and there are links to them and to others. -/
theorem render_warnings_mixed :
    let doc : Document :=
      { before := [[.reference "Home".toList "site".toList]]
        tokens := [.link (.footnote "no".toList), .word "and".toList,
          .link (.reference "t".toList [] "home".toList), .word "or".toList,
          .link (.reference "t".toList [] "X".toList), .word "by".toList,
          .link (.inline "t".toList "u".toList), .word "to".toList, .link (.footnote "a".toList),
          .word "in".toList, .link (.footnote "b".toList), .word "at".toList,
          .link (.footnote "no".toList)]
        after := [[.footnote "a".toList ["a".toList, "note".toList],
          .footnote "b".toList ["other".toList]]]
        tokens_ne_nil := by decide
        isPlain_tokens := by decide
        apart := by decide
        isGroup := by decide }
    doc.text = ("[Home]: site\n\n" ++
        "[^no] and [t][home] or [t][X] by [t](u) to [^a] in [^b] at [^no]\n\n" ++
        "[^a]: a note\n[^b]: other").toList ∧
      (Options.ofConfig {}).isOk = true ∧
      (render {} (none : Option (Macro.Resolver Unit Text)) (.plain : Highlighter Unit Text)
        doc.text () ()).1.warnings =
          [.undefinedFootnote "no".toList, .linkIdNotFound "x".toList,
            .undefinedFootnote "no".toList] := by
  intro doc
  have hconfig : (Options.ofConfig {}).isOk = true := by decide
  have hwarnings : doc.warnings = [.undefinedFootnote "no".toList, .linkIdNotFound "x".toList,
      .undefinedFootnote "no".toList] := by decide
  have htext : doc.text = ("[Home]: site\n\n" ++
      "[^no] and [t][home] or [t][X] by [t](u) to [^a] in [^b] at [^no]\n\n" ++
      "[^a]: a note\n[^b]: other").toList := by decide
  have hrender := doc.render_warnings hconfig (none : Option (Macro.Resolver Unit Text))
    (.plain : Highlighter Unit Text) () ()
  exact ⟨htext, hconfig, hrender.trans hwarnings⟩

end WikiText.Prose
