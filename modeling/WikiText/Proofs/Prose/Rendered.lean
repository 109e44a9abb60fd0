import WikiText.Proofs.Prose.Listed
import WikiText.Proofs.Prose.Warnings

/-!
# A paragraph between definitions is rendered

Once the text of a paragraph is read, nothing else is found: the list of footnotes is put in the
order of their references, and both are written line by line.  Main statement: what comes out of the
text of a passage, and the list behind it, is all of its page (`Passage.render_of_read`).
-/

namespace WikiText.Prose

open Html (Data Element)
open Markdown

/-- An element that came out of text.  It stands in its line, and no mark and no code is written
of it. -/
structure IsSimple (e : Element) : Prop where
  sown : Sown e
  inline : IsInline e
  noBox : e.Every IsNoBox
  opening : Stash.opening ∉ e.markup .closed
  unclassed : Code.Unclassed (e.markup .closed)

/-- A text that stays as it is in every stage of a render. -/
structure IsClean (s : Text) : Prop extends IsBare s where
  verbatim : Html.IsVerbatim s

/-- What a paragraph is written as, given its text and the elements that came out of it. -/
def paragraphMarkup (s : Text) (inserted : List Element) : Text :=
  "<p>".toList ++ (s ++ Element.markupList .closed inserted) ++ "</p>".toList

section Paragraph

variable {s : Text} {inserted : List Element} (hs : IsClean s)
  (hinserted : ∀ e ∈ inserted, IsSimple e)

/-- A paragraph once its text is read. -/
def paragraphOf (s : Text) (inserted : List Element) : Element :=
  .mk "p".toList [] ⟨s, false⟩ inserted .empty

include hinserted in
theorem layOut_paragraphOf : layOut (paragraphOf s inserted) =
    .mk "p".toList [] ⟨s, false⟩ inserted lineEnd :=
  layOut_of_inline isBlockTag_p (by decide) [] _ fun e he => (hinserted e he).inline

include hinserted in
theorem every_isNoBox_paragraphOf : (paragraphOf s inserted).Every IsNoBox :=
  Element.every_iff.2 ⟨rfl, fun e he => (hinserted e he).noBox⟩

include hs

include hinserted in
theorem markup_paragraphOf : (layOut (paragraphOf s inserted)).markup .closed =
    paragraphMarkup s inserted ++ ['\n'] := by
  rw [layOut_paragraphOf hinserted, markup_of_bare (by decide), hs.verbatim.escapeOnce]
  simp [paragraphMarkup]

include hinserted in
theorem allSettled_paragraphOf : AllSettled (paragraphOf s inserted) := by
  have hp : AllSettled (.ofTag "p") := allSettled_ofTag (by decide) (by decide) (by decide)
  exact (hp.withData hs.isSettled).withChildren fun e he => (hinserted e he).sown.settled

omit hs in
theorem isTrimmed_paragraphMarkup (s : Text) (inserted : List Element) :
    Text.IsTrimmed (paragraphMarkup s inserted) := by
  have hopening : Text.IsTrimmed "<p>".toList := by decide
  have hclosing : Text.IsTrimmed "</p>".toList := by decide
  exact Text.isTrimmed_append hopening _ hclosing

include hinserted in
theorem finishes_paragraphMarkup :
    Finishes (paragraphMarkup s inserted) (paragraphMarkup s inserted) := by
  have hinside : Stash.opening ∉ Element.markupList .closed inserted := by
    rw [markupList_eq_flatMap]
    intro hmem
    obtain ⟨e, he, hmem⟩ := List.mem_flatMap.1 hmem
    exact (hinserted e he).opening hmem
  have hopening : Stash.opening ∉ "<p>".toList := by decide
  have hclosing : Stash.opening ∉ "</p>".toList := by decide
  exact ((finishes_of_not_mem hopening).append ((finishes_of_not_mem hs.opening).append
    (finishes_of_not_mem hinside))).append (finishes_of_not_mem hclosing)

include hinserted in
theorem unclassed_paragraphMarkup : Code.Unclassed (paragraphMarkup s inserted) := by
  have hinside : Code.Unclassed (Element.markupList .closed inserted) := by
    clear hs
    induction inserted with
    | nil => exact fun _ ht => ht
    | cons e es ih =>
      rw [List.forall_mem_cons] at hinserted
      rw [Element.markupList]
      exact hinserted.1.unclassed.append (ih hinserted.2)
  have hopening : Code.Unclassed "<p>".toList := Code.unclassed_of_nowhere (by decide)
  have htext : Code.Unclassed s := Code.unclassed_of_not_mem fun hmem =>
    hs.verbatim _ hmem (by decide)
  have hclosing : Code.Unclassed "</p>".toList := Code.unclassed_of_nowhere (by decide)
  exact (hopening.append (htext.append hinside)).append hclosing

end Paragraph

namespace Passage

variable (p : Passage)

/-- The state in which the text of the paragraph is read. -/
def start : InlineState := { stash := {}, render := p.defs.renderState }

/-- The footnotes as they are listed: those with a reference first, in the order of these. -/
def listed (found : List Text) : List Text :=
  found ++ p.defs.footnotes.keys.filter (!found.elem ·)

/-- The tree of the page: the paragraph, and the list in its order. -/
def tree (s : Text) (inserted : List Element) (found : List Text) : Element :=
  layOut (.mk "div".toList [] .empty (paragraphOf s inserted :: noteBoxes p.defs (p.listed found))
    .empty)

/-- The page: the paragraph, and the list line by line. -/
def page (s : Text) (inserted : List Element) (found : List Text) : Text :=
  Text.unlines (paragraphMarkup s inserted ::
    listLines "&#160;".toList "&#8617;".toList p.defs (p.listed found))

/-- What the text of the paragraph is read into, and the state after it. -/
structure ReadsInto (opts : Options) (s : Text) (inserted : List Element) (st : InlineState) :
    Prop where
  read : readInside ⟨p.defs.references, escapable opts⟩ false p.paragraph p.start =
    ((⟨s, false⟩, inserted), st)
  clean : IsClean s
  simple : ∀ e ∈ inserted, IsSimple e
  blocks : st.stash.blocks = []
  nodup : st.render.found.Nodup
  defined : ∀ id ∈ st.render.found, id ∈ p.defs.footnotes.keys

namespace ReadsInto

variable {p} {opts : Options} {s : Text} {inserted : List Element} {st : InlineState}
  (h : p.ReadsInto opts s inserted st)
include h

/-! ### Stage by stage -/

theorem readText_eq : p.parsed.readText opts =
    ((Element.ofTag "div").withChildren
      (paragraphOf s inserted :: noteBoxes p.defs p.defs.footnotes.keys), st) := by
  have hbelow := readBelow_paragraph ⟨p.defs.references, escapable opts⟩ rfl rfl
    (isDone_noteBoxes p.isListed) (fun e he => (h.simple e he).sown) h.read
    (weight_pos p.parsed.root)
  have hrun : p.parsed.readText opts = (p.parsed.root.withChildren
      (readBelow ⟨p.defs.references, escapable opts⟩ (weight p.parsed.root) false
        p.parsed.root.children p.start).1,
      (readBelow ⟨p.defs.references, escapable opts⟩ (weight p.parsed.root) false
        p.parsed.root.children p.start).2) := rfl
  have hchildren : p.parsed.root.children =
    p.paragraph :: noteBoxes p.defs p.defs.footnotes.keys := rfl
  rw [hrun, hchildren, hbelow]
  rfl

theorem isListed : ∀ id ∈ p.listed st.render.found, IsListed p.defs id :=
  List.forall_mem_append.2 ⟨fun id hid => p.isListed id (h.defined id hid),
    fun id hid => p.isListed id (List.mem_of_mem_filter hid)⟩

theorem allSettled_tree : AllSettled (p.tree s inserted st.render.found) := by
  have hdiv : AllSettled (.ofTag "div") :=
    allSettled_ofTag (by decide) (by decide) (by decide)
  exact allSettled_layOut (hdiv.withChildren (List.forall_mem_cons.2
    ⟨allSettled_paragraphOf h.clean h.simple, fun e he =>
      (isDone_noteBoxes h.isListed e he).settled⟩))

theorem complete_eq :
    complete opts p.defs st ((Element.ofTag "div").withChildren
        (paragraphOf s inserted :: noteBoxes p.defs p.defs.footnotes.keys)) =
      .ok (p.tree s inserted st.render.found, []) := by
  have hreorder := reorder_noteBoxes (Eq.refl p.defs.footnotes.keys)
    (Dictionary.nodup_keys_ofList _) h.nodup h.defined (every_isNoBox_paragraphOf (s := s) h.simple)
  rw [complete, hreorder]
  exact identifyHeadings_of_every _ _ fun e he => (h.allSettled_tree e he).level

theorem writeInside_tree :
    writeInside (p.tree s inserted st.render.found) =
      Text.unlines (paragraphMarkup s inserted :: listLines Footnotes.spaceMark
        Footnotes.backlinkMark p.defs (p.listed st.render.found)) := by
  have hblocks : ∀ c ∈ paragraphOf s inserted :: noteBoxes p.defs (p.listed st.render.found),
      isBlockTag c.tag = true := by
    refine List.forall_mem_cons.2 ⟨isBlockTag_p, ?_⟩
    rw [noteBoxes]
    split
    · exact fun _ hc => absurd hc List.not_mem_nil
    · exact List.forall_mem_singleton.2 isBlockTag_div
  rw [tree, layOut_of_blocks isBlockTag_div (by decide) [] (List.cons_ne_nil _ _) hblocks]
  refine writeInside_of_markupList ?_ (List.cons_ne_nil _ _) (List.forall_mem_cons.2
    ⟨isTrimmed_paragraphMarkup s inserted, isTrimmed_listLines _ _ _ _⟩) lineEnd
  rw [List.map_cons, Element.markupList, markup_paragraphOf h.clean h.simple,
    markup_noteBoxes h.isListed, List.flatMap_cons]

theorem writeTree_tree :
    writeTree st.stash (p.tree s inserted st.render.found) = p.page s inserted st.render.found := by
  rw [writeTree, map_unescapeText_of_settled h.allSettled_tree, h.writeInside_tree,
    restoreBlocks_of_nil h.blocks]
  exact (finishes_unlines (.cons (finishes_paragraphMarkup h.clean h.simple)
    (finishes_listLines h.isListed))).eq

theorem write_eq : p.parsed.write opts =
    (.ok (p.page s inserted st.render.found), { st.render with headings := [] }) := by
  have htrimmed : Text.IsTrimmed (p.page s inserted st.render.found) :=
    Text.isTrimmed_unlines (List.cons_ne_nil _ _) (List.forall_mem_cons.2
      ⟨isTrimmed_paragraphMarkup s inserted, isTrimmed_listLines _ _ _ _⟩)
  have hdefinitions : p.parsed.definitions = p.defs := rfl
  have hplaceholders : p.parsed.placeholders = [] := rfl
  rw [Parsed.write, h.readText_eq, hdefinitions, hplaceholders]
  dsimp only
  rw [h.complete_eq]
  dsimp only
  rw [Toc.restore_nil, h.writeTree_tree]
  dsimp only
  rw [Text.trim_eq_self htrimmed, List.append_nil]

theorem unclassed_page : Code.Unclassed (p.page s inserted st.render.found) :=
  Code.unclassed_unlines (List.forall_mem_cons.2
    ⟨unclassed_paragraphMarkup h.clean h.simple, unclassed_listLines h.isListed⟩)

theorem brace_not_mem_page : '\x7b' ∉ p.page s inserted st.render.found :=
  h.writeTree_tree ▸ brace_not_mem_writeTree h.blocks h.allSettled_tree

end ReadsInto

variable {σ ε τ δ : Type} [Cause ε] [Cause δ]

/-- Once the text of the paragraph is read the page is known, and no stage behind that one changes
or reports anything. -/
theorem render_of_read {config : Config} {opts : Options}
    (hopts : Options.ofConfig config = .ok opts) (hslash : '/' ∉ p.line) {s : Text}
    {inserted : List Element} {st : InlineState} (h : p.ReadsInto opts s inserted st)
    (resolver : Option (Macro.Resolver σ ε)) {highlighter : Highlighter τ δ}
    (hready : highlighter.IsReady config) (calls : σ) (blocks : τ) :
    render config resolver highlighter p.text calls blocks =
      ({ html := p.page s inserted st.render.found, warnings := st.render.warnings }, calls,
        blocks) := by
  have hconvert : convert config p.text =
      (.ok (p.page s inserted st.render.found), { st.render with headings := [] }) := by
    rw [convert, hopts]
    dsimp only
    rw [p.allBlank_text, if_neg Bool.false_ne_true, p.parse_text opts hslash]
    exact h.write_eq
  rw [render, hconvert]
  dsimp only
  rw [Macro.expand_of_not_mem resolver h.brace_not_mem_page]
  dsimp only
  rw [hready.highlightStage_of_nowhere h.unclassed_page.nowhere, List.append_nil]

end Passage

end WikiText.Prose
