import Mathlib.Data.List.Count
import WikiText.Proofs.Markdown.Backlinks
import WikiText.Proofs.Render.Footnotes

/-!
# First references in a document

For each footnote with a number, exactly one reference with the identifier to which the footnote
links back is put aside while the text of a document is read: see `referenceIds_of_convert`.  It is
part of the page unless the piece of text in which it stands is written without its elements, as the
text of an image is.
-/

namespace WikiText.Markdown

open Html

theorem footnoteReferenceId_injective : Function.Injective Anchor.footnoteReferenceId :=
  fun _ _ h => List.append_cancel_left h

/-- The reading of the text puts aside the references of the footnotes that it numbers. -/
theorem referenceIds_readText (opts : Options) (p : Parsed) :
    (p.readText opts).2.referenceIds =
      (p.readText opts).2.render.found.map Anchor.footnoteReferenceId := by
  obtain ⟨⟨ids, hfound, hids⟩, -⟩ := yields_readInline _ (Rule.leads_applyAll
      ⟨p.definitions.references, escapable opts⟩) p.root
    { stash := p.stash, render := p.definitions.renderState }
  -- at the start there is no piece, and no footnote has a number
  have hfound' : (p.readText opts).2.render.found = ids := hfound
  rw [hfound']
  exact hids

end WikiText.Markdown
