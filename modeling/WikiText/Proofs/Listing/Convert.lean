import WikiText.Proofs.Listing.Restored
import WikiText.Proofs.Returns

/-!
# Documents of code and placeholders are converted

What becomes of a document is what is to become of each of its parts: code stays as it is, whatever
its lines look like, and a table takes the place of each placeholder (`Document.convert_eq`).
-/

namespace WikiText.Listing

open Html (Element)
open Markdown
open Rule (bind_apply)

/-! ## Reading and writing boxes -/

section Boxes

variable {bs : List Box} (h : ∀ b ∈ bs, b.IsPlain) (opts : Options) (stash : Stash)
  (phs : List Text)
include h

/-- Nothing is found in the text of boxes. -/
theorem readText_rootOf :
    (Parsed.mk (rootOf bs.reverse) {} stash phs).readText opts =
      (rootOf bs.reverse, { stash, render := {} }) := by
  have hstill : ∀ e ∈ (rootOf bs.reverse).children, e.Every IsStill := by
    rw [children_rootOf, List.reverse_reverse]
    exact List.forall_mem_map.2 fun b hb => every_isStill_element (h b hb)
  have hread := fun ctx fuel => readBelow_of_still ctx fuel false hstill { stash, render := {} }
  have hsame :
      (rootOf bs.reverse).withChildren (rootOf bs.reverse).children = rootOf bs.reverse := by
    rw [children_rootOf]
    rfl
  have hinline : ∀ ctx, readInline ctx (rootOf bs.reverse) { stash, render := {} } =
      (rootOf bs.reverse, { stash, render := {} }) := by
    intro ctx
    rw [readInline, bind_apply, hread]
    exact congrArg (·, _) hsame
  exact hinline _

theorem write_rootOf :
    let (markup, reported) := Toc.restore ⟨[], opts.tocClass⟩ phs
      (finishAmpersands (finishFootnotes (restoreBlocks stash (Text.unlines (bs.map Box.markup)))))
    (Parsed.mk (rootOf bs.reverse) {} stash phs).write opts =
      (.ok (Text.trim markup), { warnings := reported }) := by
  have hcomplete := complete_rootOf opts { stash, render := {} } bs
  have hwrite : writeTree stash (rootLaidOut bs) = finishAmpersands (finishFootnotes
      (restoreBlocks stash (Text.unlines (bs.map Box.markup)))) := by
    rw [writeTree, writeInside_rootLaidOut h]
  rw [Parsed.write, readText_rootOf h]
  dsimp only
  rw [hcomplete]
  dsimp only
  rw [hwrite]
  rfl

end Boxes

/-- The boxes of parts, and what is written of them. -/
theorem boxes_of_forall₂ {xs : List (Part × Nat)} {boxes : List Box}
    (h : List.Forall₂ (fun x b => ∃ m, b = boxOf m x) xs boxes) (hsound : ∀ x ∈ xs, x.1.IsSound)
    (hclean : ∀ x ∈ xs, IsClean x.1) :
    (∀ b ∈ boxes, b.IsPlain) ∧ boxes.map Box.markup = xs.map segment := by
  induction h with
  | nil => exact ⟨fun _ hb => absurd hb List.not_mem_nil, rfl⟩
  | cons hx _ ih =>
    rw [List.forall_mem_cons] at hsound hclean
    obtain ⟨m, rfl⟩ := hx
    obtain ⟨hplain, hsegments⟩ := ih hsound.2 hclean.2
    have hreadable := isReadable_of_isSound hsound.1 hclean.1
    refine ⟨List.forall_mem_cons.2 ⟨isPlain_boxOf hsound.1 m, hplain⟩, ?_⟩
    rw [List.map_cons, List.map_cons, markup_boxOf hreadable, hsegments]

/-! ## A whole document -/

theorem IsChunk.exists_visible {chunk : List Text} (h : IsChunk chunk) :
    ∃ l ∈ chunk, ∃ c ∈ l, Text.isBlank c = false := by
  obtain ⟨front, l, rfl⟩ := (List.eq_nil_or_concat' chunk).resolve_left h.ne_nil
  have hl : l ∈ front ++ [l] := List.mem_append_right _ (List.mem_singleton_self l)
  have hne := (h.lines l hl).1
  have htrim := h.last l (by rw [List.getLast?_concat]; exact rfl)
  exact ⟨l, hl, l.getLast hne, List.getLast_mem hne,
    eq_false_of_ne_true (List.rdropWhile_eq_self_iff.1 htrim hne)⟩

theorem IsChunked.exists_visible {code : List Text} (h : IsChunked code) :
    ∃ l ∈ code, ∃ c ∈ l, Text.isBlank c = false := by
  cases h with
  | one h => exact h.exists_visible
  | cons n h _ =>
    obtain ⟨l, hl, hvisible⟩ := h.exists_visible
    exact ⟨l, List.mem_append_left _ hl, hvisible⟩

/-- Something of a part can be seen. -/
theorem exists_visible {p : Part} (hsound : p.IsSound) (hclean : IsClean p) :
    ∃ l ∈ p.lines, ∃ c ∈ l, Text.isBlank c = false := by
  have hhead : ∀ {l : Text} {c : Char}, l.head? = some c → Text.isBlank c = false → l ∈ p.lines →
      ∃ l ∈ p.lines, ∃ c ∈ l, Text.isBlank c = false := fun hc hblank hl =>
    ⟨_, hl, _, List.mem_of_head? hc, hblank⟩
  cases p with
  | paragraph words =>
    have hline := isParagraph_line hsound.1 hsound.2
    obtain ⟨c, t, hwords, -⟩ := hline.isLine.head
    exact hhead (by rw [hwords]; rfl) (hline.isBlank c (by rw [hwords]; rfl)) List.mem_cons_self
  | fenced marks language code =>
    by_contra hnone
    have hfence : Fence.ofLine? (marks ++ language) = none := by
      refine Fence.ofLine?_of_head fun c hc => ⟨?_, ?_⟩
      · rintro rfl
        exact hnone (hhead hc (by decide) List.mem_cons_self)
      · rintro rfl
        exact hnone (hhead hc (by decide) List.mem_cons_self)
    cases hfence.symm.trans hsound.1
  | indented code =>
    have hchunked : IsChunked code := isReadable_of_isSound (x := (.indented code, 0)) hsound hclean
    obtain ⟨l, hl, c, hc, hblank⟩ := hchunked.exists_visible
    exact ⟨indent l, List.mem_map_of_mem hl, c, subset_indent l hc, hblank⟩
  | placeholder line =>
    exact ⟨line, List.mem_cons_self, '\x7b', brace_mem_of_isPlaceholder hsound, by decide⟩

namespace Document

section Holds

variable (doc : Document) {s : Text} (h : Holds (sourceLines s) doc.parts)
include h

theorem parts_of_allBlank (hs : Text.allBlank s = true) : doc.parts = [] := by
  have hblank : ∀ l ∈ sourceLines s, '\n' ∉ l ∧ ∀ c ∈ l, Text.isBlank c = true :=
    forall_mem_sourceLines (by decide) (by decide) fun c hc _ _ => List.all_eq_true.1 hs c hc
  refine List.eq_nil_iff_forall_not_mem.2 fun p hp => ?_
  obtain ⟨l, hl, c, hc, hvisible⟩ := exists_visible (doc.isSound p hp) (isClean_of_holds h p hp)
  exact Bool.false_ne_true (hvisible.symm.trans ((hblank l (h.mem p hp hl)).2 c hc))

/-- What is converted of the lines of a document is its parts. -/
theorem convert_of_holds {config : Config} (hconfig : (Options.ofConfig config).isOk = true) :
    convert config s =
      (.ok (doc.html config.tocClass), { warnings := doc.warnings config.tocClass }) := by
  cases hopts : Options.ofConfig config with
  | error e =>
    rw [hopts] at hconfig
    cases hconfig
  | ok opts =>
    have hclass : opts.tocClass = config.tocClass := by
      obtain ⟨_, -, hreturn⟩ := Returns.of_bind (m := Except Failure) hopts
      cases hreturn
      rfl
    rw [convert, hopts]
    dsimp only
    split
    · next hblank =>
      rw [html, warnings, doc.parts_of_allBlank h hblank]
      rfl
    · obtain ⟨boxes, hparse, hboxes⟩ := doc.exists_parse h opts
      have hparts := map_fst_number 0 (fences doc.parts).length doc.parts
      have hmem : ∀ x ∈ number 0 (fences doc.parts).length doc.parts, x.1 ∈ doc.parts :=
        fun x hx => hparts ▸ List.mem_map_of_mem hx
      have hsound := fun x hx => doc.isSound _ (hmem x hx)
      have hclean := fun x hx => isClean_of_holds h _ (hmem x hx)
      have hleads := leadsTo_number doc.parts
      obtain ⟨hplain, hsegments⟩ := boxes_of_forall₂ hboxes hsound hclean
      have hwrite := write_rootOf hplain opts ⟨fences doc.parts ++ tokens 0 doc.parts⟩
        (placeholders doc.parts)
      rw [hsegments, restoreBlocks_segments hsound hclean hleads, finish_restored hsound hclean,
        restore_restored hsound hclean _ hleads, hclass] at hwrite
      have hmarkup := congrArg (List.map (Part.markup ⟨[], config.tocClass⟩)) hparts
      have hwarnings := congrArg (List.flatMap (Part.warnings ⟨[], config.tocClass⟩)) hparts
      rw [List.map_map] at hmarkup
      rw [List.flatMap_map] at hwarnings
      rw [hparse, html, warnings, ← hmarkup, ← hwarnings]
      exact hwrite

end Holds

/-- A document is converted part by part. -/
theorem convert_eq (doc : Document) {s : Text} (h : Spaced Part.lines (sourceLines s) doc.parts)
    {config : Config} (hconfig : (Options.ofConfig config).isOk = true) :
    convert config s =
      (.ok (doc.html config.tocClass), { warnings := doc.warnings config.tocClass }) :=
  doc.convert_of_holds (h.holds doc.isSound) hconfig

end Document

end WikiText.Listing
