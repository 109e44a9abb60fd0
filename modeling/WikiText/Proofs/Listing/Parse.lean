import WikiText.Proofs.Listing.Boxes
import WikiText.Proofs.Markdown.RawHtml

/-!
# Documents of parts are parsed

The lines of a source text hold no marks of what is put aside, and what is kept of them holds no
markup but far enough behind the starts of lines.  So the parts of a document are all that is read
(`Document.exists_parse`).
-/

namespace WikiText

namespace Markdown

/-! ## The lines of a source text -/

section Chars

variable {P : Char → Prop}

theorem forall_mem_unifyLineEnds (hline : P '\n') {s : Text} (h : ∀ c ∈ s, P c) :
    ∀ c ∈ Text.unifyLineEnds s, P c := by
  fun_induction Text.unifyLineEnds s with
  | case1 => exact h
  | case2 s ih =>
    rw [List.forall_mem_cons, List.forall_mem_cons] at h
    exact List.forall_mem_cons.2 ⟨hline, ih h.2.2⟩
  | case3 s _ ih =>
    rw [List.forall_mem_cons] at h
    exact List.forall_mem_cons.2 ⟨hline, ih h.2⟩
  | case4 c s _ _ ih =>
    rw [List.forall_mem_cons] at h
    exact List.forall_mem_cons.2 ⟨h.1, ih h.2⟩

theorem forall_mem_expandTabs (hspace : P ' ') {s : Text} (h : ∀ c ∈ s, P c) (column : Nat) :
    ∀ c ∈ expandTabs column s, P c := by
  induction s generalizing column with
  | nil => exact h
  | cons c s ih =>
    rw [List.forall_mem_cons] at h
    rw [expandTabs]
    split
    · refine List.forall_mem_append.2 ⟨fun d hd => ?_, ih h.2 _⟩
      rw [List.eq_of_mem_replicate hd]
      exact hspace
    split
    · exact List.forall_mem_cons.2 ⟨h.1, ih h.2 _⟩
    · exact List.forall_mem_cons.2 ⟨h.1, ih h.2 _⟩

theorem mem_of_mem_lines {s l : Text} (h : l ∈ Text.lines s) {c : Char} (hc : c ∈ l) : c ∈ s := by
  induction s generalizing l with
  | nil =>
    rw [List.mem_singleton.1 h] at hc
    cases hc
  | cons d s ih =>
    rw [Text.lines, Text.splitOn] at h
    split at h
    · rcases List.mem_cons.1 h with rfl | h
      · cases hc
      · exact List.mem_cons_of_mem d (ih h hc)
    · split at h
      · rw [List.mem_singleton.1 h] at hc
        exact List.mem_singleton.1 hc ▸ List.mem_cons_self
      · next first others hs =>
        have hs : Text.lines s = first :: others := hs
        rcases List.mem_cons.1 h with rfl | h
        · rcases List.mem_cons.1 hc with rfl | hc
          · exact List.mem_cons_self
          · exact List.mem_cons_of_mem d (ih (hs ▸ List.mem_cons_self) hc)
        · exact List.mem_cons_of_mem d (ih (hs ▸ List.mem_cons_of_mem _ h) hc)

theorem mem_of_mem_emptyBlankLines {ls : List Text} {l : Text} (h : l ∈ emptyBlankLines ls) :
    l = [] ∨ l ∈ ls := by
  cases ls with
  | nil => cases h
  | cons first rest =>
    rcases List.mem_cons.1 h with rfl | h
    · exact .inr List.mem_cons_self
    · obtain ⟨m, hm, rfl⟩ := List.mem_map.1 h
      split
      · exact .inl rfl
      · exact .inr (List.mem_cons_of_mem _ hm)

/-- What holds of the characters of a source text holds of those of its lines. -/
theorem forall_mem_sourceLines {s : Text} (hspace : P ' ') (hline : P '\n')
    (h : ∀ c ∈ s, c ≠ Stash.opening → c ≠ Stash.closing → P c) :
    ∀ l ∈ sourceLines s, '\n' ∉ l ∧ ∀ c ∈ l, P c := by
  intro l hl
  have hfilter : ∀ c ∈ s.filter (fun c => c ≠ Stash.opening ∧ c ≠ Stash.closing), P c := by
    intro c hc
    obtain ⟨hmem, hmarks⟩ := List.mem_filter.1 hc
    rw [decide_eq_true_eq] at hmarks
    exact h c hmem hmarks.1 hmarks.2
  have hall := forall_mem_expandTabs hspace (List.forall_mem_append.2
    ⟨forall_mem_unifyLineEnds hline hfilter, List.forall_mem_cons.2
      ⟨hline, List.forall_mem_singleton.2 hline⟩⟩) 0
  rcases mem_of_mem_emptyBlankLines hl with rfl | hl
  · exact ⟨List.not_mem_nil, fun _ hc => absurd hc List.not_mem_nil⟩
  · exact ⟨Text.not_mem_of_mem_lines hl, fun c hc => hall c (mem_of_mem_lines hl hc)⟩

end Chars

/-! ## Markup behind the start of a line -/

theorem column_moveOver {q : Text} (h : '\n' ∉ q) (st : RawState) :
    (st.moveOver q).column = st.column + q.length := by
  rw [RawState.moveOver]
  induction q generalizing st with
  | nil => rfl
  | cons c q ih =>
    rw [List.mem_cons, not_or] at h
    rw [List.foldl_cons, ih h.2, if_neg (Ne.symm h.1), List.length_cons]
    dsimp only
    omega

/-- A line that stays as it is among others. -/
structure IsRawFree (l : Text) : Prop where
  line : '\n' ∉ l
  opening : '<' ∈ l → indentation 1 <+: l
  reference : ¬ "&#".toList <:+: l

/-- Before an opening in such a line stand too many characters. -/
theorem IsRawFree.atLineStart {p t : Text} (h : IsRawFree (p ++ '<' :: t)) {st : RawState} :
    (st.moveOver p).atLineStart = false := by
  have hline : '\n' ∉ p := fun hmem => h.line (List.mem_append_left _ hmem)
  have hlength : 4 ≤ p.length := by
    obtain ⟨u, hu⟩ := h.opening (List.mem_append_right p List.mem_cons_self)
    rcases List.append_eq_append_iff.1 hu with ⟨q, rfl, -⟩ | ⟨q, hq, hopening⟩
    · rw [List.length_append]
      exact Nat.le_add_right 4 _
    · cases q with
      | nil =>
        rw [List.append_nil] at hq
        exact hq ▸ Nat.le_refl 4
      | cons c q =>
        obtain rfl := (List.cons.inj hopening).1
        exact absurd (hq ▸ List.mem_append_right p List.mem_cons_self) (by decide)
  rw [RawState.atLineStart, column_moveOver hline, decide_eq_false (by omega), Bool.false_and]

theorem atLineStart_of_unlines {ls : List Text} (h : ∀ l ∈ ls, IsRawFree l) {p t : Text}
    (hs : Text.unlines ls = p ++ '<' :: t) (st : RawState) :
    (st.moveOver p).atLineStart = false := by
  induction ls generalizing p st with
  | nil => exact absurd hs.symm (List.append_ne_nil_of_right_ne_nil p (List.cons_ne_nil _ t))
  | cons l ls ih =>
    rw [List.forall_mem_cons] at h
    cases ls with
    | nil =>
      have hl : l = p ++ '<' :: t := hs
      exact (hl ▸ h.1).atLineStart
    | cons m ls =>
      rw [Text.unlines_cons_cons] at hs
      rcases List.append_eq_append_iff.1 hs with ⟨q, rfl, hq⟩ | ⟨q, rfl, hq⟩
      · cases q with
        | nil => exact absurd (List.cons.inj hq).1 (by decide)
        | cons c q =>
          have hmove : st.moveOver (l ++ c :: q) = ((st.moveOver l).moveOver [c]).moveOver q := by
            simp only [RawState.moveOver, List.foldl_append, List.foldl_cons, List.foldl_nil]
          rw [hmove]
          exact ih h.2 (List.cons.inj hq).2 _
      · cases q with
        | nil => exact absurd (List.cons.inj hq).1 (by decide)
        | cons c q =>
          obtain rfl := (List.cons.inj hq).1
          exact h.1.atLineStart

/-- What holds no line end stands before it or behind it. -/
theorem infix_of_append_newline {w s t : Text} (hne : w ≠ []) (hw : '\n' ∉ w)
    (h : w <:+: s ++ '\n' :: t) : w <:+: s ∨ w <:+: t := by
  have hfront : ∀ {v : Text}, '\n' ∉ v → v <+: '\n' :: t → v = [] := by
    intro v hv hprefix
    cases v with
    | nil => rfl
    | cons c v => exact absurd ((List.cons_prefix_cons.1 hprefix).1 ▸ List.mem_cons_self) hv
  rcases List.infix_append_iff.1 h with hs | hend | ⟨u, v, rfl, hu, hv⟩
  · exact .inl hs
  · exact .inr ((List.infix_cons_iff.1 hend).resolve_left fun he => hne (hfront hw he))
  · rw [hfront (fun hmem => hw (List.mem_append_right u hmem)) hv, List.append_nil]
    exact .inl hu.isInfix

/-- What stands in a text and holds no line end stands in a line. -/
theorem exists_infix_of_unlines {w : Text} (hne : w ≠ []) (hw : '\n' ∉ w) {ls : List Text}
    (h : w <:+: Text.unlines ls) : ∃ l ∈ ls, w <:+: l := by
  by_contra hnone
  rw [not_exists] at hnone
  refine Text.unlines_induction (P := fun s => ¬ w <:+: s) (fun _ he => ?_) (fun s t hs ht he => ?_)
    (fun l hl hin => hnone l ⟨hl, hin⟩) h
  · exact hne (List.infix_nil.1 he)
  · exact (infix_of_append_newline hne hw he).elim hs ht

theorem isBehind_unlines {ls : List Text} (h : ∀ l ∈ ls, IsRawFree l) :
    IsBehind (Text.unlines ls) where
  opening _ _ hs := atLineStart_of_unlines h hs _
  reference hnumber := by
    obtain ⟨l, hl, hin⟩ := exists_infix_of_unlines (by decide) (by decide) hnumber
    exact (h l hl).reference hin

end Markdown

namespace Listing

open Markdown

/-! ## Lines of parts -/

section Spaced

variable {α : Type} {linesOf : α → List Text} {ls : List Text} {as : List α}

theorem Spaced.forall_mem {P : Text → Prop} (hnil : P []) (h : Spaced linesOf ls as)
    (has : ∀ a ∈ as, ∀ l ∈ linesOf a, P l) : ∀ l ∈ ls, P l := by
  induction h with
  | nil => exact List.forall_mem_singleton.2 hnil
  | gap _ ih => exact List.forall_mem_cons.2 ⟨hnil, ih has⟩
  | cons a _ ih =>
    rw [List.forall_mem_cons] at has
    exact List.forall_mem_append.2 ⟨has.1, List.forall_mem_cons.2 ⟨hnil, ih has.2⟩⟩

end Spaced

/-- A part whose lines hold no line end and no mark of what is put aside. -/
def IsClean (p : Part) : Prop :=
  ∀ l ∈ p.lines, '\n' ∉ l ∧ ∀ c ∈ l, c ≠ Stash.opening ∧ c ≠ Stash.closing

theorem isClean_of_holds {s : Text} {ps : List Part} (h : Holds (sourceLines s) ps) :
    ∀ p ∈ ps, IsClean p := fun p hp l hl =>
  forall_mem_sourceLines (by decide) (by decide) (fun _ _ hopening hclosing => ⟨hopening, hclosing⟩)
    l (h.mem p hp hl)

theorem map_fst_number (f t : Nat) (ps : List Part) : (number f t ps).map Prod.fst = ps := by
  induction ps generalizing f t with
  | nil => rfl
  | cons p ps ih => cases p <;> exact congrArg (_ :: ·) (ih _ _)

theorem isParagraph_marker (k : Nat) : IsParagraph (Stash.marker k) where
  isLine :=
    ⟨fun c hc hmem => by
      have hnot : ∀ d ∈ "\n|\\\x60".toList,
          Text.isAsciiDigit d = false ∧ d ∉ "\x02wzxhzdk:\x03".toList := by decide
      exact Stash.not_mem_marker (hnot c hmem).1 (hnot c hmem).2 k hc,
      ⟨Stash.opening, _, rfl, by decide⟩,
      fun hmem => absurd hmem (Stash.not_mem_marker (by decide) (by decide) k)⟩
  bracket := by rintro ⟨⟩
  isBlank := by rintro _ ⟨⟩; decide

section Words

variable {words : List Text} (hne : words ≠ []) (h : ∀ w ∈ words, Text.IsPlain w)
include h

theorem not_mem_words {c : Char} (hletter : ¬ Text.IsLetter c) (hspace : c ≠ ' ') :
    c ∉ Prose.line (words.map .word) := by
  have hall : ∀ d ∈ Prose.line (words.map .word), c ≠ d :=
    Prose.forall_mem_line hspace (List.forall_mem_map.2 fun w hw d hd =>
      (((h w hw).letters d hd).ne hletter).symm)
  exact fun hmem => hall c hmem rfl

include hne

theorem isParagraph_line : IsParagraph (Prose.line (words.map .word)) where
  isLine := (Prose.Definition.isProseLine_body hne h).isLine
  bracket hhead := not_mem_words h (by decide) (by decide) (List.mem_of_head? hhead)
  isBlank := (Prose.Definition.isProseLine_body hne h).isBlank_head

end Words

theorem isRawFree_of_not_mem {l : Text} (hline : '\n' ∉ l) (hopening : '<' ∉ l) (hand : '&' ∉ l) :
    IsRawFree l :=
  ⟨hline, fun hmem => absurd hmem hopening, fun hin => hand (hin.subset List.mem_cons_self)⟩

theorem isRawFree_marker (k : Nat) : IsRawFree (Stash.marker k) :=
  isRawFree_of_not_mem (Stash.not_mem_marker (by decide) (by decide) k)
    (Stash.not_mem_marker (by decide) (by decide) k)
    (Stash.not_mem_marker (by decide) (by decide) k)

theorem infix_of_append {c : Char} {w s t : Text} (hc : c ∉ s) (h : c :: w <:+: s ++ t) :
    c :: w <:+: t := by
  induction s with
  | nil => exact h
  | cons d s ih =>
    rw [List.mem_cons, not_or] at hc
    rcases List.infix_cons_iff.1 h with hprefix | hin
    · exact absurd (List.cons_prefix_cons.1 hprefix).1 hc.1
    · exact ih hc.2 hin

theorem subset_indent (l : Text) : l ⊆ indent l := by
  intro c hc
  rw [indent, if_neg (List.ne_nil_of_mem hc)]
  exact List.mem_append_right _ hc

theorem isRawFree_indent {l : Text} (hline : '\n' ∉ indent l) (h : ¬ "&#".toList <:+: l) :
    IsRawFree (indent l) := by
  rw [indent] at hline ⊢
  split at hline
  · rw [if_pos ‹_›]
    exact isRawFree_of_not_mem hline List.not_mem_nil List.not_mem_nil
  · rw [if_neg ‹_›]
    exact ⟨hline, fun _ => List.prefix_append _ _, fun hin => h (infix_of_append (by decide) hin)⟩

section Part

variable {x : Part × Nat} (hsound : x.1.IsSound) (hclean : IsClean x.1)
include hsound hclean

theorem isReadable_of_isSound : IsReadable x := by
  obtain ⟨p, k⟩ := x
  cases p with
  | paragraph words => exact isParagraph_line hsound.1 hsound.2
  | fenced marks language code => exact isParagraph_marker k
  | placeholder line => exact isParagraph_marker k
  | indented code =>
    exact IsCode.isChunked hsound fun l hl hmem =>
      (hclean _ (List.mem_map_of_mem hl)).1 (subset_indent l hmem)

theorem isRawFree_of_mem_kept : ∀ l ∈ kept x, IsRawFree l := by
  obtain ⟨p, k⟩ := x
  cases p with
  | paragraph words =>
    exact List.forall_mem_singleton.2 (isRawFree_of_not_mem
      (not_mem_words hsound.2 (by decide) (by decide))
      (not_mem_words hsound.2 (by decide) (by decide))
      (not_mem_words hsound.2 (by decide) (by decide)))
  | fenced marks language code => exact List.forall_mem_singleton.2 (isRawFree_marker k)
  | placeholder line => exact List.forall_mem_singleton.2 (isRawFree_marker k)
  | indented code =>
    intro l hl
    obtain ⟨m, hm, rfl⟩ := List.mem_map.1 hl
    exact isRawFree_indent (hclean _ hl).1 (IsCode.references hsound m hm)

end Part

/-- A document is parsed as the boxes of its parts. -/
theorem Document.exists_parse (doc : Document) {s : Text}
    (h : Holds (sourceLines s) doc.parts) (opts : Options) :
    ∃ boxes, parse opts s =
        .ok ⟨rootOf boxes.reverse, {}, ⟨fences doc.parts ++ tokens 0 doc.parts⟩,
          placeholders doc.parts⟩ ∧
      List.Forall₂ (fun x b => ∃ m, b = boxOf m x)
        (number 0 (fences doc.parts).length doc.parts) boxes := by
  obtain ⟨ms, ns, hfences, hrecord, hspaced⟩ := h.setAside 0 0 {} ⟨fences doc.parts⟩
  have hparts := map_fst_number 0 (fences doc.parts).length doc.parts
  have hmem : ∀ x ∈ number 0 (fences doc.parts).length doc.parts, x.1 ∈ doc.parts := fun x hx =>
    hparts ▸ List.mem_map_of_mem hx
  have hapart := doc.apart
  rw [← hparts, List.isChain_map] at hapart
  have hclean := isClean_of_holds h
  have hraw : stashRawBlocks (Text.unlines ns) ⟨fences doc.parts ++ tokens 0 doc.parts⟩ = _ :=
    stashRawBlocks_of_behind (isBehind_unlines (hspaced.forall_mem
      (isRawFree_of_not_mem List.not_mem_nil List.not_mem_nil List.not_mem_nil) fun x hx =>
        isRawFree_of_mem_kept (doc.isSound _ (hmem x hx)) (hclean _ (hmem x hx)))) _
  obtain ⟨k, boxes, hread, hboxes⟩ := hspaced.exists_readInto opts.blocks
    (fun x hx => isReadable_of_isSound (doc.isSound _ (hmem x hx)) (hclean _ (hmem x hx))) hapart
    0 (4 * (Text.unlines ns).length + 16) [] (by rintro x hx hindented b ⟨⟩) (by omega)
  have hstash : stashFences (sourceLines s) {} = (ms, ⟨fences doc.parts⟩) := hfences
  have hrecorded : Toc.record ms ⟨fences doc.parts⟩ =
      ⟨ns, placeholders doc.parts, ⟨fences doc.parts ++ tokens 0 doc.parts⟩⟩ := hrecord
  have hroot : (parseText opts.blocks (.ofTag "div") (Text.unlines ns)).run {} =
      (rootOf boxes.reverse, {}) := by
    have hparse : parseText opts.blocks (.ofTag "div") (Text.unlines ns) =
        pure (rootOf (boxes.reverse ++ [])) := hread
    rw [hparse, List.append_nil]
    rfl
  refine ⟨boxes, ?_, hboxes⟩
  rw [parse, hstash]
  dsimp only
  rw [hrecorded, hraw]
  dsimp only
  rw [hroot]
  rfl

end Listing

end WikiText
