import WikiText.Proofs.Listing.Parse
import WikiText.Proofs.Listing.Tree
import WikiText.Proofs.Toc.Stashed

/-!
# What was put aside comes back

Each marker of a document of parts stands in a paragraph of its own.  Fenced code comes back in
place of it, and a token in it; then a table takes the place of the token and its paragraph
(`restore_restored`).
-/

namespace WikiText

namespace Text

/-- Where `p` stands nowhere, nothing is replaced. -/
theorem replaceAll_of_nowhere {p q s : Text} (hp : p ≠ []) (h : Nowhere (strip? p) s) :
    replaceAll p q s = s := by
  fun_induction replaceAll p q s with
  | case1 => exact absurd rfl hp
  | case2 s a p r hstrip =>
    cases s with
    | nil => cases hstrip
    | cons c s => exact absurd (h.eq_none.symm.trans hstrip) (Option.some_ne_none _).symm
  | case3 => rfl
  | case4 a p c s hstrip ih => exact congrArg (c :: ·) (ih hp h.2)

/-- Where nothing begins with a line end, nothing is found if nothing is in any of the lines. -/
theorem nowhere_unlines {α : Type} {read? : Text → Option α} (hend : ∀ s, read? ('\n' :: s) = none)
    {ls : List Text} (h : ∀ l ∈ ls, ∀ t, Nowhere read? t → Nowhere read? (l ++ t)) :
    Nowhere read? (unlines ls) := by
  have hlines : ∀ t, Nowhere read? t → Nowhere read? (unlines ls ++ t) := by
    refine unlines_induction (fun _ _ ht => ht) (fun s t hs ht u hu => ?_) h
    rw [List.append_assoc]
    exact hs _ ⟨Option.isNone_iff_eq_none.2 (hend _), ht u hu⟩
  exact List.append_nil (unlines ls) ▸ hlines [] trivial

end Text

namespace Markdown

open Html

/-! ## Texts without markers -/

variable {s : Text}

theorem restoreTo_of_not_mem (stash : Stash) (depth : Nat) (h : Stash.opening ∉ s) :
    restoreTo stash depth s = s :=
  restoreTo_of_skips stash depth
    (FoundMarker.needsOnLine_reader.skips (by decide) h (.inl rfl) true)

/-- What comes back in place of a marker. -/
def FoundMarker.replacement (stash : Stash) (m : FoundMarker) : Text :=
  match stash.blocks[m.index]? with
  | some block => restoreTo stash stash.blocks.length (comeBack m.inParagraph block)
  | none => m.written

theorem restoreBlocks_eq_fill (stash : Stash) (s : Text) :
    restoreBlocks stash s =
      Text.Piece.fill (FoundMarker.replacement stash) (FoundMarker.reader.pieces true s) := rfl

theorem FoundMarker.onLine_paragraph (k : Nat) :
    let written := "<p>".toList ++ Stash.marker k ++ "</p>".toList
    reader.OnLine written [.part ⟨true, k, written⟩] := by
  intro written
  refine Text.Reader.onLine_of_read? fun e _ => ?_
  have hwritten : written ++ e = "<p>".toList ++ (Stash.marker k ++ ("</p>".toList ++ e)) := by
    simp only [written, List.append_assoc]
  have hparagraph : paragraphMarker? (written ++ e) = some (k, e) := by
    rw [paragraphMarker?, hwritten, Text.strip?_append]
    simp only [Option.bind_eq_bind, Option.bind_some, stashMarker?_marker, Text.strip?_append]
  simp only [reader, hparagraph, Option.map_some, Option.some_or, List.length_append,
    Nat.add_sub_cancel, List.take_left]

theorem Fence.opening_not_mem_attributeText {name : String} (hname : Stash.opening ∉ name.toList)
    {value : Text} (hvalue : Stash.opening ∉ value) :
    Stash.opening ∉ attributeText name value := by
  have hescaped : Stash.opening ∉ escapeOnce .doubleOnly value :=
    not_mem_escapeOnce (by decide) (by decide) (by decide) hvalue
  rw [attributeText]
  split
  · exact List.not_mem_nil
  · simp only [List.cons_append, List.mem_cons, List.mem_append, List.not_mem_nil, or_false, not_or]
    exact ⟨by decide, ⟨⟨hname, by decide, by decide⟩, hescaped⟩, by decide⟩

theorem Fence.opening_not_mem_markup {marks language : Text} {code : List Text}
    (hlanguage : Stash.opening ∉ language) (hcode : ∀ l ∈ code, Stash.opening ∉ l) :
    Stash.opening ∉ ({ marks, language } : Fence).markup code := by
  have hlines : Stash.opening ∉ code.flatMap (· ++ ['\n']) := by
    intro hmem
    obtain ⟨l, hl, hmem⟩ := List.mem_flatMap.1 hmem
    exact (List.mem_append.1 hmem).elim (hcode l hl) (by decide)
  have hescaped : Stash.opening ∉ escape .doubleOnly (code.flatMap (· ++ ['\n'])) :=
    not_mem_escape (by decide) (by decide) (by decide) hlines
  have hclass : Stash.opening ∉ attributeText "class" language :=
    opening_not_mem_attributeText (by decide) hlanguage
  unfold markup
  simp only [List.mem_append, not_or]
  exact ⟨⟨⟨⟨⟨⟨⟨by decide, by decide⟩, by decide⟩, by decide⟩, hclass⟩, by decide⟩, hescaped⟩,
    by decide⟩

theorem isBlockMarkup_markup (marks language : Text) (code : List Text) :
    isBlockMarkup (({ marks, language } : Fence).markup code) = true := by
  have hname : isBlockMarkup (({ marks, language } : Fence).markup code) =
      (decide ('p' = '!') || decide ('p' = '?') || decide ('p' = '@') || decide ('p' = '%') ||
        isBlockTag "pre".toList) := rfl
  rw [hname, isBlockTag_pre, Bool.or_true]

end Markdown

namespace Toc

theorem Found.onLine_paragraph (k : Nat) :
    let written := "<p>".toList ++ token k ++ "</p>".toList
    reader.OnLine written [.part ⟨k, written⟩] := by
  intro written
  refine Text.Reader.onLine_of_read? fun e _ => ?_
  have hbefore : Text.stripOptional "<p>".toList (written ++ e) =
      token k ++ ("</p>".toList ++ e) := by
    simp only [written, List.append_assoc, Text.stripOptional, Text.strip?_append, Option.getD_some]
  have hafter : Text.stripOptional "</p>".toList ("</p>".toList ++ e) = e := by
    rw [Text.stripOptional, Text.strip?_append, Option.getD_some]
  simp only [reader, found?, hbefore, token?_token, Option.map_some, hafter, List.length_append,
    Nat.add_sub_cancel, List.take_left]

/-- A token in a paragraph holds one mark of what is put aside, and no marker begins there. -/
theorem exists_paragraph_eq (k : Nat) :
    ∃ rest, "<p>".toList ++ token k ++ "</p>".toList =
        '<' :: 'p' :: '>' :: Stash.opening :: 'm' :: rest ∧ Stash.opening ∉ rest := by
  refine ⟨"dextra-toc:".toList ++ (Text.ofNat k ++ Stash.closing :: "</p>".toList), ?_, ?_⟩
  · simp only [token, tokenOpening, List.append_assoc]
    rfl
  · simp only [List.mem_append, List.mem_cons, not_or]
    exact ⟨by decide, Text.not_mem_ofNat (by decide) k, by decide, by decide⟩

/-- No block comes back inside a token in a paragraph of its own. -/
theorem restoreTo_paragraph (st : Stash) (depth k : Nat) :
    let written := "<p>".toList ++ token k ++ "</p>".toList
    Markdown.restoreTo st depth written = written := by
  intro written
  obtain ⟨rest, hwritten, hrest⟩ := exists_paragraph_eq k
  have hskips : Markdown.FoundMarker.reader.Skips true
      ('<' :: 'p' :: '>' :: Stash.opening :: 'm' :: rest) [] :=
    ⟨rfl, rfl, rfl, rfl, rfl,
      Markdown.FoundMarker.needsOnLine_reader.skips (by decide) hrest (.inl rfl) _⟩
  have hsame : written = '<' :: 'p' :: '>' :: Stash.opening :: 'm' :: rest := hwritten
  rw [hsame]
  exact Markdown.restoreTo_of_skips st depth hskips

/-- Nor does a mark of another kind stand in it. -/
theorem nowhere_paragraph (k : Nat) {c : Char} (hc : c ≠ 'm') {w t : Text}
    (ht : Text.Nowhere (Text.strip? (Stash.opening :: c :: w)) t) :
    Text.Nowhere (Text.strip? (Stash.opening :: c :: w))
      ("<p>".toList ++ token k ++ "</p>".toList ++ t) := by
  obtain ⟨rest, hwritten, hrest⟩ := exists_paragraph_eq k
  have hread : ∀ d s, d ≠ Stash.opening → Text.strip? (Stash.opening :: c :: w) (d :: s) = none :=
    fun d s hd => if_neg (Ne.symm hd)
  have hmark : Text.strip? (Stash.opening :: c :: w) (Stash.opening :: 'm' :: (rest ++ t)) = none :=
    (if_pos rfl).trans (if_neg hc)
  rw [hwritten]
  exact ⟨rfl, rfl, rfl, Option.isNone_iff_eq_none.2 hmark,
    Option.isNone_iff_eq_none.2 (hread 'm' _ (by decide)), Text.nowhere_append hread hrest ht⟩

end Toc

namespace Listing

open Markdown
open Prose (IsCalm)

/-! ## Boxes in their written form -/

/-- What is written of a part before what was put aside of it comes back. -/
def segment : Part × Nat → Text
  | (.paragraph words, _) => "<p>".toList ++ Prose.line (words.map .word) ++ "</p>".toList
  | (.fenced _ _ _, k) | (.placeholder _, k) => "<p>".toList ++ Stash.marker k ++ "</p>".toList
  | (.indented code, _) => "<pre><code>".toList ++ escaped code ++ "</code></pre>".toList

theorem isCalm_words {words : List Text} (h : ∀ w ∈ words, Text.IsPlain w) :
    IsCalm (Prose.line (words.map .word)) where
  settled := isSettled_of_not_mem (not_mem_words h (by decide) (by decide))
    (not_mem_words h (by decide) (by decide))
  quiet c hc hmem := by
    have hnot : ∀ d ∈ triggers, ¬ Text.IsLetter d ∧ d ≠ ' ' := by decide
    exact not_mem_words h (hnot c hmem).1 (hnot c hmem).2 hc
  bracket := not_mem_words h (by decide) (by decide)
  unmarked := Text.nowhere_of_not_mem Node.marker?_of_ne (not_mem_words h (by decide) (by decide))

theorem isCalm_marker (k : Nat) : IsCalm (Stash.marker k) := by
  have hrest : Stash.opening ∉ "wzxhzdk:".toList ++ Text.ofNat k ++ [Stash.closing] := by
    simp only [List.mem_append, not_or]
    exact ⟨⟨by decide, Text.not_mem_ofNat (by decide) k⟩, by decide⟩
  have hmarker : Stash.marker k =
      Stash.opening :: ("wzxhzdk:".toList ++ Text.ofNat k ++ [Stash.closing]) := rfl
  have hescaped : Text.Nowhere Node.escaped? (Stash.marker k) :=
    hmarker ▸ ⟨rfl, Text.nowhere_of_not_mem Node.escaped?_of_ne hrest⟩
  have hunmarked : Node.Unmarked (Stash.marker k) :=
    hmarker ▸ ⟨rfl, Text.nowhere_of_not_mem Node.marker?_of_ne hrest⟩
  refine ⟨⟨Stash.not_mem_marker (by decide) (by decide) k, hescaped⟩, fun c hc hmem => ?_,
    Stash.not_mem_marker (by decide) (by decide) k, hunmarked⟩
  have hnot : ∀ d ∈ triggers, Text.isAsciiDigit d = false ∧ d ∉ "\x02wzxhzdk:\x03".toList := by
    decide
  exact Stash.not_mem_marker (hnot c hmem).1 (hnot c hmem).2 k hc

theorem escapeChar_plain {c : Char} (h : c ∉ "&<>".toList) : Html.escapeChar .plain c = [c] := by
  have hne : ∀ d ∈ "&<>".toList, c ≠ d := fun d hd he => h (he ▸ hd)
  rw [Html.escapeChar, if_neg (hne _ (by decide)), if_neg (hne _ (by decide)),
    if_neg (hne _ (by decide))]
  split
  · next hdouble => exact hdouble ▸ rfl
  split
  · next hsingle => exact hsingle ▸ rfl
  · rfl

theorem isPlain_text {s : Text} (h : IsCalm s) (hs : ∀ c ∈ "&<>".toList, c ∉ s) :
    (Box.text s).IsPlain :=
  ⟨h, fun c hc => escapeChar_plain fun hmem => hs c hmem hc⟩

theorem isPlain_boxOf {x : Part × Nat} (hsound : x.1.IsSound) (m : Nat) : (boxOf m x).IsPlain := by
  have hmarker : ∀ k, (Box.text (Stash.marker k)).IsPlain := fun k =>
    isPlain_text (isCalm_marker k) fun c hc => by
      have hnot : ∀ d ∈ "&<>".toList,
          Text.isAsciiDigit d = false ∧ d ∉ "\x02wzxhzdk:\x03".toList := by decide
      exact Stash.not_mem_marker (hnot c hc).1 (hnot c hc).2 k
  obtain ⟨p, k⟩ := x
  cases p with
  | paragraph words =>
    refine isPlain_text (isCalm_words hsound.2) fun c hc => ?_
    have hnot : ∀ d ∈ "&<>".toList, ¬ Text.IsLetter d ∧ d ≠ ' ' := by decide
    exact not_mem_words hsound.2 (hnot c hc).1 (hnot c hc).2
  | fenced marks language code => exact hmarker k
  | placeholder line => exact hmarker k
  | indented code => exact trivial

/-! ## Indented code -/

theorem IsChunked.unlines_ne_nil {code : List Text} (h : IsChunked code) :
    Text.unlines code ≠ [] := by
  obtain ⟨l, ls, rfl, hl⟩ := h.exists_cons
  rw [Text.unlines_cons]
  exact List.append_ne_nil_of_left_ne_nil hl _

theorem IsChunked.trimEnd {code : List Text} (h : IsChunked code) :
    Text.trimEnd (Text.unlines code) = Text.unlines code := by
  induction h with
  | one h => exact h.trimEnd
  | @cons chunk code n h hcode ih =>
    obtain ⟨l, ls, rfl, -⟩ := hcode.exists_cons
    have hsplit : ∀ s t : Text, s ++ '\n' :: '\n' :: (Text.copies n '\n' ++ t) =
        (s ++ '\n' :: '\n' :: Text.copies n '\n') ++ t := fun s t => by simp
    rw [unlines_chunk_append n h.ne_nil (List.cons_ne_nil l ls), hsplit]
    exact trimEnd_append hcode.unlines_ne_nil ih

theorem trimEnd_escape {s : Text} (h : Text.trimEnd s = s) :
    Text.trimEnd (Html.escape .plain s) = Html.escape .plain s := by
  rcases List.eq_nil_or_concat' s with rfl | ⟨t, c, rfl⟩
  · rfl
  · have hblank : Text.isBlank c ≠ true := by
      have hlast := List.rdropWhile_eq_self_iff.1 h (by simp)
      rwa [List.getLast_append_singleton] at hlast
    have hchar : Html.escapeChar .plain c ≠ [] ∧
        Text.trimEnd (Html.escapeChar .plain c) = Html.escapeChar .plain c := by
      refine Html.escapeChar_cases .plain
        (P := fun c t => Text.isBlank c ≠ true → t ≠ [] ∧ Text.trimEnd t = t)
        (fun _ => by decide) (fun _ => by decide) (fun _ => by decide) (fun _ => by decide)
        (fun _ => by decide) (fun c _ hblank => ?_) c hblank
      exact ⟨List.cons_ne_nil c [], List.rdropWhile_eq_self_iff.2 fun _ => hblank⟩
    rw [Html.escape_append, Html.escape_cons, Html.escape_nil, List.append_nil]
    exact trimEnd_append hchar.1 hchar.2

theorem escaped_eq (code : List Text) :
    escaped code = Html.escape .plain (Text.unlines code ++ ['\n']) := by
  rw [Html.escape_append]
  rfl

theorem trimEnd_append_copies (s : Text) (n : Nat) :
    Text.trimEnd (s ++ Text.copies n '\n') = Text.trimEnd s := by
  induction n with
  | zero => exact congrArg Text.trimEnd (List.append_nil s)
  | succ n ih =>
    have hlast : Text.copies (n + 1) '\n' = Text.copies n '\n' ++ ['\n'] := List.replicate_succ'
    have hblank : Text.isBlank '\n' = true := by decide
    rw [hlast, ← List.append_assoc]
    exact (List.rdropWhile_concat_pos _ _ _ hblank).trans ih

theorem markup_boxOf {x : Part × Nat} (h : IsReadable x) (m : Nat) :
    (boxOf m x).markup = segment x := by
  obtain ⟨p, k⟩ := x
  cases p with
  | indented code =>
    have htrim : Text.trimEnd (escaped code ++ Text.copies m '\n') ++ ['\n'] = escaped code := by
      have hlines : escaped code ++ Text.copies m '\n' =
          Html.escape .plain (Text.unlines code) ++ Text.copies (m + 1) '\n' :=
        List.append_assoc _ _ _
      rw [hlines, trimEnd_append_copies, trimEnd_escape (IsChunked.trimEnd h)]
      rfl
    have hescape : Html.escapeOnce .plain (escaped code) = escaped code := by
      rw [escaped_eq, Html.escapeOnce_escape Html.isSound_plain]
    have hbox : boxOf m (.indented code, k) = .code (escaped code ++ Text.copies m '\n') := rfl
    rw [hbox, markup_code, htrim, hescape]
    rfl
  | _ => rfl

/-! ## Blocks in place of their markers -/

/-- What the number of a part leads to, when blocks are put aside and placeholders from the block
with index `t` on. -/
def LeadsTo (t : Nat) (blocks placeholders : List Text) : Part × Nat → Prop
  | (.fenced marks language code, k) =>
    blocks[k]? = some (({ marks, language } : Fence).markup code)
  | (.placeholder line, k) =>
    t ≤ k ∧ blocks[k]? = some (Toc.token (k - t)) ∧ placeholders[k - t]? = some line
  | _ => True

/-- What is written of a part once blocks are back. -/
def restored (t : Nat) : Part × Nat → Text
  | (.fenced marks language code, _) => ({ marks, language } : Fence).markup code
  | (.placeholder _, k) => "<p>".toList ++ Toc.token (k - t) ++ "</p>".toList
  | x => segment x

/-- The parts that are put aside are numbered in order. -/
theorem exists_of_mem_number {f t : Nat} {ps : List Part} :
    ∀ x ∈ number f t ps, match x with
      | (.fenced marks language code, k) => ∃ i, k = f + i ∧
        (fences ps)[i]? = some (({ marks, language } : Fence).markup code)
      | (.placeholder line, k) => ∃ i, k = t + i ∧ (placeholders ps)[i]? = some line
      | _ => True := by
  induction ps generalizing f t with
  | nil => exact fun x hx => absurd hx List.not_mem_nil
  | cons p ps ih =>
    cases p with
    | paragraph words => exact List.forall_mem_cons.2 ⟨trivial, ih⟩
    | indented code => exact List.forall_mem_cons.2 ⟨trivial, ih⟩
    | fenced marks language code =>
      refine List.forall_mem_cons.2 ⟨⟨0, rfl, rfl⟩, fun x hx => ?_⟩
      have hx := ih x hx
      obtain ⟨p, k⟩ := x
      cases p with
      | fenced marks' language' code' =>
        obtain ⟨i, rfl, hi⟩ := hx
        exact ⟨i + 1, by omega, hi⟩
      | _ => exact hx
    | placeholder line =>
      refine List.forall_mem_cons.2 ⟨⟨0, rfl, rfl⟩, fun x hx => ?_⟩
      have hx := ih x hx
      obtain ⟨p, k⟩ := x
      cases p with
      | placeholder line' =>
        obtain ⟨i, rfl, hi⟩ := hx
        exact ⟨i + 1, by omega, hi⟩
      | _ => exact hx

theorem leadsTo_number (ps : List Part) :
    ∀ x ∈ number 0 (fences ps).length ps,
      LeadsTo (fences ps).length (fences ps ++ tokens 0 ps) (placeholders ps) x := by
  intro x hx
  have hx := exists_of_mem_number x hx
  obtain ⟨p, k⟩ := x
  cases p with
  | fenced marks language code =>
    obtain ⟨i, rfl, hi⟩ := hx
    have hlength := (List.getElem?_eq_some_iff.1 hi).1
    rw [LeadsTo, Nat.zero_add, List.getElem?_append_left hlength, hi]
  | placeholder line =>
    obtain ⟨i, rfl, hi⟩ := hx
    have hlength := (List.getElem?_eq_some_iff.1 hi).1
    refine ⟨Nat.le_add_right _ i, ?_, ?_⟩
    · rw [Nat.add_sub_cancel_left, List.getElem?_append_right (Nat.le_add_right _ i),
        Nat.add_sub_cancel_left, tokens, List.getElem?_map, List.getElem?_range' hlength]
      simp
    · rw [Nat.add_sub_cancel_left, hi]
  | _ => trivial

section Part

variable {x : Part × Nat} (hsound : x.1.IsSound) (hclean : IsClean x.1)
include hsound hclean

/-- Once blocks are back, markers are left in the place of placeholders only. -/
theorem opening_not_mem_restored (t : Nat) (hplaceholder : x.1.placeholder? = none) :
    Stash.opening ∉ restored t x := by
  have htags : ∀ {s u v : Text}, Stash.opening ∉ s → Stash.opening ∉ u → Stash.opening ∉ v →
      Stash.opening ∉ s ++ u ++ v := fun hs hu hv hmem =>
    (List.mem_append.1 hmem).elim (fun hmem => (List.mem_append.1 hmem).elim hs hu) hv
  obtain ⟨p, k⟩ := x
  cases p with
  | paragraph words =>
    exact htags (by decide) (not_mem_words hsound.2 (by decide) (by decide)) (by decide)
  | fenced marks language code =>
    refine Fence.opening_not_mem_markup (fun hmem => ?_) fun l hl hmem => ?_
    · exact ((hclean _ List.mem_cons_self).2 _ (List.mem_append_right marks hmem)).1 rfl
    · refine ((hclean l (List.mem_cons_of_mem _ ?_)).2 _ hmem).1 rfl
      exact List.mem_append_left _ hl
  | indented code =>
    have hcode : Stash.opening ∉ Text.unlines code := not_mem_unlines (by decide) fun l hl hmem =>
      ((hclean _ (List.mem_map_of_mem hl)).2 _ (subset_indent l hmem)).1 rfl
    have hescaped : Stash.opening ∉ escaped code := fun hmem => (List.mem_append.1 hmem).elim
      (Html.not_mem_escape (by decide) (by decide) (by decide) hcode) (by decide)
    exact htags (by decide) hescaped (by decide)
  | placeholder line => cases hplaceholder

end Part

theorem map_eq_of_forall₂ {α β γ : Type} {f : α → γ} {g : β → γ} {as : List α} {bs : List β}
    (h : List.Forall₂ (fun a b => g b = f a) as bs) : bs.map g = as.map f := by
  rw [← List.forall₂_eq_eq_eq, List.forall₂_map_left_iff, List.forall₂_map_right_iff]
  exact h.flip

section Restored

variable {t : Nat} {stash : Stash} {phs : List Text} {xs : List (Part × Nat)}
  (hsound : ∀ x ∈ xs, x.1.IsSound) (hclean : ∀ x ∈ xs, IsClean x.1)

include hsound hclean

/-- Fenced code and the tokens of placeholders come back in place of their markers. -/
theorem restoreBlocks_segments (h : ∀ x ∈ xs, LeadsTo t stash.blocks phs x) :
    restoreBlocks stash (Text.unlines (xs.map segment)) = Text.unlines (xs.map (restored t)) := by
  have hline : ∀ x ∈ xs, ∃ ps, FoundMarker.reader.OnLine (segment x) ps ∧
      Text.Piece.fill (FoundMarker.replacement stash) ps = restored t x := by
    intro x hx
    have hopening := opening_not_mem_restored (hsound x hx) (hclean x hx) t
    have hblock := h x hx
    have hsame : ∀ {s : Text}, Stash.opening ∉ s → ∃ ps, FoundMarker.reader.OnLine s ps ∧
        Text.Piece.fill (FoundMarker.replacement stash) ps = s := fun hmem =>
      ⟨_, FoundMarker.needsOnLine_reader.onLine (by decide) hmem, Text.Piece.fill_map_char _ _⟩
    obtain ⟨p, k⟩ := x
    cases p with
    | paragraph words => exact hsame (hopening rfl)
    | indented code => exact hsame (hopening rfl)
    | fenced marks language code =>
      have hback : comeBack true (({ marks, language } : Fence).markup code) =
          ({ marks, language } : Fence).markup code := by
        rw [comeBack, isBlockMarkup_markup]
        rfl
      have hkeep : restoreTo stash stash.blocks.length (({ marks, language } : Fence).markup code) =
          ({ marks, language } : Fence).markup code := restoreTo_of_not_mem _ _ (hopening rfl)
      refine ⟨_, FoundMarker.onLine_paragraph k, ?_⟩
      rw [Text.Piece.fill_part, FoundMarker.replacement, hblock]
      dsimp only
      rw [hback, hkeep]
      exact List.append_nil _
    | placeholder line =>
      have hback : comeBack true (Toc.token (k - t)) =
          "<p>".toList ++ Toc.token (k - t) ++ "</p>".toList := rfl
      refine ⟨_, FoundMarker.onLine_paragraph k, ?_⟩
      rw [Text.Piece.fill_part, FoundMarker.replacement, hblock.2.1]
      dsimp only
      rw [hback, Toc.restoreTo_paragraph]
      exact List.append_nil _
  obtain ⟨pss, hpieces, hfill⟩ :=
    (FoundMarker.needsOnLine_reader.stopsAtLineEnd (by decide)).exists_pieces hline
  rw [restoreBlocks_eq_fill, hpieces, Text.Piece.fill_intercalate, map_eq_of_forall₂ hfill]

/-- No mark is left of those that are replaced at the end. -/
theorem finish_restored :
    finishAmpersands (finishFootnotes (Text.unlines (xs.map (restored t)))) =
      Text.unlines (xs.map (restored t)) := by
  have hnowhere : ∀ {c : Char} {w : Text}, c ≠ 'm' →
      Text.Nowhere (Text.strip? (Stash.opening :: c :: w))
        (Text.unlines (xs.map (restored t))) := by
    intro c w hc
    have hread : ∀ d s, d ≠ Stash.opening →
        Text.strip? (Stash.opening :: c :: w) (d :: s) = none := fun d s hd => if_neg (Ne.symm hd)
    refine Text.nowhere_unlines (fun s => hread '\n' s (by decide))
      (List.forall_mem_map.2 fun x hx u hu => ?_)
    have hopening := opening_not_mem_restored (hsound x hx) (hclean x hx) t
    obtain ⟨p, k⟩ := x
    cases p with
    | placeholder line => exact Toc.nowhere_paragraph (k - t) hc hu
    | _ => exact Text.nowhere_append hread (hopening rfl) hu
  have hback : Text.Nowhere (Text.strip? Footnotes.backlinkMark) _ :=
    hnowhere (c := 'z') (by decide)
  have hspace : Text.Nowhere (Text.strip? Footnotes.spaceMark) _ := hnowhere (c := 'q') (by decide)
  have hand : Text.Nowhere (Text.strip? ampersandMark) _ := hnowhere (c := 'a') (by decide)
  rw [finishFootnotes, Text.replaceAll_of_nowhere (by decide) hback,
    Text.replaceAll_of_nowhere (by decide) hspace, finishAmpersands,
    Text.replaceAll_of_nowhere (by decide) hand]

/-- A table takes the place of each token, and nothing else is reported. -/
theorem restore_restored (src : Toc.Source) (h : ∀ x ∈ xs, LeadsTo t stash.blocks phs x) :
    Toc.restore src phs (Text.unlines (xs.map (restored t))) =
      (Text.unlines (xs.map fun x => x.1.markup src), xs.flatMap fun x => x.1.warnings src) := by
  have hline : ∀ x ∈ xs, ∃ ps, Toc.Found.reader.OnLine (restored t x) ps ∧
      Text.Piece.fill (fun f => (f.table src phs).1) ps = x.1.markup src ∧
      ((Text.Piece.parts ps).flatMap fun f => (f.table src phs).2) = x.1.warnings src := by
    intro x hx
    have hopening := opening_not_mem_restored (hsound x hx) (hclean x hx) t
    have hfound := h x hx
    have hsame : ∀ {s : Text}, Stash.opening ∉ s → ∃ ps, Toc.Found.reader.OnLine s ps ∧
        Text.Piece.fill (fun f => (f.table src phs).1) ps = s ∧
        ((Text.Piece.parts ps).flatMap fun f => (f.table src phs).2) = [] := fun hmem =>
      ⟨_, Toc.Found.needsOnLine_reader.onLine (by decide) hmem, Text.Piece.fill_map_char _ _,
        by rw [Text.Piece.parts_map_char, List.flatMap_nil]⟩
    obtain ⟨p, k⟩ := x
    cases p with
    | paragraph words => exact hsame (hopening rfl)
    | fenced marks language code => exact hsame (hopening rfl)
    | indented code =>
      have hcode : code ≠ [] := IsCode.ne_nil (hsound _ hx)
      have hmarkup : (Part.indented code).markup src = restored t (.indented code, k) := by
        have hlines : Html.escape .plain (code.flatMap (· ++ ['\n'])) = escaped code := by
          rw [Text.flatMap_lineEnd hcode, escaped_eq]
        exact congrArg ("<pre><code>".toList ++ · ++ "</code></pre>".toList) hlines
      rw [hmarkup]
      exact hsame (hopening rfl)
    | placeholder line =>
      refine ⟨_, Toc.Found.onLine_paragraph (k - t), ?_, ?_⟩
      · rw [Text.Piece.fill_part, Toc.Found.table, hfound.2.2]
        exact List.append_nil _
      · rw [Text.Piece.parts_part, List.flatMap_cons, Toc.Found.table, hfound.2.2]
        exact List.append_nil _
  obtain ⟨pss, hpieces, hall⟩ :=
    (Toc.Found.needsOnLine_reader.stopsAtLineEnd (by decide)).exists_pieces hline
  have hfill := map_eq_of_forall₂ (hall.imp fun _ _ h => h.1)
  have hparts := map_eq_of_forall₂ (hall.imp fun _ _ h => h.2)
  have hwarnings : (pss.flatMap Text.Piece.parts).flatMap (fun f => (f.table src phs).2) =
      xs.flatMap fun x => x.1.warnings src := by
    rw [List.flatMap_assoc, List.flatMap_def, hparts, List.flatMap_def]
  rw [Toc.restore, hpieces, Text.Piece.fill_intercalate, Text.Piece.parts_intercalate, hfill,
    hwarnings]

end Restored

end Listing

end WikiText
