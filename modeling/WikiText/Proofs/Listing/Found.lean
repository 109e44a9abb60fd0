import WikiText.Proofs.Listing.Rendered
import WikiText.Proofs.Listing.Tagged

/-!
# Blocks of code among parts

What the highlighter finds in the markup of words and of code with a language: code in a language
that is a word is a block, and everything else is passed over (`Part.IsTagged.onLine`).
-/

namespace WikiText

namespace Code

/-! ## Blank lines before code -/

theorem unlines_concat_nil (code : List Text) :
    Text.unlines (code ++ [[]]) = code.flatMap (· ++ ['\n']) := by
  induction code with
  | nil => rfl
  | cons l code ih =>
    cases code with
    | nil => rfl
    | cons m code =>
      rw [List.flatMap_cons, ← ih, List.append_assoc]
      exact Text.unlines_cons_cons l m _

theorem lines_flatMap {code : List Text} (h : ∀ l ∈ code, '\n' ∉ l) :
    Text.lines (code.flatMap (· ++ ['\n'])) = code ++ [[]] := by
  rw [← unlines_concat_nil, Text.lines_unlines (by simp)]
  exact List.forall_mem_append.2 ⟨h, List.forall_mem_singleton.2 List.not_mem_nil⟩

theorem dropBlank_concat_nil {code : List Text} (h : ∃ l ∈ code, isBlankLine l = false) :
    dropBlank (code ++ [[]]) = code.dropWhile isBlankLine ++ [[]] := by
  induction code with
  | nil => exact absurd h (by simp)
  | cons l code ih =>
    have hnext : ∃ m ms, code ++ [[]] = m :: ms := List.exists_cons_of_ne_nil (by simp)
    obtain ⟨m, ms, hms⟩ := hnext
    rw [List.cons_append, hms, dropBlank, ← hms]
    cases hl : isBlankLine l with
    | true =>
      rw [if_pos rfl, List.dropWhile_cons_of_pos hl]
      obtain ⟨k, hk, hblank⟩ := h
      rcases List.mem_cons.1 hk with rfl | hk
      · exact absurd (hl.symm.trans hblank) (by decide)
      · exact ih ⟨k, hk, hblank⟩
    | false =>
      have hstays : ¬ isBlankLine l = true := by rw [hl]; exact Bool.false_ne_true
      rw [if_neg Bool.false_ne_true, List.dropWhile_cons_of_neg hstays]
      rfl

/-- Lines of code, not all of them blank, are left without the blank ones that they begin with. -/
theorem dropBlankLines_flatMap {code : List Text} (hends : ∀ l ∈ code, '\n' ∉ l)
    (h : ∃ l ∈ code, isBlankLine l = false) :
    dropBlankLines (code.flatMap (· ++ ['\n'])) =
      (code.dropWhile isBlankLine).flatMap (· ++ ['\n']) := by
  rw [dropBlankLines, lines_flatMap hends, dropBlank_concat_nil h, unlines_concat_nil]

/-! ## Text between blocks -/

theorem read?_of_opening? {s : Text} (h : Block.opening? s = none) : Block.read? s = none := by
  rw [Block.read?, h]
  rfl

theorem skips_text {g : Text} (hg : '<' ∉ g) (b : Bool) (rest : Text) :
    Block.reader.Skips b g rest := by
  induction g generalizing b with
  | nil => trivial
  | cons c g ih =>
    rw [List.mem_cons, not_or] at hg
    refine ⟨?_, ih hg.2 _⟩
    change (if b = true then Block.read? _ else none) = none
    rw [read?_of_classed? (classed?_of_ne (Ne.symm hg.1) _), ite_self]

/-- A tag behind its bracket. -/
theorem skips_tag (tag : String) {g rest : Text} (htag : '<' ∉ tag.toList)
    (h : Block.read? ('<' :: (tag.toList ++ (g ++ rest))) = none)
    (hg : ∀ b, Block.reader.Skips b g rest) (b : Bool) :
    Block.reader.Skips b ('<' :: (tag.toList ++ g)) rest := by
  refine ⟨?_, Text.Reader.skips_append (skips_text htag _ _) (hg _)⟩
  change (if b = true then Block.read? _ else none) = none
  rw [List.append_assoc, h, ite_self]

/-- A language that is no word is not read. -/
theorem opening?_of_not_word {language : Text} (h : language.all Text.isWord = false)
    (hquote : '"' ∉ language) (s : Text) :
    Block.opening? ("<pre><code class=\"".toList ++ (language ++ ("\">".toList ++ s))) = none := by
  refine Option.eq_none_iff_forall_ne_some.2 fun (gap, word, rest) hread => ?_
  obtain ⟨htags, ⟨hne, hgap⟩, -, hword⟩ := Block.eq_of_opening? hread
  have hfront : ' ' :: 'c' :: ("lass=\"".toList ++ (language ++ ("\">".toList ++ s))) =
      gap ++ 'c' :: ("lass=\"".toList ++ (word ++ ("\">".toList ++ rest))) := by
    refine (List.append_right_inj "<pre><code".toList).1 (htags.trans ?_)
    unfold Block.startTags
    simp only [List.append_assoc]
    rfl
  have hc : ∀ {g : Text}, g.all Text.isBlank = true → 'c' ∉ g := fun hg hmem =>
    absurd (List.all_eq_true.1 hg _ hmem) (by decide)
  obtain ⟨-, hclass⟩ := Text.eq_of_append_cons (hc (g := [' ']) (by decide)) (hc hgap) hfront
  have hlanguage : language ++ '"' :: ('>' :: s) = word ++ '"' :: ('>' :: rest) :=
    List.append_cancel_left hclass
  have hquote' : '"' ∉ word := fun hmem =>
    absurd (List.all_eq_true.1 hword _ hmem) (by decide)
  obtain ⟨rfl, -⟩ := Text.eq_of_append_cons hquote hquote' hlanguage
  exact Bool.false_ne_true (h.symm.trans hword)

end Code

namespace Listing

open Markdown

/-! ## Parts as blocks -/

/-- The lines of code as their author wrote them. -/
def codeOf (language : Text) (code : List Text) : Code.Authored :=
  ⟨language, code.flatMap (· ++ ['\n'])⟩

theorem markup_eq_codeOf {language : Text} (h : Fence.IsTag language) (marks : Text)
    (code : List Text) :
    ({ marks, language } : Fence).markup code = (codeOf language code).markup := by
  have hescape : Html.escapeOnce .doubleOnly language = language := by
    refine Html.IsVerbatim.escapeOnce (fun c hc hmem => ?_) _
    have hmarks : ∀ d ∈ "&<>\"\x27".toList, Fence.isLanguageChar d = false := by decide
    exact h.not_mem (hmarks c hmem) hc
  have hne : language.isEmpty = false := List.isEmpty_eq_false_iff.2 h.ne_nil
  have hclass : Fence.attributeText "class" language =
      " class=\"".toList ++ language ++ ['"'] := by
    rw [Fence.attributeText, hne, hescape]
    rfl
  have hmarkup : ({ marks, language } : Fence).markup code =
      "<pre><code".toList ++ (Fence.attributeText "class" language ++ (['>'] ++
        (Html.escape .doubleOnly (codeOf language code).code ++ Code.closing))) := by
    simp only [← List.append_assoc]
    rfl
  have hopening : "<pre><code class=\"".toList = "<pre><code".toList ++ " class=\"".toList := rfl
  have hend : "\">".toList = ['"'] ++ ['>'] := rfl
  unfold Code.Authored.markup
  simp only [hmarkup, hclass, hopening, hend, List.append_assoc]
  rfl

theorem valid_codeOf {language : Text} (h : Fence.IsTag language)
    (hword : language.all Text.isWord = true) {code : List Text} (hends : ∀ l ∈ code, '\n' ∉ l)
    (hcode : ∃ l ∈ code, Code.isBlankLine l = false) : (codeOf language code).Valid where
  language := ⟨h.ne_nil, hword⟩
  code := by
    obtain ⟨l, hl, hblank⟩ := hcode
    have hne : code.dropWhile Code.isBlankLine ≠ [] := fun hnil =>
      Bool.false_ne_true (hblank.symm.trans (List.dropWhile_eq_nil_iff.1 hnil l hl))
    obtain ⟨m, ms, hms⟩ := List.exists_cons_of_ne_nil hne
    rw [codeOf, Code.dropBlankLines_flatMap hends ⟨l, hl, hblank⟩, hms, List.flatMap_cons]
    exact List.append_ne_nil_of_left_ne_nil (by simp) _

namespace Part

/-- What the engine is called with for a part: code in a language that is a word, without the blank
lines that it begins with, and the language in lower case. -/
def call? : Part → Option (Text × Text)
  | .fenced _ language code =>
    if language.all Text.isWord then
      some ((code.dropWhile Code.isBlankLine).flatMap (· ++ ['\n']), Text.lower language)
    else none
  | _ => none

/-- The pieces of a part. -/
def pieces (src : Toc.Source) : Part → List (Text.Piece Code.Block)
  | .fenced marks language code =>
    if language.all Text.isWord then [.part (codeOf language code).block]
    else ((Part.fenced marks language code).markup src).map .char
  | p => (p.markup src).map .char

theorem stopsAtLineEnd : Code.Block.reader.StopsAtLineEnd := by
  intro b s
  change (if b = true then Code.Block.read? _ else none) = none
  rw [Code.read?_of_classed? (Code.classed?_of_ne (by decide) s), ite_self]

theorem skips_words {words : List Text} (h : ∀ w ∈ words, Text.IsPlain w) (src : Toc.Source)
    (rest : Text) : Code.Block.reader.Skips true ((Part.paragraph words).markup src) rest := by
  have hwords : '<' ∉ Prose.line (words.map .word) := not_mem_words h (by decide) (by decide)
  have hclosing : ∀ b, Code.Block.reader.Skips b "</p>".toList rest := fun b =>
    Code.skips_tag "/p>" (by decide) rfl (fun _ => trivial) b (g := [])
  have hmarkup : (Part.paragraph words).markup src =
      "<p>".toList ++ (Prose.line (words.map .word) ++ "</p>".toList) :=
    List.append_assoc _ _ _
  rw [hmarkup]
  exact Code.skips_tag "p>" (by decide) rfl
    (fun b => Text.Reader.skips_append (Code.skips_text hwords b _) (hclosing _)) true

/-- Code in a language that is no word is passed over. -/
theorem skips_code {language : Text} (h : Fence.IsTag language)
    (hword : language.all Text.isWord = false) (marks : Text) (code : List Text)
    (src : Toc.Source) (rest : Text) :
    Code.Block.reader.Skips true ((Part.fenced marks language code).markup src) rest := by
  let inside := language ++ ("\">".toList ++ Html.escape .doubleOnly (codeOf language code).code)
  have hinside : '<' ∉ inside := by
    refine List.not_mem_append (h.not_mem (by decide)) (List.not_mem_append (by decide) ?_)
    exact Html.lt_not_mem_escape (by decide) (by decide) _
  have hopening : "<pre><code class=\"".toList =
      '<' :: ("pre>".toList ++ '<' :: "code class=\"".toList) := rfl
  have hclosing : ∀ b, Code.Block.reader.Skips b Code.closing rest := fun b =>
    Code.skips_tag "/code>" (by decide) rfl
      (fun b => Code.skips_tag "/pre>" (by decide) rfl (fun _ => trivial) b (g := [])) b
  have hmarkup : (Part.fenced marks language code).markup src =
      '<' :: ("pre>".toList ++ '<' :: ("code class=\"".toList ++ (inside ++ Code.closing))) := by
    refine (markup_eq_codeOf h marks code).trans ?_
    unfold Code.Authored.markup
    simp only [hopening, inside, List.append_assoc, List.cons_append]
    rfl
  have hread : Code.Block.read? ('<' :: ("pre>".toList ++
      ('<' :: ("code class=\"".toList ++ (inside ++ Code.closing)) ++ rest))) = none := by
    refine Code.read?_of_opening? ?_
    have hnone := Code.opening?_of_not_word hword (h.not_mem (c := '"') (by decide))
      (Html.escape .doubleOnly (codeOf language code).code ++ (Code.closing ++ rest))
    simp only [hopening, inside, List.append_assoc, List.cons_append] at hnone ⊢
    exact hnone
  rw [hmarkup]
  refine Code.skips_tag "pre>" (by decide) hread (fun _ => ?_) true
  refine Code.skips_tag "code class=\"" (by decide) rfl (fun _ => ?_) _
  exact Text.Reader.skips_append (Code.skips_text hinside _ _) (hclosing _)

theorem IsTagged.onLine {p : Part} (h : p.IsTagged) (hclean : IsClean p) (src : Toc.Source) :
    Code.Block.reader.OnLine (p.markup src) (p.pieces src) := by
  cases p with
  | indented code | placeholder line => exact h.elim
  | paragraph words => exact stopsAtLineEnd.onLine_of_skips fun e _ => skips_words h.2 src e
  | fenced marks language code =>
    obtain ⟨-, htag, -, hcode⟩ := h
    rw [Part.pieces]
    split
    · next hword =>
      have hends : ∀ l ∈ code, '\n' ∉ l := fun l hl =>
        (hclean l (List.mem_cons_of_mem _ (List.mem_append_left _ hl))).1
      refine Text.Reader.onLine_of_read? fun e _ => ?_
      have hmarkup : (Part.fenced marks language code).markup src =
          (codeOf language code).markup := markup_eq_codeOf htag marks code
      rw [hmarkup]
      exact Code.Authored.read?_markup (valid_codeOf htag hword hends hcode) e
    · next hword =>
      exact stopsAtLineEnd.onLine_of_skips fun e _ =>
        skips_code htag (Bool.eq_false_iff.2 hword) marks code src e

end Part

end Listing

end WikiText
