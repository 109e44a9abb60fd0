import WikiText.Proofs.Code.Written
import WikiText.Proofs.Listing.Convert
import WikiText.Proofs.Markdown.Fence

/-!
# Documents of words and code with languages

Paragraphs of words, and code between fences of which the first names a language.  An empty line
stands between two paragraphs; around code none is needed, as its marker is set apart in any case
(`Laid.holds`).
-/

namespace WikiText.Listing

open Markdown (Fence stashFencesFrom)

/-- Words in a line, or lines of code in a language.  None of these closes the fence, and they are
not all blank. -/
def Part.IsTagged : Part → Prop
  | .paragraph words => words ≠ [] ∧ ∀ w ∈ words, Text.IsPlain w
  | .fenced marks language code =>
    Fence.IsMarks marks ∧ Fence.IsTag language ∧
      (∀ l ∈ code, ({ marks, language } : Fence).closes l = false) ∧
      ∃ l ∈ code, Code.isBlankLine l = false
  | _ => False

instance : (p : Part) → Decidable p.IsTagged
  | .paragraph _ | .fenced _ _ _ => inferInstanceAs (Decidable (_ ∧ _))
  | .indented _ | .placeholder _ => .isFalse id

theorem Part.IsTagged.isSound {p : Part} (h : p.IsTagged) : p.IsSound := by
  cases p with
  | paragraph words => exact h
  | fenced marks language code =>
    obtain ⟨hmarks, htag, hcode, -⟩ := h
    exact ⟨Fence.ofLine?_tag hmarks htag, hcode⟩
  | indented code | placeholder line => exact h.elim

theorem Part.IsTagged.isIndented {p : Part} (h : p.IsTagged) : p.isIndented = false := by
  cases p with
  | indented code => exact h.elim
  | _ => rfl

/-- The document of such parts. -/
def ofTagged (ps : List Part) (h : ∀ p ∈ ps, p.IsTagged) : Document where
  parts := ps
  isSound p hp := (h p hp).isSound
  apart := (List.pairwise_of_forall_mem_list fun p hp _ _ => .inl (h p hp).isIndented).isChain

/-- The lines of such parts one after the other, with empty lines anywhere between them. -/
inductive Laid : List Text → List Part → Prop
  | nil : Laid [[]] []
  | gap {ls : List Text} {ps : List Part} : Laid ls ps → Laid ([] :: ls) ps
  | code (marks language : Text) (code : List Text) {ls : List Text} {ps : List Part} :
      Laid ls ps →
        Laid ((Part.fenced marks language code).lines ++ ls) (.fenced marks language code :: ps)
  | words (words : List Text) {ls : List Text} {ps : List Part} :
      Laid ls ps → Laid ((Part.paragraph words).lines ++ [] :: ls) (.paragraph words :: ps)
  /-- No empty line stands between words and code. -/
  | wordsBefore (words : List Text) (marks language : Text) (code : List Text) {ls : List Text}
      {ps : List Part} :
      Laid ls ps →
        Laid ((Part.paragraph words).lines ++ ((Part.fenced marks language code).lines ++ ls))
          (.paragraph words :: .fenced marks language code :: ps)

namespace Laid

variable {ls : List Text} {ps : List Part}

theorem mem (h : Laid ls ps) : ∀ p ∈ ps, p.lines ⊆ ls := by
  induction h with
  | nil => exact List.forall_mem_nil _
  | gap _ ih => exact fun p hp => List.subset_cons_of_subset [] (ih p hp)
  | code marks language code _ ih =>
    exact List.forall_mem_cons.2 ⟨List.subset_append_left _ _,
      fun p hp => List.subset_append_of_subset_right _ (ih p hp)⟩
  | words words _ ih =>
    exact List.forall_mem_cons.2 ⟨List.subset_append_left _ _, fun p hp =>
      List.subset_append_of_subset_right _ (List.subset_cons_of_subset [] (ih p hp))⟩
  | wordsBefore words marks language code _ ih =>
    exact List.forall_mem_cons.2 ⟨List.subset_append_left _ _, List.forall_mem_cons.2
      ⟨List.subset_append_of_subset_right _ (List.subset_append_left _ _), fun p hp =>
        List.subset_append_of_subset_right _ (List.subset_append_of_subset_right _ (ih p hp))⟩⟩

/-- An empty line stands before the marker of code. -/
theorem setAside_code {marks language : Text} {code : List Text}
    (h : (Part.fenced marks language code).IsSound) (hls : IsSetAside ls ps) (n k : Nat)
    (st st' : Stash) :
    let p := Part.fenced marks language code
    ∃ ms ns,
      stashFencesFrom ((p.lines ++ ls).length + n) (p.lines ++ ls) st =
          ([] :: ms, ⟨st.blocks ++ fences (p :: ps)⟩) ∧
        Toc.recordFrom k st' ([] :: ms) =
          ⟨[] :: ns, placeholders (p :: ps), ⟨st'.blocks ++ tokens k (p :: ps)⟩⟩ ∧
        Spaced kept ns (number st.blocks.length st'.blocks.length (p :: ps)) := by
  obtain ⟨hopening, hcode⟩ := h
  obtain ⟨ms, ns, hfences, hrecord, hspaced⟩ := hls (code.length + 1 + n) k
    ⟨st.blocks ++ [({ marks, language } : Fence).markup code]⟩ st'
  obtain ⟨hafter, hkept⟩ := setAside_fenced hopening hcode hfences hrecord
  rw [List.length_append, List.length_singleton] at hspaced
  refine ⟨_, _, hafter.trans ?_, hkept,
    hspaced.cons (Part.fenced marks language code, st.blocks.length)⟩
  rw [List.append_assoc]
  rfl

theorem setAside (h : Laid ls ps) (hps : ∀ p ∈ ps, p.IsTagged) : IsSetAside ls ps := by
  induction h with
  | nil => exact Spaced.nil.setAside (List.forall_mem_nil _)
  | gap _ ih =>
    intro n k st st'
    obtain ⟨ms, ns, hfences, hrecord, hspaced⟩ := ih hps n k st st'
    obtain ⟨hfences, hrecord⟩ := setAside_append forall_stays_nil hfences hrecord
    exact ⟨_, _, hfences, hrecord, hspaced.gap⟩
  | words words _ ih =>
    intro n k st st'
    obtain ⟨hwords, hps⟩ := List.forall_mem_cons.1 hps
    obtain ⟨ms, ns, hfences, hrecord, hspaced⟩ := ih hps n k st st'
    obtain ⟨hfences, hrecord⟩ :=
      setAside_append (List.forall_mem_singleton.2 (stays_line hwords.1 hwords.2)) hfences hrecord
    exact ⟨_, _, hfences, hrecord, hspaced.cons (Part.paragraph words, 0)⟩
  | code marks language code _ ih =>
    intro n k st st'
    obtain ⟨hcode, hps⟩ := List.forall_mem_cons.1 hps
    obtain ⟨ms, ns, hfences, hrecord, hspaced⟩ := setAside_code hcode.isSound (ih hps) n k st st'
    exact ⟨_, _, hfences, hrecord, hspaced.gap⟩
  | wordsBefore words marks language code _ ih =>
    intro n k st st'
    obtain ⟨hwords, hcode, hps⟩ : _ ∧ _ ∧ _ := by simpa only [List.forall_mem_cons] using hps
    obtain ⟨ms, ns, hfences, hrecord, hspaced⟩ := setAside_code hcode.isSound (ih hps) n k st st'
    have hstays : ∀ l ∈ (Part.paragraph words).lines, Stays l :=
      List.forall_mem_singleton.2 (stays_line hwords.1 hwords.2)
    refine ⟨(Part.paragraph words).lines ++ [] :: ms, _, ?_, ?_,
      hspaced.cons (Part.paragraph words, 0)⟩
    · rw [List.length_append, Nat.add_assoc, stashFencesFrom_append fun l hl => (hstays l hl).fence,
        hfences]
      rfl
    · have happend := recordFrom_append (fun l hl => (hstays l hl).placeholder) k st' ([] :: ms)
      rw [hrecord] at happend
      exact happend

theorem holds (h : Laid ls ps) (hps : ∀ p ∈ ps, p.IsTagged) : Holds ls ps :=
  ⟨h.mem, h.setAside hps⟩

end Laid

end WikiText.Listing
