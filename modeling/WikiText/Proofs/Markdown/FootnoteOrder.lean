import Mathlib.Data.List.Sort
import WikiText.Markdown.Footnotes

/-!
# The order of footnotes

Sorting the footnotes of a document by the places of their first references puts those without a
reference last, in the order of their definitions.  Main statement: `mergeSort_precedes`.
-/

namespace WikiText.Markdown.Footnotes

variable {found : List Text} {last : Nat}

theorem precedes_iff {a b : Text} :
    precedes found last a b = true ↔ place found last a ≤ place found last b := decide_eq_true_iff

theorem precedes_trans (a b c : Text) (hab : precedes found last a b = true)
    (hbc : precedes found last b c = true) : precedes found last a c = true :=
  precedes_iff.2 ((precedes_iff.1 hab).trans (precedes_iff.1 hbc))

theorem precedes_total (a b : Text) :
    (precedes found last a b || precedes found last b a) = true := by
  rw [Bool.or_eq_true, precedes_iff, precedes_iff]
  exact Nat.le_total _ _

theorem place_of_mem {id : Text} (h : id ∈ found) : place found last id = found.idxOf id :=
  if_pos (List.elem_iff.2 h)

theorem place_of_not_mem {id : Text} (h : id ∉ found) : place found last id = last :=
  if_neg fun h' => h (List.elem_iff.1 h')

/-- Whoever may stand before a footnote with a reference has one, too. -/
theorem mem_of_precedes (hlast : found.length ≤ last) {a b : Text}
    (h : precedes found last a b = true) (hb : b ∈ found) : a ∈ found := by
  by_contra ha
  rw [precedes_iff, place_of_not_mem ha, place_of_mem hb] at h
  have := List.idxOf_lt_length_iff.2 hb
  omega

theorem eq_of_precedes {a b : Text} (ha : a ∈ found) (hb : b ∈ found)
    (hab : precedes found last a b = true) (hba : precedes found last b a = true) : a = b := by
  rw [precedes_iff, place_of_mem ha, place_of_mem hb] at hab
  rw [precedes_iff, place_of_mem hb, place_of_mem ha] at hba
  exact (List.idxOf_inj ha).1 (Nat.le_antisymm hab hba)

theorem pairwise_precedes (hfound : found.Nodup) :
    found.Pairwise fun a b => precedes found last a b = true := by
  rw [List.pairwise_iff_getElem]
  intro i j hi hj hij
  rw [precedes_iff, place_of_mem (List.getElem_mem hi), place_of_mem (List.getElem_mem hj),
    hfound.idxOf_getElem, hfound.idxOf_getElem]
  exact hij.le

/-- A list in whose front all elements of one kind stand. -/
theorem eq_filter_append_filter {α : Type} {p : α → Bool} {l : List α}
    (h : l.Pairwise fun a b => p b = true → p a = true) :
    l = l.filter p ++ l.filter (!p ·) := by
  induction l with
  | nil => rfl
  | cons a l ih =>
    rw [List.pairwise_cons] at h
    have hl := ih h.2
    cases ha : p a with
    | true =>
      rw [List.filter_cons_of_pos ha, List.filter_cons_of_neg (by simp [ha]), List.cons_append,
        ← hl]
    | false =>
      have hnone : l.filter p = [] := by
        rw [List.filter_eq_nil_iff]
        intro b hb hpb
        exact absurd ((h.1 b hb hpb).symm.trans ha) (by decide)
      rw [hnone, List.nil_append] at hl
      rw [List.filter_cons_of_neg (by simp [ha]), List.filter_cons_of_pos (by simp [ha]), hnone,
        List.nil_append, ← hl]

/-- Sorting footnotes by their places: first those with a reference, then the others. -/
theorem mergeSort_precedes {keys : List Text} (hkeys : keys.Nodup) (hfound : found.Nodup)
    (hsub : ∀ id ∈ found, id ∈ keys) (hlast : found.length ≤ last) :
    keys.mergeSort (precedes found last) = found ++ keys.filter (!found.elem ·) := by
  have hperm := List.mergeSort_perm keys (precedes found last)
  have hsorted : (keys.mergeSort (precedes found last)).Pairwise fun a b =>
      precedes found last a b = true :=
    List.pairwise_mergeSort precedes_trans precedes_total keys
  have hnot : ∀ id ∈ keys.filter (!found.elem ·), id ∉ found := fun id h => by
    simpa using (List.mem_filter.1 h).2
  -- Sorting keeps the order of the footnotes without a reference.
  have hstable : (keys.filter (!found.elem ·)).Sublist (keys.mergeSort (precedes found last)) := by
    refine List.sublist_mergeSort precedes_trans precedes_total ?_ List.filter_sublist
    refine List.pairwise_of_forall_mem_list fun a ha b hb => ?_
    rw [precedes_iff, place_of_not_mem (hnot a ha), place_of_not_mem (hnot b hb)]
  generalize keys.mergeSort (precedes found last) = sorted at *
  have hnodup : sorted.Nodup := hperm.nodup_iff.2 hkeys
  have hfront : sorted.Pairwise fun a b => found.elem b = true → found.elem a = true :=
    hsorted.imp fun h hb => List.elem_iff.2 (mem_of_precedes hlast h (List.elem_iff.1 hb))
  have hreferenced : sorted.filter (found.elem ·) = found := by
    have hmem : ∀ id, id ∈ sorted.filter (found.elem ·) ↔ id ∈ found := fun id => by
      simp only [List.mem_filter, hperm.mem_iff, List.elem_iff]
      exact ⟨fun h => h.2, fun h => ⟨hsub id h, h⟩⟩
    refine List.Perm.eq_of_pairwise (fun a b ha hb hab hba => ?_) (hsorted.filter _)
      (pairwise_precedes hfound)
      ((List.perm_ext_iff_of_nodup (hnodup.filter _) hfound).2 hmem)
    exact eq_of_precedes ((hmem a).1 ha) hb hab hba
  have hothers : sorted.filter (!found.elem ·) = keys.filter (!found.elem ·) := by
    have hsublist := hstable.filter (!found.elem ·)
    rw [List.filter_filter] at hsublist
    simp only [Bool.and_self] at hsublist
    exact (hsublist.eq_of_length (hperm.filter _).length_eq.symm).symm
  rw [eq_filter_append_filter hfront, hreferenced, hothers]

end WikiText.Markdown.Footnotes
