import WikiText.Proofs.Code.Region
import WikiText.Proofs.Text.Blank
import WikiText.Proofs.Text.Search
import WikiText.Render

/-!
# Markup without code to highlight

Only code with a class is highlighted.  Where no tag of code has one, markup goes through the stage
of highlighting as it is (`Highlighter.IsReady.highlightStage_of_nowhere`).
-/

namespace WikiText

namespace Code

/-- White space follows the name in the tag of code, as before a class. -/
def classed? (s : Text) : Option Unit :=
  match Text.strip? "<pre><code".toList s with
  | some (c :: _) => if Text.isBlank c then some () else none
  | _ => none

theorem classed?_of_ne {c : Char} (h : c ≠ '<') (s : Text) : classed? (c :: s) = none := by
  have hstrip : Text.strip? "<pre><code".toList (c :: s) = none := if_neg (Ne.symm h)
  rw [classed?, hstrip]

theorem classed?_append (c : Char) (s : Text) :
    classed? ("<pre><code".toList ++ c :: s) = if Text.isBlank c then some () else none := by
  rw [classed?, Text.strip?_append]

theorem read?_of_classed? {s : Text} (h : classed? s = none) : Block.read? s = none := by
  refine Option.eq_none_iff_forall_ne_some.2 fun (b, rest) hread => ?_
  simp only [Block.read?, Option.bind_eq_bind, Option.bind_eq_some_iff, Prod.exists] at hread
  obtain ⟨gap, language, t, hopening, -⟩ := hread
  obtain ⟨rfl, ⟨hne, hgap⟩, -⟩ := Block.eq_of_opening? hopening
  obtain ⟨c, gap, rfl⟩ := List.exists_cons_of_ne_nil hne
  have hblank : Text.isBlank c = true := List.all_eq_true.1 hgap c List.mem_cons_self
  have htags : Block.startTags (c :: gap) language ++ t = "<pre><code".toList ++
      c :: (gap ++ "class=\"".toList ++ language ++ "\">".toList ++ t) := by
    unfold Block.startTags
    simp only [List.append_assoc, List.cons_append]
  rw [htags, classed?_append, if_pos hblank] at h
  cases h

/-- What is found in a text is found in a longer one. -/
theorem nowhere_classed?_of_append {s t : Text} (h : Text.Nowhere classed? (s ++ t)) :
    Text.Nowhere classed? s := by
  have hmore : ∀ u : Text, classed? u = some () → classed? (u ++ t) = some () := by
    intro u hu
    rw [classed?] at hu
    split at hu
    · next c r hr =>
      rw [Text.eq_append_of_strip? hr, List.append_assoc, List.cons_append, classed?_append]
      exact hu
    · cases hu
  induction s with
  | nil => trivial
  | cons c s ih =>
    refine ⟨?_, ih h.2⟩
    cases hfound : classed? (c :: s) with
    | none => rfl
    | some u => exact absurd (h.eq_none.symm.trans (hmore _ hfound)) (Option.some_ne_none _).symm

theorem nowhere_classed?_trim {s : Text} (h : Text.Nowhere classed? s) :
    Text.Nowhere classed? (Text.trim s) := by
  obtain ⟨front, hfront⟩ := List.dropWhile_suffix Text.isBlank (l := s)
  obtain ⟨rest, hrest⟩ := List.rdropWhile_prefix Text.isBlank (s.dropWhile Text.isBlank)
  rw [← hfront, ← hrest] at h
  exact nowhere_classed?_of_append (Text.nowhere_of_append h)

/-- Nothing is found in the text, whatever follows it. -/
def Unclassed (s : Text) : Prop := ∀ t, Text.Nowhere classed? t → Text.Nowhere classed? (s ++ t)

section Unclassed

variable {s t : Text}

theorem Unclassed.nowhere (h : Unclassed s) : Text.Nowhere classed? s :=
  List.append_nil s ▸ h [] trivial

theorem Unclassed.append (hs : Unclassed s) (ht : Unclassed t) : Unclassed (s ++ t) := by
  intro u hu
  rw [List.append_assoc]
  exact hs _ (ht u hu)

theorem unclassed_of_not_mem (h : '<' ∉ s) : Unclassed s := fun _ ht =>
  Text.nowhere_append (fun _ s hc => classed?_of_ne hc s) h ht

/-- The tag with white space behind it, or what may become one. -/
def cut? (s : Text) : Option Unit :=
  if s <+: "<pre><code".toList then some () else classed? s

theorem classed?_append_of_cut? (h : cut? s = none) (t : Text) : classed? (s ++ t) = none := by
  rw [cut?] at h
  split at h
  · cases h
  next hprefix =>
  have hcode : "<pre><code".toList <+: s ++ t → "<pre><code".toList <+: s := fun hcode =>
    (List.prefix_or_prefix_of_prefix hcode (List.prefix_append s t)).resolve_right hprefix
  cases hstrip : Text.strip? "<pre><code".toList (s ++ t) with
  | none => rw [classed?, hstrip]
  | some r =>
    obtain ⟨u, rfl⟩ := hcode ⟨r, (Text.eq_append_of_strip? hstrip).symm⟩
    cases u with
    | nil => exact absurd (List.append_nil _ ▸ List.prefix_rfl) hprefix
    | cons c u =>
      rw [classed?_append] at h
      rw [List.append_assoc, List.cons_append, classed?_append, h]

theorem unclassed_of_nowhere (h : Text.Nowhere cut? s) : Unclassed s := by
  intro t ht
  induction s with
  | nil => exact ht
  | cons c s ih =>
    exact ⟨Option.isNone_iff_eq_none.2 (classed?_append_of_cut? h.eq_none t), ih h.2⟩

theorem unclassed_unlines {ls : List Text} (h : ∀ l ∈ ls, Unclassed l) :
    Unclassed (Text.unlines ls) :=
  Text.unlines_induction (fun _ _ ht => ht)
    (fun _ _ hs ht => hs.append ((unclassed_of_not_mem (s := ['\n']) (by decide)).append ht)) h

end Unclassed

variable {σ ε : Type}

/-- Without a class there is nothing to be highlighted. -/
theorem highlight_of_nowhere (e : Engine σ ε) (cssClass : Text) {s : Text}
    (h : Text.Nowhere classed? s) (st : σ) : highlight e cssClass s st = (.ok s, st) := by
  have hskips : ∀ b, Block.reader.Skips b s [] := by
    induction s with
    | nil => exact fun _ => trivial
    | cons c s ih =>
      refine fun b => ⟨?_, ih h.2 _⟩
      have hread : (if b = true then Block.read? (c :: s) else none) = none := by
        rw [read?_of_classed? h.eq_none, ite_self]
      rw [List.append_nil]
      exact hread
  exact highlight_of_skips e cssClass (hskips true) st

end Code

/-- An engine of its own highlights the code, or the style of the configuration exists. -/
def Highlighter.IsReady {σ ε : Type} (config : Config) : Highlighter σ ε → Prop
  | .engine _ => True
  | .plain => (Code.Style.ofName config.style).isOk = true

variable {σ ε : Type} [Cause ε]

/-- Where there is nothing to be highlighted the stage leaves the markup as it is. -/
theorem Highlighter.IsReady.highlightStage_of_nowhere {config : Config}
    {highlighter : Highlighter σ ε} (h : highlighter.IsReady config) {s : Text}
    (hs : Text.Nowhere Code.classed? s) (st : σ) :
    highlightStage config highlighter s st = (.ok s, st) := by
  have hrun := fun e => Code.highlight_of_nowhere (σ := σ) (ε := ε) e config.highlightClass hs st
  cases highlighter with
  | engine e =>
    rw [highlightStage]
    dsimp only
    rw [hrun]
    rfl
  | plain =>
    cases hstyle : Code.Style.ofName config.style with
    | error e =>
      rw [Highlighter.IsReady, hstyle] at h
      cases h
    | ok style =>
      rw [highlightStage]
      dsimp only
      rw [hstyle]
      dsimp only
      rw [hrun]
      rfl

end WikiText
