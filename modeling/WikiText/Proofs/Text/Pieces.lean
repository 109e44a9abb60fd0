import Mathlib.Data.List.Forall2
import WikiText.Text.Reader

/-!
# Pieces of texts put together

Where a reader finds nothing, the characters of a text are its pieces (`Reader.Skips.pieces`).  The
pieces of a text are those of its lines if the reader treats each line on its own
(`Reader.StopsAtLineEnd.pieces_unlines`).
-/

namespace WikiText.Text

variable {α : Type}

/-- Whether a line begins behind `s`, when one begins before it or does not. -/
def lineStartBehind (lineStart : Bool) : Text → Bool
  | [] => lineStart
  | c :: s => lineStartBehind (c = '\n') s

theorem lineStartBehind_append (b : Bool) (s t : Text) :
    lineStartBehind b (s ++ t) = lineStartBehind (lineStartBehind b s) t := by
  induction s generalizing b with
  | nil => rfl
  | cons c s ih => exact ih _

theorem lineStartBehind_iff {b : Bool} {s : Text} :
    lineStartBehind b s = true ↔ (s = [] ∧ b = true) ∨ s.getLast? = some '\n' := by
  induction s generalizing b with
  | nil => simp [lineStartBehind]
  | cons c s ih =>
    rw [lineStartBehind, ih]
    cases s with
    | nil => simp
    | cons d s => simp

theorem take_of_eq_append {s t rest : Text} (h : s = t ++ rest) :
    s.take (s.length - rest.length) = t := by
  rw [h, List.length_append, Nat.add_sub_cancel, List.take_left]

theorem eq_take_append_of_suffix {s rest : Text} (h : rest <:+ s) :
    s = s.take (s.length - rest.length) ++ rest := by
  obtain ⟨t, ht⟩ := h
  rw [take_of_eq_append ht.symm, ht]

namespace Reader

variable {r : Reader α} {b : Bool} {s rest : Text}

theorem read?_nil (r : Reader α) (b : Bool) : r.read? b [] = none := by
  cases h : r.read? b [] with
  | none => rfl
  | some found => exact absurd (r.length_lt h) (Nat.not_lt_zero _)

@[simp] theorem pieces_nil (r : Reader α) (b : Bool) : r.pieces b [] = [] := by rw [pieces]

theorem pieces_of_read? {a : α} (h : r.read? b s = some (a, rest)) :
    r.pieces b s = .part a :: r.pieces false rest := by
  cases s with
  | nil => simp [read?_nil] at h
  | cons c s =>
    rw [pieces]
    split
    · next h' =>
      rw [h] at h'
      simp only [Option.some.injEq, Prod.mk.injEq] at h'
      rw [h'.1, h'.2]
    · next h' => simp [h] at h'

theorem pieces_cons {c : Char} (h : r.read? b (c :: s) = none) :
    r.pieces b (c :: s) = .char c :: r.pieces (c = '\n') s := by
  rw [pieces]
  split
  · next h' => simp [h] at h'
  · rfl

/-- If the reader knows parts by how they are written, nothing is lost. -/
theorem fill_pieces {f : α → Text}
    (h : ∀ b s a rest, r.read? b s = some (a, rest) → s = f a ++ rest) (b : Bool) (s : Text) :
    Piece.fill f (r.pieces b s) = s := by
  fun_induction pieces r b s with
  | case1 => rfl
  | case2 b c s a rest hread _ ih => rw [Piece.fill_part, ih, ← h b _ a rest hread]
  | case3 b c s hread ih => rw [Piece.fill_char, ih]

/-! ## Gaps -/

/-- The reader finds nothing in the text `g` when `rest` follows it. -/
def Skips (r : Reader α) (lineStart : Bool) : (g rest : Text) → Prop
  | [], _ => True
  | c :: g, rest => r.read? lineStart (c :: (g ++ rest)) = none ∧ r.Skips (c = '\n') g rest

theorem Skips.pieces {g : Text} (h : r.Skips b g rest) :
    r.pieces b (g ++ rest) = g.map .char ++ r.pieces (lineStartBehind b g) rest := by
  induction g generalizing b with
  | nil => rfl
  | cons c g ih => rw [List.cons_append, pieces_cons h.1, ih h.2]; rfl

theorem skips_append {g h : Text} (hg : r.Skips b g (h ++ rest))
    (hh : r.Skips (lineStartBehind b g) h rest) : r.Skips b (g ++ h) rest := by
  induction g generalizing b with
  | nil => exact hh
  | cons c g ih =>
    refine ⟨?_, ih hg.2 hh⟩
    have hread := hg.1
    rwa [← List.append_assoc] at hread

theorem skips_of_forall {g : Text}
    (h : ∀ b t, t ≠ [] → t <:+ g → r.read? b (t ++ rest) = none) (b : Bool) :
    r.Skips b g rest := by
  induction g generalizing b with
  | nil => trivial
  | cons c g ih =>
    refine ⟨h b (c :: g) (by simp) List.suffix_rfl, ih (fun b t hne ht => ?_) _⟩
    exact h b t hne (ht.trans (List.suffix_cons c g))

end Reader

/-! ## Lines -/

/-- A line ends before the text. -/
def IsLineEnd (e : Text) : Prop := e = [] ∨ ∃ s, e = '\n' :: s

theorem not_mem_of_mem_lines {s l : Text} (h : l ∈ lines s) : '\n' ∉ l := by
  induction s generalizing l with
  | nil =>
    rw [List.mem_singleton.1 h]
    exact List.not_mem_nil
  | cons c s ih =>
    rw [lines, splitOn] at h
    split at h
    · rcases List.mem_cons.1 h with rfl | h
      · exact List.not_mem_nil
      · exact ih h
    · next hc =>
      split at h
      · rw [List.mem_singleton.1 h]
        simpa using Ne.symm hc
      · next first others hs =>
        rcases List.mem_cons.1 h with rfl | h
        · rw [List.mem_cons, not_or]
          exact ⟨Ne.symm hc, ih (by rw [lines, hs]; exact List.mem_cons_self)⟩
        · exact ih (by rw [lines, hs]; exact List.mem_cons_of_mem _ h)

theorem unlines_cons_cons (l m : Text) (ls : List Text) :
    unlines (l :: m :: ls) = l ++ '\n' :: unlines (m :: ls) := by
  simp [unlines, joinWith]

theorem unlines_cons_of_ne_nil (l : Text) {ls : List Text} (h : ls ≠ []) :
    unlines (l :: ls) = l ++ '\n' :: unlines ls := by
  obtain ⟨m, ms, rfl⟩ := List.exists_cons_of_ne_nil h
  exact unlines_cons_cons l m ms

/-- What holds of each line holds of the text of the lines, if it goes over from two texts to these
texts with a line end between them. -/
theorem unlines_induction {P : Text → Prop} {ls : List Text} (nil : ls = [] → P [])
    (append : ∀ s t, P s → P t → P (s ++ '\n' :: t)) (h : ∀ l ∈ ls, P l) : P (unlines ls) := by
  induction ls with
  | nil => exact nil rfl
  | cons l ls ih =>
    rw [List.forall_mem_cons] at h
    by_cases hls : ls = []
    · subst hls
      exact h.1
    · rw [unlines_cons_of_ne_nil l hls]
      exact append _ _ h.1 (ih (fun he => absurd he hls) h.2)

namespace Reader

variable {r : Reader α} {l : Text}

/-- The line `l` has the pieces `ps`, whatever lines stand around it. -/
def OnLine (r : Reader α) (l : Text) (ps : List (Piece α)) : Prop :=
  ∀ e, IsLineEnd e → r.pieces true (l ++ e) = ps ++ r.pieces false e

/-- The reader finds nothing that begins with a line end. -/
def StopsAtLineEnd (r : Reader α) : Prop := ∀ b s, r.read? b ('\n' :: s) = none

theorem StopsAtLineEnd.pieces (hr : r.StopsAtLineEnd) {e : Text} (he : IsLineEnd e) (b b' : Bool) :
    r.pieces b e = r.pieces b' e := by
  rcases he with rfl | ⟨s, rfl⟩
  · rw [pieces_nil, pieces_nil]
  · rw [pieces_cons (hr b s), pieces_cons (hr b' s)]

theorem StopsAtLineEnd.onLine_of_skips (hr : r.StopsAtLineEnd)
    (h : ∀ e, IsLineEnd e → r.Skips true l e) : r.OnLine l (l.map .char) := by
  intro e he
  rw [(h e he).pieces, hr.pieces he _ false]

theorem onLine_of_read? {a : α}
    (h : ∀ e, IsLineEnd e → r.read? true (l ++ e) = some (a, e)) : r.OnLine l [.part a] := by
  intro e he
  rw [pieces_of_read? (h e he)]
  rfl

/-- Where the reader finds a part, the character `c` stands there or further on in the same line. -/
def NeedsOnLine (r : Reader α) (c : Char) : Prop :=
  ∀ b s a rest, r.read? b s = some (a, rest) → ∃ p u, '\n' ∉ p ∧ s = p ++ c :: u

theorem NeedsOnLine.stopsAtLineEnd {c : Char} (hr : r.NeedsOnLine c) (hc : c ≠ '\n') :
    r.StopsAtLineEnd := by
  intro b s
  refine Option.eq_none_iff_forall_ne_some.2 fun (a, rest) h => ?_
  obtain ⟨p, u, hp, hs⟩ := hr b _ a rest h
  cases p with
  | nil => exact hc (List.cons.inj hs).1.symm
  | cons d p => exact hp ((List.cons.inj hs).1 ▸ List.mem_cons_self)

theorem NeedsOnLine.skips {c : Char} (hr : r.NeedsOnLine c) (hc : c ≠ '\n') (hl : c ∉ l)
    {e : Text} (he : IsLineEnd e) (b : Bool) : r.Skips b l e := by
  refine skips_of_forall (fun b t _ ht => ?_) b
  refine Option.eq_none_iff_forall_ne_some.2 fun (a, rest) h => ?_
  obtain ⟨p, u, hp, hs⟩ := hr b _ a rest h
  have hnot : e ≠ c :: u := by
    rintro rfl
    rcases he with he | ⟨s, he⟩
    · exact absurd he (by simp)
    · exact hc (List.cons.inj he).1
  rcases List.append_eq_append_iff.1 hs with ⟨q, rfl, he'⟩ | ⟨q, rfl, hu⟩
  · cases q with
    | nil => exact hnot he'
    | cons d q =>
      rcases he with rfl | ⟨s, rfl⟩
      · exact absurd he' (by simp)
      · exact hp (by rw [(List.cons.inj he').1]; simp)
  · cases q with
    | nil => exact hnot hu.symm
    | cons d q =>
      obtain rfl : c = d := (List.cons.inj hu).1
      exact hl (ht.subset (by simp))

theorem NeedsOnLine.onLine {c : Char} (hr : r.NeedsOnLine c) (hc : c ≠ '\n') (hl : c ∉ l) :
    r.OnLine l (l.map .char) :=
  (hr.stopsAtLineEnd hc).onLine_of_skips fun _ he => hr.skips hc hl he true

/-- The pieces of lines that the reader treats one by one. -/
theorem StopsAtLineEnd.pieces_unlines (hr : r.StopsAtLineEnd) {ls : List Text}
    {pss : List (List (Piece α))} (h : List.Forall₂ r.OnLine ls pss) :
    r.pieces true (unlines ls) = [Piece.char '\n'].intercalate pss := by
  induction h with
  | nil => exact pieces_nil r true
  | @cons l ps ls pss hl hls ih =>
    cases hls with
    | nil =>
      have hlast := hl [] (.inl rfl)
      rw [List.append_nil, pieces_nil, List.append_nil] at hlast
      rw [List.intercalate_singleton]
      exact hlast
    | @cons m qs ls pss hm hls =>
      rw [unlines_cons_cons, hl _ (.inr ⟨_, rfl⟩), pieces_cons (hr _ _), List.intercalate_cons_cons,
        ← ih, List.append_assoc]
      rfl

/-- The pieces of lines of which something is known each. -/
theorem StopsAtLineEnd.exists_pieces {β : Type} {f : β → Text} {P : β → List (Piece α) → Prop}
    (hr : r.StopsAtLineEnd) {xs : List β} (h : ∀ x ∈ xs, ∃ ps, r.OnLine (f x) ps ∧ P x ps) :
    ∃ pss, r.pieces true (unlines (xs.map f)) = [Piece.char '\n'].intercalate pss ∧
      List.Forall₂ P xs pss := by
  have hlines : ∃ pss, List.Forall₂ r.OnLine (xs.map f) pss ∧ List.Forall₂ P xs pss := by
    induction xs with
    | nil => exact ⟨[], .nil, .nil⟩
    | cons x xs ih =>
      rw [List.forall_mem_cons] at h
      obtain ⟨⟨ps, hline, hP⟩, hxs⟩ := h
      obtain ⟨pss, hlines, hall⟩ := ih hxs
      exact ⟨ps :: pss, .cons hline hlines, .cons hP hall⟩
  obtain ⟨pss, hlines, hall⟩ := hlines
  exact ⟨pss, hr.pieces_unlines hlines, hall⟩

end Reader

namespace Piece

theorem fill_intercalate (f : α → Text) (pss : List (List (Piece α))) :
    fill f ([.char '\n'].intercalate pss) = unlines (pss.map (fill f)) := by
  induction pss with
  | nil => rfl
  | cons ps pss ih =>
    cases pss with
    | nil => rw [List.intercalate_singleton]; rfl
    | cons qs pss =>
      rw [List.intercalate_cons_cons, fill_append, fill_append, ih, List.append_assoc]
      exact (unlines_cons_cons _ _ _).symm

theorem parts_intercalate (pss : List (List (Piece α))) :
    parts ([.char '\n'].intercalate pss) = pss.flatMap parts := by
  induction pss with
  | nil => rfl
  | cons ps pss ih =>
    cases pss with
    | nil => rw [List.intercalate_singleton, List.flatMap_singleton]
    | cons qs pss =>
      rw [List.intercalate_cons_cons, parts_append, parts_append, ih, List.append_assoc]
      rfl

end Piece

end WikiText.Text
