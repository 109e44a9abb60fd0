import WikiText.Proofs.Text.Pieces

/-!
# Parts and the text around them

The pieces of a text, put together to the parts and what stands before, between and after them.
-/

namespace WikiText.Text

variable {α β : Type}

/-- Parts in a text: the text before them, and each with the text after it. -/
structure Framed (α : Type) where
  lead : Text
  parts : List (α × Text)
deriving DecidableEq, Repr

namespace Framed

def items (d : Framed α) : List α := d.parts.map Prod.fst

/-- The text with those of `ts` in the places of the parts. -/
def fill (d : Framed α) (ts : List Text) : Text :=
  d.lead ++ (List.zipWith (fun p t => t ++ p.2) d.parts ts).flatten

/-- The text with each part as `f` writes it. -/
def write (f : α → Text) (d : Framed α) : Text := d.fill (d.items.map f)

/-- Other parts in the same text. -/
def map (g : α → β) (d : Framed α) : Framed β := ⟨d.lead, d.parts.map fun p => (g p.1, p.2)⟩

theorem items_map (g : α → β) (d : Framed α) : (d.map g).items = d.items.map g := by
  rw [items, map, items, List.map_map, List.map_map]
  rfl

theorem fill_map (g : α → β) (d : Framed α) (ts : List Text) : (d.map g).fill ts = d.fill ts := by
  rw [fill, map, List.zipWith_map_left]
  rfl

theorem write_nil (f : α → Text) (lead : Text) : (⟨lead, []⟩ : Framed α).write f = lead :=
  List.append_nil lead

theorem write_cons (f : α → Text) (lead : Text) (p : α × Text) (ps : List (α × Text)) :
    (⟨lead, p :: ps⟩ : Framed α).write f = lead ++ (f p.1 ++ (⟨p.2, ps⟩ : Framed α).write f) :=
  congrArg (lead ++ ·) (List.append_assoc (f p.1) p.2 _)

end Framed

namespace Piece

/-- The parts among the pieces, with the text around them. -/
def framed : List (Piece α) → Framed α
  | [] => ⟨[], []⟩
  | .char c :: ps => ⟨c :: (framed ps).lead, (framed ps).parts⟩
  | .part a :: ps => ⟨[], (a, (framed ps).lead) :: (framed ps).parts⟩

theorem fill_framed_char (c : Char) (ps : List (Piece α)) (ts : List Text) :
    (framed (.char c :: ps)).fill ts = c :: (framed ps).fill ts := rfl

theorem fill_framed_part (a : α) (ps : List (Piece α)) (t : Text) (ts : List Text) :
    (framed (.part a :: ps)).fill (t :: ts) = t ++ (framed ps).fill ts :=
  List.append_assoc t _ _

theorem framed_map_char_append (g : Text) (ps : List (Piece α)) :
    framed (g.map .char ++ ps) = ⟨g ++ (framed ps).lead, (framed ps).parts⟩ := by
  induction g with
  | nil => rfl
  | cons c g ih => rw [List.map_cons, List.cons_append, framed, ih]; rfl

theorem items_framed (ps : List (Piece α)) : (framed ps).items = parts ps := by
  induction ps with
  | nil => rfl
  | cons p ps ih =>
    cases p with
    | char c => exact ih
    | part a => exact congrArg (a :: ·) ih

theorem write_framed (f : α → Text) (ps : List (Piece α)) : (framed ps).write f = fill f ps := by
  rw [Framed.write, items_framed]
  induction ps with
  | nil => rfl
  | cons p ps ih =>
    cases p with
    | char c => rw [fill_framed_char, parts_char, ih, fill_char]
    | part a => rw [parts_part, List.map_cons, fill_framed_part, ih, fill_part]

/-- Where a part stands with its gap, the pieces before it and after it make up the rest. -/
theorem exists_of_framed {ps : List (Piece α)} {a : α} {gap : Text} {xs ys : List (α × Text)}
    (h : (framed ps).parts = xs ++ (a, gap) :: ys) :
    ∃ qs rs, ps = qs ++ .part a :: rs ∧ framed qs = ⟨(framed ps).lead, xs⟩ ∧
      framed rs = ⟨gap, ys⟩ := by
  induction ps generalizing xs with
  | nil => simp [framed] at h
  | cons p ps ih =>
    cases p with
    | char c =>
      obtain ⟨qs, rs, hps, hqs, hrs⟩ := ih h
      exact ⟨.char c :: qs, rs, by rw [hps]; rfl, by rw [framed, hqs]; rfl, hrs⟩
    | part a' =>
      rw [framed] at h
      cases xs with
      | nil =>
        rw [List.nil_append, List.cons.injEq, Prod.mk.injEq] at h
        obtain ⟨⟨rfl, rfl⟩, rfl⟩ := h
        exact ⟨[], ps, rfl, rfl, rfl⟩
      | cons x xs =>
        rw [List.cons_append, List.cons.injEq] at h
        obtain ⟨rfl, h⟩ := h
        obtain ⟨qs, rs, hps, hqs, hrs⟩ := ih h
        exact ⟨.part a' :: qs, rs, by rw [hps]; rfl, by rw [framed, hqs]; rfl, hrs⟩

end Piece

/-! ## What was read -/

/-- A part was read where it stands: behind the text before it, and with the text after it. -/
theorem Reader.read?_of_pieces_eq {r : Reader α} {f : α → Text}
    (hf : ∀ b s a rest, r.read? b s = some (a, rest) → s = f a ++ rest)
    (hend : ∀ b s a rest, r.read? b s = some (a, rest) → ∀ b', lineStartBehind b' (f a) = false)
    {b : Bool} {s : Text} {qs rs : List (Piece α)} {a : α}
    (h : r.pieces b s = qs ++ .part a :: rs) :
    r.read? (lineStartBehind b (Piece.fill f qs)) (f a ++ Piece.fill f rs) =
      some (a, Piece.fill f rs) := by
  fun_induction pieces r b s generalizing qs with
  | case1 => simp at h
  | case2 b c s a' rest hread _ ih =>
    cases qs with
    | nil =>
      rw [List.nil_append, List.cons.injEq, Piece.part.injEq] at h
      obtain ⟨rfl, rfl⟩ := h
      rw [fill_pieces hf, ← hf b _ _ _ hread]
      exact hread
    | cons q qs =>
      rw [List.cons_append, List.cons.injEq] at h
      obtain ⟨rfl, h⟩ := h
      rw [Piece.fill_part, lineStartBehind_append, hend b _ _ _ hread]
      exact ih h
  | case3 b c s hread ih =>
    cases qs with
    | nil => simp at h
    | cons q qs =>
      rw [List.cons_append, List.cons.injEq] at h
      obtain ⟨rfl, h⟩ := h
      exact ih h

end WikiText.Text
