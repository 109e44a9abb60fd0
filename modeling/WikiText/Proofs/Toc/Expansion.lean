import WikiText.Proofs.Toc.Line
import WikiText.Toc.Expand

/-!
# Expansion of a text and of its lines

One pass over a text finds the same placeholders as a look at each line alone, so both come to the
same text and report the same, in the same order.  Main statement: `expand_eq_lines`.
-/

namespace WikiText.Toc

open Text (IsLineEnd Piece)

theorem Placeholder.ofLine?_newline (s : Text) : ofLine? ('\n' :: s) = none := rfl

theorem Placeholder.stopsAtLineEnd_reader : reader.StopsAtLineEnd := by
  intro b s
  cases b with
  | false => rfl
  | true => rfl

/-- The pieces of a line that stands alone. -/
def linePieces (line : Text) : List (Piece Placeholder) :=
  match Placeholder.ofLine? line with
  | some p => [.part p]
  | none => line.map .char

/-- Inside a line no placeholder begins. -/
theorem Placeholder.skips_reader {s : Text} (hs : '\n' ∉ s) (rest : Text) :
    reader.Skips false s rest := by
  induction s with
  | nil => trivial
  | cons c s ih =>
    rw [List.mem_cons, not_or] at hs
    refine ⟨rfl, ?_⟩
    rw [decide_eq_false (Ne.symm hs.1)]
    exact ih hs.2

theorem Placeholder.onLine_reader {line : Text} (hline : '\n' ∉ line) :
    reader.OnLine line (linePieces line) := by
  have hread : ∀ e, IsLineEnd e →
      reader.read? true (line ++ e) = (ofLine? line).map (·, e) := by
    intro e he
    show read? (line ++ e) = _
    rw [read?_append he hline, read?_line hline]
    cases ofLine? line <;> rfl
  rw [linePieces]
  cases h : ofLine? line with
  | some p => exact Text.Reader.onLine_of_read? fun e he => by rw [hread e he, h]; rfl
  | none =>
    refine stopsAtLineEnd_reader.onLine_of_skips fun e he => ?_
    cases line with
    | nil => trivial
    | cons c s =>
      rw [List.mem_cons, not_or] at hline
      refine ⟨by rw [← List.cons_append, hread e he, h]; rfl, ?_⟩
      rw [decide_eq_false (Ne.symm hline.1)]
      exact skips_reader hline.2 e

theorem pieces_eq_lines (s : Text) :
    Placeholder.reader.pieces true s =
      [Piece.char '\n'].intercalate ((Text.lines s).map linePieces) := by
  have h := Placeholder.stopsAtLineEnd_reader.pieces_unlines
    (List.forall₂_map_right_iff.2 (List.forall₂_same.2 fun l hl =>
      Placeholder.onLine_reader (Text.not_mem_of_mem_lines (s := s) hl)))
  rwa [Text.unlines_lines] at h

/-! ## Lines -/

variable (src : Source)

theorem fill_linePieces (line : Text) :
    Piece.fill (fun p => (ofPlaceholder src p).1) (linePieces line) = (expandLine src line).1 := by
  rw [linePieces, expandLine]
  cases Placeholder.ofLine? line with
  | some p => exact List.append_nil _
  | none => exact Piece.fill_map_char _ _

theorem parts_linePieces (line : Text) :
    (Piece.parts (linePieces line)).flatMap (fun p => (ofPlaceholder src p).2) =
      (expandLine src line).2 := by
  rw [linePieces, expandLine]
  cases Placeholder.ofLine? line with
  | some p => exact List.append_nil _
  | none => rw [Piece.parts_map_char]; rfl

/-- A table begins with a line end, which no placeholder does. -/
theorem ofPlaceholder_ne {line : Text} {p : Placeholder} (h : Placeholder.ofLine? line = some p) :
    (ofPlaceholder src p).1 ≠ line := by
  have hhead : ∃ t, (ofPlaceholder src p).1 = '\n' :: t := ⟨_, rfl⟩
  rintro rfl
  obtain ⟨t, ht⟩ := hhead
  rw [ht, Placeholder.ofLine?_newline] at h
  simp at h

theorem expandLine_ne_iff (line : Text) :
    (expandLine src line).1 ≠ line ↔ isPlaceholder line = true := by
  rw [expandLine, isPlaceholder]
  cases h : Placeholder.ofLine? line with
  | some p => exact iff_of_true (ofPlaceholder_ne src h) rfl
  | none => simp

/-- To expand a text is to expand its lines one by one, with the same reports in the same order.  A
line is changed exactly when it is a placeholder. -/
theorem expand_eq_lines (text : Text) :
    expand src text =
        (Text.unlines ((Text.lines text).map fun line => (expandLine src line).1),
          (Text.lines text).flatMap fun line => (expandLine src line).2) ∧
      ∀ line, (expandLine src line).1 ≠ line ↔ isPlaceholder line = true := by
  refine ⟨?_, expandLine_ne_iff src⟩
  rw [expand, pieces_eq_lines]
  simp only [Piece.fill_intercalate, Piece.parts_intercalate, List.map_map, List.flatMap_map,
    List.flatMap_assoc, fill_linePieces, parts_linePieces, Function.comp_def]

end WikiText.Toc
