import WikiText.Text.Basic

/-!
# Parts of a text

A reader knows a part of some kind when a text begins with it.  From left to right it cuts a text
into such parts and the characters between them.  Other texts may then take the places of the parts.
-/

namespace WikiText.Text

variable {α : Type}

/-- A part that was found, or a character outside all parts. -/
inductive Piece (α : Type) where
  | char (c : Char)
  | part (a : α)
deriving DecidableEq, Repr

/-- Reads the part with which a text begins, and gives the text after it.  It may matter whether the
text begins a line.  A part takes a character at least, and ends inside a line. -/
structure Reader (α : Type) where
  read? : (lineStart : Bool) → Text → Option (α × Text)
  length_lt : ∀ {lineStart s a rest}, read? lineStart s = some (a, rest) → rest.length < s.length

/-- The pieces of a text from left to right. -/
def Reader.pieces (r : Reader α) (lineStart : Bool) : Text → List (Piece α)
  | [] => []
  | c :: s => match h : r.read? lineStart (c :: s) with
    | some (a, rest) =>
      have : rest.length < s.length + 1 := r.length_lt h
      .part a :: r.pieces false rest
    | none => .char c :: r.pieces (c = '\n') s
termination_by s => s.length

namespace Piece

/-- The text with other texts in the places of its parts. -/
def fill (f : α → Text) (ps : List (Piece α)) : Text :=
  ps.flatMap fun
    | .char c => [c]
    | .part a => f a

/-- The parts among the pieces. -/
def parts (ps : List (Piece α)) : List α :=
  ps.filterMap fun
    | .char _ => none
    | .part a => some a

@[simp] theorem fill_nil (f : α → Text) : fill f [] = [] := rfl

@[simp] theorem fill_char (f : α → Text) (c : Char) (ps : List (Piece α)) :
    fill f (.char c :: ps) = c :: fill f ps := rfl

@[simp] theorem fill_part (f : α → Text) (a : α) (ps : List (Piece α)) :
    fill f (.part a :: ps) = f a ++ fill f ps := rfl

@[simp] theorem fill_append (f : α → Text) (ps qs : List (Piece α)) :
    fill f (ps ++ qs) = fill f ps ++ fill f qs := List.flatMap_append

@[simp] theorem fill_map_char (f : α → Text) (s : Text) : fill f (s.map .char) = s := by
  induction s with
  | nil => rfl
  | cons c s ih => rw [List.map_cons, fill_char, ih]

@[simp] theorem parts_nil : parts ([] : List (Piece α)) = [] := rfl

@[simp] theorem parts_char (c : Char) (ps : List (Piece α)) :
    parts (.char c :: ps) = parts ps := rfl

@[simp] theorem parts_part (a : α) (ps : List (Piece α)) :
    parts (.part a :: ps) = a :: parts ps := rfl

@[simp] theorem parts_append (ps qs : List (Piece α)) : parts (ps ++ qs) = parts ps ++ parts qs :=
  List.filterMap_append

@[simp] theorem parts_map_char (s : Text) : parts (s.map (.char : Char → Piece α)) = [] := by
  induction s with
  | nil => rfl
  | cons c s ih => rw [List.map_cons, parts_char, ih]

end Piece

end WikiText.Text
