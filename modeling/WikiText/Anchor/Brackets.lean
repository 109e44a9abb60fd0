import WikiText.Text.Basic

/-! # Matching square brackets

A closing bracket is found by counting. The brackets of a text are matched on demand, and each
search remembers the inner brackets that it closes on its way.
-/

namespace WikiText

/-- The index just past the bracket that closes the innermost of `depth + 1` open brackets, the
text from here on beginning at index `i`. -/
def closing? (depth i : Nat) : Text → Option Nat
  | [] => none
  | c :: s =>
    if c = '[' then closing? (depth + 1) (i + 1) s
    else if c = ']' then
      match depth with
      | 0 => some (i + 1)
      | d + 1 => closing? d (i + 1) s
    else closing? depth (i + 1) s

@[simp] theorem closing?_nil (d i : Nat) : closing? d i [] = none := rfl

@[simp] theorem closing?_open (d i : Nat) (s : Text) :
    closing? d i ('[' :: s) = closing? (d + 1) (i + 1) s := by cases d <;> rfl

@[simp] theorem closing?_close_zero (i : Nat) (s : Text) :
    closing? 0 i (']' :: s) = some (i + 1) := rfl

@[simp] theorem closing?_close_succ (d i : Nat) (s : Text) :
    closing? (d + 1) i (']' :: s) = closing? d (i + 1) s := rfl

theorem closing?_cons {c : Char} (ho : c ≠ '[') (hc : c ≠ ']') (d i : Nat) (s : Text) :
    closing? d i (c :: s) = closing? d (i + 1) s := by cases d <;> simp [closing?, ho, hc]

/-- A balanced stretch of text in brackets: what the brackets hold, the index of the opening one,
and the index just past the closing one. -/
structure Span where
  text : Text
  start : Nat
  stop : Nat
deriving DecidableEq, Repr

/-- The brackets of a text, as far as they were matched. Once a search runs out of text, no bracket
at or after its start is matched again. -/
structure Brackets where
  text : Text
  closers : List (Nat × Nat) := []
  haltedAt : Option Nat := none

namespace Brackets

/-- Brackets that were not yet matched. -/
def ofText (s : Text) : Brackets := { text := s }

/-- Whether a bracket that is never closed stopped the search. -/
def halted (b : Brackets) : Bool := b.haltedAt.isSome

/-- Search the text at index `i` for the bracket that closes the one at `start`, inside which the
brackets at `inner` are open, the last one first. The answer comes with the pairs of the brackets
closed so far. -/
def search (start : Nat) : (inner : List Nat) → (closers : List (Nat × Nat)) → (i : Nat) →
    Text → Option Nat × List (Nat × Nat)
  | _, closers, _, [] => (none, closers)
  | inner, closers, i, c :: s =>
    if c = '[' then search start (i :: inner) closers (i + 1) s
    else if c = ']' then
      match inner with
      | [] => (some (i + 1), (start, i + 1) :: closers)
      | o :: inner => search start inner ((o, i + 1) :: closers) (i + 1) s
    else search start inner closers (i + 1) s

/-- Close the bracket at `start` by a search of the text after it. -/
def close (b : Brackets) (start : Nat) : Option Nat × Brackets :=
  match search start [] b.closers (start + 1) (b.text.drop (start + 1)) with
  | (some stop, closers) => (some stop, { b with closers := closers })
  | (none, closers) => (none, { b with closers := closers, haltedAt := some start })

/-- Whether the brackets from `start` on are given up. -/
def givenUp (b : Brackets) (start : Nat) : Bool := b.haltedAt.any (· ≤ start)

/-- The text between `start` and `stop`, a bracket apart at both ends. -/
def inside (s : Text) (start stop : Nat) : Text :=
  (s.drop (start + 1)).take (stop - 1 - (start + 1))

/-- The balanced span opened at `start`. -/
def span? (b : Brackets) (start : Nat) : Option Span × Brackets :=
  if b.givenUp start then (none, b)
  else
    let (stop?, b) := match b.closers.lookup start with
      | some stop => (some stop, b)
      | none => b.close start
    (stop?.map fun stop => ⟨inside b.text start stop, start, stop⟩, b)

end Brackets

end WikiText
