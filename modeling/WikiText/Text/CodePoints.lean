import WikiText.Text.Basic

/-!
# Character classes given by ranges of code points
-/

namespace WikiText.Text

/-- A class of characters: ranges of code points, both ends included, in rising order. -/
abbrev CodePoints := List (Nat × Nat)

namespace CodePoints

/-- Membership by one walk that ends at the first range past `n`. -/
def has (n : Nat) : CodePoints → Bool
  | [] => false
  | (lo, hi) :: rest => if n < lo then false else n ≤ hi || has n rest

end CodePoints

/-- A map of code points by runs: `(first, last, step, image)` sends `first + k * step` to
`image + k * step`. The runs rise. -/
abbrev CodePointRuns := List (Nat × Nat × Nat × Nat)

namespace CodePointRuns

/-- The image of `n`, if a run holds it. -/
def find? (n : Nat) : CodePointRuns → Option Nat
  | [] => none
  | (lo, hi, step, image) :: rest =>
    if n < lo then none
    else if n ≤ hi ∧ (n - lo) % step = 0 then some (image + (n - lo))
    else find? n rest

end CodePointRuns

end WikiText.Text
