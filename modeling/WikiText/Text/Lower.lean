import WikiText.Text.LowerTable

/-!
# Lower case

Letters change one by one, but for two of them: the dotted capital I becomes two characters, and
the capital sigma takes its final form at the end of a word.
-/

namespace WikiText.Text

private def isCased (c : Char) : Bool := CodePoints.has c.toNat casedRanges

private def isCaseIgnorable (c : Char) : Bool := CodePoints.has c.toNat caseIgnorableRanges

private def nextIsCased (s : Text) : Bool := (s.dropWhile isCaseIgnorable).head?.any isCased

/-- A capital sigma is final when a letter with case stands before it and none stands after it. -/
def sigma (before after : Text) : Char :=
  if nextIsCased before && !nextIsCased after then 'ς' else 'σ'

/-- The lower-case image of one character that does not look at its neighbours. -/
def lowerChar (c : Char) : Text :=
  if c.toNat < 128 then [c.toLower]
  else if c.toNat = 0x130 then ['i', Char.ofNat 0x307]
  else match CodePointRuns.find? c.toNat lowerRuns with
    | some n => [Char.ofNat n]
    | none => [c]

/-- The lower case of `s`, which follows the characters `before`, the nearest first. -/
def lowerAfter (before : Text) : Text → Text
  | [] => []
  | c :: s => (if c = 'Σ' then [sigma before s] else lowerChar c) ++ lowerAfter (c :: before) s

/-- The lower case of a text. -/
def lower (s : Text) : Text := lowerAfter [] s

/-- A caret is no letter with case, so that it decides nothing about a sigma behind it. -/
private theorem nextIsCased_append_caret (s : Text) : nextIsCased (s ++ ['^']) = nextIsCased s := by
  have hcaret : nextIsCased ['^'] = false := by decide +kernel
  rw [nextIsCased, nextIsCased, List.dropWhile_append]
  split
  · next hs =>
    rw [List.isEmpty_iff.1 hs]
    exact hcaret
  · next hs =>
    obtain ⟨c, t, hc⟩ := List.exists_cons_of_ne_nil fun h => hs (List.isEmpty_iff.2 h)
    rw [hc]
    rfl

private theorem lowerAfter_append_caret (before s : Text) :
    lowerAfter (before ++ ['^']) s = lowerAfter before s := by
  induction s generalizing before with
  | nil => rfl
  | cons c s ih =>
    rw [lowerAfter, lowerAfter, ← List.cons_append, ih, sigma, sigma, nextIsCased_append_caret]

theorem lower_caret (s : Text) : lower ('^' :: s) = '^' :: lower s :=
  congrArg ('^' :: ·) (lowerAfter_append_caret [] s)

/-- The lower case of ASCII letters; all else stays. -/
def lowerAscii (s : Text) : Text := s.map Char.toLower

/-- ASCII letters in upper case; other characters stay. -/
def upperAscii (s : Text) : Text := s.map Char.toUpper

end WikiText.Text
