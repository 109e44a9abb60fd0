/-!
# Text as a list of characters

Search, splitting and replacement on character lists. Positions count characters.
-/

namespace WikiText

/-- A text is the list of its characters, so that every scan is a recursion on it. -/
abbrev Text := List Char

namespace Text

/-- The rest of `s` after `p`, when `s` begins with `p`. -/
def strip? : (p s : Text) → Option Text
  | [], s => some s
  | _ :: _, [] => none
  | a :: p, b :: s => if a = b then strip? p s else none

@[simp] theorem strip?_nil (s : Text) : strip? [] s = some s := by cases s <;> rfl

theorem strip?_append (p s : Text) : strip? p (p ++ s) = some s := by
  induction p with
  | nil => simp
  | cons a p ih => simpa [strip?] using ih

theorem eq_append_of_strip? {p s r : Text} (h : strip? p s = some r) : s = p ++ r := by
  induction p generalizing s with
  | nil => simpa using h
  | cons a p ih =>
    cases s with
    | nil => simp [strip?] at h
    | cons b s =>
      by_cases hab : a = b
      · subst hab; simp [strip?] at h; simp [ih h]
      · simp [strip?, hab] at h

/-- The rest of `s` after `p`, or `s` itself when it does not begin with `p`. -/
def stripOptional (p s : Text) : Text := (strip? p s).getD s

theorem stripOptional_of_strip?_eq_none {p s : Text} (h : strip? p s = none) :
    stripOptional p s = s := by rw [stripOptional, h, Option.getD_none]

theorem eq_append_or_eq_stripOptional (p s : Text) :
    s = p ++ stripOptional p s ∨ s = stripOptional p s := by
  rw [stripOptional]
  cases h : strip? p s with
  | none => exact .inr rfl
  | some r => exact .inl (eq_append_of_strip? h)

theorem stripOptional_suffix (p s : Text) : stripOptional p s <:+ s := by
  rcases eq_append_or_eq_stripOptional p s with h | h
  · exact ⟨p, h.symm⟩
  · exact h ▸ List.suffix_rfl

/-- Whether `s` begins with `p`. -/
def startsWith (p s : Text) : Bool := (strip? p s).isSome

/-- Whether `s` ends with `p`. -/
def endsWith (p s : Text) : Bool := startsWith p.reverse s.reverse

/-- Split `s` at the first place where `p` begins: what stands before it, and what follows it. -/
def splitOnce? (p : Text) : Text → Option (Text × Text)
  | [] => match strip? p [] with
    | some r => some ([], r)
    | none => none
  | c :: s => match strip? p (c :: s) with
    | some r => some ([], r)
    | none => (splitOnce? p s).map fun (a, b) => (c :: a, b)

theorem eq_append_of_splitOnce? {p s a b : Text} (h : splitOnce? p s = some (a, b)) :
    s = a ++ p ++ b := by
  induction s generalizing a with
  | nil =>
    unfold splitOnce? at h
    split at h
    · next r hr =>
      simp only [Option.some.injEq, Prod.mk.injEq] at h
      rw [← h.1, ← h.2]; simpa using eq_append_of_strip? hr
    · simp at h
  | cons c s ih =>
    unfold splitOnce? at h
    split at h
    · next r hr =>
      simp only [Option.some.injEq, Prod.mk.injEq] at h
      rw [← h.1, ← h.2]; simpa using eq_append_of_strip? hr
    · simp only [Option.map_eq_some_iff, Prod.exists, Prod.mk.injEq] at h
      obtain ⟨a', b', hs, rfl, rfl⟩ := h
      simp [ih hs]

/-- Whether `p` stands anywhere in `s`. -/
def contains (p s : Text) : Bool := (splitOnce? p s).isSome

/-- The pieces of `s` between the characters `d`; there is always at least one. -/
def splitOn (d : Char) : Text → List Text
  | [] => [[]]
  | c :: s =>
    if c = d then [] :: splitOn d s
    else match splitOn d s with
      | [] => [[c]]
      | l :: ls => (c :: l) :: ls

/-- Put `d` between the pieces. -/
def joinWith (d : Text) : List Text → Text
  | [] => []
  | [l] => l
  | l :: ls => l ++ d ++ joinWith d ls

theorem splitOn_ne_nil (d : Char) (s : Text) : splitOn d s ≠ [] := by
  cases s with
  | nil => simp [splitOn]
  | cons c s =>
    unfold splitOn
    split
    · simp
    · split <;> simp

theorem splitOn_append_cons {d : Char} {l : Text} (h : d ∉ l) (s : Text) :
    splitOn d (l ++ d :: s) = l :: splitOn d s := by
  induction l with
  | nil => rw [List.nil_append, splitOn, if_pos rfl]
  | cons c l ih =>
    rw [List.mem_cons, not_or] at h
    rw [List.cons_append, splitOn, if_neg (Ne.symm h.1), ih h.2]

theorem splitOn_of_not_mem {d : Char} {l : Text} (h : d ∉ l) : splitOn d l = [l] := by
  induction l with
  | nil => rfl
  | cons c l ih =>
    rw [List.mem_cons, not_or] at h
    rw [splitOn, if_neg (Ne.symm h.1), ih h.2]

@[simp] theorem joinWith_splitOn (d : Char) (s : Text) : joinWith [d] (splitOn d s) = s := by
  induction s with
  | nil => rfl
  | cons c s ih =>
    unfold splitOn
    split
    · next h =>
      subst h
      match hs : splitOn c s with
      | [] => exact absurd hs (splitOn_ne_nil c s)
      | l :: ls => rw [hs] at ih; simp [joinWith, ih]
    · match hs : splitOn d s with
      | [] => exact absurd hs (splitOn_ne_nil d s)
      | [l] => rw [hs] at ih; simp [joinWith] at ih ⊢; exact ih
      | l :: m :: ls => rw [hs] at ih; simp [joinWith] at ih ⊢; exact ih

/-- The lines of a text, without their ends. -/
def lines : Text → List Text := splitOn '\n'

/-- The text of a list of lines. -/
def unlines : List Text → Text := joinWith ['\n']

@[simp] theorem unlines_lines (s : Text) : unlines (lines s) = s := joinWith_splitOn _ _

private theorem length_lt_of_strip? {c : Char} {p s r : Text} (h : strip? (c :: p) s = some r) :
    r.length < s.length := by
  rw [eq_append_of_strip? h, List.length_append, List.length_cons]; omega

/-- Replace each occurrence of `p`, from the left and without overlaps. An empty `p` stands before
each character and at the end. -/
def replaceAll (p q : Text) (s : Text) : Text :=
  match p with
  | [] => q ++ s.flatMap fun c => c :: q
  | a :: p =>
    match h : strip? (a :: p) s with
    | some r =>
      have := length_lt_of_strip? h
      q ++ replaceAll (a :: p) q r
    | none => match s with
      | [] => []
      | c :: s => c :: replaceAll (a :: p) q s
termination_by s.length

/-- The pieces of `s` between the occurrences of the text `d`, which is not empty. -/
def splitOnText (d : Text) (s : Text) : List Text :=
  match d with
  | [] => [s]
  | a :: d =>
    match h : strip? (a :: d) s with
    | some r =>
      have := length_lt_of_strip? h
      [] :: splitOnText (a :: d) r
    | none => match s with
      | [] => [[]]
      | c :: s => match splitOnText (a :: d) s with
        | [] => [[c]]
        | l :: ls => (c :: l) :: ls
termination_by s.length

/-- Drop the characters of a class from the end. -/
def dropEndWhile (f : Char → Bool) (s : Text) : Text := (s.reverse.dropWhile f).reverse

/-- Drop the characters of a class from both ends. -/
def trimWhile (f : Char → Bool) (s : Text) : Text := dropEndWhile f (s.dropWhile f)

/-- The digits of a number in base ten. -/
def ofNat (n : Nat) : Text := Nat.toDigits 10 n

theorem ofNat_inj {m n : Nat} (h : ofNat m = ofNat n) : m = n := by
  have hvalue := congrArg (fun ds => Nat.ofDigitChars 10 ds 0) h
  simpa only [ofNat, Nat.ofDigitChars_ten_toDigits] using hvalue

theorem ofNat_ne_nil (n : Nat) : ofNat n ≠ [] := Nat.toDigits_ne_nil

/-- A whole number, with a minus sign before the digits of a negative one. -/
def ofInt : Int → Text
  | .ofNat n => ofNat n
  | .negSucc n => '-' :: ofNat (n + 1)

/-- The value of ASCII digits read in base ten. -/
def natOfDigits (s : Text) : Nat := s.foldl (fun n c => 10 * n + (c.toNat - 48)) 0

@[simp] theorem natOfDigits_ofNat (n : Nat) : natOfDigits (ofNat n) = n :=
  Nat.ofDigitChars_ten_toDigits

def isSpace (c : Char) : Bool := c = ' '

/-- The number of characters of a class at the front. -/
def countFront (f : Char → Bool) (s : Text) : Nat := (s.takeWhile f).length

/-- The characters of a class at the front, of which there is one at least, and the text after
them. -/
def run? (f : Char → Bool) (s : Text) : Option (Text × Text) :=
  match s.takeWhile f with
  | [] => none
  | c :: w => some (c :: w, s.dropWhile f)

theorem eq_of_run? {f : Char → Bool} {s w rest : Text} (h : run? f s = some (w, rest)) :
    s = w ++ rest ∧ w ≠ [] ∧ w.all f = true := by
  unfold run? at h
  split at h
  · simp at h
  · next c v hw =>
    simp only [Option.some.injEq, Prod.mk.injEq] at h
    obtain ⟨rfl, rfl⟩ := h
    refine ⟨?_, by simp, ?_⟩
    · rw [← hw, List.takeWhile_append_dropWhile]
    · rw [← hw]
      exact List.all_takeWhile

theorem takeWhile_append_cons {f : Char → Bool} {w : Text} (hw : w.all f = true) {c : Char}
    (hc : f c = false) (rest : Text) : (w ++ c :: rest).takeWhile f = w := by
  rw [List.takeWhile_append_of_pos (List.all_eq_true.1 hw), List.takeWhile_cons, hc]
  simp

theorem dropWhile_append_cons {f : Char → Bool} {w : Text} (hw : w.all f = true) {c : Char}
    (hc : f c = false) (rest : Text) : (w ++ c :: rest).dropWhile f = c :: rest := by
  rw [List.dropWhile_append_of_pos (List.all_eq_true.1 hw), List.dropWhile_cons, hc]
  simp

theorem run?_append {f : Char → Bool} {w : Text} (hne : w ≠ []) (hw : w.all f = true) {c : Char}
    (hc : f c = false) (rest : Text) : run? f (w ++ c :: rest) = some (w, c :: rest) := by
  rw [run?, takeWhile_append_cons hw hc, dropWhile_append_cons hw hc]
  cases w with
  | nil => exact absurd rfl hne
  | cons d w => rfl

section NotMem

variable {d : Char} {l : Text} (h : d ∉ l)
include h

theorem takeWhile_ne_append (s : Text) :
    (l ++ s).takeWhile (· ≠ d) = l ++ s.takeWhile (· ≠ d) :=
  List.takeWhile_append_of_pos fun _ hc => decide_eq_true fun he => h (he ▸ hc)

theorem dropWhile_ne_append (s : Text) : (l ++ s).dropWhile (· ≠ d) = s.dropWhile (· ≠ d) :=
  List.dropWhile_append_of_pos fun _ hc => decide_eq_true fun he => h (he ▸ hc)

end NotMem

/-- A run at the front of a text, and what is found behind it. -/
theorem eq_append_of_drop_takeWhile {f : Char → Bool} {s r : Text}
    (h : s.drop (s.takeWhile f).length = r) : s = s.takeWhile f ++ r := by
  rw [← h]
  exact (List.prefix_iff_eq_append.1 (List.takeWhile_prefix f)).symm

/-- `n` copies of a character. -/
def copies (n : Nat) (c : Char) : Text := List.replicate n c

/-- Drop at most `n` characters of a class from the front. -/
def dropAtMost (f : Char → Bool) : Nat → Text → Text
  | 0, s => s
  | _ + 1, [] => []
  | n + 1, c :: s => if f c then dropAtMost f n s else c :: s

theorem dropAtMost_suffix (f : Char → Bool) (n : Nat) (s : Text) : dropAtMost f n s <:+ s := by
  induction n generalizing s with
  | zero => exact List.suffix_rfl
  | succ n ih =>
    cases s with
    | nil => exact List.suffix_rfl
    | cons c s =>
      rw [dropAtMost]
      split
      · exact (ih s).trans (List.suffix_cons c s)
      · exact List.suffix_rfl

end Text

end WikiText
