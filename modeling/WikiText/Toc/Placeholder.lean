import WikiText.Text.Reader

/-! # Placeholder lines

A placeholder stands alone on its line: `toc` in braces, with an alignment before it and a parameter
after it if wanted. Up to three spaces may come first; with more the line would be code.
-/

namespace WikiText.Toc

/-- The side that a table of contents keeps to. -/
inductive Side where
  | left
  | right
deriving DecidableEq, Repr

/-- What a placeholder asks for, as written. -/
structure Placeholder where
  side : Option Side
  parameter : Option Text
deriving DecidableEq, Repr

def side? : Text → Option Side × Text
  | '<' :: s => (some .left, s)
  | '>' :: s => (some .right, s)
  | s => (none, s)

/-- The text after a word of small letters, which may be written in either case. -/
def afterWord? : (word s : Text) → Option Text
  | [], s => some s
  | _ :: _, [] => none
  | a :: word, c :: s => if c.toLower = a then afterWord? word s else none

/-- Read the placeholder up to its name: its side, and the text after the name. -/
def opening? (s : Text) : Option (Option Side × Text) :=
  match Text.dropAtMost Text.isSpace 3 s with
  | '\x7b' :: s =>
    let (side, s) := side? (s.dropWhile Text.isSpace)
    (afterWord? ['t', 'o', 'c'] s).map fun s => (side, s)
  | _ => none

/-! ## A whole line -/

/-- A parameter without the spaces at its end, of which one is kept where there is nothing else. -/
def parameter (content : Text) : Text :=
  match Text.dropEndWhile Text.isSpace content with
  | [] => [' ']
  | p => p

/-- The parameter in what stands between the name and the closing brace; `none` if this is no
parameter, `some none` if there is none. -/
def parameterOf? : Text → Option (Option Text)
  | [] => some none
  | [' '] => some none
  | ':' :: c :: s => some (some (parameter (c :: s)))
  | ' ' :: s => some (some (parameter (s.dropWhile Text.isSpace)))
  | _ => none

/-- The parameter in what stands behind the name on a line. The last brace of the line closes the
placeholder. -/
def parameterOfLine? (s : Text) : Option (Option Text) :=
  if s.elem '\n' then none
  else match (Text.dropEndWhile Text.isSpace s).reverse with
    | '\x7d' :: body => parameterOf? body.reverse
    | _ => none

/-- The placeholder that a line is. -/
def Placeholder.ofLine? (line : Text) : Option Placeholder := do
  let (side, s) ← opening? line
  (parameterOfLine? s).map fun p => ⟨side, p⟩

/-- Whether a line is a placeholder. -/
def isPlaceholder (line : Text) : Bool := (Placeholder.ofLine? line).isSome

/-! ## A line inside a text -/

/-- What follows the brace that closes a placeholder: spaces, and then the end of the line. -/
def lineEnd? (s : Text) : Option Text :=
  match s.dropWhile Text.isSpace with
  | [] => some []
  | '\n' :: s => some ('\n' :: s)
  | _ => none

/-- Close a placeholder: spaces, the brace, and the end of the line. -/
def closing? (s : Text) : Option Text :=
  match s.dropWhile Text.isSpace with
  | '\x7d' :: s => lineEnd? s
  | _ => none

/-- The shortest parameter after which the placeholder closes, and the text from the end of the line
on. -/
def shortest? : Text → Option (Text × Text)
  | [] => none
  | c :: s =>
    if c = '\n' then none
    else match closing? s with
      | some rest => some ([c], rest)
      | none => (shortest? s).map fun (p, rest) => (c :: p, rest)

/-- A parameter behind the name, and the text from the end of the line on. Spaces that introduce it
are not part of it, unless there is nothing else. -/
def introduced? : Text → Option (Text × Text)
  | ':' :: s => shortest? s
  | ' ' :: s =>
    let content := s.dropWhile Text.isSpace
    (shortest? content).or
      (if content.length < s.length then (closing? content).map fun rest => ([' '], rest)
       else none)
  | _ => none

/-- What stands behind the name: the parameter if there is one, and the text from the end of the
line on. -/
def parameterInText? (s : Text) : Option (Option Text × Text) :=
  match introduced? s with
  | some (p, rest) => some (some p, rest)
  | none => (closing? s).map fun rest => (none, rest)

/-- The placeholder with which a text begins, and the text from the end of its line on. -/
def Placeholder.read? (s : Text) : Option (Placeholder × Text) := do
  let (side, s) ← opening? s
  (parameterInText? s).map fun (p, rest) => (⟨side, p⟩, rest)

/-! ## What is read is taken from the front -/

theorem suffix_side? (s : Text) : (side? s).2 <:+ s := by
  unfold side?
  split
  · exact List.suffix_cons _ _
  · exact List.suffix_cons _ _
  · exact List.suffix_rfl

theorem suffix_of_afterWord? {word s rest : Text} (h : afterWord? word s = some rest) :
    rest <:+ s := by
  induction word generalizing s with
  | nil => exact (Option.some.inj h) ▸ List.suffix_rfl
  | cons a word ih =>
    cases s with
    | nil => simp [afterWord?] at h
    | cons c s =>
      rw [afterWord?] at h
      split at h
      · exact (ih h).trans (List.suffix_cons c s)
      · simp at h

/-- Besides what comes before it, the brace at the front is taken. -/
theorem suffix_of_opening? {s rest : Text} {side : Option Side}
    (h : opening? s = some (side, rest)) : ∃ t, rest <:+ t ∧ '\x7b' :: t <:+ s := by
  unfold opening? at h
  split at h
  · next t ht =>
    simp only [Option.map_eq_some_iff, Prod.mk.injEq] at h
    obtain ⟨r, hr, -, rfl⟩ := h
    refine ⟨t, ?_, ht ▸ Text.dropAtMost_suffix _ 3 s⟩
    exact (suffix_of_afterWord? hr).trans ((suffix_side? _).trans (List.dropWhile_suffix _))
  · simp at h

theorem suffix_of_lineEnd? {s rest : Text} (h : lineEnd? s = some rest) : rest <:+ s := by
  unfold lineEnd? at h
  split at h
  · rw [Option.some.injEq] at h
    exact h ▸ List.nil_suffix
  · next hs =>
    rw [Option.some.injEq] at h
    exact h ▸ hs ▸ List.dropWhile_suffix _
  · simp at h

theorem suffix_of_closing? {s rest : Text} (h : closing? s = some rest) : rest <:+ s := by
  unfold closing? at h
  split at h
  · next t ht =>
    have hs : '\x7d' :: t <:+ s := ht ▸ List.dropWhile_suffix _
    exact (suffix_of_lineEnd? h).trans ((List.suffix_cons _ t).trans hs)
  · simp at h

theorem suffix_of_shortest? {s p rest : Text} (h : shortest? s = some (p, rest)) : rest <:+ s := by
  induction s generalizing p with
  | nil => simp [shortest?] at h
  | cons c s ih =>
    rw [shortest?] at h
    split at h
    · simp at h
    · split at h
      · next r hr =>
        simp only [Option.some.injEq, Prod.mk.injEq] at h
        exact h.2 ▸ (suffix_of_closing? hr).trans (List.suffix_cons c s)
      · simp only [Option.map_eq_some_iff, Prod.exists, Prod.mk.injEq] at h
        obtain ⟨p', r, hr, -, rfl⟩ := h
        exact (ih hr).trans (List.suffix_cons c s)

theorem suffix_of_introduced? {s p rest : Text} (h : introduced? s = some (p, rest)) :
    rest <:+ s := by
  unfold introduced? at h
  split at h
  · exact (suffix_of_shortest? h).trans (List.suffix_cons _ _)
  · next s =>
    have hcontent : s.dropWhile Text.isSpace <:+ ' ' :: s :=
      (List.dropWhile_suffix _).trans (List.suffix_cons _ _)
    rcases Option.or_eq_some_iff.1 h with h | ⟨-, h⟩
    · exact (suffix_of_shortest? h).trans hcontent
    · split at h
      · simp only [Option.map_eq_some_iff, Prod.mk.injEq] at h
        obtain ⟨r, hr, -, rfl⟩ := h
        exact (suffix_of_closing? hr).trans hcontent
      · simp at h
  · simp at h

theorem suffix_of_parameterInText? {s rest : Text} {p : Option Text}
    (h : parameterInText? s = some (p, rest)) : rest <:+ s := by
  unfold parameterInText? at h
  split at h
  · next hi =>
    simp only [Option.some.injEq, Prod.mk.injEq] at h
    exact h.2 ▸ suffix_of_introduced? hi
  · simp only [Option.map_eq_some_iff, Prod.mk.injEq] at h
    obtain ⟨r, hr, -, rfl⟩ := h
    exact suffix_of_closing? hr

theorem Placeholder.length_lt_of_read? {s rest : Text} {p : Placeholder}
    (h : read? s = some (p, rest)) : rest.length < s.length := by
  unfold read? at h
  simp only [Option.bind_eq_bind, Option.bind_eq_some_iff, Option.map_eq_some_iff, Prod.exists,
    Prod.mk.injEq] at h
  obtain ⟨side, t, ho, q, r, hp, -, rfl⟩ := h
  obtain ⟨u, htu, hus⟩ := suffix_of_opening? ho
  have hrt := (suffix_of_parameterInText? hp).length_le
  have htu := htu.length_le
  have hus := hus.length_le
  rw [List.length_cons] at hus
  omega

/-- Finds placeholders at the starts of lines. -/
def Placeholder.reader : Text.Reader Placeholder where
  read? lineStart s := if lineStart then read? s else none
  length_lt h := by
    split at h
    · exact length_lt_of_read? h
    · simp at h

end WikiText.Toc
