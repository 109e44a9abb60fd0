import WikiText.Text.Blank
import WikiText.Text.Reader
import WikiText.Text.Word

/-! # Headings as labels of links

A label stands inside a link, and the heading it was taken from stands elsewhere. So it holds no
footnote reference, no link and no identifier.
-/

namespace WikiText.Toc

/-! ## Tags -/

/-- The text after a tag name, when the name ends there. -/
def afterName? (opening s : Text) : Option Text := do
  let rest ← Text.strip? opening s
  if rest.head?.any Text.isWord then none else some rest

/-- Split at the first `>`: the inside of a tag, and the text after it. -/
def tagEnd? (s : Text) : Option (Text × Text) := Text.splitOnce? ['>'] s

theorem eq_append_of_afterName? {opening s rest : Text} (h : afterName? opening s = some rest) :
    s = opening ++ rest := by
  simp only [afterName?, Option.bind_eq_bind, Option.bind_eq_some_iff] at h
  obtain ⟨t, ht, h⟩ := h
  split at h
  · cases h
  · cases h
    exact Text.eq_append_of_strip? ht

theorem eq_append_of_tagEnd? {s inside rest : Text} (h : tagEnd? s = some (inside, rest)) :
    s = inside ++ '>' :: rest := by
  rw [Text.eq_append_of_splitOnce? h, List.append_assoc]
  rfl

/-! ## What is dropped -/

/-- Whether the inside of a tag marks a footnote reference. The attribute must begin a word. -/
def marksFootnote (before : Option Char) : Text → Bool
  | [] => false
  | c :: s =>
    (!before.any Text.isWord && Text.startsWith "rel=\"footnote\"".toList (c :: s)) ||
      marksFootnote (some c) s

/-- The text after the first link end that the end of a raised text follows. -/
def afterLink? : Text → Option Text
  | [] => none
  | c :: s =>
    match (Text.strip? "</a>".toList (c :: s)).bind fun rest =>
      Text.strip? "</sup>".toList (Text.trimStart rest) with
    | some rest => some rest
    | none => afterLink? s

/-- The text after a footnote reference: a link in a raised text, with the footnote's mark. -/
def afterReference? (s : Text) : Option Text := do
  let (_, s) ← tagEnd? (← afterName? "<sup".toList s)
  let (inside, s) ← tagEnd? (← afterName? "<a".toList (Text.trimStart s))
  if marksFootnote (some 'a') inside then afterLink? s else none

/-- The text after the start or the end tag of a link. -/
def afterLinkTag? (s : Text) : Option Text := do
  let (_, rest) ← tagEnd? (← (afterName? "<a".toList s).or (afterName? "</a".toList s))
  some rest

/-- The text after white space and an `id` attribute. -/
def afterId? (s : Text) : Option Text := do
  let rest ← Text.strip? "id=\"".toList (s.dropWhile Text.isBlank)
  if s.head?.any Text.isBlank then
    let (_, rest) ← Text.splitOnce? ['"'] rest
    some rest
  else none

theorem suffix_of_afterLink? {s rest : Text} (h : afterLink? s = some rest) : rest <:+ s := by
  induction s with
  | nil => cases h
  | cons c s ih =>
    rw [afterLink?] at h
    split at h
    · next r hr =>
      cases h
      obtain ⟨t, ht, hsup⟩ := Option.bind_eq_some_iff.1 hr
      rw [Text.eq_append_of_strip? ht]
      refine List.IsSuffix.trans ?_ (List.suffix_append _ t)
      refine List.IsSuffix.trans ?_ (List.dropWhile_suffix Text.isBlank)
      exact ⟨_, (Text.eq_append_of_strip? hsup).symm⟩
    · exact (ih h).trans (List.suffix_cons c s)

/-- A footnote reference begins with the tag of a raised text, and the tag of a link is in it. -/
theorem exists_of_afterReference? {s rest : Text} (h : afterReference? s = some rest) :
    ∃ inside t u v, s = "<sup".toList ++ (inside ++ '>' :: t) ∧ t.dropWhile Text.isBlank = u ∧
      afterLinkTag? u = some v ∧ rest <:+ v := by
  simp only [afterReference?, Option.bind_eq_bind, Option.bind_eq_some_iff, Prod.exists] at h
  obtain ⟨s₁, hs₁, inside, t, ht, s₂, hs₂, inside₂, v, hv, h⟩ := h
  split at h
  · refine ⟨inside, t, _, v, ?_, rfl, ?_, suffix_of_afterLink? h⟩
    · rw [eq_append_of_afterName? hs₁, eq_append_of_tagEnd? ht]
    · rw [Text.trimStart] at hs₂
      simp only [afterLinkTag?, hs₂, Option.some_or, Option.bind_eq_bind, Option.bind_some, hv]
  · cases h

theorem length_lt_of_afterLinkTag? {s rest : Text} (h : afterLinkTag? s = some rest) :
    rest.length < s.length := by
  simp only [afterLinkTag?, Option.bind_eq_bind, Option.bind_eq_some_iff, Prod.exists,
    Option.or_eq_some_iff] at h
  obtain ⟨t, ht, inside, r, hr, h⟩ := h
  cases h
  rcases ht with ht | ⟨-, ht⟩
  · rw [eq_append_of_afterName? ht, eq_append_of_tagEnd? hr]
    simp only [List.length_append, List.length_cons]
    omega
  · rw [eq_append_of_afterName? ht, eq_append_of_tagEnd? hr]
    simp only [List.length_append, List.length_cons]
    omega

theorem length_lt_of_afterReference? {s rest : Text} (h : afterReference? s = some rest) :
    rest.length < s.length := by
  obtain ⟨inside, t, u, v, rfl, rfl, hv, hrest⟩ := exists_of_afterReference? h
  have hlink := length_lt_of_afterLinkTag? hv
  have hle := hrest.length_le
  have hdrop := (List.dropWhile_suffix (l := t) Text.isBlank).length_le
  simp only [List.length_append, List.length_cons]
  omega

theorem length_lt_of_afterId? {s rest : Text} (h : afterId? s = some rest) :
    rest.length < s.length := by
  simp only [afterId?, Option.bind_eq_bind, Option.bind_eq_some_iff] at h
  obtain ⟨t, ht, h⟩ := h
  split at h
  · simp only [Option.bind_eq_some_iff, Prod.exists] at h
    obtain ⟨value, r, hr, h⟩ := h
    cases h
    have hdrop := (List.dropWhile_suffix (l := s) Text.isBlank).length_le
    rw [Text.eq_append_of_strip? ht, Text.eq_append_of_splitOnce? hr] at hdrop
    simp only [List.length_append] at hdrop
    have hid : "id=\"".toList.length = 4 := rfl
    omega
  · cases h

/-! ## Labels -/

/-- Finds the stretches behind which `after?` goes on. -/
def stretches (after? : Text → Option Text)
    (length_lt : ∀ {s rest}, after? s = some rest → rest.length < s.length) : Text.Reader Unit where
  read? _ s := (after? s).map ((), ·)
  length_lt h := by
    obtain ⟨_, hrest, he⟩ := Option.map_eq_some_iff.1 h
    cases he
    exact length_lt hrest

/-- A text without the stretches that a reader finds. -/
def dropEach (r : Text.Reader Unit) (s : Text) : Text :=
  Text.Piece.fill (fun _ => []) (r.pieces true s)

def referenceReader : Text.Reader Unit := stretches afterReference? length_lt_of_afterReference?

def linkTagReader : Text.Reader Unit := stretches afterLinkTag? length_lt_of_afterLinkTag?

def idReader : Text.Reader Unit := stretches afterId? length_lt_of_afterId?

/-- The markup of a heading without its footnote references, link tags and identifiers. -/
def label (content : Text) : Text :=
  Text.trim (dropEach idReader (dropEach linkTagReader (dropEach referenceReader content)))

end WikiText.Toc
