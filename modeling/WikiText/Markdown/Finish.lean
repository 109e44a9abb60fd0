import WikiText.Markdown.Footnotes
import WikiText.Markdown.Inline.Piece
import WikiText.Markdown.Tag
import WikiText.Text.Reader

/-! # Finished markup

Once a document is written out, what was put aside comes back, and marks give way to what they stand
for.
-/

namespace WikiText.Markdown

/-- Whether markup begins with an element of block level, a comment or an instruction. -/
def isBlockMarkup (s : Text) : Bool :=
  match s with
  | '<' :: s =>
    let name (s : Text) : Text := s.takeWhile fun c => c ≠ ' ' && c ≠ '>'
    let tag := match s with
      | '/' :: t => if (name t).isEmpty then name s else name t
      | s => name s
    match tag with
    | c :: _ => c = '!' || c = '?' || c = '@' || c = '%' || isBlockTag tag
    | [] => false
  | _ => false

/-- The marker of a block at the front of a text, and the text after it. -/
def stashMarker? (s : Text) : Option (Nat × Text) := do
  let s ← Text.strip? (Stash.opening :: "wzxhzdk:".toList) s
  let digits := s.takeWhile Text.isAsciiDigit
  match digits, s.drop digits.length with
  | _ :: _, c :: rest => if c = Stash.closing then some (Text.natOfDigits digits, rest) else none
  | _, _ => none

/-- The marker of a block that is a paragraph of its own, and the text after the paragraph. -/
def paragraphMarker? (s : Text) : Option (Nat × Text) := do
  let (k, s) ← stashMarker? (← Text.strip? "<p>".toList s)
  some (k, ← Text.strip? "</p>".toList s)

/-- A marker is its opening, digits and its end. -/
theorem exists_of_stashMarker? {s rest : Text} {k : Nat} (h : stashMarker? s = some (k, rest)) :
    ∃ digits, s = (Stash.opening :: "wzxhzdk:".toList) ++ (digits ++ Stash.closing :: rest) := by
  simp only [stashMarker?, Option.bind_eq_bind, Option.bind_eq_some_iff] at h
  obtain ⟨t, ht, h⟩ := h
  split at h
  · next hdrop =>
    split at h
    · next hclosing =>
      cases h
      rw [hclosing] at hdrop
      exact ⟨_, by rw [Text.eq_append_of_strip? ht, ← Text.eq_append_of_drop_takeWhile hdrop]⟩
    · cases h
  · cases h

theorem exists_of_paragraphMarker? {s rest : Text} {k : Nat}
    (h : paragraphMarker? s = some (k, rest)) :
    ∃ t, s = "<p>".toList ++ t ∧ stashMarker? t = some (k, "</p>".toList ++ rest) := by
  simp only [paragraphMarker?, Option.bind_eq_bind, Option.bind_eq_some_iff, Prod.exists,
    Option.some.injEq, Prod.mk.injEq] at h
  obtain ⟨t, ht, n, u, hu, v, hv, rfl, rfl⟩ := h
  exact ⟨t, Text.eq_append_of_strip? ht, Text.eq_append_of_strip? hv ▸ hu⟩

theorem length_lt_of_stashMarker? {s rest : Text} {k : Nat} (h : stashMarker? s = some (k, rest)) :
    rest.length < s.length := by
  obtain ⟨digits, rfl⟩ := exists_of_stashMarker? h
  simp only [List.length_append, List.length_cons]
  omega

theorem length_lt_of_paragraphMarker? {s rest : Text} {k : Nat}
    (h : paragraphMarker? s = some (k, rest)) : rest.length < s.length := by
  obtain ⟨t, rfl, hmarker⟩ := exists_of_paragraphMarker? h
  have hlt := length_lt_of_stashMarker? hmarker
  rw [List.length_append] at hlt ⊢
  omega

/-- A marker that was found: whether it is a paragraph of its own, the index of its block, and what
it is written as. -/
structure FoundMarker where
  inParagraph : Bool
  index : Nat
  written : Text
deriving DecidableEq, Repr

/-- Finds markers. A paragraph goes before the marker in it. -/
def FoundMarker.reader : Text.Reader FoundMarker where
  read? _ s :=
    (((paragraphMarker? s).map (true, ·)).or ((stashMarker? s).map (false, ·))).map
      fun (inParagraph, k, rest) => (⟨inParagraph, k, s.take (s.length - rest.length)⟩, rest)
  length_lt h := by
    simp only [Option.map_eq_some_iff, Option.or_eq_some_iff, Prod.exists, Prod.mk.injEq] at h
    obtain ⟨b, k, r, ⟨k', r', hp, -, rfl, rfl⟩ | ⟨-, k', r', hm, -, rfl, rfl⟩, -, rfl⟩ := h
    · exact length_lt_of_paragraphMarker? hp
    · exact length_lt_of_stashMarker? hm

/-- A block as it comes back: in a paragraph of its own it stays in it unless it is of block
level. -/
def comeBack (inParagraph : Bool) (block : Text) : Text :=
  if inParagraph && !isBlockMarkup block then "<p>".toList ++ block ++ "</p>".toList else block

/-- Put blocks back in place of their markers, those inside other blocks included. A block was put
aside after those inside it, so `depth` is the number of blocks. -/
def restoreTo (stash : Stash) : (depth : Nat) → Text → Text
  | 0, s => s
  | depth + 1, s =>
    Text.Piece.fill
      (fun m => match stash.blocks[m.index]? with
        | some block => restoreTo stash depth (comeBack m.inParagraph block)
        | none => m.written)
      (FoundMarker.reader.pieces true s)

/-- Put every block back in place of its marker. -/
def restoreBlocks (stash : Stash) (s : Text) : Text := restoreTo stash (stash.blocks.length + 1) s

/-- Write the marks of links back and of firm spaces as character references. -/
def finishFootnotes (s : Text) : Text :=
  Text.replaceAll Footnotes.spaceMark "&#160;".toList
    (Text.replaceAll Footnotes.backlinkMark "&#8617;".toList s)

/-- Write the ampersands that must not be escaped. -/
def finishAmpersands (s : Text) : Text := Text.replaceAll ampersandMark ['&'] s

end WikiText.Markdown
