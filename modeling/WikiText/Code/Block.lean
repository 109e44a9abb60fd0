import WikiText.Html.Reference
import WikiText.Text.Blank
import WikiText.Text.Lower
import WikiText.Text.Reader
import WikiText.Text.Word

/-! # Code blocks in rendered markup

A code block with a language stands at the start of a line. Its code goes from its start tags to its
end tags, without the blank lines it begins with.
-/

namespace WikiText.Code

/-- A block as written: the white space inside its start tag, its language, the blank lines that it
begins with, and its code in escaped form. -/
structure Block where
  gap : Text
  language : Text
  blank : Text
  content : Text
deriving DecidableEq, Repr

/-- The end tags of a block. -/
def closing : Text := "</code></pre>".toList

namespace Block

/-- The code that the author wrote. -/
def code (b : Block) : Text := Html.unescape b.content

/-- The language in lower case. -/
def tag (b : Block) : Text := Text.lower b.language

/-- The start tags of a block. -/
def startTags (gap language : Text) : Text :=
  "<pre><code".toList ++ gap ++ "class=\"".toList ++ language ++ "\">".toList

/-- The block as it stands in the markup. -/
def markup (b : Block) : Text := startTags b.gap b.language ++ b.blank ++ b.content ++ closing

/-- The start tags of a block: their white space, their language, and the text after them. -/
def opening? (s : Text) : Option (Text × Text × Text) := do
  let s ← Text.strip? "<pre><code".toList s
  let (gap, s) ← Text.run? Text.isBlank s
  let s ← Text.strip? "class=\"".toList s
  let (language, s) ← Text.run? Text.isWord s
  let s ← Text.strip? "\">".toList s
  some (gap, language, s)

/-- The blank line with which a text begins, its end included, and the text after it. -/
def blankLine? : Text → Option (Text × Text)
  | [] => none
  | c :: s =>
    if c = '\n' then some (['\n'], s)
    else if c = ' ' ∨ c = '\t' then (blankLine? s).map fun (line, rest) => (c :: line, rest)
    else none

theorem eq_of_blankLine? {s line rest : Text} (h : blankLine? s = some (line, rest)) :
    s = line ++ rest ∧ line ≠ [] := by
  induction s generalizing line with
  | nil => simp [blankLine?] at h
  | cons c s ih =>
    rw [blankLine?] at h
    split at h
    · next hc =>
      simp only [Option.some.injEq, Prod.mk.injEq] at h
      obtain ⟨rfl, rfl⟩ := h
      exact ⟨by rw [hc]; rfl, by simp⟩
    · split at h
      · simp only [Option.map_eq_some_iff, Prod.exists, Prod.mk.injEq] at h
        obtain ⟨l, r, hl, rfl, rfl⟩ := h
        exact ⟨by rw [(ih hl).1]; rfl, by simp⟩
      · simp at h

theorem length_lt_of_blankLine? {s line rest : Text} (h : blankLine? s = some (line, rest)) :
    rest.length < s.length := by
  obtain ⟨hs, hne⟩ := eq_of_blankLine? h
  have hpos := List.length_pos_iff.2 hne
  rw [hs, List.length_append]
  omega

/-- The blank lines with which a text begins. -/
def blankLines (s : Text) : List Text :=
  match h : blankLine? s with
  | some (line, rest) =>
    have := length_lt_of_blankLine? h
    line :: blankLines rest
  | none => []
termination_by s.length

/-- Code of at least one character up to the end tags, and the text after them. -/
def content? : Text → Option (Text × Text)
  | [] => none
  | c :: s => (Text.splitOnce? closing s).map fun (content, rest) => (c :: content, rest)

/-- The code behind some of the blank lines with which a text begins: these lines, the code, and the
text after the block. -/
def behind? (lines : List Text) (s : Text) : Option (Text × Text × Text) :=
  (content? (s.drop lines.flatten.length)).map fun (content, rest) => (lines.flatten, content, rest)

/-- What stands between the start tags and the end tags, and the text after these. Where nothing
stands between the blank lines and the last end tags, the last of these lines is the code. -/
def inside? (s : Text) : Option (Text × Text × Text) :=
  let lines := blankLines s
  (behind? lines s).or (if lines = [] then none else behind? lines.dropLast s)

/-- The block with which a text begins, and the text after it. -/
def read? (s : Text) : Option (Block × Text) := do
  let (gap, language, s) ← opening? s
  let (blank, content, rest) ← inside? s
  some (⟨gap, language, blank, content⟩, rest)

/-! ## What is read is a block as written -/

theorem eq_of_opening? {s gap language rest : Text}
    (h : opening? s = some (gap, language, rest)) :
    s = startTags gap language ++ rest ∧ (gap ≠ [] ∧ gap.all Text.isBlank = true) ∧
      language ≠ [] ∧ language.all Text.isWord = true := by
  simp only [opening?, Option.bind_eq_bind, Option.bind_eq_some_iff] at h
  obtain ⟨s₁, h₁, ⟨g, s₂⟩, h₂, s₃, h₃, ⟨l, s₄⟩, h₄, s₅, h₅, h⟩ := h
  simp only [Option.some.injEq, Prod.mk.injEq] at h
  obtain ⟨rfl, rfl, rfl⟩ := h
  obtain ⟨hgap, hg⟩ := Text.eq_of_run? h₂
  obtain ⟨hlanguage, hl⟩ := Text.eq_of_run? h₄
  have hclass : s₂ = "class=\"".toList ++ s₃ := Text.eq_append_of_strip? h₃
  have hend : s₄ = "\">".toList ++ s₅ := Text.eq_append_of_strip? h₅
  refine ⟨?_, hg, hl⟩
  rw [Text.eq_append_of_strip? h₁, hgap, hclass, hlanguage, hend]
  unfold startTags
  simp only [List.append_assoc]

theorem flatten_blankLines_prefix (s : Text) : (blankLines s).flatten <+: s := by
  fun_induction blankLines s with
  | case1 s line rest h _ ih =>
    rw [(eq_of_blankLine? h).1, List.flatten_cons]
    exact (List.prefix_append_right_inj line).2 ih
  | case2 s h => exact List.nil_prefix

theorem eq_of_content? {s content rest : Text} (h : content? s = some (content, rest)) :
    s = content ++ closing ++ rest := by
  cases s with
  | nil => simp [content?] at h
  | cons c s =>
    simp only [content?, Option.map_eq_some_iff, Prod.exists, Prod.mk.injEq] at h
    obtain ⟨a, b, hs, rfl, rfl⟩ := h
    rw [Text.eq_append_of_splitOnce? hs]
    simp

theorem eq_of_behind? {lines : List Text} {s blank content rest : Text} (hs : lines.flatten <+: s)
    (h : behind? lines s = some (blank, content, rest)) :
    s = blank ++ content ++ closing ++ rest := by
  obtain ⟨t, rfl⟩ := hs
  simp only [behind?, List.drop_left, Option.map_eq_some_iff, Prod.exists, Prod.mk.injEq] at h
  obtain ⟨c, r, hc, rfl, rfl, rfl⟩ := h
  rw [eq_of_content? hc]
  simp

theorem eq_of_inside? {s blank content rest : Text} (h : inside? s = some (blank, content, rest)) :
    s = blank ++ content ++ closing ++ rest := by
  have hall := flatten_blankLines_prefix s
  rcases Option.or_eq_some_iff.1 h with h | ⟨-, h⟩
  · exact eq_of_behind? hall h
  · split at h
    · simp at h
    · obtain ⟨last, hlast⟩ := List.dropLast_prefix (blankLines s)
      have hbefore : (blankLines s).dropLast.flatten <+: (blankLines s).flatten :=
        ⟨last.flatten, by rw [← List.flatten_append, hlast]⟩
      exact eq_of_behind? (hbefore.trans hall) h

theorem eq_append_of_read? {s rest : Text} {b : Block} (h : read? s = some (b, rest)) :
    s = b.markup ++ rest := by
  simp only [read?, Option.bind_eq_bind, Option.bind_eq_some_iff, Prod.exists, Option.some.injEq,
    Prod.mk.injEq] at h
  obtain ⟨gap, language, t, ho, blank, content, r, hi, rfl, rfl⟩ := h
  rw [(eq_of_opening? ho).1, eq_of_inside? hi]
  simp [markup]

theorem length_lt_of_read? {s rest : Text} {b : Block} (h : read? s = some (b, rest)) :
    rest.length < s.length := by
  rw [eq_append_of_read? h, List.length_append, markup, List.length_append]
  have hpos : 0 < closing.length := by decide
  omega

/-- Finds blocks at the starts of lines. -/
def reader : Text.Reader Block where
  read? lineStart s := if lineStart then read? s else none
  length_lt h := by
    split at h
    · exact length_lt_of_read? h
    · simp at h

end Block

end WikiText.Code
