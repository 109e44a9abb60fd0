import WikiText.Proofs.Code.Region
import WikiText.Proofs.Html.Escape

/-!
# Code that comes back from markup

A renderer writes code in escaped form between start tags and end tags.  The highlighter finds each
block of such a document and calls the engine with the code as the author wrote it, without the
blank lines that it begins with.  Main statement: `highlight_document`.
-/

namespace WikiText.Code

open Text (Framed Piece)

/-! ## Blank lines of code -/

def isBlankLine (line : Text) : Bool := line.all fun c => c = ' ' || c = '\t'

/-- Drop the lines of spaces and tabs at the front.  The last line stays, whatever it is. -/
def dropBlank : List Text → List Text
  | [] => []
  | [line] => [line]
  | line :: next :: lines =>
    if isBlankLine line then dropBlank (next :: lines) else line :: next :: lines

/-- Code without the blank lines that it begins with. -/
def dropBlankLines (code : Text) : Text := Text.unlines (dropBlank (Text.lines code))

theorem Block.blankLine?_of_not_mem {s : Text} (h : '\n' ∉ s) : blankLine? s = none := by
  induction s with
  | nil => rfl
  | cons c s ih =>
    rw [List.mem_cons, not_or] at h
    rw [blankLine?, if_neg (Ne.symm h.1), ih h.2]
    exact ite_self _

/-- A line with other characters than spaces and tabs is not blank. -/
theorem Block.blankLine?_append_of_not_isBlankLine {line : Text} (hline : '\n' ∉ line)
    (h : isBlankLine line = false) (s : Text) : blankLine? (line ++ s) = none := by
  induction line with
  | nil => simp [isBlankLine] at h
  | cons c line ih =>
    rw [List.mem_cons, not_or] at hline
    rw [List.cons_append, blankLine?, if_neg (Ne.symm hline.1)]
    split
    · next hc =>
      have hrest : isBlankLine line = false := by
        rcases hc with rfl | rfl <;> simpa [isBlankLine] using h
      rw [ih hline.2 hrest]
      rfl
    · rfl

theorem exists_blankLines_unlines {ls : List Text} (hls : ∀ l ∈ ls, '\n' ∉ l) :
    ∃ bs : List Text, (∀ b ∈ bs, Block.IsBlankLine b) ∧
      Text.unlines ls = bs.flatten ++ Text.unlines (dropBlank ls) ∧
      Block.blankLine? (Text.unlines (dropBlank ls)) = none := by
  fun_induction dropBlank ls with
  | case1 => exact ⟨[], by simp, rfl, rfl⟩
  | case2 line => exact ⟨[], by simp, rfl, Block.blankLine?_of_not_mem (hls line (by simp))⟩
  | case3 line next lines hblank ih =>
    obtain ⟨bs, hbs, heq, hnone⟩ := ih (List.forall_mem_of_forall_mem_cons hls)
    have hline : Block.IsBlankLine (line ++ ['\n']) :=
      ⟨line, rfl, fun c hc => by simpa using List.all_eq_true.1 hblank c hc⟩
    refine ⟨(line ++ ['\n']) :: bs, List.forall_mem_cons.2 ⟨hline, hbs⟩, ?_, hnone⟩
    rw [Text.unlines_cons_cons, heq]
    simp
  | case4 line next lines hblank =>
    refine ⟨[], by simp, rfl, ?_⟩
    rw [Text.unlines_cons_cons]
    exact Block.blankLine?_append_of_not_isBlankLine (hls line (by simp))
      (Bool.eq_false_iff.2 hblank) _

/-- Code is its blank lines, and what is left without them. -/
theorem eq_blankLines_append (code : Text) :
    code = (Block.blankLines code).flatten ++ dropBlankLines code ∧
      Block.blankLine? (dropBlankLines code) = none := by
  have hends : ∀ l ∈ Text.lines code, '\n' ∉ l := fun _ => Text.not_mem_of_mem_lines
  obtain ⟨bs, hbs, heq, hnone⟩ := exists_blankLines_unlines hends
  rw [Text.unlines_lines, ← dropBlankLines] at heq
  have hlines : Block.blankLines code = bs := by
    rw [heq]
    exact Block.blankLines_flatten_append hbs hnone
  exact ⟨hlines ▸ heq, hnone⟩

/-! ## Escaped code -/

theorem Block.IsBlankLine.escape {l : Text} (h : IsBlankLine l) :
    Html.escape .doubleOnly l = l := by
  obtain ⟨w, rfl, hw⟩ := h
  refine Html.escape_eq_self fun c hc => ?_
  rcases List.mem_append.1 hc with hc | hc
  · rcases hw c hc with rfl | rfl <;> rfl
  · rw [List.mem_singleton.1 hc]
    rfl

theorem escape_flatten {ls : List Text} (h : ∀ l ∈ ls, Block.IsBlankLine l) :
    Html.escape .doubleOnly ls.flatten = ls.flatten := by
  induction ls with
  | nil => rfl
  | cons l ls ih =>
    rw [List.forall_mem_cons] at h
    rw [List.flatten_cons, Html.escape_append, h.1.escape, ih h.2]

/-- Escaped code begins with a blank line only if the code does. -/
theorem Block.blankLine?_escape {s : Text} (h : blankLine? s = none) (rest : Text) :
    blankLine? (Html.escape .doubleOnly s ++ (closing ++ rest)) = none := by
  induction s with
  | nil => rfl
  | cons c s ih =>
    rw [blankLine?] at h
    split at h
    · simp at h
    · next hc =>
      split at h
      · next hblank =>
        have hs := ih (Option.map_eq_none_iff.1 h)
        have hescape : Html.escapeChar .doubleOnly c = [c] := by
          rcases hblank with rfl | rfl <;> rfl
        rw [Html.escape_cons, hescape, List.append_assoc, List.singleton_append, blankLine?,
          if_neg hc, if_pos hblank, hs]
        rfl
      · next hblank =>
        obtain ⟨d, t, hescape, hd⟩ := Html.exists_escapeChar_eq_cons c
        have hline : d ≠ '\n' := by
          rcases hd with rfl | rfl
          · exact hc
          · decide
        have hspace : ¬ (d = ' ' ∨ d = '\t') := by
          rcases hd with rfl | rfl
          · exact hblank
          · decide
        rw [Html.escape_cons, hescape, List.cons_append, List.cons_append, blankLine?, if_neg hline,
          if_neg hspace]

/-! ## Documents -/

/-- Code in some language, as its author wrote it. -/
structure Authored where
  language : Text
  code : Text
deriving DecidableEq, Repr

namespace Authored

/-- The block that a renderer writes. -/
def markup (w : Authored) : Text :=
  "<pre><code class=\"".toList ++ w.language ++ "\">".toList ++ Html.escape .doubleOnly w.code ++
    closing

/-- The block with what an engine gives for its code. -/
def highlighted (cssClass : Text) (w : Authored) (answer : Text) : Text :=
  "<pre><code class=\"".toList ++ Text.lower w.language ++ ' ' :: cssClass ++ "\">".toList ++
    answer ++ closing

/-- What an engine is called with. -/
def call (w : Authored) : Text × Text := (dropBlankLines w.code, Text.lower w.language)

/-- The language is a word, and the code has more than blank lines. -/
structure Valid (w : Authored) : Prop where
  language : w.language ≠ [] ∧ w.language.all Text.isWord = true
  code : dropBlankLines w.code ≠ []

instance (w : Authored) : Decidable w.Valid :=
  decidable_of_iff (_ ∧ _) ⟨fun h => ⟨h.1, h.2⟩, fun h => ⟨h.language, h.code⟩⟩

/-- The block as the highlighter reads it. -/
def block (w : Authored) : Block :=
  ⟨[' '], w.language, (Block.blankLines w.code).flatten,
    Html.escape .doubleOnly (dropBlankLines w.code)⟩

theorem call_block (w : Authored) : w.block.call = w.call := by
  rw [Block.call, Block.code, block, Html.unescape_escape Html.isSound_doubleOnly]
  rfl

theorem markup_eq (w : Authored) (rest : Text) :
    w.markup ++ rest = Block.startTags [' '] w.language ++
      (w.block.blank ++ (w.block.content ++ (closing ++ rest))) := by
  have hcode : Html.escape .doubleOnly w.code = w.block.blank ++ w.block.content := by
    conv_lhs => rw [(eq_blankLines_append w.code).1]
    rw [Html.escape_append, escape_flatten fun _ => Block.isBlankLine_of_mem_blankLines]
    rfl
  unfold markup Block.startTags
  rw [hcode]
  simp only [List.append_assoc]
  rfl

theorem read?_markup {w : Authored} (hw : w.Valid) (rest : Text) :
    Block.read? (w.markup ++ rest) = some (w.block, rest) := by
  have hcontent : Block.content? (w.block.content ++ (closing ++ rest)) =
      some (w.block.content, rest) :=
    Block.content?_append (Html.escape_ne_nil hw.code)
      (Html.lt_not_mem_escape (by decide) (by decide) _) rest
  have hinside : Block.inside? (w.block.blank ++ (w.block.content ++ (closing ++ rest))) =
      some (w.block.blank, w.block.content, rest) :=
    Block.inside?_append (fun _ => Block.isBlankLine_of_mem_blankLines)
      (Block.blankLine?_escape (eq_blankLines_append w.code).2 rest) hcontent
  rw [markup_eq, Block.read?, Block.opening?_startTags (by decide) hw.language,
    Option.bind_eq_bind, Option.bind_some]
  simp only [hinside, Option.bind_some]
  rfl

end Authored

/-- A document in which blocks begin lines, and none begins in the text around them. -/
structure IsDocument (d : Framed Authored) : Prop where
  valid : ∀ p ∈ d.parts, p.1.Valid
  lead : ¬ "<pre><code".toList <:+: d.lead
  gaps : ∀ p ∈ d.parts, ¬ "<pre><code".toList <:+: p.2
  /-- The first block begins the document or a line of it. -/
  first : d.parts ≠ [] → d.lead = [] ∨ d.lead.getLast? = some '\n'
  /-- A line ends before each further block. -/
  next : ∀ p ∈ d.parts.dropLast, p.2.getLast? = some '\n'

instance (d : Framed Authored) : Decidable (IsDocument d) :=
  decidable_of_iff (_ ∧ _ ∧ _ ∧ _ ∧ _) ⟨fun ⟨valid, lead, gaps, first, next⟩ =>
    ⟨valid, lead, gaps, first, next⟩, fun h => ⟨h.valid, h.lead, h.gaps, h.first, h.next⟩⟩

/-- In text between blocks none is found. -/
theorem skips_reader {g rest : Text} (hg : ¬ "<pre><code".toList <:+: g)
    (hend : rest = [] ∨ g = [] ∨ g.getLast? = some '\n') (b : Bool) :
    Block.reader.Skips b g rest := by
  refine Text.Reader.skips_of_forall (fun b t hne ht => ?_) b
  refine Option.eq_none_iff_forall_ne_some.2 fun (block, after) h => ?_
  have hbegin : "<pre><code".toList <+: t ++ rest := by
    rw [eq_append_of_reader h, Block.markup]
    unfold Block.startTags
    simp only [List.append_assoc]
    exact List.prefix_append _ _
  have hnot : ¬ "<pre><code".toList <+: t := fun h => hg (h.isInfix.trans ht.isInfix)
  rcases hend with rfl | rfl | hend
  · exact hnot (by simpa using hbegin)
  · exact hne (List.suffix_nil.1 ht)
  · rcases List.prefix_or_prefix_of_prefix hbegin (List.prefix_append t rest) with h | h
    · exact hnot h
    · -- A start tag has no line end in it.
      obtain ⟨u, rfl⟩ := ht
      rw [List.getLast?_append_of_ne_nil _ hne] at hend
      exact absurd (h.subset (List.mem_of_getLast? hend)) (by decide)

theorem framed_pieces {parts : List (Authored × Text)} {b : Bool} {lead : Text}
    (hvalid : ∀ p ∈ parts, p.1.Valid) (hlead : ¬ "<pre><code".toList <:+: lead)
    (hgaps : ∀ p ∈ parts, ¬ "<pre><code".toList <:+: p.2)
    (hfirst : parts ≠ [] → Text.lineStartBehind b lead = true)
    (hnext : ∀ p ∈ parts.dropLast, p.2.getLast? = some '\n') :
    Piece.framed (Block.reader.pieces b ((⟨lead, parts⟩ : Framed Authored).write Authored.markup)) =
      (⟨lead, parts⟩ : Framed Authored).map Authored.block := by
  induction parts generalizing b lead with
  | nil =>
    have hpieces := (skips_reader hlead (.inl rfl) b).pieces
    rw [Text.Reader.pieces_nil, List.append_nil] at hpieces
    rw [Framed.write_nil, hpieces, Piece.framed_map_char_append]
    simp [Piece.framed, Framed.map]
  | cons p parts ih =>
    rw [List.forall_mem_cons] at hvalid hgaps
    have hline := hfirst (by simp)
    have hend : lead = [] ∨ lead.getLast? = some '\n' :=
      (Text.lineStartBehind_iff.1 hline).imp_left And.left
    have hread (rest : Text) :
        Block.reader.read? true (p.1.markup ++ rest) = some (p.1.block, rest) :=
      Authored.read?_markup hvalid.1 rest
    have hrest : Piece.framed (Block.reader.pieces false
        ((⟨p.2, parts⟩ : Framed Authored).write Authored.markup)) =
          (⟨p.2, parts⟩ : Framed Authored).map Authored.block := by
      refine ih hvalid.2 hgaps.1 hgaps.2 (fun hne => ?_) fun q hq => hnext q ?_
      · have hp : p ∈ (p :: parts).dropLast := by
          rw [List.dropLast_cons_of_ne_nil hne]
          exact List.mem_cons_self
        exact Text.lineStartBehind_iff.2 (.inr (hnext p hp))
      · rw [List.dropLast_cons_of_ne_nil (by rintro rfl; simp at hq)]
        exact List.mem_cons_of_mem _ hq
    rw [Framed.write_cons, (skips_reader hlead (.inr hend) b).pieces, hline,
      Text.Reader.pieces_of_read? (hread _), Piece.framed_map_char_append, Piece.framed, hrest]
    simp [Framed.map]

theorem found_write {d : Framed Authored} (hd : IsDocument d) :
    found (d.write Authored.markup) = d.map Authored.block :=
  framed_pieces hd.valid hd.lead hd.gaps
    (fun hne => Text.lineStartBehind_iff.2 ((hd.first hne).imp_left fun h => ⟨h, rfl⟩)) hd.next

/-! ## The engine gets the code back -/

variable {σ ε : Type}

/-- The engine is called once for each block, in order, with its code as the author wrote it.  Its
answers take the places of the blocks, and nothing else changes. -/
theorem highlight_document (f : Text → Text → σ → Text × σ) (cssClass : Text) (st : σ)
    (d : Framed Authored) (hd : IsDocument d) :
    highlight (.total f : Engine σ ε) cssClass (d.write Authored.markup) st =
      let (outs, st) := answers f (d.items.map Authored.call) st
      (.ok (d.fill (List.zipWith (Authored.highlighted cssClass) d.items outs)), st) := by
  have hcalls : (d.items.map Authored.block).map Block.call = d.items.map Authored.call := by
    rw [List.map_map]
    exact List.map_congr_left fun w _ => w.call_block
  rw [highlight_found, found_write hd, Framed.items_map, hcalls]
  simp only [Framed.fill_map, List.zipWith_map_left]
  rfl

/-- Two blocks, the first with blank lines and with characters that must be escaped. -/
theorem highlight_document_two :
    let d : Framed Authored := ⟨"<p>a</p>\n".toList, [
      (⟨"Ruby".toList, "\n \nputs 1 < 2 && \"x\"\n".toList⟩, "\n<p>b</p>\n".toList),
      (⟨"c".toList, "x".toList⟩, "\n".toList)]⟩
    IsDocument d ∧
      highlight (.total noting : Engine _ Text) "hl".toList (d.write Authored.markup) [] =
        (.ok ("<p>a</p>\n<pre><code class=\"ruby hl\">HL(ruby)</code></pre>\n<p>b</p>\n".toList ++
            "<pre><code class=\"c hl\">HL(c)</code></pre>\n".toList),
          [("puts 1 < 2 && \"x\"\n".toList, "ruby".toList), ("x".toList, "c".toList)]) :=
  ⟨by decide, (highlight_document noting _ [] _ (by decide)).trans (by decide +kernel)⟩

end WikiText.Code
