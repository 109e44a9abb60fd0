import Mathlib.Data.List.Infix
import WikiText.Code.Highlight
import WikiText.Proofs.Text.Framed
import WikiText.Proofs.Text.Search

/-!
# What the highlighter takes for blocks

A markup is cut into blocks and the text around them, and only the blocks change
(`highlight_found`).  A block goes to the first end tags behind its start tags, but for one case: it
takes a character of code at least, so the end tags of a block that holds blank lines only are taken
for code, and all that follows up to the next end tags with them (`Block.read?_of_blank`).  Main
statement: `highlight_regions`.
-/

namespace WikiText.Code

open Text (Framed Piece)

/-! ## Start tags and blank lines -/

namespace Block

theorem opening?_startTags {gap language : Text} (hgap : gap ≠ [] ∧ gap.all Text.isBlank = true)
    (hlanguage : language ≠ [] ∧ language.all Text.isWord = true) (s : Text) :
    opening? (startTags gap language ++ s) = some (gap, language, s) := by
  have hstart : startTags gap language ++ s =
      "<pre><code".toList ++
        (gap ++ 'c' :: ("lass=\"".toList ++ (language ++ '"' :: '>' :: s))) := by
    unfold startTags
    simp only [List.append_assoc]
    rfl
  have hclass : Text.strip? "class=\"".toList
      ('c' :: ("lass=\"".toList ++ (language ++ '"' :: '>' :: s))) =
        some (language ++ '"' :: '>' :: s) :=
    Text.strip?_append "class=\"".toList _
  have hend : Text.strip? "\">".toList ('"' :: '>' :: s) = some s :=
    Text.strip?_append "\">".toList _
  rw [opening?, hstart, Text.strip?_append, Option.bind_eq_bind, Option.bind_some,
    Text.run?_append hgap.1 hgap.2 (by decide), Option.bind_eq_bind, Option.bind_some]
  simp only [hclass, Option.bind_some,
    Text.run?_append hlanguage.1 hlanguage.2 (show Text.isWord '"' = false by decide), hend]

/-- A line of spaces and tabs, with its end. -/
def IsBlankLine (l : Text) : Prop := ∃ w, l = w ++ ['\n'] ∧ ∀ c ∈ w, c = ' ' ∨ c = '\t'

theorem blankLine?_append {l : Text} (hl : IsBlankLine l) (s : Text) :
    blankLine? (l ++ s) = some (l, s) := by
  obtain ⟨w, rfl, hw⟩ := hl
  induction w with
  | nil => rfl
  | cons c w ih =>
    rw [List.forall_mem_cons] at hw
    have hne : c ≠ '\n' := by rcases hw.1 with rfl | rfl <;> decide
    rw [List.cons_append, List.cons_append, blankLine?, if_neg hne, if_pos hw.1, ih hw.2]
    rfl

theorem isBlankLine_of_blankLine? {s l rest : Text} (h : blankLine? s = some (l, rest)) :
    IsBlankLine l := by
  induction s generalizing l with
  | nil => simp [blankLine?] at h
  | cons c s ih =>
    rw [blankLine?] at h
    split at h
    · simp only [Option.some.injEq, Prod.mk.injEq] at h
      exact ⟨[], h.1.symm, by simp⟩
    · split at h
      · next hc =>
        simp only [Option.map_eq_some_iff, Prod.exists, Prod.mk.injEq] at h
        obtain ⟨l, r, hl, rfl, rfl⟩ := h
        obtain ⟨w, rfl, hw⟩ := ih hl
        exact ⟨c :: w, rfl, List.forall_mem_cons.2 ⟨hc, hw⟩⟩
      · simp at h

theorem blankLines_of_eq_none {s : Text} (h : blankLine? s = none) : blankLines s = [] := by
  rw [blankLines]
  split
  · next h' => simp [h] at h'
  · rfl

theorem blankLines_append {l : Text} (hl : IsBlankLine l) (s : Text) :
    blankLines (l ++ s) = l :: blankLines s := by
  have h := blankLine?_append hl s
  rw [blankLines]
  split
  · next h' =>
    simp only [h, Option.some.injEq, Prod.mk.injEq] at h'
    obtain ⟨rfl, rfl⟩ := h'
    rfl
  · next h' => simp [h] at h'

theorem blankLines_flatten_append {ls : List Text} (hls : ∀ l ∈ ls, IsBlankLine l) {s : Text}
    (hs : blankLine? s = none) : blankLines (ls.flatten ++ s) = ls := by
  induction ls with
  | nil => exact blankLines_of_eq_none hs
  | cons l ls ih =>
    rw [List.forall_mem_cons] at hls
    rw [List.flatten_cons, List.append_assoc, blankLines_append hls.1, ih hls.2]

theorem isBlankLine_of_mem_blankLines {s l : Text} (h : l ∈ blankLines s) : IsBlankLine l := by
  fun_induction blankLines s with
  | case1 s line rest hread _ ih =>
    rcases List.mem_cons.1 h with rfl | h
    · exact isBlankLine_of_blankLine? hread
    · exact ih h
  | case2 => exact absurd h List.not_mem_nil

theorem lt_not_mem_of_isBlankLine {l : Text} (h : IsBlankLine l) : '<' ∉ l := by
  obtain ⟨w, rfl, hw⟩ := h
  simp only [List.mem_append, List.mem_singleton, not_or]
  refine ⟨fun hmem => ?_, by decide⟩
  rcases hw _ hmem with h | h <;> exact absurd h (by decide)

theorem lt_not_mem_flatten {ls : List Text} (h : ∀ l ∈ ls, IsBlankLine l) : '<' ∉ ls.flatten := by
  intro hmem
  obtain ⟨l, hl, hmem⟩ := List.mem_flatten.1 hmem
  exact lt_not_mem_of_isBlankLine (h l hl) hmem

/-! ## Where a block ends -/

theorem splitOnce?_closing_append {g : Text} (hg : '<' ∉ g) (s : Text) :
    Text.splitOnce? closing (g ++ s) =
      (Text.splitOnce? closing s).map fun (before, after) => (g ++ before, after) :=
  Text.splitOnce?_append_of_not_mem hg s

theorem content?_of_splitOnce? {c : Char} {s before after : Text}
    (h : Text.splitOnce? closing s = some (before, after)) :
    content? (c :: s) = some (c :: before, after) := by rw [content?, h]; rfl

/-- Code in which no tag begins goes up to the end tags. -/
theorem content?_append {content : Text} (hne : content ≠ []) (hlt : '<' ∉ content) (rest : Text) :
    content? (content ++ (closing ++ rest)) = some (content, rest) := by
  cases content with
  | nil => exact absurd rfl hne
  | cons c content =>
    rw [List.mem_cons, not_or] at hlt
    have hend : Text.splitOnce? closing (closing ++ rest) = some ([], rest) :=
      Text.splitOnce?_append_self (by decide) rest
    have hsearch : Text.splitOnce? closing (content ++ (closing ++ rest)) =
        some (content, rest) := by
      rw [splitOnce?_closing_append hlt.2, hend]
      simp
    exact content?_of_splitOnce? hsearch

/-- All blank lines are passed over if code is left behind them. -/
theorem inside?_append {lines : List Text} (hlines : ∀ l ∈ lines, IsBlankLine l)
    {s content rest : Text} (hs : blankLine? s = none) (h : content? s = some (content, rest)) :
    inside? (lines.flatten ++ s) = some (lines.flatten, content, rest) := by
  rw [inside?, blankLines_flatten_append hlines hs, behind?, List.drop_left, h]
  rfl

/-- The end tags that follow the code are the first behind its first character. -/
def Closes (content rest : Text) : Prop :=
  content ≠ [] ∧
    Text.splitOnce? closing (content.tail ++ closing ++ rest) = some (content.tail, rest)

theorem closes_of_content? {s content rest : Text} (h : content? s = some (content, rest)) :
    Closes content rest := by
  cases s with
  | nil => simp [content?] at h
  | cons c s =>
    simp only [content?, Option.map_eq_some_iff, Prod.exists, Prod.mk.injEq] at h
    obtain ⟨before, after, hs, rfl, rfl⟩ := h
    exact ⟨List.cons_ne_nil _ _, Text.eq_append_of_splitOnce? hs ▸ hs⟩

theorem closes_of_behind? {lines : List Text} {s blank content rest : Text}
    (h : behind? lines s = some (blank, content, rest)) :
    blank = lines.flatten ∧ Closes content rest := by
  simp only [behind?, Option.map_eq_some_iff, Prod.exists, Prod.mk.injEq] at h
  obtain ⟨content, rest, hc, rfl, rfl, rfl⟩ := h
  exact ⟨rfl, closes_of_content? hc⟩

theorem closes_of_inside? {s blank content rest : Text}
    (h : inside? s = some (blank, content, rest)) :
    (∃ lines : List Text, blank = lines.flatten ∧ ∀ l ∈ lines, IsBlankLine l) ∧
      Closes content rest := by
  rcases Option.or_eq_some_iff.1 h with h | ⟨-, h⟩
  · obtain ⟨hblank, hcloses⟩ := closes_of_behind? h
    exact ⟨⟨_, hblank, fun l hl => isBlankLine_of_mem_blankLines hl⟩, hcloses⟩
  · split at h
    · simp at h
    · obtain ⟨hblank, hcloses⟩ := closes_of_behind? h
      exact ⟨⟨_, hblank, fun l hl => isBlankLine_of_mem_blankLines (List.mem_of_mem_dropLast hl)⟩,
        hcloses⟩

/-- The block ends at the first end tags behind its start tags. -/
def Confined (b : Block) (after : Text) : Prop :=
  Text.splitOnce? closing (b.blank ++ b.content ++ closing ++ after) =
    some (b.blank ++ b.content, after)

instance (b : Block) (after : Text) : Decidable (b.Confined after) :=
  inferInstanceAs (Decidable (_ = _))

theorem Confined.not_infix {b : Block} {after : Text} (h : b.Confined after) :
    ¬ closing <:+: b.content := fun hin =>
  Text.not_infix_of_splitOnce? (by decide) h (hin.trans (List.suffix_append _ _).isInfix)

/-- No end of the end tags begins them. -/
theorem closing_no_border : ∀ q ∈ closing.tails, q <+: closing → q = [] ∨ q = closing := by
  decide

/-- The end tags begin in front of end tags only if they end there, too. -/
theorem closing_prefix_of_prefix_append {s rest : Text} (hs : s ≠ [])
    (h : closing <+: s ++ closing ++ rest) : closing <+: s := by
  rw [List.append_assoc] at h
  rcases List.prefix_or_prefix_of_prefix h (List.prefix_append s _) with h' | ⟨q, hq⟩
  · exact h'
  · have hprefix : q <+: closing := by
      have hq' : q <+: closing ++ rest := (List.prefix_append_right_inj s).1 (hq ▸ h)
      refine List.prefix_of_prefix_length_le hq' (List.prefix_append _ _) ?_
      rw [← hq, List.length_append]
      omega
    rcases closing_no_border q ((List.mem_tails q closing).2 ⟨s, hq⟩) hprefix with rfl | rfl
    · rw [← hq, List.append_nil]
    · exact absurd (List.append_left_eq_self.1 hq) hs

theorem confined_iff {b : Block} {after : Text} (hblank : '<' ∉ b.blank)
    (h : Closes b.content after) : b.Confined after ↔ ¬ closing <+: b.content := by
  have hpass : b.Confined after ↔
      Text.splitOnce? closing (b.content ++ closing ++ after) = some (b.content, after) := by
    rw [Confined, List.append_assoc, List.append_assoc, splitOnce?_closing_append hblank,
      ← List.append_assoc]
    simp only [Option.map_eq_some_iff, Prod.exists, Prod.mk.injEq, List.append_cancel_left_eq]
    constructor
    · rintro ⟨before, after, h, rfl, rfl⟩
      exact h
    · exact fun h => ⟨_, _, h, rfl, rfl⟩
  obtain ⟨hne, hfirst⟩ := h
  obtain ⟨c, before, hcontent⟩ := List.exists_cons_of_ne_nil hne
  rw [hcontent, List.tail_cons] at hfirst
  rw [hpass, hcontent, List.cons_append, List.cons_append, Text.splitOnce?]
  cases hstrip : Text.strip? closing (c :: (before ++ closing ++ after)) with
  | some r =>
    have hpre : closing <+: c :: before :=
      closing_prefix_of_prefix_append (List.cons_ne_nil _ _)
        ⟨r, (Text.eq_append_of_strip? hstrip).symm⟩
    exact iff_of_false (by simp) (fun hnot => hnot hpre)
  | none =>
    have hpre : ¬ closing <+: c :: before := fun hpre =>
      Text.strip?_eq_none_iff.1 hstrip (hpre.trans ⟨closing ++ after, by simp⟩)
    rw [hfirst]
    exact iff_of_true rfl hpre

/-- The end tags of a block that holds blank lines only are taken for code. -/
theorem read?_of_blank {gap language : Text} (hgap : gap ≠ [] ∧ gap.all Text.isBlank = true)
    (hlanguage : language ≠ [] ∧ language.all Text.isWord = true) {lines : List Text}
    (hlines : ∀ l ∈ lines, IsBlankLine l) {s taken after : Text}
    (h : Text.splitOnce? closing s = some (taken, after)) :
    read? (startTags gap language ++ (lines.flatten ++ (closing ++ s))) =
      some (⟨gap, language, lines.flatten, closing ++ taken⟩, after) := by
  have hpass : Text.splitOnce? closing ("/code></pre>".toList ++ s) =
      some ("/code></pre>".toList ++ taken, after) := by
    have hinner : Text.splitOnce? closing ('<' :: ("/pre>".toList ++ s)) =
        some ('<' :: ("/pre>".toList ++ taken), after) := by
      have hstrip : Text.strip? closing ('<' :: ("/pre>".toList ++ s)) = none := rfl
      rw [Text.splitOnce?, hstrip, splitOnce?_closing_append (by decide), h]
      rfl
    have hsplit : "/code></pre>".toList ++ s =
        "/code>".toList ++ '<' :: ("/pre>".toList ++ s) := rfl
    rw [hsplit, splitOnce?_closing_append (by decide), hinner]
    rfl
  have hcontent : content? (closing ++ s) = some (closing ++ taken, after) :=
    content?_of_splitOnce? hpass
  have hinside : inside? (lines.flatten ++ (closing ++ s)) =
      some (lines.flatten, closing ++ taken, after) := inside?_append hlines rfl hcontent
  rw [read?, opening?_startTags hgap hlanguage, Option.bind_eq_bind, Option.bind_some]
  simp only [hinside, Option.bind_some]

end Block

/-! ## Regions -/

/-- A block that the highlighter takes, between the text before it and the text after it. -/
structure Region (before : Text) (b : Block) (after : Text) : Prop where
  /-- It begins a line. -/
  lineStart : before = [] ∨ before.getLast? = some '\n'
  /-- It has start tags with a language. -/
  gap : b.gap ≠ [] ∧ b.gap.all Text.isBlank = true
  language : b.language ≠ [] ∧ b.language.all Text.isWord = true
  /-- Its code begins behind blank lines. -/
  blank : ∃ lines : List Text, b.blank = lines.flatten ∧ ∀ l ∈ lines, Block.IsBlankLine l
  /-- It ends at the first end tags behind the first character of its code. -/
  closes : Block.Closes b.content after
  /-- These are the first behind its start tags just when its code does not begin with end tags. -/
  confined : b.Confined after ↔ ¬ closing <+: b.content
  /-- Then no end tags stand in its code. -/
  code : b.Confined after → ¬ closing <:+: b.content

theorem region_of_read? {before after : Text} {b : Block}
    (hbefore : Text.lineStartBehind true before = true)
    (h : Block.read? (b.markup ++ after) = some (b, after)) : Region before b after := by
  simp only [Block.read?, Option.bind_eq_bind, Option.bind_eq_some_iff, Prod.exists,
    Option.some.injEq, Prod.mk.injEq] at h
  obtain ⟨gap, language, s, ho, blank, content, rest, hi, rfl, rfl⟩ := h
  obtain ⟨-, hgap, hlanguage⟩ := Block.eq_of_opening? ho
  obtain ⟨⟨lines, rfl, hlines⟩, hcloses⟩ := Block.closes_of_inside? hi
  exact {
    lineStart := (Text.lineStartBehind_iff.1 hbefore).imp_left And.left
    gap := hgap
    language := hlanguage
    blank := ⟨lines, rfl, hlines⟩
    closes := hcloses
    confined := Block.confined_iff (Block.lt_not_mem_flatten hlines) hcloses
    code := Block.Confined.not_infix }

/-- The blocks that the highlighter takes, in the text around them. -/
def found (markup : Text) : Framed Block := Piece.framed (Block.reader.pieces true markup)

theorem eq_append_of_reader {b : Bool} {s rest : Text} {block : Block}
    (h : Block.reader.read? b s = some (block, rest)) : s = block.markup ++ rest := by
  simp only [Block.reader] at h
  split at h
  · exact Block.eq_append_of_read? h
  · simp at h

theorem write_found (markup : Text) : (found markup).write Block.markup = markup := by
  rw [found, Piece.write_framed, Text.Reader.fill_pieces fun _ _ _ _ => eq_append_of_reader]

theorem lineStartBehind_markup (b : Bool) (block : Block) :
    Text.lineStartBehind b block.markup = false := by
  rw [Block.markup, Text.lineStartBehind_append]
  rfl

theorem region_of_mem_found {markup : Text} {b : Block} {gap : Text} {xs ys : List (Block × Text)}
    (h : (found markup).parts = xs ++ (b, gap) :: ys) :
    Region ((⟨(found markup).lead, xs⟩ : Framed Block).write Block.markup) b
      ((⟨gap, ys⟩ : Framed Block).write Block.markup) := by
  obtain ⟨qs, rs, hps, hqs, hrs⟩ := Piece.exists_of_framed h
  have hread := Text.Reader.read?_of_pieces_eq (fun _ _ _ _ => eq_append_of_reader)
    (fun _ _ block _ _ b => lineStartBehind_markup b block) hps
  rw [← Piece.write_framed, ← Piece.write_framed, hqs, hrs] at hread
  simp only [Block.reader] at hread
  split at hread
  · next hline => exact region_of_read? hline hread
  · simp at hread

/-! ## Engines that do not fail -/

variable {σ ε : Type}

/-- An engine that always gives highlighted code. -/
def Engine.total (f : Text → Text → σ → Text × σ) : Engine σ ε := fun code language st =>
  (.ok (f code language st).1, (f code language st).2)

/-- What an engine is called with for a block. -/
def Block.call (b : Block) : Text × Text := (b.code, b.tag)

/-- The answers of an engine to calls made one after another, and its state after them. -/
def answers (f : Text → Text → σ → Text × σ) : List (Text × Text) → σ → List Text × σ
  | [], st => ([], st)
  | (code, language) :: calls, st =>
    let (answer, st) := f code language st
    let (others, st) := answers f calls st
    (answer :: others, st)

theorem highlightPieces_total (f : Text → Text → σ → Text × σ) (cssClass : Text)
    (ps : List (Piece Block)) (st : σ) :
    highlightPieces (.total f : Engine σ ε) cssClass ps st =
      let (outs, st) := answers f ((Piece.parts ps).map Block.call) st
      (.ok ((Piece.framed ps).fill (List.zipWith (highlighted cssClass) (Piece.parts ps) outs)),
        st) := by
  induction ps generalizing st with
  | nil => rfl
  | cons p ps ih =>
    cases p with
    | char c => rw [highlightPieces, ih]; rfl
    | part b =>
      rw [highlightPieces, Engine.total]
      simp only [ih, Piece.parts_part, List.map_cons, answers, Block.call, List.zipWith_cons_cons,
        Piece.fill_framed_part]
      rfl

theorem highlight_found (f : Text → Text → σ → Text × σ) (cssClass markup : Text) (st : σ) :
    highlight (.total f : Engine σ ε) cssClass markup st =
      let (outs, st) := answers f ((found markup).items.map Block.call) st
      (.ok ((found markup).fill (List.zipWith (highlighted cssClass) (found markup).items outs)),
        st) := by
  rw [highlight, highlightPieces_total, found, Piece.items_framed]

/-- Text in which no block begins is not changed, and no engine is called. -/
theorem highlight_of_skips (e : Engine σ ε) (cssClass : Text) {s : Text}
    (h : Block.reader.Skips true s []) (st : σ) : highlight e cssClass s st = (.ok s, st) := by
  have hpieces := h.pieces
  rw [List.append_nil, Text.Reader.pieces_nil, List.append_nil] at hpieces
  rw [highlight, hpieces]
  clear h hpieces
  induction s with
  | nil => rfl
  | cons c s ih =>
    rw [List.map_cons, highlightPieces, ih]
    rfl

/-- Only blocks change, each for the answer of the engine to one call, and each is a region of the
markup.  Such a region goes to the first end tags, unless its code begins with end tags. -/
theorem highlight_regions (f : Text → Text → σ → Text × σ) (cssClass markup : Text) (st : σ) :
    (found markup).write Block.markup = markup ∧
      highlight (.total f : Engine σ ε) cssClass markup st =
        (let (outs, st) := answers f ((found markup).items.map Block.call) st
         (.ok ((found markup).fill
            (List.zipWith (highlighted cssClass) (found markup).items outs)), st)) ∧
      ∀ xs b gap ys, (found markup).parts = xs ++ (b, gap) :: ys →
        Region ((⟨(found markup).lead, xs⟩ : Framed Block).write Block.markup) b
          ((⟨gap, ys⟩ : Framed Block).write Block.markup) :=
  ⟨write_found markup, highlight_found f cssClass markup st, fun _ _ _ _ => region_of_mem_found⟩

/-- An engine that notes its calls and answers with the language. -/
def noting (code language : Text) (calls : List (Text × Text)) : Text × List (Text × Text) :=
  ("HL(".toList ++ language ++ ")".toList, calls ++ [(code, language)])

/-- A block without code takes the block after it, and the text between them. -/
theorem not_confined_of_empty :
    let markup :=
      "<pre><code class=\"a\"></code></pre>\n<p>b</p>\n<pre><code class=\"c\">x</code></pre>".toList
    let taken := "</code></pre>\n<p>b</p>\n<pre><code class=\"c\">x".toList
    let b : Block := ⟨[' '], ['a'], [], taken⟩
    found markup = ⟨[], [(b, [])]⟩ ∧ ¬ b.Confined [] ∧
      highlight (.total noting : Engine _ Text) "syntaxhl".toList markup [] =
        (.ok "<pre><code class=\"a syntaxhl\">HL(a)</code></pre>".toList, [(taken, ['a'])]) := by
  decide +kernel

end WikiText.Code
