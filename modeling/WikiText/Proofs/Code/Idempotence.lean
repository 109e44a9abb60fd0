import WikiText.Proofs.Code.Region
import WikiText.Proofs.Text.Lower

/-!
# Highlighted markup is final

A highlighted block has a second class, and so it is no block for the highlighter.  No block begins
in the text around it either: start tags that begin a line would have been taken with all that
follows, up to end tags, and there are end tags in every block behind them.  Main statement:
`highlight_highlight`.
-/

namespace WikiText

namespace Code

open Text (Piece)

namespace Block

/-! ## Start tags before end tags -/

theorem isWord_of_read? {s rest : Text} {b : Block} (h : read? s = some (b, rest)) :
    b.language.all Text.isWord = true := by
  simp only [read?, Option.bind_eq_bind, Option.bind_eq_some_iff, Prod.exists, Option.some.injEq,
    Prod.mk.injEq] at h
  obtain ⟨gap, language, t, hopening, -, -, -, -, rfl, -⟩ := h
  exact (eq_of_opening? hopening).2.2.2

/-- No tag stands in the blank lines at the front, so that a character of code is left behind them
where end tags stand behind another tag. -/
theorem exists_behind? {lines : List Text} (hlines : '<' ∉ lines.flatten) {u s t : Text}
    (hs : closing <:+: s) (ht : t = u ++ '<' :: s) (hfront : lines.flatten <+: t) :
    ∃ content rest, behind? lines t = some (lines.flatten, content, rest) := by
  obtain ⟨v, rfl⟩ := hfront
  have hcode : ∃ c w, v = c :: w ∧ closing <:+: w := by
    rcases List.append_eq_append_iff.1 ht with ⟨w, -, rfl⟩ | ⟨w, hw, hlt⟩
    · cases w with
      | nil => exact ⟨'<', s, rfl, hs⟩
      | cons c w => exact ⟨c, w ++ '<' :: s, rfl, hs.trans ⟨w ++ ['<'], [], by simp⟩⟩
    · cases w with
      | nil => exact ⟨'<', s, hlt.symm, hs⟩
      | cons c w =>
        obtain rfl : '<' = c := (List.cons.inj hlt).1
        exact absurd (by rw [hw]; simp) hlines
  obtain ⟨c, w, rfl, hw⟩ := hcode
  obtain ⟨before, after, hsplit⟩ := Text.exists_splitOnce?_of_infix hw
  refine ⟨c :: before, after, ?_⟩
  rw [behind?, List.drop_left, content?_of_splitOnce? hsplit]
  rfl

/-- Start tags begin a block if end tags stand behind another tag. -/
theorem read?_ne_none {gap language : Text} (hgap : gap ≠ [] ∧ gap.all Text.isBlank = true)
    (hlanguage : language ≠ [] ∧ language.all Text.isWord = true) {u s : Text}
    (hs : closing <:+: s) : read? (startTags gap language ++ (u ++ '<' :: s)) ≠ none := by
  have hblank := flatten_blankLines_prefix (u ++ '<' :: s)
  obtain ⟨content, rest, hbehind⟩ :=
    exists_behind? (lt_not_mem_flatten fun _ => isBlankLine_of_mem_blankLines) hs rfl hblank
  rw [read?, opening?_startTags hgap hlanguage, Option.bind_eq_bind, Option.bind_some]
  simp [inside?, hbehind]

/-! ## Highlighted blocks -/

theorem mark_not_mem_tag {b : Block} (hlanguage : b.language.all Text.isWord = true) {c : Char}
    (hc : c.toNat < 128) (hsmall : c.isLower = false) (hword : Text.isWord c = false) :
    c ∉ b.tag := by
  intro hmem
  have hc := List.all_eq_true.1 hlanguage c (Text.mem_of_mem_lower hc hsmall hmem)
  rw [hword] at hc
  cases hc

/-- A block has one class, a word. -/
theorem opening?_of_space {tag : Text} (htag : '"' ∉ tag) (s : Text) :
    opening? ("<pre><code class=\"".toList ++ (tag ++ ' ' :: s)) = none := by
  have hstart : "<pre><code class=\"".toList ++ (tag ++ ' ' :: s) =
      "<pre><code".toList ++ ([' '] ++ 'c' :: ("lass=\"".toList ++ (tag ++ ' ' :: s))) := rfl
  have hclass : Text.strip? "class=\"".toList ('c' :: ("lass=\"".toList ++ (tag ++ ' ' :: s))) =
      some (tag ++ ' ' :: s) := Text.strip?_append "class=\"".toList _
  have hend : Text.strip? "\">".toList ((tag ++ ' ' :: s).dropWhile Text.isWord) = none := by
    have hspace : (' ' :: s).dropWhile Text.isWord = ' ' :: s :=
      List.dropWhile_cons_of_neg (by decide)
    rw [List.dropWhile_append]
    split
    · rw [hspace]
      rfl
    · cases hdrop : tag.dropWhile Text.isWord with
      | nil => simp [hdrop] at *
      | cons c t =>
        have hc : c ∈ tag := (List.dropWhile_suffix Text.isWord).subset (hdrop ▸ List.mem_cons_self)
        have hne : '"' ≠ c := fun he => htag (he ▸ hc)
        exact if_neg hne
  rw [opening?, hstart, Text.strip?_append, Option.bind_eq_bind, Option.bind_some,
    Text.run?_append (by decide) (by decide) (by decide), Option.bind_eq_bind, Option.bind_some]
  simp only [hclass, Option.bind_some, Text.run?]
  split
  · rfl
  · simp only [Option.bind_some, hend]
    rfl

theorem read?_of_opening? {s : Text} (h : opening? s = none) : read? s = none := by
  rw [read?, h]
  rfl

theorem reader_eq_none {s : Text} (h : read? s = none) (b : Bool) : reader.read? b s = none := by
  simp only [reader, h, ite_self]

theorem read?_of_ne {c : Char} (h : c ≠ '<') (s : Text) : read? (c :: s) = none := by
  have hstrip : Text.strip? "<pre><code".toList (c :: s) = none := if_neg (Ne.symm h)
  rw [read?, opening?, hstrip]
  rfl

/-- No block begins where no tag does. -/
theorem skips_of_not_mem {g : Text} (hg : '<' ∉ g) (rest : Text) (b : Bool) :
    reader.Skips b g rest := by
  induction g generalizing b with
  | nil => trivial
  | cons c g ih =>
    rw [List.mem_cons, not_or] at hg
    exact ⟨reader_eq_none (read?_of_ne (Ne.symm hg.1) _) b, ih hg.2 _⟩

/-- A tag behind its bracket, with which no block begins. -/
theorem skips_tag {tag g rest : Text} (htag : '<' ∉ tag)
    (h : read? ('<' :: (tag ++ (g ++ rest))) = none) (hg : ∀ b, reader.Skips b g rest)
    (b : Bool) : reader.Skips b ('<' :: (tag ++ g)) rest := by
  refine ⟨?_, Text.Reader.skips_append (skips_of_not_mem htag _ _) (hg _)⟩
  rw [← List.append_assoc] at h
  exact reader_eq_none h b

theorem skips_closing (rest : Text) (b : Bool) : reader.Skips b closing rest := by
  have hclosing : closing = '<' :: ("/code>".toList ++ '<' :: ("/pre>".toList ++ [])) := rfl
  rw [hclosing]
  have hsecond : ∀ b, reader.Skips b ('<' :: ("/pre>".toList ++ [])) rest :=
    skips_tag (by decide) rfl fun _ => trivial
  exact skips_tag (by decide) rfl hsecond b

/-- No block begins in code without the tag of a block, if end tags follow. -/
theorem skips_code {code : Text} (hcode : ¬ "<pre>".toList <:+: code) (rest : Text) (b : Bool) :
    reader.Skips b code (closing ++ rest) := by
  refine Text.Reader.skips_of_forall (fun b t hne ht => ?_) b
  refine Option.eq_none_iff_forall_ne_some.2 fun (block, after) h => ?_
  have hbegin : "<pre>".toList <+: t ++ (closing ++ rest) := by
    rw [eq_append_of_reader h, Block.markup]
    unfold Block.startTags
    simp only [List.append_assoc]
    exact List.prefix_append "<pre>".toList _
  rcases List.prefix_or_prefix_of_prefix hbegin (List.prefix_append t _) with hpre | ⟨u, hu⟩
  · exact hcode (hpre.isInfix.trans ht.isInfix)
  · -- the end tags begin with a bracket, and no bracket but the first is in the tag of a block
    have hrest : u <+: closing ++ rest := (List.prefix_append_right_inj t).1 (hu ▸ hbegin)
    obtain ⟨c, t, rfl⟩ := List.exists_cons_of_ne_nil hne
    cases u with
    | nil => exact hcode (((List.append_nil (c :: t)).symm.trans hu) ▸ ht.isInfix)
    | cons d u =>
      obtain rfl : d = '<' := (List.cons_prefix_cons.1 hrest).1
      have htag : c :: (t ++ '<' :: u) = '<' :: "pre>".toList := hu
      have hmem : '<' ∈ "pre>".toList := by
        rw [← (List.cons.inj htag).2]
        exact List.mem_append_right t List.mem_cons_self
      exact absurd hmem (by decide)

/-- A highlighted block is no block. -/
theorem skips_highlighted {cssClass code : Text} {b : Block}
    (hlanguage : b.language.all Text.isWord = true) (hclass : '<' ∉ cssClass)
    (hcode : ¬ "<pre>".toList <:+: code) (rest : Text) (lineStart : Bool) :
    reader.Skips lineStart (highlighted cssClass b code) rest := by
  have hmark : '"' ∉ b.tag :=
    mark_not_mem_tag hlanguage (by decide) (by decide) (by decide)
  have hangle : '<' ∉ b.tag :=
    mark_not_mem_tag hlanguage (by decide) (by decide) (by decide)
  have hinner : ∀ b, reader.Skips b (code ++ closing) rest := fun b =>
    Text.Reader.skips_append (skips_code hcode rest b) (skips_closing rest _)
  have htags (t : Text) : "<pre><code class=\"".toList ++ t =
      '<' :: ("pre>".toList ++ '<' :: ("code class=\"".toList ++ t)) := rfl
  have htext : highlighted cssClass b code = '<' :: ("pre>".toList ++ '<' ::
      (("code class=\"".toList ++ (b.tag ++ ' ' :: (cssClass ++ "\">".toList))) ++
        (code ++ closing))) := by
    unfold highlighted
    simp only [List.append_assoc, htags, List.cons_append]
  have hopening :=
    opening?_of_space hmark (cssClass ++ ("\">".toList ++ (code ++ (closing ++ rest))))
  rw [htags] at hopening
  -- the second tag, which has the class
  obtain ⟨name, hname⟩ :
      ∃ name, name = "code class=\"".toList ++ (b.tag ++ ' ' :: (cssClass ++ "\">".toList)) :=
    ⟨_, rfl⟩
  have hnot : '<' ∉ name := by
    rw [hname]
    simp [hangle, hclass]
  have hsecond : read? ('<' :: (name ++ (code ++ closing ++ rest))) = none := by
    rw [hname]
    rfl
  have hfirst : read? ('<' :: ("pre>".toList ++ ('<' :: (name ++ (code ++ closing)) ++ rest))) =
      none := by
    refine read?_of_opening? ?_
    rw [hname]
    simpa only [List.append_assoc, List.cons_append] using hopening
  rw [htext, ← hname]
  exact @skips_tag "pre>".toList ('<' :: (name ++ (code ++ closing))) rest (by decide) hfirst
    (@skips_tag name (code ++ closing) rest hnot hsecond hinner) lineStart

end Block

/-! ## What a markup becomes -/

/-- The text that the pieces of a markup become when each block gives way to a highlighted one, and
the tag of a block is nowhere in the highlighted code. -/
inductive Becomes (cssClass : Text) : List (Piece Block) → Text → Prop where
  | nil : Becomes cssClass [] []
  | char {c : Char} {ps : List (Piece Block)} {t : Text} (h : Becomes cssClass ps t) :
      Becomes cssClass (.char c :: ps) (c :: t)
  | part {b : Block} {code : Text} {ps : List (Piece Block)} {t : Text}
      (hcode : ¬ "<pre>".toList <:+: code) (h : Becomes cssClass ps t) :
      Becomes cssClass (.part b :: ps) (highlighted cssClass b code ++ t)

theorem exists_of_reader {b : Bool} {s rest : Text} {block : Block}
    (h : Block.reader.read? b s = some (block, rest)) :
    b = true ∧ Block.read? s = some (block, rest) := by
  simp only [Block.reader] at h
  split at h
  · exact ⟨‹_›, h⟩
  · cases h

/-- Up to its first block a markup stays as it is.  That block begins a line, and so does what it
becomes; both begin with a bracket, and there are end tags in the block. -/
theorem Becomes.eq_or {cssClass : Text} {b : Bool} {s t : Text}
    (h : Becomes cssClass (Block.reader.pieces b s) t) :
    t = s ∨ ∃ lead s' t', s = lead ++ '<' :: s' ∧ t = lead ++ '<' :: t' ∧ closing <:+: s' ∧
      Text.lineStartBehind b lead = true := by
  fun_induction Text.Reader.pieces Block.reader b s generalizing t with
  | case1 => cases h; exact .inl rfl
  | case2 b c s block rest hread _ ih =>
    cases h with
    | part hcode h =>
      obtain ⟨rfl, hread⟩ := exists_of_reader hread
      have hs : c :: s = '<' :: ("pre><code".toList ++ block.gap ++ "class=\"".toList ++
          block.language ++ "\">".toList ++ block.blank ++ block.content ++ closing ++ rest) := by
        rw [Block.eq_append_of_read? hread]
        rfl
      obtain ⟨rfl, rfl⟩ := List.cons.inj hs
      exact .inr ⟨[], _, _, rfl, rfl, ⟨_, rest, rfl⟩, rfl⟩
  | case3 b c s hread ih =>
    cases h with
    | char h =>
      rcases ih h with rfl | ⟨lead, s', t', rfl, rfl, hs', hlead⟩
      · exact .inl rfl
      · exact .inr ⟨c :: lead, s', t', rfl, rfl, hs', hlead⟩

/-- In start tags no bracket stands at the start of a line but the first. -/
theorem startTags_ne {gap language : Text} (hgap : gap.all Text.isBlank = true)
    (hlanguage : language.all Text.isWord = true) (x u : Text) :
    Block.startTags gap language ≠ x ++ '\n' :: '<' :: u := by
  intro h
  obtain ⟨tail, htags, htail⟩ :
      ∃ tail, Block.startTags gap language = "<pre><code".toList ++ tail ∧ '<' ∉ tail := by
    refine ⟨gap ++ ("class=\"".toList ++ (language ++ "\">".toList)), ?_, ?_⟩
    · unfold Block.startTags
      simp only [List.append_assoc]
    · have hblank : '<' ∉ gap := fun hmem =>
        absurd (List.all_eq_true.1 hgap _ hmem) (by decide)
      have hword : '<' ∉ language := fun hmem =>
        absurd (List.all_eq_true.1 hlanguage _ hmem) (by decide)
      simp [hblank, hword]
  rw [htags] at h
  rcases List.append_eq_append_iff.1 h with ⟨a, -, ha⟩ | ⟨a, ha, hu⟩
  · exact htail (by rw [ha]; simp)
  · cases a with
    | nil => exact htail (by rw [← List.nil_append tail, ← hu]; simp)
    | cons d a =>
      obtain rfl : '\n' = d := (List.cons.inj hu).1
      have hmem : '\n' ∈ "<pre><code".toList := by
        rw [ha]
        simp
      exact absurd hmem (by decide)

theorem lineStartBehind_highlighted (b : Bool) (cssClass : Text) (block : Block) (code : Text) :
    Text.lineStartBehind b (highlighted cssClass block code) = false := by
  unfold highlighted
  rw [Text.lineStartBehind_append]
  rfl

/-- If no block begins a text, then what is made of the rest of the text begins none. -/
theorem Becomes.read?_eq_none {cssClass : Text} {c : Char} {s t : Text}
    (h : Becomes cssClass (Block.reader.pieces (c = '\n') s) t)
    (hread : Block.read? (c :: s) = none) : Block.read? (c :: t) = none := by
  rcases h.eq_or with rfl | ⟨lead, s', t', rfl, rfl, hs', hlead⟩
  · exact hread
  refine Block.read?_of_opening? (Option.eq_none_iff_forall_ne_some.2 ?_)
  rintro ⟨gap, language, rest⟩ ho
  obtain ⟨heq, hgap, hlanguage⟩ := Block.eq_of_opening? ho
  -- start tags in front of the bracket would begin a block before, and further they do not reach
  have hfront : ∀ u, c :: lead = Block.startTags gap language ++ u → False := by
    intro u hu
    have hs : c :: (lead ++ '<' :: s') = Block.startTags gap language ++ (u ++ '<' :: s') := by
      rw [← List.cons_append, hu, List.append_assoc]
    rw [hs] at hread
    exact Block.read?_ne_none hgap hlanguage hs' hread
  rw [← List.cons_append] at heq
  rcases List.append_eq_append_iff.1 heq with ⟨u, hu, hrest⟩ | ⟨u, hu, -⟩
  · cases u with
    | nil => exact hfront [] (by rw [hu]; simp)
    | cons d u =>
      obtain rfl : '<' = d := (List.cons.inj hrest).1
      have hbehind : Text.lineStartBehind false (c :: lead) = true := hlead
      have hline : (c :: lead).getLast? = some '\n' :=
        (Text.lineStartBehind_iff.1 hbehind).resolve_left (by simp)
      obtain ⟨x, hx⟩ := List.getLast?_eq_some_iff.1 hline
      refine startTags_ne hgap.2 hlanguage.2 x u ?_
      rw [hu, hx, List.append_assoc]
      rfl
  · exact hfront u hu

/-- In what a markup becomes no block begins. -/
theorem Becomes.skips {cssClass : Text} (hclass : '<' ∉ cssClass) {b : Bool} {s t : Text}
    (h : Becomes cssClass (Block.reader.pieces b s) t) : Block.reader.Skips b t [] := by
  fun_induction Text.Reader.pieces Block.reader b s generalizing t with
  | case1 => cases h; trivial
  | case2 b c s block rest hread _ ih =>
    cases h with
    | part hcode h =>
      have hword := Block.isWord_of_read? (exists_of_reader hread).2
      refine Text.Reader.skips_append (Block.skips_highlighted hword hclass hcode _ b) ?_
      rw [lineStartBehind_highlighted]
      exact ih h
  | case3 b c s hread ih =>
    cases h with
    | char h =>
      refine ⟨?_, ih h⟩
      rw [List.append_nil]
      cases b with
      | false => rfl
      | true => exact h.read?_eq_none hread

variable {σ ε : Type}

/-- An engine that always gives highlighted code, and never the tag of a block in it.  The language
of a block is a word, so that it holds no bracket. -/
def Engine.IsTame (e : Engine σ ε) : Prop :=
  ∀ code language st, '<' ∉ language →
    ∃ answer, (e code language st).1 = .ok answer ∧ ¬ "<pre>".toList <:+: answer

theorem exists_becomes {e : Engine σ ε} (he : e.IsTame) (cssClass : Text)
    (b : Bool) (s : Text) (st : σ) :
    ∃ out st', highlightPieces e cssClass (Block.reader.pieces b s) st = (.ok out, st') ∧
      Becomes cssClass (Block.reader.pieces b s) out := by
  fun_induction Text.Reader.pieces Block.reader b s generalizing st with
  | case1 => exact ⟨[], st, rfl, .nil⟩
  | case2 b c s block rest hread _ ih =>
    have hword := Block.isWord_of_read? (exists_of_reader hread).2
    have hangle : '<' ∉ block.tag :=
      Block.mark_not_mem_tag hword (by decide) (by decide) (by decide)
    obtain ⟨code, hok, hcode⟩ := he block.code block.tag st hangle
    obtain ⟨out, st', hout, hbecomes⟩ := ih (e block.code block.tag st).2
    refine ⟨highlighted cssClass block code ++ out, st', ?_, .part hcode hbecomes⟩
    rw [highlightPieces]
    split
    · next herror => simp [herror] at hok
    · next answer after hanswer =>
      rw [hanswer] at hok hout
      obtain rfl := Except.ok.inj hok
      rw [hout]
      rfl
  | case3 b c s hread ih =>
    obtain ⟨out, st', hout, hbecomes⟩ := ih st
    refine ⟨c :: out, st', ?_, .char hbecomes⟩
    rw [highlightPieces, hout]
    rfl

/-- Highlighted markup is not changed when it is highlighted again.  That no engine is called is
said of every engine, which may fail at once: its state stays as it is. -/
theorem highlight_highlight {e : Engine σ ε} (he : e.IsTame) {cssClass : Text}
    (hclass : '<' ∉ cssClass) (markup : Text) (st : σ) :
    ∃ out st', highlight e cssClass markup st = (.ok out, st') ∧
      ∀ {σ' ε' : Type} (e' : Engine σ' ε') (again : σ'),
        highlight e' cssClass out again = (.ok out, again) := by
  obtain ⟨out, st', hout, hbecomes⟩ := exists_becomes he cssClass true markup st
  exact ⟨out, st', hout, fun e' => highlight_of_skips e' cssClass (hbecomes.skips hclass)⟩

theorem isTame_noting : (.total noting : Engine _ Text).IsTame := by
  refine fun code language st hlanguage => ⟨_, rfl, fun h => ?_⟩
  have hmem : '<' ∈ "HL(".toList ++ language ++ ")".toList := h.subset (by decide)
  simp [hlanguage] at hmem

/-- A highlighted block, and behind it start tags without end tags. -/
theorem highlight_highlight_unclosed :
    let out := "<pre><code class=\"c hl\">HL(c)</code></pre>\n<pre><code class=\"d\">y".toList
    ((.total noting : Engine _ Text).IsTame ∧ '<' ∉ "hl".toList) ∧
      highlight (.total noting : Engine _ Text) "hl".toList
        "<pre><code class=\"c\">x</code></pre>\n<pre><code class=\"d\">y".toList [] =
          (.ok out, [("x".toList, "c".toList)]) ∧
      highlight (.total noting : Engine _ Text) "hl".toList out [] = (.ok out, []) := by
  intro out
  have hfirst : highlight (.total noting : Engine _ Text) "hl".toList
      "<pre><code class=\"c\">x</code></pre>\n<pre><code class=\"d\">y".toList [] =
        (.ok out, [("x".toList, "c".toList)]) := by decide +kernel
  have hclass : '<' ∉ "hl".toList := by decide
  obtain ⟨out', st, h, hagain⟩ := highlight_highlight isTame_noting hclass
    "<pre><code class=\"c\">x</code></pre>\n<pre><code class=\"d\">y".toList []
  obtain rfl : out' = out := Except.ok.inj (congrArg Prod.fst (h.symm.trans hfirst))
  exact ⟨⟨isTame_noting, hclass⟩, hfirst, hagain (.total noting) []⟩

end Code

end WikiText
