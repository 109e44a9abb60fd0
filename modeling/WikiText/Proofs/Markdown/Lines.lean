import WikiText.Markdown.Block.Parse
import WikiText.Proofs.Markdown.Inert
import WikiText.Proofs.Text.Blank

/-!
# Blocks of lines without marks

A block whose lines begin with no mark of a heading, a rule, a list or a quote holds definitions of
footnotes or of reference links, or is a paragraph (`parseBlocks_of_lines`).  Of definitions on
lines of their own the first one is read, and the others are left over (`takeFootnote?_next`,
`takeReference?_unlines`).
-/

namespace WikiText.Markdown

open Html (Element)
open Text (IsTrimmed)

/-! ## Lines -/

/-- One line that begins with no mark, without what matters in a table.  A number that begins it is
none of an item, for no space follows a period. -/
structure IsLine (l : Text) : Prop where
  chars : ∀ c ∈ l, c ∉ "\n|\\\x60".toList
  head : ∃ c t, l = c :: t ∧ c ∉ " \n#-_*+>=".toList
  period : '.' ∈ l → ' ' ∉ l

theorem IsLine.not_mem {l : Text} (h : IsLine l) {c : Char} (hc : c ∈ "\n|\\\x60".toList) :
    c ∉ l :=
  fun hmem => h.chars c hmem hc

theorem splitLine_append {l s : Text} (hl : '\n' ∉ l) (hs : ∀ c ∈ s.head?, c = '\n') :
    splitLine (l ++ s) = (l, s) := by
  rw [splitLine, Text.takeWhile_ne_append hl, Text.dropWhile_ne_append hl]
  cases s with
  | nil => rw [List.takeWhile_nil, List.append_nil, List.dropWhile_nil]
  | cons c s =>
    obtain rfl : c = '\n' := hs c rfl
    rw [List.takeWhile_cons_of_neg (by simp), List.append_nil, List.dropWhile_cons_of_neg (by simp)]

theorem head?_flatMap_newline (ls : List Text) :
    ∀ c ∈ (ls.flatMap ('\n' :: ·)).head?, c = '\n' := by
  cases ls with
  | nil => exact fun _ h => absurd h (Option.not_mem_none _)
  | cons l ls => rintro _ ⟨⟩; rfl

namespace Table

theorem marks_of_not_mem {row : Text} (h : ∀ c ∈ row, c ∉ "|\\\x60".toList) (fuel i : Nat) :
    marks fuel i row = [] := by
  induction fuel generalizing i row with
  | zero => rfl
  | succ fuel ih =>
    unfold marks
    split
    · rfl
    · exact absurd (by decide) (h _ List.mem_cons_self)
    · exact absurd (by decide) (h _ List.mem_cons_self)
    · exact absurd (by decide) (h _ List.mem_cons_self)
    · exact absurd (by decide) (h _ List.mem_cons_self)
    · next c t _ _ _ _ =>
      rw [List.forall_mem_cons] at h
      have htick : c ≠ '\x60' := fun he => h.1 (he ▸ by decide)
      rw [if_pos htick, ih h.2]

theorem splitAt_nil (i : Nat) (row : Text) : splitAt [] i row = [row] := by
  induction row generalizing i with
  | nil => rfl
  | cons c row ih => rw [splitAt, ih]; rfl

theorem rowCells_of_not_mem {row : Text} (h : ∀ c ∈ row, c ∉ "|\\\x60".toList) :
    rowCells false row = [row] := by
  have hcells : rowCells false row = cells row := rfl
  rw [hcells, cells, marks_of_not_mem h]
  exact splitAt_nil 0 row

theorem hasEdge_of_not_mem {row : Text} (h : '|' ∉ row) : hasEdge row = false := by
  have hhead : row.head? ≠ some '|' := fun he => h (List.mem_of_head? he)
  have hend : withoutEndBar? row = none := by
    rw [withoutEndBar?]
    split
    · next heq => exact absurd (List.mem_reverse.1 (heq ▸ List.mem_cons_self)) h
    · rfl
  rw [hasEdge, hend, decide_eq_false hhead]
  rfl

end Table

/-! ## Blocks of lines -/

section Lines

variable {b : Text} (h : ∀ l ∈ Text.lines b, IsLine l)
include h

theorem exists_lines :
    ∃ l ls, Text.lines b = l :: ls ∧ b = l ++ ls.flatMap ('\n' :: ·) ∧ IsLine l := by
  obtain ⟨l, ls, hlines⟩ := List.exists_cons_of_ne_nil (Text.splitOn_ne_nil '\n' b)
  have hl : Text.lines b = l :: ls := hlines
  refine ⟨l, ls, hl, ?_, h l (hl ▸ List.mem_cons_self)⟩
  rw [← Text.unlines_cons, ← hl, Text.unlines_lines]

theorem exists_head : ∃ c t, b = c :: t ∧ c ∉ " \n#-_*+>=".toList := by
  obtain ⟨l, ls, -, hb, hl⟩ := exists_lines h
  obtain ⟨c, t, rfl, hc⟩ := hl.head
  exact ⟨c, _, hb, hc⟩

theorem isIndented_of_lines : isIndented b = false := by
  obtain ⟨c, t, rfl, hc⟩ := exists_head h
  have hspace : ' ' ≠ c := fun he => hc (he ▸ by decide)
  have hstrip : Text.strip? (indentation 1) (c :: t) = none := if_neg hspace
  rw [isIndented, Text.startsWith, hstrip]
  rfl

theorem ofBlock?_of_lines : Table.ofBlock? b = none := by
  obtain ⟨l, ls, hlines, -, hl⟩ := exists_lines h
  have hchars : ∀ c ∈ Table.trimSpaces l, c ∉ "|\\\x60".toList := fun c hc hmem =>
    hl.chars c (Text.trimWhile_subset _ _ hc) (List.mem_of_mem_drop (i := 1) hmem)
  have hbar : '|' ∉ Table.trimSpaces l := fun hmem => hchars _ hmem (by decide)
  rw [Table.ofBlock?, hlines]
  cases ls with
  | nil => rfl
  | cons m ls =>
    rw [List.map_cons, List.map_cons]
    dsimp only
    rw [Table.hasEdge_of_not_mem hbar, Table.rowCells_of_not_mem hchars]
    rfl

theorem hashHeading?_of_lines : hashHeading? b = none := by
  rw [hashHeading?]
  generalize ([] : List Text) = before
  generalize Text.lines b = ls at h
  induction ls generalizing before with
  | nil => rfl
  | cons l ls ih =>
    rw [List.forall_mem_cons] at h
    have hat : headingAt? (Text.unlines (l :: ls)) = none := by
      obtain ⟨c, t, rfl, hc⟩ := h.1.head
      have hhash : c ≠ '#' := fun he => hc (he ▸ by decide)
      rw [Text.unlines_cons, headingAt?, List.cons_append, Text.countFront,
        List.takeWhile_cons_of_neg (by simpa using hhash)]
      rfl
    rw [findHeading?, hat]
    exact ih _ h.2

theorem underlinedHeading?_of_lines : underlinedHeading? b = none := by
  rw [underlinedHeading?]
  split
  · next l under ls heq =>
    obtain ⟨c, t, rfl, hc⟩ := (h under (heq ▸ List.mem_cons_of_mem _ List.mem_cons_self)).head
    have hdouble : c ≠ '=' := fun he => hc (he ▸ by decide)
    have hdash : c ≠ '-' := fun he => hc (he ▸ by decide)
    rw [List.takeWhile_cons_of_neg (by simp [hdouble, hdash])]
    rfl
  · rfl

end Lines

theorem dropMargin_of_line {l : Text} (h : IsLine l) : dropMargin l = l := by
  obtain ⟨c, t, rfl, hc⟩ := h.head
  have hspace : c ≠ ' ' := fun he => hc (he ▸ by decide)
  exact if_neg (by simpa [Text.isSpace] using hspace)

theorem isRule_of_line {l : Text} (h : IsLine l) : isRule l = false := by
  rw [isRule, dropMargin_of_line h]
  obtain ⟨c, t, rfl, hc⟩ := h.head
  have hne : ∀ d ∈ " \n#-_*+>=".toList, c ≠ d := fun d hd he => hc (he ▸ hd)
  simp [hne '-' (by decide), hne '_' (by decide), hne '*' (by decide)]

theorem item?_of_line {l : Text} (h : IsLine l) : item? l = none := by
  rw [item?, dropMargin_of_line h]
  split
  · next kind digits rest hmarker =>
    obtain ⟨c, t, rfl, hc⟩ := h.head
    have hne : ∀ d ∈ " \n#-_*+>=".toList, c ≠ d := fun d hd he => hc (he ▸ hd)
    rw [marker?, if_neg (by simp [hne '*' (by decide), hne '+' (by decide), hne '-' (by decide)])]
      at hmarker
    dsimp only at hmarker
    split at hmarker
    · next heq =>
      cases hmarker
      have hsuffix : '.' :: ' ' :: rest <:+ c :: t := heq ▸ List.drop_suffix _ _
      exact absurd (hsuffix.subset (List.mem_cons_of_mem _ List.mem_cons_self))
        (h.period (hsuffix.subset List.mem_cons_self))
    · cases hmarker
  · rfl

theorem quotedLine?_of_line {l : Text} (h : IsLine l) : quotedLine? l = none := by
  rw [quotedLine?, dropMargin_of_line h]
  obtain ⟨c, t, rfl, hc⟩ := h.head
  have hquote : c ≠ '>' := fun he => hc (he ▸ by decide)
  split
  · next heq => exact absurd (List.cons.inj heq).1 hquote
  · next heq => exact absurd (List.cons.inj heq).1 hquote
  · rfl

section Lines

variable {b : Text} (h : ∀ l ∈ Text.lines b, IsLine l)
include h

theorem splitAtRule?_of_lines : splitAtRule? b = none := by
  have hall : (Text.lines b).takeWhile (fun l => !isRule l) = Text.lines b :=
    List.takeWhile_eq_self_iff.2 fun l hl => by rw [isRule_of_line (h l hl)]; rfl
  rw [splitAtRule?, hall, List.drop_length]

theorem item?_of_lines : item? (splitLine b).1 = none := by
  obtain ⟨l, ls, -, rfl, hl⟩ := exists_lines h
  rw [splitLine_append (hl.not_mem (by decide)) (head?_flatMap_newline ls)]
  exact item?_of_line hl

theorem splitAtQuote?_of_lines : splitAtQuote? b = none := by
  have hall : (Text.lines b).takeWhile (fun l => (quotedLine? l).isNone) = Text.lines b :=
    List.takeWhile_eq_self_iff.2 fun l hl => by rw [quotedLine?_of_line (h l hl)]; rfl
  rw [splitAtQuote?]
  dsimp only
  rw [hall, List.drop_length]
  rfl

/-- A block of lines without marks holds definitions or is a paragraph. -/
theorem parseBlocks_of_lines (opts : BlockOptions) (fuel : Nat) (place : Place) (parent : Element)
    (rest : List Text) :
    parseBlocks opts (fuel + 1) place parent (b :: rest) =
      match takeFootnote? b rest with
      | some ((id, text), rest) => do
        modify fun d => { d with footnotes := d.footnotes.insert id text }
        parseBlocks opts fuel place parent rest
      | none => match takeReference? b rest with
        | some ((id, target, title), rest) => do
          modify fun d => { d with references := d.references.insert id (target, title) }
          parseBlocks opts fuel place parent rest
        | none => parseBlocks opts fuel place (addParagraph place parent b) rest := by
  have hstart : (b.isEmpty || decide (b.head? = some '\n')) = false := by
    obtain ⟨c, t, rfl, hc⟩ := exists_head h
    have hline : c ≠ '\n' := fun he => hc (he ▸ by decide)
    simpa using hline
  have hlist : continuesList place parent b = false := by
    rw [continuesList, isIndented_of_lines h]
    rfl
  have htable : (if opts.tables then Table.ofBlock? b else none) = none := by
    rw [ofBlock?_of_lines h, ite_self]
  rw [parseBlocks]
  rcases takeFootnote? b rest with _ | ⟨⟨id, text⟩, more⟩ <;>
    rcases takeReference? b rest with _ | ⟨⟨id', target, title⟩, more'⟩
  all_goals simp only [hstart, hlist, isIndented_of_lines h, htable, hashHeading?_of_lines h,
    underlinedHeading?_of_lines h, splitAtRule?_of_lines h, item?_of_lines h,
    splitAtQuote?_of_lines h, Bool.false_eq_true, if_false]

end Lines

/-- Where a document has nothing to be read any more, reading ends. -/
theorem parseBlocks_nil (opts : BlockOptions) (fuel : Nat) (place : Place) (parent : Element) :
    parseBlocks opts fuel place parent [] = pure parent := by cases fuel <;> rfl

/-- Reading ends at an empty block, unless code stands before it. -/
theorem parseBlocks_empty (opts : BlockOptions) (fuel : Nat) (place : Place) {parent : Element}
    (h : ∀ more, extendCode? parent more = none) :
    parseBlocks opts (fuel + 1) place parent [[]] = pure parent := by
  rw [parseBlocks]
  simp only [List.isEmpty_nil, Bool.true_or, if_true, h, Option.getD_none, List.tail_nil,
    parseBlocks_nil]

/-! ## Where definitions are found -/

section Found

variable {α : Type} {read? : Text → Option (α × Text)}

theorem findAtLine?_of_read {b : Text} {v : α} {after : Text} (h : read? b = some (v, after)) :
    findAtLine? read? [] (Text.lines b) = some ⟨[], v, after⟩ := by
  obtain ⟨l, ls, hlines⟩ := List.exists_cons_of_ne_nil (Text.splitOn_ne_nil '\n' b)
  have hl : Text.lines b = l :: ls := hlines
  rw [← Text.unlines_lines b] at h
  rw [hl] at h ⊢
  rw [findAtLine?, h]
  rfl

/-- Where nothing can be read from any line on, nothing is found. -/
theorem findAtLine?_of_none {ls : List Text}
    (h : ∀ l ms, l :: ms <:+ ls → read? (Text.unlines (l :: ms)) = none) (before : List Text) :
    findAtLine? read? before ls = none := by
  induction ls generalizing before with
  | nil => rfl
  | cons l ls ih =>
    rw [findAtLine?, h l ls (List.suffix_refl _)]
    exact ih (fun m ms hms => h m ms (hms.trans (List.suffix_cons l ls))) _

end Found

theorem idAndColon?_append {excluded : Char → Bool} {id : Text}
    (hid : ∀ c ∈ id, excluded c = false ∧ c ≠ ']') (s : Text) :
    idAndColon? excluded (id ++ ']' :: ':' :: s) = some (id, s) := by
  have hall : id.all (fun c => !excluded c && c ≠ ']') = true :=
    List.all_eq_true.2 fun c hc => by simpa using hid c hc
  have htake := Text.takeWhile_append_cons hall (c := ']') (by simp) (':' :: s)
  rw [idAndColon?, htake, List.drop_left]
  rfl

theorem idAndColon?_of_not_mem {s : Text} (excluded : Char → Bool) (h : ':' ∉ s) :
    idAndColon? excluded s = none := by
  rw [idAndColon?]
  split
  · next heq =>
    exact absurd (List.mem_of_mem_drop (heq ▸ List.mem_cons_of_mem _ List.mem_cons_self)) h
  · rfl

/-- A text without a colon defines nothing. -/
theorem readFootnote?_of_not_mem {s : Text} (h : ':' ∉ s) : readFootnote? s = none := by
  rw [readFootnote?]
  split
  · next t heq =>
    have hsuffix : t <:+ s := ((List.suffix_cons _ t).trans (List.suffix_cons _ _)).trans
      (heq ▸ Text.dropAtMost_suffix _ _ s)
    rw [idAndColon?_of_not_mem _ fun hmem => h (hsuffix.subset hmem)]
    rfl
  · rfl

theorem readReference?_of_not_mem {s : Text} (h : ':' ∉ s) : readReference? s = none := by
  rw [readReference?]
  split
  · next t heq =>
    have hsuffix : t <:+ s := (List.suffix_cons _ t).trans (heq ▸ Text.dropAtMost_suffix _ _ s)
    rw [idAndColon?_of_not_mem _ fun hmem => h (hsuffix.subset hmem)]
    rfl
  · rfl

/-- A definition begins with a bracket, behind spaces at most. -/
theorem readFootnote?_of_head {c : Char} (hspace : c ≠ ' ') (hopen : c ≠ '[') (s : Text) :
    readFootnote? (c :: s) = none := by
  have hdrop : Text.dropAtMost Text.isSpace (tabWidth - 1) (c :: s) = c :: s :=
    if_neg (by simpa [Text.isSpace] using hspace)
  rw [readFootnote?, hdrop]
  split
  · next heq => exact absurd (List.cons.inj heq).1 hopen
  · rfl

theorem readReference?_of_head {c : Char} (hspace : c ≠ ' ') (hopen : c ≠ '[') (s : Text) :
    readReference? (c :: s) = none := by
  have hdrop : Text.dropAtMost Text.isSpace (tabWidth - 1) (c :: s) = c :: s :=
    if_neg (by simpa [Text.isSpace] using hspace)
  rw [readReference?, hdrop]
  split
  · next heq => exact absurd (List.cons.inj heq).1 hopen
  · rfl

/-- What names a footnote is no reference link. -/
theorem readFootnote?_of_ne {c : Char} (hc : c ≠ '^') (s : Text) :
    readFootnote? ('[' :: c :: s) = none := by
  have hdrop : Text.dropAtMost Text.isSpace (tabWidth - 1) ('[' :: c :: s) = '[' :: c :: s := rfl
  rw [readFootnote?, hdrop]
  split
  · next heq => exact absurd (List.cons.inj (List.cons.inj heq).2).1 hc
  · rfl

/-- Where no line begins a footnote, none is taken. -/
theorem takeFootnote?_of_none {b : Text} (h : ∀ l ms, l :: ms <:+ Text.lines b →
    readFootnote? (Text.unlines (l :: ms)) = none) (rest : List Text) :
    takeFootnote? b rest = none := by
  rw [takeFootnote?, footnote?, findAtLine?_of_none h]
  rfl

/-- Where nothing can be read from the only line on, nothing is found. -/
theorem findAtLine?_singleton {α : Type} {read? : Text → Option (α × Text)} {l : Text}
    (h : read? l = none) : findAtLine? read? [] [l] = none := by
  have hline : read? (Text.unlines [l]) = none := h
  rw [findAtLine?, hline]
  rfl

/-- A line that defines nothing and begins with no white space is a paragraph. -/
theorem parseBlocks_paragraph {l : Text} (hl : IsLine l) (hfootnote : readFootnote? l = none)
    (hreference : readReference? l = none) (hhead : ∀ c ∈ l.head?, Text.isBlank c = false)
    (opts : BlockOptions) (fuel : Nat) (parent : Element) (rest : List Text) :
    parseBlocks opts (fuel + 1) .document parent (l :: rest) =
      parseBlocks opts fuel .document (parent.push ((Element.ofTag "p").withText l)) rest := by
  have hlines : Text.lines l = [l] := Text.lines_of_not_mem (hl.not_mem (by decide))
  have htakeFootnote : takeFootnote? l rest = none := by
    rw [takeFootnote?, footnote?, hlines, findAtLine?_singleton hfootnote]
    rfl
  have htakeReference : takeReference? l rest = none := by
    rw [takeReference?, hlines, findAtLine?_singleton hreference]
    rfl
  have hblank : Text.allBlank l = false := by
    obtain ⟨c, t, rfl, -⟩ := hl.head
    rw [Text.allBlank, List.all_cons, hhead c rfl, Bool.false_and]
  have hstart : Text.trimStart l = l := Text.dropWhile_eq_self_of_head hhead
  rw [parseBlocks_of_lines (by rw [hlines]; exact List.forall_mem_singleton.2 hl), htakeFootnote,
    htakeReference, addParagraph, hblank, hstart]
  rfl

/-! ## Footnotes -/

theorem isSpace_of_not_isBlank (c : Char) (h : Text.isBlank c = false) : Text.isSpace c = false :=
  decide_eq_false (by rintro rfl; cases h)

theorem ne_newline_of_not_isBlank (c : Char) (h : Text.isBlank c = false) :
    decide (c = '\n') = false :=
  decide_eq_false (by rintro rfl; cases h)

/-- A line end behind a trimmed text is trimmed. -/
theorem trimWhile_append_newline {t : Text} (h : IsTrimmed t) :
    Text.trimWhile (· = '\n') (t ++ ['\n']) = t := by
  have hlast : (t ++ ['\n']).rdropWhile (· = '\n') = t := by
    rw [List.rdropWhile_concat_pos _ _ _ (by simp), h.rdropWhile ne_newline_of_not_isBlank]
  rw [Text.trimWhile, h.dropWhile_append ne_newline_of_not_isBlank]
  exact hlast

/-- The line that defines a footnote. -/
def footnoteLine (id t : Text) : Text := '[' :: '^' :: (id ++ ']' :: ':' :: ' ' :: t)

section Footnote

variable {id t : Text} (hid : ']' ∉ id) (ht : IsTrimmed t) (hline : '\n' ∉ t)
include hid ht hline

/-- A footnote is read up to the end of its line. -/
theorem readFootnote?_footnoteLine {s : Text} (hs : ∀ c ∈ s.head?, c = '\n') :
    readFootnote? (footnoteLine id t ++ s) = some ((id, t), s) := by
  have htext : footnoteLine id t ++ s = '[' :: '^' :: (id ++ ']' :: ':' :: ' ' :: (t ++ s)) := by
    simp [footnoteLine]
  have hfirst : readFootnote? ('[' :: '^' :: (id ++ ']' :: ':' :: ' ' :: (t ++ s))) =
      (idAndColon? (fun _ => false) (id ++ ']' :: ':' :: ' ' :: (t ++ s))).bind fun r =>
        let line := splitLine (r.2.dropWhile Text.isSpace)
        some ((r.1, line.1), line.2) := rfl
  rw [htext, hfirst, idAndColon?_append fun c hc => ⟨rfl, fun he => hid (he ▸ hc)⟩,
    Option.bind_some]
  dsimp only
  rw [List.dropWhile_cons_of_pos rfl, ht.dropWhile_append isSpace_of_not_isBlank,
    splitLine_append hline hs]

theorem readFootnote?_unlines (ls : List Text) :
    readFootnote? (Text.unlines (footnoteLine id t :: ls)) =
      some ((id, t), ls.flatMap ('\n' :: ·)) := by
  rw [Text.unlines_cons, readFootnote?_footnoteLine hid ht hline (head?_flatMap_newline ls)]

/-- The last footnote of a block ends with it, unless the next block is indented. -/
theorem takeFootnote?_last {rest : List Text} (hrest : ∀ b ∈ rest.head?, isIndented b = false) :
    takeFootnote? (footnoteLine id t) rest = some ((id, t), rest) := by
  have hread : readFootnote? (footnoteLine id t) = some ((id, t), []) :=
    readFootnote?_unlines hid ht hline []
  have hcontinuation : continuation rest = ([], rest) := by
    cases rest with
    | nil => rfl
    | cons b rest => rw [continuation, if_neg (by rw [hrest b rfl]; exact Bool.false_ne_true)]
  have hnone : footnote? (dropLineEndsBefore []) = none := rfl
  have hempty : outdentAll 1 (dropLineEndsBefore []) = [] := rfl
  have htrim : Text.trimEnd t = t := ht.rdropWhile fun _ hc => hc
  rw [takeFootnote?, footnote?, findAtLine?_of_read hread]
  simp only [Option.bind_eq_bind, Option.bind_some, hnone, hcontinuation, hempty,
    trimWhile_append_newline ht, Text.joinWith, htrim]
  rfl

/-- A footnote before another one is taken off the block. -/
theorem takeFootnote?_next {id' t' : Text} (hid' : ']' ∉ id') (ht' : IsTrimmed t')
    (hline' : '\n' ∉ t') (ls rest : List Text) :
    takeFootnote? (Text.unlines (footnoteLine id t :: footnoteLine id' t' :: ls)) rest =
      some ((id, t), Text.unlines (footnoteLine id' t' :: ls) :: rest) := by
  have hread := readFootnote?_unlines hid ht hline (footnoteLine id' t' :: ls)
  have hnext := readFootnote?_unlines hid' ht' hline' ls
  have hbehind : dropLineEndsBefore ((footnoteLine id' t' :: ls).flatMap ('\n' :: ·)) =
      Text.unlines (footnoteLine id' t' :: ls) := by
    rw [Text.unlines_cons]
    rfl
  have hempty : outdentAll 1 (dropLineEndsAfter []) = [] := rfl
  have hstart : dropLineEndsBefore (t ++ ['\n']) = t ++ ['\n'] :=
    ht.dropWhile_append ne_newline_of_not_isBlank _
  have htrim : Text.trimEnd (t ++ ['\n']) = t :=
    (List.rdropWhile_concat_pos _ _ _ rfl).trans (ht.rdropWhile fun _ hc => hc)
  rw [takeFootnote?, footnote?, findAtLine?_of_read hread]
  simp only [Option.bind_eq_bind, Option.bind_some, hbehind, footnote?, findAtLine?_of_read hnext,
    hempty, hstart, Text.joinWith, htrim]
  rfl

end Footnote

/-! ## Reference links -/

/-- The line that defines a reference link. -/
def referenceLine (id url : Text) : Text := '[' :: (id ++ ']' :: ':' :: ' ' :: url)

/-- The target of a link ends with its line, if the next line begins with no title. -/
theorem afterTarget?_flatMap {ls : List Text} (h : ∀ l ∈ ls.head?, ∃ s, l = '[' :: s) :
    afterTarget? (ls.flatMap ('\n' :: ·)) = some (none, ls.flatMap ('\n' :: ·)) := by
  cases ls with
  | nil => rfl
  | cons l ls =>
    obtain ⟨s, rfl⟩ := h l rfl
    rfl

section Reference

variable {id url : Text} (hid : ∀ c ∈ id, c ≠ '[' ∧ c ≠ ']') (hne : url ≠ [])
  (hurl : ∀ c ∈ url, Text.isBlank c = false ∧ c ≠ '<' ∧ c ≠ '>')

include hurl in
theorem countFront_append {s : Text} (hs : ∀ c ∈ s.head?, c = '\n') :
    Text.countFront (fun c => !Text.isBlank c) (url ++ s) = url.length := by
  rw [Text.countFront, List.takeWhile_append_of_pos fun c hc => by rw [(hurl c hc).1]; rfl]
  cases s with
  | nil => rw [List.takeWhile_nil, List.append_nil]
  | cons c s =>
    obtain rfl : c = '\n' := hs c rfl
    rw [List.takeWhile_cons_of_neg (by decide), List.append_nil]

include hne in
theorem target?_append {s : Text} (hs : afterTarget? s = some (none, s)) :
    target? (url ++ s) url.length = some ((url, none), s) := by
  obtain ⟨c, v, rfl⟩ := List.exists_cons_of_ne_nil hne
  rw [List.length_cons, target?, ← List.length_cons, List.drop_left, hs]
  dsimp only
  rw [List.take_left]

include hid hne hurl

/-- A reference link is read up to the end of its line. -/
theorem readReference?_unlines {ls : List Text} (h : ∀ l ∈ ls.head?, ∃ s, l = '[' :: s) :
    readReference? (Text.unlines (referenceLine id url :: ls)) =
      some ((id, url, none), ls.flatMap ('\n' :: ·)) := by
  have htext : Text.unlines (referenceLine id url :: ls) =
      '[' :: (id ++ ']' :: ':' :: ' ' :: (url ++ ls.flatMap ('\n' :: ·))) := by
    simp [Text.unlines_cons, referenceLine]
  have hcount := countFront_append hurl (head?_flatMap_newline ls)
  have htarget := target?_append hne (afterTarget?_flatMap h)
  generalize ls.flatMap ('\n' :: ·) = s at htext hcount htarget
  have hdrop : Text.dropAtMost Text.isSpace (tabWidth - 1)
      ('[' :: (id ++ ']' :: ':' :: ' ' :: (url ++ s))) =
        '[' :: (id ++ ']' :: ':' :: ' ' :: (url ++ s)) := rfl
  have hspace : (' ' :: (url ++ s)).dropWhile Text.isSpace = url ++ s := by
    rw [List.dropWhile_cons_of_pos rfl]
    have htrimmed : IsTrimmed url := Text.isTrimmed_of_not_mem hne fun c hc => (hurl c hc).1
    exact htrimmed.dropWhile_append isSpace_of_not_isBlank s
  rw [htext, readReference?, hdrop]
  split
  · next s' heq =>
    obtain rfl := (List.cons.inj heq).2
    rw [idAndColon?_append fun c hc => ⟨decide_eq_false (hid c hc).1, (hid c hc).2⟩]
    dsimp only [Option.bind_eq_bind, Option.bind_some]
    rw [hspace]
    split
    · next heq' =>
      obtain ⟨c, v, rfl⟩ := List.exists_cons_of_ne_nil hne
      have hc := (hurl c List.mem_cons_self).1
      rw [(List.cons.inj heq').1] at hc
      cases hc
    · rw [hcount, htarget]
      rfl
  · next hnot => exact absurd rfl (hnot _)

/-- A reference link is taken off a block in which only reference links follow. -/
theorem takeReference?_unlines {ls : List Text} (h : ∀ l ∈ ls.head?, ∃ s, l = '[' :: s)
    (rest : List Text) :
    takeReference? (Text.unlines (referenceLine id url :: ls)) rest =
      some ((Text.lower (Text.trim id), url, none),
        if ls = [] then rest else Text.unlines ls :: rest) := by
  have hread := readReference?_unlines hid hne hurl h
  have hstart : url.dropWhile (· = '<') = url :=
    Text.dropWhile_eq_self_of_head fun c hc =>
      decide_eq_false (hurl c (List.mem_of_mem_head? hc)).2.1
  have hend : Text.dropEndWhile (· = '>') url = url :=
    Text.rdropWhile_eq_self_of_getLast fun c hc =>
      decide_eq_false (hurl c (List.mem_of_getLast? hc)).2.2
  rw [takeReference?, findAtLine?_of_read hread]
  simp only [Option.bind_eq_bind, Option.bind_some, hstart, hend]
  cases ls with
  | nil => rfl
  | cons l ls =>
    obtain ⟨s, rfl⟩ := h l rfl
    rw [if_neg (List.cons_ne_nil _ _), Text.unlines_cons]
    rfl

end Reference

end WikiText.Markdown
