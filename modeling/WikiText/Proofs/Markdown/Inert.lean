import Mathlib.Data.List.Induction
import Mathlib.Data.List.TakeWhile
import WikiText.Markdown.Convert
import WikiText.Proofs.Markdown.RawHtml

/-!
# Lines of which nothing is put aside

Lines without tabs, carriage returns, markup, braces and fences are the lines of their text, as they
are, up to the reading of blocks (`parse_of_inert`).  The blocks are what stands between empty
lines (`blocksOf_unlines`).
-/

namespace WikiText

namespace Text

theorem lines_append_cons {l : Text} (h : '\n' ∉ l) (s : Text) :
    lines (l ++ '\n' :: s) = l :: lines s :=
  splitOn_append_cons h s

theorem lines_of_not_mem {l : Text} (h : '\n' ∉ l) : lines l = [l] := splitOn_of_not_mem h

theorem lines_unlines {ls : List Text} (hne : ls ≠ []) (h : ∀ l ∈ ls, '\n' ∉ l) :
    lines (unlines ls) = ls := by
  induction ls, hne using List.recNeNil with
  | singleton l => exact lines_of_not_mem (h l List.mem_cons_self)
  | cons l ls hls ih =>
    rw [List.forall_mem_cons] at h
    rw [unlines_cons_of_ne_nil l hls, lines_append_cons h.1, ih h.2]

theorem unlines_append {ls ms : List Text} (hls : ls ≠ []) (hms : ms ≠ []) :
    unlines (ls ++ ms) = unlines ls ++ '\n' :: unlines ms := by
  induction ls, hls using List.recNeNil with
  | singleton l => exact unlines_cons_of_ne_nil l hms
  | cons l ls hls ih =>
    rw [List.cons_append, unlines_cons_of_ne_nil l (List.append_ne_nil_of_left_ne_nil hls ms), ih,
      unlines_cons_of_ne_nil l hls, List.append_assoc, List.cons_append]

/-- The lines of a text that begins with a line that is not empty. -/
theorem unlines_cons (l : Text) (ls : List Text) :
    unlines (l :: ls) = l ++ ls.flatMap ('\n' :: ·) := by
  induction ls generalizing l with
  | nil => exact (List.append_nil l).symm
  | cons m ls ih => rw [unlines_cons_cons, ih, List.flatMap_cons, List.cons_append]

section SplitOnText

variable {a c : Char} {d l s : Text} {ps : List Text}

theorem splitOnText_append_self (s : Text) :
    splitOnText (a :: d) (a :: (d ++ s)) = [] :: splitOnText (a :: d) s := by
  have hstrip : strip? (a :: d) (a :: (d ++ s)) = some s := strip?_append (a :: d) s
  rw [splitOnText]
  split
  · next r hr =>
    obtain rfl : s = r := Option.some.inj (hstrip.symm.trans hr)
    rfl
  · next hnone => exact absurd (hstrip.symm.trans hnone) (Option.some_ne_none s)

theorem splitOnText_nil : splitOnText (a :: d) [] = [[]] := by
  rw [splitOnText]
  rfl

theorem splitOnText_ne_nil (d s : Text) : splitOnText d s ≠ [] := by
  rw [splitOnText.eq_def]
  repeat' split
  all_goals exact List.cons_ne_nil _ _

/-- A character at which no separator begins belongs to the first piece. -/
theorem splitOnText_cons (hstrip : strip? (a :: d) (c :: s) = none)
    (hs : splitOnText (a :: d) s = l :: ps) : splitOnText (a :: d) (c :: s) = (c :: l) :: ps := by
  rw [splitOnText]
  split
  · next r hr => exact absurd (hstrip.symm.trans hr) (Option.some_ne_none r).symm
  · dsimp only
    rw [hs]

theorem splitOnText_append {t : Text} (h : a ∉ t) (hs : splitOnText (a :: d) s = l :: ps) :
    splitOnText (a :: d) (t ++ s) = (t ++ l) :: ps := by
  induction t with
  | nil => exact hs
  | cons c t ih =>
    rw [List.mem_cons, not_or] at h
    exact splitOnText_cons (if_neg h.1) (ih h.2)

theorem splitOnText_of_not_mem {t : Text} (h : a ∉ t) : splitOnText (a :: d) t = [t] := by
  have happend := splitOnText_append (d := d) h splitOnText_nil
  rwa [List.append_nil] at happend

/-- Lines that are not empty stay together where texts are taken apart at empty lines. -/
theorem splitOnText_unlines {ls : List Text} (hne : ls ≠ []) (h : ∀ l ∈ ls, l ≠ [] ∧ '\n' ∉ l)
    (hs : splitOnText ['\n', '\n'] s = [] :: ps) :
    splitOnText ['\n', '\n'] (unlines ls ++ s) = unlines ls :: ps := by
  induction ls, hne using List.recNeNil with
  | singleton l =>
    exact (splitOnText_append (h l List.mem_cons_self).2 hs).trans (by rw [List.append_nil]; rfl)
  | cons l ls hls ih =>
    rw [List.forall_mem_cons] at h
    have hstrip : strip? ['\n', '\n'] ('\n' :: (unlines ls ++ s)) = none := by
      obtain ⟨m, ls, rfl⟩ := List.exists_cons_of_ne_nil hls
      obtain ⟨c, m, rfl⟩ := List.exists_cons_of_ne_nil (h.2 m List.mem_cons_self).1
      have hc : '\n' ≠ c := fun he => (h.2 _ List.mem_cons_self).2 (he ▸ List.mem_cons_self)
      rw [unlines_cons]
      exact (if_pos rfl).trans (if_neg hc)
    rw [unlines_cons_of_ne_nil l hls, List.append_assoc, List.cons_append]
    exact splitOnText_append h.1.2 (splitOnText_cons hstrip (ih h.2))

end SplitOnText

end Text

namespace Markdown

/-! ## Source text -/

/-- A line that is read as it stands. -/
structure IsInert (l : Text) : Prop where
  chars : ∀ c ∈ l, c ∉ "\x02\x03\r\t\n<&\x7b".toList
  head : ∀ c ∈ l.head?, c ∉ " ~\x60".toList

theorem isInert_nil : IsInert [] :=
  ⟨fun _ h => absurd h List.not_mem_nil, fun _ h => absurd h (Option.not_mem_none _)⟩

theorem IsInert.not_mem {l : Text} (h : IsInert l) {c : Char}
    (hc : c ∈ "\x02\x03\r\t\n<&\x7b".toList) : c ∉ l := fun hmem => h.chars c hmem hc

/-- A fence is at the front of its line. -/
theorem Fence.ofLine?_of_head {l : Text} (h : ∀ c ∈ l.head?, c ≠ '~' ∧ c ≠ '\x60') :
    ofLine? l = none := by
  cases l with
  | nil => rfl
  | cons c l =>
    rw [ofLine?]
    exact if_neg fun hmarks => hmarks.1.elim (h c rfl).1 (h c rfl).2

theorem IsInert.ofLine? {l : Text} (h : IsInert l) : Fence.ofLine? l = none :=
  Fence.ofLine?_of_head fun c hc =>
    ⟨fun he => h.head c hc (he ▸ by decide), fun he => h.head c hc (he ▸ by decide)⟩

theorem brace_mem_of_isPlaceholder {l : Text} (h : Toc.isPlaceholder l = true) : '\x7b' ∈ l := by
  rw [Toc.isPlaceholder, Toc.Placeholder.ofLine?, Option.isSome_iff_exists] at h
  obtain ⟨p, hp⟩ := h
  obtain ⟨⟨side, rest⟩, hopening, -⟩ := Option.bind_eq_some_iff.1 hp
  obtain ⟨t, -, ht⟩ := Toc.suffix_of_opening? hopening
  exact ht.subset List.mem_cons_self

theorem IsInert.isPlaceholder {l : Text} (h : IsInert l) : Toc.isPlaceholder l = false :=
  eq_false_of_ne_true fun hplaceholder =>
    h.not_mem (by decide) (brace_mem_of_isPlaceholder hplaceholder)

theorem unifyLineEnds_of_not_mem {s : Text} (h : '\r' ∉ s) : Text.unifyLineEnds s = s := by
  induction s with
  | nil => rfl
  | cons c s ih =>
    rw [List.mem_cons, not_or] at h
    rw [Text.unifyLineEnds]
    · rw [ih h.2]
    · rintro _ rfl
      exact absurd rfl h.1
    · rintro rfl
      exact absurd rfl h.1

theorem expandTabs_of_not_mem {s : Text} (h : '\t' ∉ s) (column : Nat) :
    expandTabs column s = s := by
  induction s generalizing column with
  | nil => rfl
  | cons c s ih =>
    rw [List.mem_cons, not_or] at h
    rw [expandTabs, if_neg (Ne.symm h.1), ih h.2, ih h.2, ite_self]

theorem emptyBlankLines_of_inert {ls : List Text} (h : ∀ l ∈ ls, IsInert l) :
    emptyBlankLines ls = ls := by
  cases ls with
  | nil => rfl
  | cons l ls =>
    rw [List.forall_mem_cons] at h
    rw [emptyBlankLines]
    refine congrArg (l :: ·) ((List.map_congr_left fun m hm => ?_).trans (List.map_id ls))
    cases m with
    | nil => rfl
    | cons c m =>
      refine if_neg fun hblank => ?_
      rw [List.all_cons, Bool.and_eq_true, decide_eq_true_eq] at hblank
      exact (h.2 _ hm).head c rfl (by rw [hblank.1]; decide)

theorem not_mem_unlines {ls : List Text} {c : Char} (hc : c ≠ '\n') (h : ∀ l ∈ ls, c ∉ l) :
    c ∉ Text.unlines ls := by
  refine Text.unlines_induction (fun _ => List.not_mem_nil) (fun s t hs ht => ?_) h
  rw [List.mem_append, List.mem_cons, not_or, not_or]
  exact ⟨hs, hc, ht⟩

theorem unlines_append_empty {ls : List Text} (hne : ls ≠ []) :
    Text.unlines (ls ++ [[], []]) = Text.unlines ls ++ ['\n', '\n'] :=
  Text.unlines_append hne (List.cons_ne_nil [] [[]])

section Inert

variable {ls : List Text} (h : ∀ l ∈ ls, IsInert l)
include h

theorem isInert_append_empty : ∀ l ∈ ls ++ [[], []], IsInert l :=
  List.forall_mem_append.2 ⟨h, by simp [isInert_nil]⟩

theorem not_mem_unlines_of_inert {c : Char} (hc : c ∈ "\x02\x03\r\t\n<&\x7b".toList)
    (hline : c ≠ '\n') : c ∉ Text.unlines ls :=
  not_mem_unlines hline fun l hl => (h l hl).not_mem hc

theorem lines_unlines_of_inert (hne : ls ≠ []) : Text.lines (Text.unlines ls) = ls :=
  Text.lines_unlines hne fun l hl => (h l hl).not_mem (by decide)

theorem sourceLines_of_inert (hne : ls ≠ []) : sourceLines (Text.unlines ls) = ls ++ [[], []] := by
  have hfilter : (Text.unlines ls).filter (fun c => c ≠ Stash.opening ∧ c ≠ Stash.closing) =
      Text.unlines ls := by
    refine List.filter_eq_self.2 fun c hc => decide_eq_true ⟨?_, ?_⟩
    · rintro rfl
      exact not_mem_unlines_of_inert h (by decide) (by decide) hc
    · rintro rfl
      exact not_mem_unlines_of_inert h (by decide) (by decide) hc
  have hmore := isInert_append_empty h
  rw [sourceLines, hfilter,
    unifyLineEnds_of_not_mem (not_mem_unlines_of_inert h (by decide) (by decide)),
    ← unlines_append_empty hne,
    expandTabs_of_not_mem (not_mem_unlines_of_inert hmore (by decide) (by decide)),
    lines_unlines_of_inert hmore (by simp), emptyBlankLines_of_inert hmore]

/-! ## What is put aside -/

theorem stashFences_of_inert (st : Stash) : stashFences ls st = (ls, st) := by
  rw [stashFences]
  induction ls with
  | nil => rfl
  | cons l ls ih =>
    rw [List.forall_mem_cons] at h
    have hread : Fence.read? l ls = none := by
      rw [Fence.read?, h.1.ofLine?]
      rfl
    rw [List.length_cons, stashFencesFrom, hread]
    dsimp only
    rw [ih h.2]

theorem record_of_inert (st : Stash) : Toc.record ls st = ⟨ls, [], st⟩ := by
  rw [Toc.record]
  generalize 0 = k
  induction ls with
  | nil => rfl
  | cons l ls ih =>
    rw [List.forall_mem_cons] at h
    rw [Toc.recordFrom, if_neg (by rw [h.1.isPlaceholder]; exact Bool.false_ne_true), ih h.2]

end Inert

/-- Text without markup is kept. -/
theorem stashRawBlocks_of_not_mem {s : Text} (hopen : '<' ∉ s) (hand : '&' ∉ s) (st : Stash) :
    stashRawBlocks s st = (s, st) := by
  refine stashRawBlocks_of_behind ⟨fun p t hs => ?_, fun hnumber => ?_⟩ st
  · exact absurd (hs ▸ List.mem_append_right p List.mem_cons_self) hopen
  · exact hand (hnumber.subset List.mem_cons_self)

/-- A text of inert lines is read as blocks. -/
theorem parse_of_inert {s : Text} (h : ∀ l ∈ Text.lines s, IsInert l) (opts : Options) :
    parse opts s =
      let (root, definitions) :=
        (parseText opts.blocks (.ofTag "div") (s ++ ['\n', '\n'])).run {}
      (Footnotes.add opts.blocks root definitions).map fun (root, definitions) =>
        ⟨root, definitions, {}, []⟩ := by
  have hne : Text.lines s ≠ [] := Text.splitOn_ne_nil '\n' s
  have hmore := isInert_append_empty h
  have hraw := stashRawBlocks_of_not_mem (not_mem_unlines_of_inert hmore (by decide) (by decide))
    (not_mem_unlines_of_inert hmore (by decide) (by decide)) {}
  have hlines := sourceLines_of_inert h hne
  rw [Text.unlines_lines] at hlines
  rw [parse, hlines, stashFences_of_inert hmore]
  dsimp only
  rw [record_of_inert hmore, hraw, unlines_append_empty hne, Text.unlines_lines]
  rfl

/-! ## Blocks -/

theorem exists_intercalate_cons (l : Text) (b : List Text) (bs : List (List Text)) :
    ∃ ls, [[]].intercalate ((l :: b) :: bs) = l :: ls := by
  cases bs with
  | nil => exact ⟨b, List.intercalate_singleton⟩
  | cons b' bs => exact ⟨_, List.intercalate_cons_cons⟩

/-- The blocks of a text are the lines between empty lines. -/
theorem blocksOf_unlines {bs : List (List Text)} (hne : bs ≠ [])
    (h : ∀ b ∈ bs, b ≠ [] ∧ ∀ l ∈ b, l ≠ [] ∧ '\n' ∉ l) :
    blocksOf (Text.unlines ([[]].intercalate bs) ++ ['\n', '\n']) =
      bs.map Text.unlines ++ [[]] := by
  induction bs with
  | nil => exact absurd rfl hne
  | cons b bs ih =>
    rw [List.forall_mem_cons] at h
    cases bs with
    | nil =>
      rw [List.intercalate_singleton]
      exact Text.splitOnText_unlines h.1.1 h.1.2
        ((Text.splitOnText_append_self []).trans (congrArg ([] :: ·) Text.splitOnText_nil))
    | cons b' bs =>
      have hrest := ih (List.cons_ne_nil _ _) h.2
      obtain ⟨m, b', rfl⟩ := List.exists_cons_of_ne_nil (h.2 b' List.mem_cons_self).1
      obtain ⟨ms, hms⟩ := exists_intercalate_cons m b' bs
      have hlines : Text.unlines ([[]].intercalate (b :: (m :: b') :: bs)) =
          Text.unlines b ++ '\n' :: '\n' :: Text.unlines (m :: ms) := by
        rw [List.intercalate_cons_cons, hms, List.append_assoc, List.singleton_append,
          Text.unlines_append h.1.1 (List.cons_ne_nil _ _)]
        rfl
      rw [hlines, List.append_assoc]
      rw [hms] at hrest
      exact Text.splitOnText_unlines h.1.1 h.1.2
        ((Text.splitOnText_append_self _).trans (congrArg ([] :: ·) hrest))

end Markdown

end WikiText
