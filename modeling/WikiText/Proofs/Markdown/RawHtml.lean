import WikiText.Markdown.RawHtml
import WikiText.Proofs.Text.Pieces

/-!
# Markup that begins no line

A raw block begins within the first columns of a line.  Where every `<` stands further on, and no
reference by number has to be completed, the text stays as it is (`stashRawBlocks_of_behind`).
-/

namespace WikiText.Markdown

/-! ## What a construct takes -/

/-- A construct takes a character at least from the front of a text, and what is to be written of it
is what it takes. -/
def Construct.TakesFrom (s : Text) : Construct → Prop
  | .startTag t => t.rest <:+ s.tail
  | .endTag _ rest => rest <:+ s.tail
  | .piece written _ rest => s = written ++ rest ∧ written ≠ []
  | .data rest => rest <:+ s.tail

section Takes

variable {s : Text} {c : Construct}

theorem suffix_of_splitOnce? {p s before rest : Text}
    (h : Text.splitOnce? p s = some (before, rest)) : rest <:+ s :=
  ⟨before ++ p, (Text.eq_append_of_splitOnce? h).symm⟩

/-- A piece up to a proper suffix. -/
theorem takesFrom_piece {rest : Text} (hs : s ≠ []) (h : rest <:+ s.tail) (isBlock : Bool) :
    (Construct.piece (s.take (s.length - rest.length)) isBlock rest).TakesFrom s := by
  obtain ⟨d, t, rfl⟩ := List.exists_cons_of_ne_nil hs
  refine ⟨Text.eq_take_append_of_suffix (h.trans (List.suffix_cons d t)), fun hnil => ?_⟩
  have hlength : rest.length ≤ t.length := h.length_le
  rcases List.take_eq_nil_iff.1 hnil with hnil | hnil
  · rw [List.length_cons] at hnil
    omega
  · cases hnil

theorem takesFrom_endTag? (h : endTag? s = some c) : c.TakesFrom s := by
  rw [endTag?] at h
  split at h
  · cases h
  · next t ht =>
    have hs : s = '<' :: '/' :: t := Text.eq_append_of_strip? ht
    have htrim : Text.trimStart t <:+ s.tail := by
      rw [hs]
      exact (List.dropWhile_suffix _).trans (List.suffix_cons _ t)
    dsimp only at h
    split at h
    · split at h
      · obtain ⟨⟨before, rest⟩, hrest, rfl⟩ := Option.map_eq_some_iff.1 h
        exact (suffix_of_splitOnce? hrest).trans ((List.dropWhile_suffix _).trans htrim)
      · obtain ⟨⟨before, rest⟩, hrest, he⟩ := Option.map_eq_some_iff.1 h
        have hsuffix := (suffix_of_splitOnce? hrest).trans htrim
        dsimp only at he
        split at he
        · rw [← he]
          exact hsuffix
        · rw [← he]
          exact takesFrom_piece (hs ▸ List.cons_ne_nil _ _) hsuffix false
    · cases h

theorem takesFrom_stretch? {opening closing : String} (hopening : opening.toList ≠ [])
    (h : stretch? opening closing s = some c) : c.TakesFrom s := by
  simp only [stretch?, Option.bind_eq_bind, Option.bind_eq_some_iff, Prod.exists,
    Option.some.injEq] at h
  obtain ⟨t, ht, inside, rest, hrest, rfl⟩ := h
  refine ⟨?_, by simp [hopening]⟩
  rw [Text.eq_append_of_strip? ht, Text.eq_append_of_splitOnce? hrest]
  simp only [List.append_assoc]

theorem takesFrom_declaration? (h : declaration? s = some c) : c.TakesFrom s := by
  rcases Option.or_eq_some_iff.1 h with h | ⟨-, h⟩
  · exact takesFrom_stretch? (by decide) h
  rcases Option.or_eq_some_iff.1 h with h | ⟨-, h⟩
  · exact takesFrom_stretch? (by decide) h
  simp only [Option.bind_eq_bind, Option.bind_eq_some_iff, Prod.exists, Option.some.injEq] at h
  obtain ⟨t, ht, before, rest, hrest, rfl⟩ := h
  have hs : s = '<' :: '!' :: t := Text.eq_append_of_strip? ht
  refine takesFrom_piece (hs ▸ List.cons_ne_nil _ _) ?_ _
  rw [hs]
  exact (suffix_of_splitOnce? hrest).trans (List.suffix_cons _ t)

theorem takesFrom_construct (st : RawState) (s : Text) : (construct st s).TakesFrom s := by
  rw [construct]
  split
  · next t ht => exact StartTag.suffix_of_read? ht
  · dsimp only
    generalize hfound : Option.or (endTag? s) _ = found
    cases found with
    | none => exact List.suffix_rfl
    | some c =>
      rcases Option.or_eq_some_iff.1 hfound with h | ⟨-, h⟩
      · exact takesFrom_endTag? h
      rcases Option.or_eq_some_iff.1 h with h | ⟨-, h⟩
      · exact takesFrom_stretch? (by decide) h
      split at h
      · exact takesFrom_declaration? h
      · cases h

/-- What is to be written of a reference that is not by number is what it takes. -/
theorem eq_of_rawReference? {s written rest : Text} (hnumber : ¬ "&#".toList <+: s)
    (h : rawReference? s = some (written, rest)) : s = written ++ rest ∧ written ≠ [] := by
  unfold rawReference? at h
  split at h
  · next t => exact absurd ⟨t, rfl⟩ hnumber
  · next t _ =>
    dsimp only at h
    split at h
    · next c u rest' hname hrest =>
      split at h
      · cases h
        refine ⟨?_, List.cons_ne_nil _ _⟩
        rw [List.append_assoc, List.singleton_append, ← hrest, List.cons_append,
          List.prefix_iff_eq_append.1 (List.takeWhile_prefix _)]
      · cases h
    · cases h
  · cases h

end Takes

/-! ## Reading on -/

namespace RawState

variable {st : RawState} {stash : Stash} {s : Text}

section Keep

variable (hblock : st.inBlock = false) (htail : st.inTail = false)

include hblock htail in
theorem data_eq_keep (s : Text) : st.data s = st.keep s := by
  rw [data, htail, Bool.false_and, if_neg Bool.false_ne_true, hblock,
    if_neg Bool.false_ne_true]

include hblock in
theorem endTag_eq_keep (s tag rest : Text) : st.endTag s tag rest = st.keep s := by
  rw [endTag, hblock, if_neg Bool.false_ne_true]

include hblock htail

theorem piece_eq_keep {isBlock : Bool} (hline : (isBlock && st.atLineStart) = false)
    (s rest : Text) : st.piece s isBlock rest = st.keep s := by
  rw [piece, hblock, htail, hline]
  rfl

theorem startTag_eq_keep (hline : st.atLineStart = false) (s : Text) (t : StartTag) :
    st.startTag s t = st.keep s := by
  rw [startTag, piece_eq_keep hblock htail (by rw [hline, Bool.and_false]), htail, hline,
    Bool.or_false, Bool.and_false, Bool.false_and, if_neg Bool.false_ne_true]
  dsimp only
  rw [hblock, if_neg Bool.false_ne_true, ite_self]

end Keep

/-- The column and whether only blanks were read depend on no more than these. -/
theorem moveOver_congr {st st' : RawState} (hcolumn : st.column = st'.column)
    (hblanks : st.onlyBlanks = st'.onlyBlanks) (s : Text) :
    (st.moveOver s).column = (st'.moveOver s).column ∧
      (st.moveOver s).onlyBlanks = (st'.moveOver s).onlyBlanks := by
  rw [moveOver, moveOver]
  induction s generalizing st st' with
  | nil => exact ⟨hcolumn, hblanks⟩
  | cons c s ih =>
    rw [List.foldl_cons, List.foldl_cons]
    refine ih ?_ ?_
    · split
      · rfl
      · exact congrArg (· + 1) hcolumn
    · split
      · rfl
      · exact congrArg (· && Text.isBlank c) hblanks

theorem moveOver_keeps (st : RawState) (s : Text) :
    (st.moveOver s).kept = st.kept ∧ (st.moveOver s).block = st.block ∧
      (st.moveOver s).inBlock = st.inBlock ∧ (st.moveOver s).inTail = st.inTail ∧
      (st.moveOver s).stash = st.stash := by
  rw [moveOver]
  induction s generalizing st with
  | nil => exact ⟨rfl, rfl, rfl, rfl, rfl⟩
  | cons c s ih =>
    rw [List.foldl_cons]
    split
    · exact ih _
    · exact ih _

/-- The state in which the reading of a text begins. -/
def begun (stash : Stash) : RawState := { stash }

/-- A text has been read and kept, and no block is open. -/
structure HasKept (stash : Stash) (s : Text) (st : RawState) : Prop where
  kept : st.kept.reverse.flatten = s
  block : st.block = []
  inBlock : st.inBlock = false
  inTail : st.inTail = false
  stash : st.stash = stash
  column : st.column = ((begun {}).moveOver s).column
  onlyBlanks : st.onlyBlanks = ((begun {}).moveOver s).onlyBlanks

theorem hasKept_begun (stash : Stash) : (begun stash).HasKept stash [] :=
  ⟨rfl, rfl, rfl, rfl, rfl, rfl, rfl⟩

theorem HasKept.atLineStart (h : st.HasKept stash s) :
    st.atLineStart = ((begun {}).moveOver s).atLineStart := by
  rw [RawState.atLineStart, h.column, h.onlyBlanks, RawState.atLineStart]

theorem HasKept.keep (h : st.HasKept stash s) (t : Text) :
    ((st.keep t).moveOver t).HasKept stash (s ++ t) := by
  obtain ⟨hkept, hblock, hinBlock, hinTail, hstash⟩ := moveOver_keeps (st.keep t) t
  have happend : (begun {}).moveOver (s ++ t) = ((begun {}).moveOver s).moveOver t :=
    List.foldl_append
  have hplace : (st.keep t).column = _ ∧ (st.keep t).onlyBlanks = _ := ⟨h.column, h.onlyBlanks⟩
  obtain ⟨hcolumn, hblanks⟩ := moveOver_congr hplace.1 hplace.2 t
  refine ⟨?_, hblock.trans h.block, hinBlock.trans h.inBlock, hinTail.trans h.inTail,
    hstash.trans h.stash, happend ▸ hcolumn, happend ▸ hblanks⟩
  rw [hkept, RawState.keep, List.reverse_cons, List.flatten_append, h.kept, List.flatten_singleton]

end RawState

open RawState (begun)

/-- Every `<` of the text stands where no raw block can begin, and no reference by number begins in
the text. -/
structure IsBehind (s : Text) : Prop where
  opening : ∀ p t, s = p ++ '<' :: t → ((begun {}).moveOver p).atLineStart = false
  reference : ¬ "&#".toList <:+: s

/-- One step of the reading keeps what it takes. -/
def KeepsStep (fuel : Nat) (st : RawState) (s : Text) : Prop :=
  ∃ t rest, s = t ++ rest ∧ t ≠ [] ∧
    readRaw (fuel + 1) st s = readRaw fuel ((st.keep t).moveOver t) rest

section Step

variable {stash : Stash} {before : Text} {st : RawState} (h : st.HasKept stash before) {s : Text}
include h

/-- A construct that begins no raw block is kept. -/
theorem keepsStep_opening (hstart : st.atLineStart = false) (fuel : Nat) :
    KeepsStep fuel st ('<' :: s) := by
  have htaken : ∀ {rest : Text}, rest <:+ s →
      '<' :: s = ('<' :: s).take (('<' :: s).length - rest.length) ++ rest ∧
        ('<' :: s).take (('<' :: s).length - rest.length) ≠ [] := by
    intro rest hrest
    exact takesFrom_piece (List.cons_ne_nil '<' s) hrest false
  have htakes := takesFrom_construct st ('<' :: s)
  rw [KeepsStep, readRaw]
  dsimp only
  rw [if_pos rfl]
  split
  · next t heq =>
    rw [heq] at htakes
    obtain ⟨htext, hne⟩ := htaken htakes
    refine ⟨_, _, htext, hne, ?_⟩
    rw [RawState.startTag_eq_keep h.inBlock h.inTail hstart]
    have hblock : (st.keep (('<' :: s).take (('<' :: s).length - t.rest.length))).inBlock = false :=
      h.inBlock
    rw [hblock, Bool.and_false, Bool.false_and, if_neg Bool.false_ne_true]
  · next name rest heq =>
    rw [heq] at htakes
    obtain ⟨htext, hne⟩ := htaken htakes
    refine ⟨_, _, htext, hne, ?_⟩
    rw [RawState.endTag_eq_keep h.inBlock]
  · next written isBlock rest heq =>
    rw [heq] at htakes
    refine ⟨written, rest, htakes.1, htakes.2, ?_⟩
    rw [RawState.piece_eq_keep h.inBlock h.inTail (by rw [hstart, Bool.and_false]),
      Text.take_of_eq_append htakes.1]
  · next rest heq =>
    rw [heq] at htakes
    obtain ⟨htext, hne⟩ := htaken htakes
    refine ⟨_, _, htext, hne, ?_⟩
    rw [RawState.data_eq_keep h.inBlock h.inTail]

/-- A reference is kept, and so is an ampersand that begins none. -/
theorem keepsStep_amp (hnumber : ¬ "&#".toList <+: '&' :: s) (fuel : Nat) :
    KeepsStep fuel st ('&' :: s) := by
  rw [KeepsStep, readRaw]
  dsimp only
  rw [if_neg (by decide), if_pos rfl]
  split
  · next written rest hread =>
    obtain ⟨htext, hne⟩ := eq_of_rawReference? hnumber hread
    refine ⟨written, rest, htext, hne, ?_⟩
    rw [RawState.piece_eq_keep h.inBlock h.inTail rfl, Text.take_of_eq_append htext]
  · have htext : '&' :: s = ['&'] ++ s := rfl
    refine ⟨['&'], s, htext, List.cons_ne_nil _ _, ?_⟩
    rw [RawState.data_eq_keep h.inBlock h.inTail, Text.take_of_eq_append htext]

/-- Text is kept up to the next of these signs. -/
theorem keepsStep_text {c : Char} (hopening : c ≠ '<') (hamp : c ≠ '&') (fuel : Nat) :
    KeepsStep fuel st (c :: s) := by
  rw [KeepsStep, readRaw]
  dsimp only
  rw [if_neg hopening, if_neg hamp]
  have htext :=
    Text.eq_append_of_drop_takeWhile (f := fun c => c ≠ '<' && c ≠ '&') (s := c :: s) rfl
  refine ⟨_, _, htext, ?_, ?_⟩
  · rw [List.takeWhile_cons_of_pos (by simp [hopening, hamp])]
    exact List.cons_ne_nil _ _
  · rw [RawState.data_eq_keep h.inBlock h.inTail, Text.take_of_eq_append htext]

theorem keepsStep {c : Char} (hline : c = '<' → st.atLineStart = false)
    (hnumber : ¬ "&#".toList <+: c :: s) (fuel : Nat) : KeepsStep fuel st (c :: s) := by
  by_cases hopening : c = '<'
  · subst hopening
    exact keepsStep_opening h (hline rfl) fuel
  · by_cases hamp : c = '&'
    · subst hamp
      exact keepsStep_amp h hnumber fuel
    · exact keepsStep_text h hopening hamp fuel

end Step

/-- To its end a text is read and kept. -/
theorem readRaw_of_behind {stash : Stash} {s : Text} (hs : IsBehind s) {before rest : Text}
    {st : RawState} (h : st.HasKept stash before) (hbefore : s = before ++ rest) {fuel : Nat}
    (hfuel : rest.length ≤ fuel) : (readRaw fuel st rest).HasKept stash s := by
  induction fuel generalizing before rest st with
  | zero =>
    obtain rfl := List.length_eq_zero_iff.1 (Nat.le_zero.1 hfuel)
    rw [List.append_nil] at hbefore
    exact hbefore ▸ h
  | succ fuel ih =>
    cases rest with
    | nil =>
      rw [List.append_nil] at hbefore
      exact hbefore ▸ h
    | cons c u =>
      have hline : c = '<' → st.atLineStart = false := by
        rintro rfl
        rw [h.atLineStart]
        exact hs.opening before u hbefore
      have hnumber : ¬ "&#".toList <+: c :: u := fun hprefix =>
        hs.reference (hbefore ▸ hprefix.isInfix.trans (List.suffix_append before _).isInfix)
      obtain ⟨t, rest, htext, hne, hstep⟩ := keepsStep h hline hnumber fuel
      have hlength := congrArg List.length htext
      rw [List.length_append] at hlength
      have hpos := List.length_pos_iff.2 hne
      rw [hstep]
      refine ih (h.keep t) ?_ (by omega)
      rw [hbefore, htext, List.append_assoc]

/-- A text in which no raw block can begin stays as it is. -/
theorem stashRawBlocks_of_behind {s : Text} (h : IsBehind s) (stash : Stash) :
    stashRawBlocks s stash = (s, stash) := by
  have hread := readRaw_of_behind h (RawState.hasKept_begun stash) (List.nil_append s).symm
    (Nat.le_refl s.length)
  rw [stashRawBlocks]
  dsimp only
  rw [← begun, hread.block, hread.kept, hread.stash]
  rfl

end WikiText.Markdown
