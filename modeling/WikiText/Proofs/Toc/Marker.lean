import WikiText.Markdown.Finish
import WikiText.Proofs.Text.Pieces
import WikiText.Toc.Token

/-!
# Markers and tokens read back

A marker, and a token on a line of its own, is read back as it was written.  Lines without
`Stash.opening` hold neither.  Where nothing was put aside, markers and tokens stay.
-/

namespace WikiText

open Text (IsLineEnd Reader)

/-! ## Markers -/

namespace Markdown

/-- Finds markers wherever they stand. -/
def markerReader : Reader Nat where
  read? _ := stashMarker?
  length_lt := length_lt_of_stashMarker?

/-- The text with the block stored under it in place of each marker. -/
def replaceMarkers (stash : Stash) (s : Text) : Text :=
  Text.Piece.fill (fun k => stash.blocks[k]?.getD (Stash.marker k)) (markerReader.pieces true s)

theorem stashMarker?_marker (k : Nat) (e : Text) :
    stashMarker? (Stash.marker k ++ e) = some (k, e) := by
  have hdigits : (Text.ofNat k ++ Stash.closing :: e).takeWhile Text.isAsciiDigit = Text.ofNat k :=
    Text.takeWhile_append_cons (Text.all_isAsciiDigit_ofNat k) (by decide) e
  have hmarker : Stash.marker k ++ e =
      (Stash.opening :: "wzxhzdk:".toList) ++ (Text.ofNat k ++ Stash.closing :: e) := by
    simp only [Stash.marker, List.append_assoc, List.singleton_append]
  rw [stashMarker?, hmarker, Text.strip?_append]
  simp only [Option.bind_eq_bind, Option.bind_some, hdigits, List.drop_left,
    Text.natOfDigits_ofNat]
  cases h : Text.ofNat k with
  | nil => exact absurd h (Text.ofNat_ne_nil k)
  | cons c ds => rfl

theorem paragraphMarker?_marker (k : Nat) (e : Text) :
    paragraphMarker? (Stash.marker k ++ e) = none := rfl

theorem needsOnLine_markerReader : markerReader.NeedsOnLine Stash.opening := by
  intro b s k rest h
  obtain ⟨digits, rfl⟩ := exists_of_stashMarker? h
  exact ⟨[], _, by simp, rfl⟩

theorem onLine_markerReader (k : Nat) : markerReader.OnLine (Stash.marker k) [.part k] :=
  Text.Reader.onLine_of_read? fun e _ => stashMarker?_marker k e

theorem FoundMarker.needsOnLine_reader : reader.NeedsOnLine Stash.opening := by
  intro b s m rest h
  simp only [reader, Option.map_eq_some_iff, Option.or_eq_some_iff, Prod.exists] at h
  obtain ⟨_, _, _, ⟨k, r, hp, -⟩ | ⟨-, k, r, hm, -⟩, -⟩ := h
  · obtain ⟨t, rfl, hm⟩ := exists_of_paragraphMarker? hp
    obtain ⟨digits, rfl⟩ := exists_of_stashMarker? hm
    exact ⟨"<p>".toList, _, by decide, rfl⟩
  · obtain ⟨digits, rfl⟩ := exists_of_stashMarker? hm
    exact ⟨[], _, by simp, rfl⟩

theorem FoundMarker.onLine_reader (k : Nat) :
    reader.OnLine (Stash.marker k) [.part ⟨false, k, Stash.marker k⟩] := by
  refine Text.Reader.onLine_of_read? fun e _ => ?_
  simp only [reader, stashMarker?_marker, paragraphMarker?_marker, Option.map_none, Option.none_or,
    Option.map_some, List.length_append, Nat.add_sub_cancel, List.take_left]

theorem suffix_of_stashMarker? {s rest : Text} {k : Nat} (h : stashMarker? s = some (k, rest)) :
    rest <:+ s := by
  obtain ⟨digits, rfl⟩ := exists_of_stashMarker? h
  exact ((List.suffix_cons _ _).trans (List.suffix_append _ _)).trans (List.suffix_append _ _)

theorem suffix_of_paragraphMarker? {s rest : Text} {k : Nat}
    (h : paragraphMarker? s = some (k, rest)) : rest <:+ s := by
  obtain ⟨t, rfl, hmarker⟩ := exists_of_paragraphMarker? h
  exact ((List.suffix_append _ _).trans (suffix_of_stashMarker? hmarker)).trans
    (List.suffix_append _ t)

theorem FoundMarker.eq_append_of_reader {b : Bool} {s rest : Text} {m : FoundMarker}
    (h : reader.read? b s = some (m, rest)) : s = m.written ++ rest := by
  simp only [reader, Option.map_eq_some_iff, Option.or_eq_some_iff, Prod.exists,
    Prod.mk.injEq] at h
  obtain ⟨_, _, _, ⟨k, r, hp, -, rfl, rfl⟩ | ⟨-, k, r, hm, -, rfl, rfl⟩, rfl, rfl⟩ := h
  · exact Text.eq_take_append_of_suffix (suffix_of_paragraphMarker? hp)
  · exact Text.eq_take_append_of_suffix (suffix_of_stashMarker? hm)

/-- In a text without markers no block comes back. -/
theorem restoreTo_of_skips (stash : Stash) (depth : Nat) {s : Text}
    (h : FoundMarker.reader.Skips true s []) : restoreTo stash depth s = s := by
  cases depth with
  | zero => rfl
  | succ depth =>
    have hpieces := h.pieces
    rw [List.append_nil, Reader.pieces_nil, List.append_nil] at hpieces
    rw [restoreTo, hpieces, Text.Piece.fill_map_char]

/-- Where no block was put aside, none comes back. -/
theorem restoreBlocks_of_nil {stash : Stash} (h : stash.blocks = []) (s : Text) :
    restoreBlocks stash s = s := by
  rw [restoreBlocks, h, List.length_nil, restoreTo]
  simp only [h, List.getElem?_nil]
  exact Text.Reader.fill_pieces (fun _ _ _ _ => FoundMarker.eq_append_of_reader) true s

end Markdown

/-! ## Tokens -/

namespace Toc

theorem token?_token (k : Nat) (e : Text) : token? (token k ++ e) = some (k, e) := by
  have hdigits : (Text.ofNat k ++ Stash.closing :: e).takeWhile Text.isDigit = Text.ofNat k :=
    Text.takeWhile_append_cons (Text.all_isDigit_ofNat k) (by decide) e
  have htoken : token k ++ e = tokenOpening ++ (Text.ofNat k ++ Stash.closing :: e) := by
    simp only [token, List.append_assoc, List.singleton_append]
  rw [token?, htoken, Text.strip?_append]
  simp only [Option.bind_eq_bind, Option.bind_some, hdigits, List.drop_left, Text.nat?_ofNat,
    if_true]

theorem Found.onLine_reader (k : Nat) : reader.OnLine (token k) [.part ⟨k, token k⟩] := by
  refine Text.Reader.onLine_of_read? fun e he => ?_
  have hbefore : Text.stripOptional "<p>".toList (token k ++ e) = token k ++ e :=
    Text.stripOptional_of_strip?_eq_none rfl
  have hafter : Text.stripOptional "</p>".toList e = e := by
    refine Text.stripOptional_of_strip?_eq_none ?_
    rcases he with rfl | ⟨s, rfl⟩ <;> rfl
  simp only [reader, found?, hbefore, token?_token, Option.map_some, hafter, List.length_append,
    Nat.add_sub_cancel, List.take_left]

theorem Found.needsOnLine_reader : reader.NeedsOnLine Stash.opening := by
  intro b s f rest h
  simp only [reader, found?, Option.map_eq_some_iff, Prod.exists] at h
  obtain ⟨k, r, hk, -⟩ := h
  obtain ⟨digits, hopen⟩ := exists_of_token? hk
  rcases Text.eq_append_or_eq_stripOptional "<p>".toList s with hs | hs
  · exact ⟨"<p>".toList, _, by decide, by rw [hs, hopen]; rfl⟩
  · exact ⟨[], _, by simp, by rw [hs, hopen]; rfl⟩

theorem suffix_of_token? {s rest : Text} {k : Nat} (h : token? s = some (k, rest)) :
    rest <:+ s := by
  obtain ⟨digits, rfl⟩ := exists_of_token? h
  exact ((List.suffix_cons _ _).trans (List.suffix_append _ _)).trans (List.suffix_append _ _)

theorem Found.eq_append_of_reader {b : Bool} {s rest : Text} {f : Found}
    (h : reader.read? b s = some (f, rest)) : s = f.written ++ rest := by
  simp only [reader, found?, Option.map_eq_some_iff, Prod.exists, Prod.mk.injEq] at h
  obtain ⟨k, r, hk, rfl, rfl⟩ := h
  exact Text.eq_take_append_of_suffix (((Text.stripOptional_suffix _ r).trans
    (suffix_of_token? hk)).trans (Text.stripOptional_suffix _ s))

/-- Where no placeholder was put aside, the text stays, and nothing is reported. -/
theorem restore_nil (src : Source) (s : Text) : restore src [] s = (s, []) := by
  have htable : ∀ f : Found, f.table src [] = (f.written, []) := fun _ => rfl
  simp only [restore, htable]
  rw [Text.Reader.fill_pieces (fun _ _ _ _ => Found.eq_append_of_reader) true s,
    List.flatMap_eq_nil_iff.2 fun _ _ => rfl]

end Toc

end WikiText
