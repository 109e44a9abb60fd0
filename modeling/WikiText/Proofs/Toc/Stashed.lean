import Mathlib.Data.List.Nodup
import WikiText.Proofs.Toc.Marker

/-!
# Placeholders put aside and brought back

Documents may be recorded one after another with one stash.  Right after its turn each comes back
with a table in place of each placeholder and everything else as it was (`RoundTrip`), and no marker
serves twice.  Main statement: `roundTrip_recordAll`.
-/

namespace WikiText.Toc

open Text (Piece Reader)

/-! ## Lines in place of placeholders -/

variable {α β : Type}

/-- The lines as `f` gives them, with those of `fs` in place of the placeholders, each between two
empty lines. -/
def setApart (f : Text → β) (fs : List β) : List Text → List β
  | [] => []
  | line :: doc =>
    if isPlaceholder line then f [] :: fs.headD (f []) :: f [] :: setApart f fs.tail doc
    else f line :: setApart f fs doc

theorem map_setApart {γ : Type} (g : β → γ) (f : Text → β) (fs : List β) (doc : List Text) :
    (setApart f fs doc).map g = setApart (g ∘ f) (fs.map g) doc := by
  induction doc generalizing fs with
  | nil => rfl
  | cons line doc ih =>
    rw [setApart, setApart]
    split
    · cases fs <;> simp only [List.map_cons, ih] <;> rfl
    · simp only [List.map_cons, ih, Function.comp_apply]

theorem forall₂_setApart {R : Text → β → Prop} {f : Text → β} {doc : List Text}
    (hf : ∀ line ∈ [] :: doc, R line (f line)) {ms : List Text} {fs : List β}
    (h : List.Forall₂ R ms fs) : List.Forall₂ R (setApart id ms doc) (setApart f fs doc) := by
  induction doc generalizing ms fs with
  | nil => exact .nil
  | cons line doc ih =>
    rw [List.forall_mem_cons, List.forall_mem_cons] at hf
    obtain ⟨hempty, hline, hdoc⟩ := hf
    have hrest := @ih (List.forall_mem_cons.2 ⟨hempty, hdoc⟩)
    rw [setApart, setApart]
    split
    · cases h with
      | nil => exact .cons hempty (.cons hempty (.cons hempty (hrest .nil)))
      | cons hm hms => exact .cons hempty (.cons hm (.cons hempty (hrest hms)))
    · exact .cons hline (hrest h)

/-- What is collected from the lines is collected from those set apart, if the others give
nothing. -/
theorem flatMap_setApart {γ : Type} {g : β → List γ} {f : Text → β} {doc : List Text}
    (hf : ∀ line ∈ [] :: doc, g (f line) = []) {fs : List β}
    (h : fs.length = doc.countP isPlaceholder) : (setApart f fs doc).flatMap g = fs.flatMap g := by
  induction doc generalizing fs with
  | nil => rw [List.length_eq_zero_iff.1 h]; rfl
  | cons line doc ih =>
    rw [List.forall_mem_cons, List.forall_mem_cons] at hf
    obtain ⟨hempty, hline, hdoc⟩ := hf
    have hrest := @ih (List.forall_mem_cons.2 ⟨hempty, hdoc⟩)
    rw [setApart]
    split
    · next hp =>
      cases fs with
      | nil => simp [hp] at h
      | cons a fs =>
        have hfs : fs.length = doc.countP isPlaceholder := by simpa [hp] using h
        simp [hempty, hrest hfs]
    · next hp => simp [hline, hrest (by simpa [hp] using h)]

/-- The lines with a table in place of each placeholder. -/
def withTables (src : Source) (doc : List Text) : List Text :=
  doc.flatMap fun line =>
    if isPlaceholder line then [[], (expandLine src line).1, []] else [line]

theorem setApart_expandLine (src : Source) (doc : List Text) :
    setApart id ((doc.filter isPlaceholder).map fun line => (expandLine src line).1) doc =
      withTables src doc := by
  induction doc with
  | nil => rfl
  | cons line doc ih =>
    rw [setApart, withTables, List.flatMap_cons, ← withTables, ← ih]
    split
    · next hline => rw [List.filter_cons_of_pos hline]; rfl
    · next hline => rw [List.filter_cons_of_neg hline]; rfl

/-! ## Recording -/

theorem recordFrom_eq (k : Nat) (st : Stash) (doc : List Text) :
    recordFrom k st doc =
      ⟨setApart id
          ((List.range' st.blocks.length (doc.countP isPlaceholder)).map Stash.marker) doc,
        doc.filter isPlaceholder,
        ⟨st.blocks ++ (List.range' k (doc.countP isPlaceholder)).map token⟩⟩ := by
  induction doc generalizing k st with
  | nil => simp [recordFrom, setApart]
  | cons line doc ih =>
    rw [recordFrom]
    split
    · next hline =>
      simp only [ih, Stash.store, setApart, hline, List.countP_cons_of_pos, List.filter_cons_of_pos,
        List.range'_succ, List.length_append, List.length_singleton, List.append_assoc]
      rfl
    · next hline =>
      rw [ih, List.countP_cons_of_neg hline, List.filter_cons_of_neg hline]
      simp only [setApart, if_neg hline, id]

/-- What is recorded of documents that come one after another. -/
def recordAll (st : Stash) : List (List Text) → List Recorded
  | [] => []
  | doc :: docs => record doc st :: recordAll (record doc st).stash docs

/-- The markers among the lines. -/
def Recorded.markers (r : Recorded) : List Text := r.lines.filter (·.elem Stash.opening)

/-- The lines hold no marker. -/
def Unmarked (doc : List Text) : Prop := ∀ line ∈ doc, Stash.opening ∉ line

instance (doc : List Text) : Decidable (Unmarked doc) :=
  inferInstanceAs (Decidable (∀ line ∈ doc, Stash.opening ∉ line))

theorem Unmarked.nil_cons {doc : List Text} (h : Unmarked doc) : Unmarked ([] :: doc) :=
  List.forall_mem_cons.2 ⟨List.not_mem_nil, h⟩

theorem filter_setApart {doc : List Text} (hdoc : Unmarked doc) {ms : List Text}
    (hms : ∀ m ∈ ms, Stash.opening ∈ m) (hlength : ms.length = doc.countP isPlaceholder) :
    (setApart id ms doc).filter (·.elem Stash.opening) = ms := by
  have hplain : ∀ line ∈ [] :: doc,
      (Option.guard (·.elem Stash.opening) (id line : Text)).toList = [] := by
    intro line hline
    simp [Option.guard, hdoc.nil_cons line hline]
  rw [← List.filterMap_eq_filter, List.filterMap_eq_flatMap_toList,
    flatMap_setApart (f := id) hplain hlength, ← List.filterMap_eq_flatMap_toList,
    List.filterMap_eq_filter]
  exact List.filter_eq_self.2 fun m hm => List.elem_iff.2 (hms m hm)

theorem markers_record (st : Stash) {doc : List Text} (hdoc : Unmarked doc) :
    (record doc st).markers =
      (List.range' st.blocks.length (doc.countP isPlaceholder)).map Stash.marker := by
  rw [Recorded.markers, record, recordFrom_eq]
  refine filter_setApart hdoc ?_ (by simp)
  intro m hm
  obtain ⟨k, -, rfl⟩ := List.mem_map.1 hm
  exact List.mem_cons_self

/-- Markers are given in order, one for each placeholder. -/
theorem markers_recordAll (st : Stash) {docs : List (List Text)}
    (hdocs : ∀ doc ∈ docs, Unmarked doc) :
    (recordAll st docs).flatMap Recorded.markers =
      (List.range' st.blocks.length (docs.flatten.countP isPlaceholder)).map Stash.marker := by
  induction docs generalizing st with
  | nil => rfl
  | cons doc docs ih =>
    rw [List.forall_mem_cons] at hdocs
    have hblocks : (record doc st).stash.blocks.length =
        st.blocks.length + doc.countP isPlaceholder := by
      rw [record, recordFrom_eq]
      simp
    rw [recordAll, List.flatMap_cons, markers_record st hdocs.1, ih _ hdocs.2, hblocks,
      List.flatten_cons, List.countP_append, ← List.range'_append_1, List.map_append]

theorem nodup_markers_recordAll (st : Stash) {docs : List (List Text)}
    (hdocs : ∀ doc ∈ docs, Unmarked doc) :
    ((recordAll st docs).flatMap Recorded.markers).Nodup := by
  rw [markers_recordAll st hdocs]
  exact List.Nodup.map (fun _ _ => Stash.marker_inj) List.nodup_range'

/-! ## Bringing back -/

section

variable {α : Type} {r : Reader α}

theorem forall₂_onLine {m : Nat → Text} {a : Nat → α} (h : ∀ k, r.OnLine (m k) [.part (a k)])
    (ks : List Nat) : List.Forall₂ (fun m a => r.OnLine m [.part a]) (ks.map m) (ks.map a) :=
  List.forall₂_map_left_iff.2 (List.forall₂_map_right_iff.2 (List.forall₂_same.2 fun k _ => h k))

/-- The pieces of lines in which each line set apart is one part, and no other line has any. -/
theorem pieces_setApart (hr : r.NeedsOnLine Stash.opening) {doc : List Text} (hdoc : Unmarked doc)
    {ms : List Text} {as : List α} (h : List.Forall₂ (fun m a => r.OnLine m [.part a]) ms as) :
    r.pieces true (Text.unlines (setApart id ms doc)) =
      [Piece.char '\n'].intercalate (setApart (List.map .char) (as.map ([.part ·])) doc) := by
  refine (hr.stopsAtLineEnd (by decide)).pieces_unlines (forall₂_setApart (fun line hline => ?_) ?_)
  · exact hr.onLine (by decide) (hdoc.nil_cons line hline)
  · exact List.forall₂_map_right_iff.2 h

theorem fill_setApart (hr : r.NeedsOnLine Stash.opening) {doc : List Text} (hdoc : Unmarked doc)
    {ms : List Text} {as : List α} (h : List.Forall₂ (fun m a => r.OnLine m [.part a]) ms as)
    (g : α → Text) :
    Piece.fill g (r.pieces true (Text.unlines (setApart id ms doc))) =
      Text.unlines (setApart id (as.map g) doc) := by
  have hplain : Piece.fill g ∘ List.map .char = id := funext (Piece.fill_map_char g)
  rw [pieces_setApart hr hdoc h, Piece.fill_intercalate, map_setApart, hplain, List.map_map]
  simp [Function.comp_def]

theorem parts_setApart (hr : r.NeedsOnLine Stash.opening) {doc : List Text} (hdoc : Unmarked doc)
    {ms : List Text} {as : List α} (h : List.Forall₂ (fun m a => r.OnLine m [.part a]) ms as)
    (hlength : as.length = doc.countP isPlaceholder) :
    Piece.parts (r.pieces true (Text.unlines (setApart id ms doc))) = as := by
  rw [pieces_setApart hr hdoc h, Piece.parts_intercalate,
    flatMap_setApart (fun line _ => Piece.parts_map_char line) (by rwa [List.length_map])]
  simp [List.flatMap_map]

end

/-- The numbers of the entries behind `bs`, each taken for what the entry under it is taken for. -/
theorem map_range'_append {γ δ : Type} (bs ts : List γ) {g : Nat → δ} {f : γ → δ}
    (h : ∀ k, ∀ t ∈ ts, (bs ++ ts)[k]? = some t → g k = f t) :
    (List.range' bs.length ts.length).map g = ts.map f := by
  refine List.ext_getElem (by simp) fun i hi hi' => ?_
  rw [List.length_map] at hi'
  rw [List.getElem_map, List.getElem_map, List.getElem_range', Nat.one_mul]
  refine h _ _ (List.getElem_mem hi') ?_
  rw [List.getElem?_append_right (Nat.le_add_right _ _), Nat.add_sub_cancel_left,
    List.getElem?_eq_getElem hi']

/-- The tokens of the placeholders of a document. -/
def tokens (doc : List Text) : List Text := (List.range' 0 (doc.countP isPlaceholder)).map token

@[simp] theorem length_tokens (doc : List Text) :
    (tokens doc).length = doc.countP isPlaceholder := by
  simp [tokens]

theorem record_eq (doc : List Text) (st : Stash) :
    record doc st =
      ⟨setApart id ((List.range' st.blocks.length (tokens doc).length).map Stash.marker) doc,
        doc.filter isPlaceholder, ⟨st.blocks ++ tokens doc⟩⟩ := by
  rw [record, recordFrom_eq, length_tokens, tokens]

theorem replaceMarkers_record (st : Stash) {doc : List Text} (hdoc : Unmarked doc) :
    Markdown.replaceMarkers (record doc st).stash (Text.unlines (record doc st).lines) =
      Text.unlines (setApart id (tokens doc) doc) := by
  rw [record_eq, Markdown.replaceMarkers,
    fill_setApart Markdown.needsOnLine_markerReader hdoc
      (List.forall₂_map_left_iff.2 (List.forall₂_same.2 fun k _ => Markdown.onLine_markerReader k)),
    map_range'_append (f := id) st.blocks (tokens doc) (fun k t _ h => by rw [h]; rfl), List.map_id]

/-- No block comes back inside a token. -/
theorem restoreTo_token (st : Stash) (depth k : Nat) :
    Markdown.restoreTo st depth (token k) = token k := by
  have hskip : Markdown.FoundMarker.reader.Skips true (token k) [] := by
    refine ⟨rfl, Markdown.FoundMarker.needsOnLine_reader.skips (by decide) ?_ (.inl rfl) _⟩
    have hdigits : Stash.opening ∉ Text.ofNat k := fun h =>
      absurd (List.all_eq_true.1 (Text.all_isAsciiDigit_ofNat k) _ h) (by decide)
    simpa [Stash.opening, Stash.closing] using hdigits
  exact Markdown.restoreTo_of_skips st depth hskip

/-- The renderer restores the lines as if each marker stood for the block stored under it alone. -/
theorem restoreBlocks_record (st : Stash) {doc : List Text} (hdoc : Unmarked doc) :
    Markdown.restoreBlocks (record doc st).stash (Text.unlines (record doc st).lines) =
      Text.unlines (setApart id (tokens doc) doc) := by
  have hfound : List.Forall₂ (fun m a => Markdown.FoundMarker.reader.OnLine m [.part a])
      ((List.range' st.blocks.length (tokens doc).length).map Stash.marker)
      ((List.range' st.blocks.length (tokens doc).length).map fun k =>
        ⟨false, k, Stash.marker k⟩) :=
    forall₂_onLine Markdown.FoundMarker.onLine_reader _
  rw [record_eq, Markdown.restoreBlocks, Markdown.restoreTo,
    fill_setApart Markdown.FoundMarker.needsOnLine_reader hdoc hfound, List.map_map,
    map_range'_append (f := id) st.blocks (tokens doc), List.map_id]
  intro k t ht h
  obtain ⟨i, -, rfl⟩ := List.mem_map.1 ht
  rw [Function.comp_apply, h]
  exact restoreTo_token _ _ i

/-- The tokens of the placeholders of a document, as they are found. -/
def foundTokens (doc : List Text) : List Found :=
  (List.range' 0 (doc.countP isPlaceholder)).map fun k => ⟨k, token k⟩

theorem forall₂_foundTokens (doc : List Text) :
    List.Forall₂ (fun m a => Found.reader.OnLine m [.part a]) (tokens doc) (foundTokens doc) :=
  forall₂_onLine Found.onLine_reader _

theorem map_table_foundTokens (src : Source) (doc : List Text) :
    (foundTokens doc).map (·.table src (doc.filter isPlaceholder)) =
      (doc.filter isPlaceholder).map (expandLine src) := by
  rw [foundTokens, List.map_map, List.countP_eq_length_filter]
  refine map_range'_append [] _ fun k line _ h => ?_
  rw [List.nil_append] at h
  rw [Function.comp_apply, Found.table, h]

theorem restore_tokens (src : Source) {doc : List Text} (hdoc : Unmarked doc) :
    restore src (doc.filter isPlaceholder) (Text.unlines (setApart id (tokens doc) doc)) =
      (Text.unlines (withTables src doc),
        (doc.filter isPlaceholder).flatMap fun line => (expandLine src line).2) := by
  have htables := congrArg (List.map Prod.fst) (map_table_foundTokens src doc)
  have hreports := congrArg (List.flatMap Prod.snd) (map_table_foundTokens src doc)
  rw [List.map_map, List.map_map] at htables
  rw [List.flatMap_map, List.flatMap_map] at hreports
  rw [restore, fill_setApart Found.needsOnLine_reader hdoc (forall₂_foundTokens doc),
    parts_setApart Found.needsOnLine_reader hdoc (forall₂_foundTokens doc) (by simp [foundTokens]),
    ← setApart_expandLine]
  exact Prod.ext (congrArg (fun fs => Text.unlines (setApart id fs doc)) htables) hreports

/-! ## Round trip -/

/-- What holds of a document and of what is recorded of it, when its turn is over. -/
structure RoundTrip (src : Source) (doc : List Text) (r : Recorded) : Prop where
  /-- The placeholders are those of the document, in order. -/
  placeholders : r.placeholders = doc.filter isPlaceholder
  /-- There is one marker for each. -/
  markers : r.markers.length = r.placeholders.length
  /-- With every marker replaced by the block stored under it, the tokens give way to the tables of
  the placeholders.  The reports are those of the placeholders, in order. -/
  restored : restore src r.placeholders
      (Markdown.replaceMarkers r.stash (Text.unlines r.lines)) =
    (Text.unlines (withTables src doc),
      (doc.filter isPlaceholder).flatMap fun line => (expandLine src line).2)
  /-- The renderer replaces the markers in this way. -/
  renderer : Markdown.restoreBlocks r.stash (Text.unlines r.lines) =
    Markdown.replaceMarkers r.stash (Text.unlines r.lines)

theorem roundTrip_record (src : Source) (st : Stash) {doc : List Text} (hdoc : Unmarked doc) :
    RoundTrip src doc (record doc st) where
  placeholders := by rw [record_eq]
  markers := by
    rw [markers_record st hdoc, List.length_map, List.length_range', record_eq,
      List.countP_eq_length_filter]
  restored := by
    rw [replaceMarkers_record st hdoc, record_eq]
    exact restore_tokens src hdoc
  renderer := by rw [restoreBlocks_record st hdoc, replaceMarkers_record st hdoc]

/-- Documents without markers, recorded one after another with one stash. -/
theorem roundTrip_recordAll (src : Source) (st : Stash) (docs : List (List Text))
    (hdocs : ∀ doc ∈ docs, Unmarked doc) :
    ((recordAll st docs).flatMap Recorded.markers).Nodup ∧
      List.Forall₂ (RoundTrip src) docs (recordAll st docs) := by
  refine ⟨nodup_markers_recordAll st hdocs, ?_⟩
  induction docs generalizing st with
  | nil => exact .nil
  | cons doc docs ih =>
    rw [List.forall_mem_cons] at hdocs
    exact .cons (roundTrip_record src st hdocs.1) (ih _ hdocs.2)

/-- Two documents with a placeholder each, after a block was put aside. -/
theorem roundTrip_recordAll_two :
    let st : Stash := ⟨["<hr>".toList]⟩
    let docs : List (List Text) :=
      [["a".toList, "\x7btoc\x7d".toList, "b".toList], ["\x7b>toc\x7d".toList]]
    let src : Source := ⟨[], "toc".toList⟩
    (∀ doc ∈ docs, Unmarked doc) ∧
      (recordAll st docs).flatMap Recorded.markers = [Stash.marker 1, Stash.marker 2] ∧
      ((recordAll st docs).flatMap Recorded.markers).Nodup ∧
      List.Forall₂ (RoundTrip src) docs (recordAll st docs) :=
  ⟨by decide, by decide, roundTrip_recordAll _ _ _ (by decide)⟩

end WikiText.Toc
