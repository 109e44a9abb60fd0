import WikiText.Proofs.Prose.Blocks
import WikiText.Proofs.Text.Lower

/-!
# Footnotes of plain words

The list of footnotes is an element in which there is nothing to be found (`IsDone`), so that
reading it reports nothing.  With it behind its paragraph a document is parsed
(`Passage.parse_text`), and what links refer to in the state after it is what the document defines
(`Document.reported_renderState`).
-/

namespace WikiText.Prose

open Html (Element)
open Markdown
open Text (IsLetter)

/-! ## Elements that are done -/

/-- A text in which nothing is found, and that is written without a brace. -/
structure IsCalm (s : Text) : Prop where
  settled : IsSettled s
  quiet : Quiet s
  bracket : '[' ∉ s
  unmarked : Node.Unmarked s

instance (s : Text) : Decidable (IsCalm s) :=
  decidable_of_iff (IsSettled s ∧ Quiet s ∧ '[' ∉ s ∧ Node.Unmarked s)
    ⟨fun h => ⟨h.1, h.2.1, h.2.2.1, h.2.2.2⟩, fun h => ⟨h.1, h.2, h.3, h.4⟩⟩

/-- Every element is settled, and there is nothing to be found in it. -/
structure IsDone (e : Element) : Prop where
  settled : AllSettled e
  still : e.Every IsStill

section IsDone

variable {e : Element}

theorem isDone_ofTag {tag : String} (hbrace : '\x7b' ∉ tag.toList)
    (hlevel : headingLevel? (.ofTag tag) = none)
    (hcode : (Element.ofTag tag).hasTag "pre" = false) :
    IsDone (.ofTag tag) where
  settled := allSettled_ofTag hbrace hlevel hcode
  still := by
    have hnil : IsCalm [] := by decide
    exact Element.every_iff.2 ⟨⟨.inr ⟨hnil.quiet, hnil.bracket, hnil.unmarked⟩, rfl⟩,
      fun _ h => absurd h List.not_mem_nil⟩

theorem IsDone.withText (h : IsDone e) {s : Text} (hs : IsCalm s) : IsDone (e.withText s) where
  settled := h.settled.withData hs.settled
  still := by
    have hstill := Element.every_iff.1 h.still
    cases e
    exact Element.every_iff.2 ⟨⟨.inr ⟨hs.quiet, hs.bracket, hs.unmarked⟩, hstill.1.2⟩, hstill.2⟩

theorem IsDone.withChildren (h : IsDone e) {children : List Element}
    (hchildren : ∀ c ∈ children, IsDone c) : IsDone (e.withChildren children) where
  settled := h.settled.withChildren fun c hc => (hchildren c hc).settled
  still := by
    have hstill := Element.every_iff.1 h.still
    cases e
    exact Element.every_iff.2 ⟨hstill.1, fun c hc => (hchildren c hc).still⟩

theorem IsDone.push (h : IsDone e) {child : Element} (hchild : IsDone child) :
    IsDone (e.push child) := by
  have hchildren : ∀ c ∈ e.children, IsDone c := fun c hc =>
    ⟨(Element.every_iff.1 h.settled).2 c hc, (Element.every_iff.1 h.still).2 c hc⟩
  exact h.withChildren (List.forall_mem_append.2 ⟨hchildren, by simpa using hchild⟩)

theorem IsDone.set (h : IsDone e) {name : String} {value : Text} (hname : '\x7b' ∉ name.toList)
    (hvalue : IsSettled value) : IsDone (e.set name value) where
  settled := h.settled.set hname hvalue
  still := by
    have hstill := Element.every_iff.1 h.still
    cases e
    exact Element.every_iff.2 hstill

end IsDone

/-! ## The list -/

theorem isDone_backlink {id : Text} (hid : Text.IsPlain id) (n : Nat) :
    IsDone (Footnotes.backlink id n) := by
  have hhref : IsSettled ('#' :: Anchor.footnoteReferenceId id) :=
    (IsBare.append (s := "#footnote-ref:".toList) ⟨by decide, by decide⟩
      (isBare_of_plain hid)).isSettled
  exact ((((isDone_ofTag (by decide) (by decide) (by decide)).set (by decide) (by decide)).set
    (by decide) hhref).set (by decide) (isSettled_backlinkTitle n)).withText (by decide)

theorem not_mem_body {ws : List Text} (h : ∀ w ∈ ws, Text.IsPlain w) {c : Char}
    (hletter : ¬ IsLetter c) (hspace : c ≠ ' ') : c ∉ Definition.body ws := by
  have hchars : ∀ c ∈ Definition.body ws, IsLetter c ∨ c = ' ' := by
    refine forall_mem_line (.inr rfl) fun t ht c hc => ?_
    obtain ⟨w, hw, rfl⟩ := List.mem_map.1 ht
    exact .inl ((h w hw).letters c hc)
  exact fun hmem => (hchars c hmem).elim hletter hspace

theorem isCalm_body {ws : List Text} (h : ∀ w ∈ ws, Text.IsPlain w) :
    IsCalm (Definition.body ws ++ Footnotes.spaceMark) := by
  have hnot : ∀ d, ¬ IsLetter d → d ≠ ' ' → d ∉ Definition.body ws := fun _ => not_mem_body h
  refine ⟨?_, ?_, ?_, ?_⟩
  · exact isSettled_append (hnot _ (by decide) (by decide)) (hnot _ (by decide) (by decide))
      (by decide)
  · refine List.forall_mem_append.2 ⟨fun c hc hmem => ?_, by decide⟩
    have htrigger : ∀ d ∈ triggers, ¬ IsLetter d ∧ d ≠ ' ' := by decide
    exact hnot c (htrigger c hmem).1 (htrigger c hmem).2 hc
  · exact fun hmem => (List.mem_append.1 hmem).elim (hnot _ (by decide) (by decide)) (by decide)
  · exact Text.nowhere_append Node.marker?_of_ne (hnot _ (by decide) (by decide)) (by decide)

/-- The text of a footnote is a paragraph, and defines nothing. -/
theorem parseText_body {ws : List Text} (hne : ws ≠ []) (h : ∀ w ∈ ws, Text.IsPlain w)
    (opts : BlockOptions) (defs : Definitions) :
    (parseText opts (.ofTag "div") (Definition.body ws)).run defs =
      ((Element.ofTag "div").push ((Element.ofTag "p").withText (Definition.body ws)), defs) := by
  have hprose := Definition.isProseLine_body hne h
  have hblocks : blocksOf (Definition.body ws) = [Definition.body ws] :=
    Text.splitOnText_of_not_mem (hprose.isLine.not_mem (by decide))
  have hcolon := colon_not_mem_line (Definition.isPlain_words h)
  rw [parseText, hblocks, parseBlocks_paragraph hprose.isLine (readFootnote?_of_not_mem hcolon)
    (readReference?_of_not_mem hcolon) hprose.isBlank_head, parseBlocks_nil]
  rfl

/-- What is known of a footnote that is to be listed: its id and its text are plain words. -/
def IsListed (defs : Definitions) (id : Text) : Prop :=
  Text.IsPlain id ∧ ∃ ws, defs.footnotes.get? id = some (Definition.body ws) ∧ ws ≠ [] ∧
    ∀ w ∈ ws, Text.IsPlain w

/-- The item of a footnote whose text is a paragraph. -/
def note (n : Nat) (id body : Text) : Element :=
  ((Element.ofTag "li").set "id" (Anchor.footnoteElementId id)).withChildren
    [((Element.ofTag "p").withText (body ++ Footnotes.spaceMark)).push (Footnotes.backlink id n)]

/-- The items of footnotes, numbered from `n` on. -/
def notes (defs : Definitions) : (n : Nat) → List Text → List Element
  | _, [] => []
  | n, id :: ids => note n id ((defs.footnotes.get? id).getD []) :: notes defs (n + 1) ids

/-- The list is made without a failure. -/
theorem items_of_listed (opts : BlockOptions) {defs : Definitions} {ids : List Text}
    (h : ∀ id ∈ ids, IsListed defs id) (n : Nat) :
    Footnotes.items opts n ids defs = .ok (notes defs n ids, defs) := by
  induction ids generalizing n with
  | nil => rfl
  | cons id ids ih =>
    rw [List.forall_mem_cons] at h
    obtain ⟨⟨-, ws, hget, hne, hws⟩, hids⟩ := h
    rw [Footnotes.items, notes, hget, Option.getD_some, parseText_body hne hws]
    dsimp only
    rw [if_pos rfl, ih hids (n + 1)]
    rfl

theorem isDone_notes {defs : Definitions} {ids : List Text} (h : ∀ id ∈ ids, IsListed defs id)
    (n : Nat) : ∀ e ∈ notes defs n ids, IsDone e := by
  induction ids generalizing n with
  | nil => exact fun _ h => absurd h List.not_mem_nil
  | cons id ids ih =>
    rw [List.forall_mem_cons] at h
    obtain ⟨⟨hid, ws, hget, -, hws⟩, hids⟩ := h
    have hvalue : IsSettled (Anchor.footnoteElementId id) :=
      (IsBare.append (s := "footnote:".toList) ⟨by decide, by decide⟩
        (isBare_of_plain hid)).isSettled
    rw [notes, hget, Option.getD_some]
    refine List.forall_mem_cons.2 ⟨?_, ih hids (n + 1)⟩
    refine ((isDone_ofTag (by decide) (by decide) (by decide)).set (by decide)
      hvalue).withChildren ?_
    have hlink := isDone_backlink hid n
    exact fun e he => List.mem_singleton.1 he ▸
      ((isDone_ofTag (by decide) (by decide) (by decide)).withText (isCalm_body hws)).push hlink

theorem isDone_listOf {items : List Element} (h : ∀ e ∈ items, IsDone e) :
    IsDone (Footnotes.listOf items) :=
  (((isDone_ofTag (by decide) (by decide) (by decide)).set (by decide) (by decide)).push
    (isDone_ofTag (by decide) (by decide) (by decide))).push
      ((isDone_ofTag (by decide) (by decide) (by decide)).withChildren h)

theorem contains_of_not_mem {a : Char} {p s : Text} (h : a ∉ s) :
    Text.contains (a :: p) s = false := by
  have hsplit := Text.splitOnce?_append_of_not_mem (p := p) h []
  rw [List.append_nil] at hsplit
  rw [Text.contains, hsplit]
  rfl

/-- The list of footnotes, if there are any. -/
def noteBoxes (defs : Definitions) (ids : List Text) : List Element :=
  if ids = [] then [] else [Footnotes.listOf (notes defs 1 ids)]

theorem isDone_noteBoxes {defs : Definitions} {ids : List Text}
    (h : ∀ id ∈ ids, IsListed defs id) : ∀ e ∈ noteBoxes defs ids, IsDone e := by
  rw [noteBoxes]
  split
  · exact fun _ h => absurd h List.not_mem_nil
  · exact List.forall_mem_singleton.2 (isDone_listOf (isDone_notes h 1))

/-- The list stands behind the paragraph. -/
theorem add_paragraph (opts : BlockOptions) {defs : Definitions}
    (h : ∀ id ∈ defs.footnotes.keys, IsListed defs id) {s : Text} (hs : '/' ∉ s) :
    Footnotes.add opts ((Element.ofTag "div").push ((Element.ofTag "p").withText s)) defs =
      .ok ((Element.ofTag "div").withChildren
        ((Element.ofTag "p").withText s :: noteBoxes defs defs.footnotes.keys), defs) := by
  rw [Footnotes.add, noteBoxes]
  split
  · next hempty =>
    rw [if_pos (List.isEmpty_iff.1 hempty)]
    rfl
  · next hempty =>
    let list := Footnotes.listOf (notes defs 1 defs.footnotes.keys)
    have hplace : Footnotes.placeIn? list
        ((Element.ofTag "div").push ((Element.ofTag "p").withText s)) = none := by
      have htext : Text.contains Footnotes.placeMarker s = false := contains_of_not_mem hs
      have hamong : Footnotes.placeAmong? list [(Element.ofTag "p").withText s] = none := by
        rw [Footnotes.placeAmong?, if_neg (by rw [← Bool.not_eq_true] at htext; exact htext)]
        rfl
      exact congrArg (Option.map _) hamong
    rw [items_of_listed opts h 1, if_neg fun hnil => hempty (List.isEmpty_iff.2 hnil)]
    refine congrArg (fun root => Except.ok (root, defs)) ?_
    rw [hplace]
    rfl

/-! ## What is defined -/

section Definitions

variable {ds : List Definition} (h : ∀ d ∈ ds, d.IsPlain)

theorem mem_keys_footnotes {id : Text} :
    id ∈ (definitionsOf ds).footnotes.keys ↔ id ∈ ds.filterMap Definition.footnoteId? := by
  have hids : (ds.filterMap Definition.footnote?).map Prod.fst =
      ds.filterMap Definition.footnoteId? := by
    rw [List.map_filterMap]
    refine List.filterMap_congr fun d _ => ?_
    cases d <;> rfl
  rw [definitionsOf, Dictionary.keys_ofList, List.mem_eraseDups, hids]

theorem mem_keys_references {k : Text} :
    k ∈ (definitionsOf ds).references.keys ↔
      k ∈ (ds.filterMap Definition.referenceId?).map Text.lower := by
  have hids : (ds.filterMap Definition.reference?).map Prod.fst =
      (ds.filterMap Definition.referenceId?).map Text.lower := by
    rw [List.map_filterMap, List.map_filterMap]
    refine List.filterMap_congr fun d _ => ?_
    cases d <;> rfl
  rw [definitionsOf, Dictionary.keys_ofList, List.mem_eraseDups, hids]

theorem urls_renderState (defs : Definitions) :
    defs.renderState.urls =
      .ofList (defs.references.entries.map fun e => (Text.lower e.1, e.2.1)) :=
  congrArg Dictionary.ofList (List.map_map ..)

theorem titles_renderState (defs : Definitions) : defs.renderState.titles =
    .ofList (defs.references.entries.filterMap fun e =>
      (e.2.2.filter (!·.isEmpty)).map fun title => (Text.lower e.1, title)) :=
  congrArg Dictionary.ofList (List.filterMap_map ..)

theorem contains_urls {k : Text} : (definitionsOf ds).renderState.urls.contains k = true ↔
    k ∈ (ds.filterMap Definition.referenceId?).map Text.lower := by
  have hkeys : ((definitionsOf ds).references.entries.map fun e => (Text.lower e.1, e.2.1)).map
      Prod.fst = (definitionsOf ds).references.keys.map Text.lower := by
    rw [Dictionary.keys, List.map_map, List.map_map]
    rfl
  rw [urls_renderState, Dictionary.contains_ofList, hkeys]
  constructor
  · intro hk
    obtain ⟨id, hid, rfl⟩ := List.mem_map.1 hk
    obtain ⟨id', hid', rfl⟩ := List.mem_map.1 (mem_keys_references.1 hid)
    rw [Text.lower_lower]
    exact List.mem_map_of_mem hid'
  · intro hk
    obtain ⟨id, -, rfl⟩ := List.mem_map.1 hk
    exact List.mem_map.2 ⟨_, mem_keys_references.2 hk, Text.lower_lower id⟩

include h

theorem isListed_of_mem_keys {id : Text} (hid : id ∈ (definitionsOf ds).footnotes.keys) :
    IsListed (definitionsOf ds) id := by
  obtain ⟨t, ht⟩ := Option.isSome_iff_exists.1 (Dictionary.contains_iff.2 hid)
  obtain ⟨d, hd, hfootnote⟩ := List.mem_filterMap.1 (Dictionary.mem_of_get?_ofList ht)
  cases d with
  | reference id url => cases hfootnote
  | footnote id' ws =>
    cases hfootnote
    obtain ⟨hplain, hne, hws⟩ := h _ hd
    exact ⟨hplain, ws, ht, hne, hws⟩

theorem mem_entries_references {e : Text × Text × Option Text}
    (he : e ∈ (definitionsOf ds).references.entries) : IsBare e.2.1 ∧ e.2.2 = none := by
  obtain ⟨d, hd, hreference⟩ := List.mem_filterMap.1 (Dictionary.mem_of_mem_entries_ofList he)
  cases d with
  | footnote id ws => cases hreference
  | reference id url =>
    cases hreference
    exact ⟨isBare_of_plain (h _ hd).2, rfl⟩

theorem ready_renderState : Ready (definitionsOf ds).renderState where
  urls k url hurl := by
    rw [urls_renderState] at hurl
    obtain ⟨e, he, hpair⟩ := List.mem_map.1 (Dictionary.mem_of_get?_ofList hurl)
    cases hpair
    exact (mem_entries_references h he).1
  titles k := by
    rw [titles_renderState, List.filterMap_eq_nil_iff.2 fun e he => by
      rw [(mem_entries_references h he).2]
      rfl]
    rfl

end Definitions

namespace Document

variable (doc : Document)

theorem reported_renderState (l : Written) :
    reported (definitionsOf doc.definitions).renderState l = doc.warning? l := by
  cases l with
  | footnote id =>
    have hdefined : (definitionsOf doc.definitions).renderState.footnotes.contains id = true ↔
        id ∈ doc.footnoteIds := Dictionary.contains_iff.trans mem_keys_footnotes
    rw [reported, warning?]
    exact if_congr hdefined rfl rfl
  | reference t g id =>
    rw [reported, warning?]
    exact if_congr contains_urls rfl rfl
  | inline t u => rfl
  | titled t u n mark w m => rfl

end Document

namespace Passage

variable (p : Passage)

/-- What the definitions around the paragraph define. -/
def defs : Definitions := definitionsOf p.definitions

theorem isListed : ∀ id ∈ p.defs.footnotes.keys, IsListed p.defs id :=
  fun _ hid => isListed_of_mem_keys p.isPlain_definitions hid

/-- The elements of a paragraph and of the footnotes behind it. -/
def parsed : Parsed where
  root := (Element.ofTag "div").withChildren
    (p.paragraph :: noteBoxes p.defs p.defs.footnotes.keys)
  definitions := p.defs
  stash := {}
  placeholders := []

theorem parse_text (opts : Options) (hslash : '/' ∉ p.line) :
    parse opts p.text = .ok p.parsed := by
  rw [parse_of_inert p.isInert_of_mem_lines, parseText_text, ← defs]
  dsimp only
  rw [paragraph, add_paragraph opts.blocks p.isListed hslash]
  rfl

end Passage

end WikiText.Prose
