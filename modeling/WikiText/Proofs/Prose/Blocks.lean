import WikiText.Proofs.Dictionary
import WikiText.Proofs.Markdown.Lines
import WikiText.Proofs.Prose.Anchors

/-!
# Documents of plain words are parsed

The lines of a document are inert, and its blocks are its groups of definitions and its paragraph.
One definition after the other is taken off the front of its group (`run_group`), and the paragraph
is all that stays in the tree (`Passage.parseText_text`).
-/

namespace WikiText.Prose

open Html (Element)
open Markdown
open Text (IsLetter IsTrimmed)

/-! ## Lines -/

/-- A line of words, links and colons that begins with a word or a bracket. -/
structure IsProseLine (l : Text) : Prop where
  chars : ∀ c ∈ l, IsProse c ∨ c = ':'
  head : ∃ c t, l = c :: t ∧ (IsLetter c ∨ c = '[')

section IsProseLine

variable {l : Text} (h : IsProseLine l)
include h

theorem IsProseLine.not_mem {c : Char} (hletter : ¬ IsLetter c) (hmark : c ∉ " []^():".toList) :
    c ∉ l := by
  intro hmem
  rcases h.chars c hmem with (hc | hc) | rfl
  · exact hletter hc
  · exact hmark (List.mem_append_left [':'] hc)
  · exact hmark (by decide)

theorem IsProseLine.ne_nil : l ≠ [] := by
  obtain ⟨c, t, rfl, -⟩ := h.head
  exact List.cons_ne_nil c t

theorem IsProseLine.isLine : IsLine l where
  chars c hc hmem := by
    have hnot : ∀ d ∈ "\n|\\\x60".toList, ¬ IsLetter d ∧ d ∉ " []^():".toList := by decide
    exact h.not_mem (hnot c hmem).1 (hnot c hmem).2 hc
  period hmem := absurd hmem (h.not_mem (by decide) (by decide))
  head := by
    obtain ⟨c, t, rfl, hc⟩ := h.head
    have hnot : ∀ d ∈ " \n#-_*+>=".toList, ¬ IsLetter d ∧ d ≠ '[' := by decide
    exact ⟨c, t, rfl, fun hmem => hc.elim (hnot c hmem).1 (hnot c hmem).2⟩

theorem IsProseLine.isInert : IsInert l where
  chars c hc hmem := by
    have hnot : ∀ d ∈ "\x02\x03\r\t\n<&\x7b".toList, ¬ IsLetter d ∧ d ∉ " []^():".toList := by
      decide
    exact h.not_mem (hnot c hmem).1 (hnot c hmem).2 hc
  head c hc hmem := by
    have hnot : ∀ d ∈ " ~\x60".toList, ¬ IsLetter d ∧ d ≠ '[' := by decide
    obtain ⟨d, t, rfl, hd⟩ := h.head
    obtain rfl : d = c := Option.some.inj hc
    exact hd.elim (hnot d hmem).1 (hnot d hmem).2

theorem IsProseLine.isBlank_head : ∀ c ∈ l.head?, Text.isBlank c = false := by
  obtain ⟨c, t, rfl, hc⟩ := h.head
  rintro _ ⟨⟩
  rcases hc with hc | rfl
  · exact hc.isBlank
  · decide

end IsProseLine

theorem isLine_of_mem_lines {ls : List Text} (hne : ls ≠ []) (h : ∀ l ∈ ls, IsProseLine l) :
    ∀ l ∈ Text.lines (Text.unlines ls), IsLine l := by
  rw [Text.lines_unlines hne fun l hl => (h l hl).isLine.not_mem (by decide)]
  exact fun l hl => (h l hl).isLine

theorem head_written {t : Token} (ht : t.IsPlain) :
    ∃ c v, t.written = c :: v ∧ (IsLetter c ∨ c = '[') := by
  cases t with
  | word w =>
    obtain ⟨c, v, hw⟩ := List.exists_cons_of_ne_nil (Text.IsPlain.ne_nil ht)
    exact ⟨c, v, hw, .inl (Text.IsPlain.letters ht c (hw ▸ List.mem_cons_self))⟩
  | link l => exact ⟨'[', _, rfl, .inr rfl⟩

theorem forall_mem_line {P : Char → Prop} (hspace : P ' ') {ts : List Token}
    (h : ∀ t ∈ ts, ∀ c ∈ t.written, P c) : ∀ c ∈ line ts, P c := by
  induction ts with
  | nil => exact fun _ h => absurd h List.not_mem_nil
  | cons t ts ih =>
    rw [List.forall_mem_cons] at h
    cases ts with
    | nil => exact h.1
    | cons u ts =>
      rw [line_cons_cons, List.forall_mem_append, List.forall_mem_cons]
      exact ⟨h.1, hspace, ih h.2⟩

theorem isProse_line {ts : List Token} (hts : ∀ t ∈ ts, t.IsPlain) : ∀ c ∈ line ts, IsProse c := by
  refine forall_mem_line (.inr (by decide)) fun t ht => ?_
  have hplain := hts t ht
  cases t with
  | word w => exact isProse_of_plain hplain
  | link l => exact isProse_markup hplain

theorem isProseLine_line {ts : List Token} (hne : ts ≠ []) (hts : ∀ t ∈ ts, t.IsPlain) :
    IsProseLine (line ts) where
  chars c hc := .inl (isProse_line hts c hc)
  head := by
    obtain ⟨t, ts, rfl⟩ := List.exists_cons_of_ne_nil hne
    obtain ⟨rest, hline⟩ := written_prefix_line t ts
    obtain ⟨c, v, hwritten, hc⟩ := head_written (hts t List.mem_cons_self)
    exact ⟨c, v ++ rest, by rw [← hline, hwritten, List.cons_append], hc⟩

namespace Definition

theorem isPlain_words {ws : List Text} (h : ∀ w ∈ ws, Text.IsPlain w) :
    ∀ t ∈ ws.map Token.word, t.IsPlain := by
  intro t ht
  obtain ⟨w, hw, rfl⟩ := List.mem_map.1 ht
  exact h w hw

theorem isProseLine_body {ws : List Text} (hne : ws ≠ []) (h : ∀ w ∈ ws, Text.IsPlain w) :
    IsProseLine (body ws) :=
  isProseLine_line (by simpa using hne) (isPlain_words h)

theorem isTrimmed_of_plain {w : Text} (h : Text.IsPlain w) : IsTrimmed w :=
  Text.isTrimmed_of_not_mem h.ne_nil fun c hc => (h.letters c hc).isBlank

theorem isTrimmed_body {ws : List Text} (hne : ws ≠ []) (h : ∀ w ∈ ws, Text.IsPlain w) :
    IsTrimmed (body ws) := by
  induction ws with
  | nil => exact absurd rfl hne
  | cons w ws ih =>
    rw [List.forall_mem_cons] at h
    cases ws with
    | nil => exact isTrimmed_of_plain h.1
    | cons v ws =>
      have hrest := ih (List.cons_ne_nil v ws) h.2
      have hbody : body (w :: v :: ws) = w ++ ' ' :: body (v :: ws) := line_cons_cons _ _ _
      rw [hbody]
      refine ⟨by simp, fun c hc => ?_, fun c hc => ?_⟩
      · rw [List.head?_append_of_ne_nil _ h.1.ne_nil] at hc
        exact (isTrimmed_of_plain h.1).head c hc
      · rw [List.getLast?_append_cons, List.getLast?_cons_of_ne_nil hrest.ne_nil] at hc
        exact hrest.last c hc

theorem isProseLine_written {d : Definition} (hd : d.IsPlain) : IsProseLine d.written := by
  have hmark : ∀ c ∈ " []^()".toList, IsProse c ∨ c = ':' := fun _ hc => .inl (.inr hc)
  have hplain : ∀ w, Text.IsPlain w → ∀ c ∈ w, IsProse c ∨ c = ':' :=
    fun w hw c hc => .inl (isProse_of_plain hw c hc)
  cases d with
  | footnote id ws =>
    obtain ⟨hid, hne, hws⟩ := hd
    refine ⟨?_, '[', _, rfl, .inr rfl⟩
    simp only [written, List.forall_mem_cons, List.forall_mem_append]
    exact ⟨hmark _ (by decide), hmark _ (by decide), hplain _ hid, hmark _ (by decide),
      .inr trivial, hmark _ (by decide), (isProseLine_body hne hws).chars⟩
  | reference id url =>
    refine ⟨?_, '[', _, rfl, .inr rfl⟩
    simp only [written, List.forall_mem_cons, List.forall_mem_append]
    exact ⟨hmark _ (by decide), hplain _ hd.1, hmark _ (by decide), .inr trivial,
      hmark _ (by decide), hplain _ hd.2⟩

/-! ## Reading definitions -/

/-- The entry that a footnote becomes. -/
def footnote? : Definition → Option (Text × Text)
  | .footnote id ws => some (id, body ws)
  | .reference _ _ => none

/-- The entry that a reference link becomes. -/
def reference? : Definition → Option (Text × Text × Option Text)
  | .footnote _ _ => none
  | .reference id url => some (Text.lower id, url, none)

end Definition

/-- What is defined once the definitions were read one after the other. -/
def definitionsOf (ds : List Definition) : Definitions where
  references := .ofList (ds.filterMap Definition.reference?)
  footnotes := .ofList (ds.filterMap Definition.footnote?)

theorem definitionsOf_append_footnote (ds : List Definition) (id : Text) (ws : List Text) :
    definitionsOf (ds ++ [.footnote id ws]) = { definitionsOf ds with
      footnotes := (definitionsOf ds).footnotes.insert id (Definition.body ws) } := by
  have hfootnote : [Definition.footnote id ws].filterMap Definition.footnote? =
      [(id, Definition.body ws)] := rfl
  have hreference : [Definition.footnote id ws].filterMap Definition.reference? = [] := rfl
  rw [definitionsOf, List.filterMap_append, List.filterMap_append, hfootnote, hreference,
    Dictionary.ofList_concat, List.append_nil]
  rfl

theorem definitionsOf_append_reference (ds : List Definition) (id url : Text) :
    definitionsOf (ds ++ [.reference id url]) = { definitionsOf ds with
      references := (definitionsOf ds).references.insert (Text.lower id) (url, none) } := by
  have hfootnote : [Definition.reference id url].filterMap Definition.footnote? = [] := rfl
  have hreference : [Definition.reference id url].filterMap Definition.reference? =
      [(Text.lower id, url, none)] := rfl
  rw [definitionsOf, List.filterMap_append, List.filterMap_append, hfootnote, hreference,
    Dictionary.ofList_concat, List.append_nil]
  rfl

/-- A definition is taken off the front of a block, and some blocks are left. -/
def Definition.Takes (block : Text) (rest left : List Text) : Definition → Prop
  | .footnote id ws => takeFootnote? block rest = some ((id, body ws), left)
  | .reference id url => takeFootnote? block rest = none ∧
      takeReference? block rest = some ((Text.lower id, url, none), left)

theorem run_of_takes {d : Definition} {block : Text} {rest left : List Text}
    (htakes : d.Takes block rest left) (h : ∀ l ∈ Text.lines block, IsLine l) (opts : BlockOptions)
    (fuel : Nat) (parent : Element) (ds : List Definition) :
    (parseBlocks opts (fuel + 1) .document parent (block :: rest)).run (definitionsOf ds) =
      (parseBlocks opts fuel .document parent left).run (definitionsOf (ds ++ [d])) := by
  cases d with
  | footnote id ws =>
    have htake : takeFootnote? block rest = some ((id, Definition.body ws), left) := htakes
    rw [parseBlocks_of_lines h, htake, definitionsOf_append_footnote]
    rfl
  | reference id url =>
    rw [parseBlocks_of_lines h, htakes.1, htakes.2, definitionsOf_append_reference]
    rfl

section Group

variable {d : Definition} {ds : List Definition}

theorem IsGroup.isProseLine (h : IsGroup ds) : ∀ l ∈ ds.map Definition.written, IsProseLine l :=
  List.forall_mem_map.2 fun d hd => Definition.isProseLine_written (h.isPlain d hd)

theorem IsGroup.isLine (h : IsGroup ds) :
    ∀ l ∈ Text.lines (Text.unlines (ds.map Definition.written)), IsLine l :=
  isLine_of_mem_lines (by simpa using h.ne_nil) h.isProseLine

theorem IsGroup.tail (h : IsGroup (d :: ds)) (hne : ds ≠ []) : IsGroup ds where
  ne_nil := hne
  isPlain := (List.forall_mem_cons.1 h.isPlain).2
  kind := h.kind.imp (fun hkind => (List.forall_mem_cons.1 hkind).2)
    fun hkind => (List.forall_mem_cons.1 hkind).2

/-- The line of a reference link begins no footnote. -/
theorem readFootnote?_unlines_reference {id url : Text} (hid : Text.IsPlain id) (ls : List Text) :
    readFootnote? (Text.unlines (referenceLine id url :: ls)) = none := by
  obtain ⟨c, v, rfl⟩ := List.exists_cons_of_ne_nil hid.ne_nil
  rw [Text.unlines_cons]
  exact readFootnote?_of_ne ((hid.letters c List.mem_cons_self).ne (by decide)) _

/-- Of footnotes on lines of their own the first one is taken. -/
theorem takes_footnote {id : Text} {ws : List Text} (hd : (Definition.footnote id ws).IsPlain)
    (hds : ∀ e ∈ ds, e.IsPlain ∧ e.referenceId? = none) {rest : List Text}
    (hrest : ∀ b ∈ rest.head?, isIndented b = false) :
    (Definition.footnote id ws).Takes
      (Text.unlines ((Definition.footnote id ws :: ds).map Definition.written)) rest
      (if ds = [] then rest else Text.unlines (ds.map Definition.written) :: rest) := by
  obtain ⟨hid, hne, hws⟩ := hd
  have hbody := (Definition.isProseLine_body hne hws).isLine.not_mem (c := '\n') (by decide)
  have htrimmed := Definition.isTrimmed_body hne hws
  cases ds with
  | nil => exact takeFootnote?_last (hid.not_mem (by decide)) htrimmed hbody hrest
  | cons e ds =>
    cases e with
    | reference id' url => cases (hds _ List.mem_cons_self).2
    | footnote id' ws' =>
      obtain ⟨hid', hne', hws'⟩ := (hds _ List.mem_cons_self).1
      exact takeFootnote?_next (hid.not_mem (by decide)) htrimmed hbody (hid'.not_mem (by decide))
        (Definition.isTrimmed_body hne' hws')
        ((Definition.isProseLine_body hne' hws').isLine.not_mem (by decide)) _ rest

/-- Of reference links on lines of their own the first one is taken, for none is a footnote. -/
theorem takes_reference {id url : Text}
    (hds : ∀ e ∈ Definition.reference id url :: ds, e.IsPlain ∧ e.footnoteId? = none)
    (rest : List Text) :
    (Definition.reference id url).Takes
      (Text.unlines ((Definition.reference id url :: ds).map Definition.written)) rest
      (if ds = [] then rest else Text.unlines (ds.map Definition.written) :: rest) := by
  have hall : ∀ e ∈ Definition.reference id url :: ds,
      ∃ id url, e = .reference id url ∧ Text.IsPlain id := by
    intro e he
    cases e with
    | footnote id ws => cases (hds _ he).2
    | reference id url => exact ⟨id, url, rfl, (hds _ he).1.1⟩
  obtain ⟨hid, hurl⟩ := (hds _ List.mem_cons_self).1
  refine ⟨takeFootnote?_of_none (fun l ms hms => ?_) rest, ?_⟩
  · have hlines : ∀ l ∈ (Definition.reference id url :: ds).map Definition.written, '\n' ∉ l :=
      List.forall_mem_map.2 fun e he =>
        (Definition.isProseLine_written (hds e he).1).isLine.not_mem (by decide)
    rw [Text.lines_unlines (by simp) hlines] at hms
    obtain ⟨e, he, rfl⟩ := List.mem_map.1 (hms.subset List.mem_cons_self)
    obtain ⟨id', url', rfl, hid'⟩ := hall e he
    exact readFootnote?_unlines_reference hid' ms
  · have hbrackets : ∀ c ∈ id, c ≠ '[' ∧ c ≠ ']' := fun c hc =>
      ⟨(hid.letters c hc).ne (by decide), (hid.letters c hc).ne (by decide)⟩
    have htarget : ∀ c ∈ url, Text.isBlank c = false ∧ c ≠ '<' ∧ c ≠ '>' := fun c hc =>
      ⟨(hurl.letters c hc).isBlank, (hurl.letters c hc).ne (by decide),
        (hurl.letters c hc).ne (by decide)⟩
    have hnext : ∀ l ∈ (ds.map Definition.written).head?, ∃ s, l = '[' :: s := by
      intro l hl
      obtain ⟨e, he, rfl⟩ := List.mem_map.1 (List.mem_of_mem_head? hl)
      obtain ⟨id', url', rfl, -⟩ := hall e (List.mem_cons_of_mem _ he)
      exact ⟨_, rfl⟩
    have htake := takeReference?_unlines hbrackets hurl.ne_nil htarget hnext rest
    rw [Text.trim_eq_self (Definition.isTrimmed_of_plain hid)] at htake
    simp only [List.map_eq_nil_iff] at htake
    exact htake

/-- The first definition of a group is taken, and the others are left. -/
theorem takes_of_isGroup (h : IsGroup (d :: ds)) {rest : List Text}
    (hrest : ∀ b ∈ rest.head?, isIndented b = false) :
    d.Takes (Text.unlines ((d :: ds).map Definition.written)) rest
      (if ds = [] then rest else Text.unlines (ds.map Definition.written) :: rest) := by
  have hd := h.isPlain d List.mem_cons_self
  cases d with
  | footnote id ws =>
    have hkind := h.kind.resolve_right fun hkind => by cases hkind _ List.mem_cons_self
    exact takes_footnote hd (fun e he => ⟨h.isPlain e (List.mem_cons_of_mem _ he),
      hkind e (List.mem_cons_of_mem _ he)⟩) hrest
  | reference id url =>
    have hkind := h.kind.resolve_left fun hkind => by cases hkind _ List.mem_cons_self
    exact takes_reference (fun e he => ⟨h.isPlain e he, hkind e he⟩) rest

/-- The definitions of a group are read one after the other. -/
theorem run_group (h : IsGroup ds) {rest : List Text}
    (hrest : ∀ b ∈ rest.head?, isIndented b = false) (opts : BlockOptions) (fuel : Nat)
    (parent : Element) (before : List Definition) :
    (parseBlocks opts (ds.length + fuel) .document parent
        (Text.unlines (ds.map Definition.written) :: rest)).run (definitionsOf before) =
      (parseBlocks opts fuel .document parent rest).run (definitionsOf (before ++ ds)) := by
  induction ds generalizing before with
  | nil => exact absurd rfl h.ne_nil
  | cons d ds ih =>
    rw [List.length_cons, Nat.add_right_comm,
      run_of_takes (takes_of_isGroup h hrest) h.isLine opts _ parent before]
    by_cases hne : ds = []
    · rw [if_pos hne, hne, List.length_nil, Nat.zero_add]
    · rw [if_neg hne, ih (h.tail hne), List.append_assoc, List.singleton_append]

end Group

/-- The text of groups of definitions as blocks. -/
def groupBlocks (gs : List (List Definition)) : List Text :=
  (gs.map (·.map Definition.written)).map Text.unlines

theorem isIndented_head_groupBlocks {gs : List (List Definition)} (hgs : ∀ ds ∈ gs, IsGroup ds)
    {rest : List Text} (hrest : ∀ b ∈ rest.head?, isIndented b = false) :
    ∀ b ∈ (groupBlocks gs ++ rest).head?, isIndented b = false := by
  cases gs with
  | nil => exact hrest
  | cons ds gs =>
    rintro _ ⟨⟩
    exact isIndented_of_lines (hgs ds List.mem_cons_self).isLine

/-- Groups of definitions are read one after the other. -/
theorem run_groups {gs : List (List Definition)} (hgs : ∀ ds ∈ gs, IsGroup ds) {rest : List Text}
    (hrest : ∀ b ∈ rest.head?, isIndented b = false) (opts : BlockOptions) (fuel : Nat)
    (parent : Element) (before : List Definition) :
    (parseBlocks opts (gs.flatten.length + fuel) .document parent (groupBlocks gs ++ rest)).run
        (definitionsOf before) =
      (parseBlocks opts fuel .document parent rest).run (definitionsOf (before ++ gs.flatten)) := by
  induction gs generalizing before with
  | nil => rw [List.flatten_nil, List.length_nil, Nat.zero_add, List.append_nil]; rfl
  | cons ds gs ih =>
    rw [List.forall_mem_cons] at hgs
    rw [List.flatten_cons, List.length_append, Nat.add_assoc, ← List.append_assoc]
    exact (run_group hgs.1 (isIndented_head_groupBlocks hgs.2 hrest) opts _ parent before).trans
      (ih hgs.2 _)

/-! ## Lines of blocks -/

theorem length_unlines (ls : List Text) : ls.length ≤ (Text.unlines ls).length + 1 := by
  induction ls with
  | nil => exact Nat.zero_le _
  | cons l ls ih =>
    cases ls with
    | nil => exact Nat.le_add_left 1 _
    | cons m ls =>
      rw [Text.unlines_cons_cons, List.length_append, List.length_cons, List.length_cons]
      exact Nat.succ_le_succ (Nat.le_trans ih (Nat.le_add_left _ _))

theorem length_flatten_le (bs : List (List Text)) :
    bs.flatten.length ≤ ([[]].intercalate bs).length := by
  induction bs with
  | nil => exact Nat.zero_le _
  | cons b bs ih =>
    cases bs with
    | nil => rw [List.intercalate_singleton, List.flatten_cons, List.flatten_nil, List.append_nil]
    | cons b' bs =>
      rw [List.intercalate_cons_cons, List.flatten_cons, List.length_append, List.length_append,
        List.length_append]
      omega

theorem forall_mem_intercalate {P : Text → Prop} (hnil : P []) {bs : List (List Text)}
    (h : ∀ b ∈ bs, ∀ l ∈ b, P l) : ∀ l ∈ [[]].intercalate bs, P l := by
  induction bs with
  | nil => exact fun _ h => absurd h List.not_mem_nil
  | cons b bs ih =>
    rw [List.forall_mem_cons] at h
    cases bs with
    | nil => exact List.intercalate_singleton (α := Text) ▸ h.1
    | cons b' bs =>
      rw [List.intercalate_cons_cons, List.forall_mem_append, List.forall_mem_append]
      exact ⟨⟨h.1, List.forall_mem_singleton.2 hnil⟩, ih h.2⟩

/-! ## A paragraph between definitions -/

/-- A line that is a paragraph wherever it stands, and of which nothing is put aside. -/
structure IsPassage (l : Text) : Prop where
  isLine : IsLine l
  isInert : IsInert l
  isBlank : ∀ c ∈ l.head?, Text.isBlank c = false
  footnote : readFootnote? l = none
  reference : readReference? l = none

/-- A paragraph on one line, with groups of definitions before and after it. -/
structure Passage where
  before : List (List Definition)
  line : Text
  after : List (List Definition)
  isPassage : IsPassage line
  isGroup : ∀ ds ∈ before ++ after, IsGroup ds

namespace Passage

variable (p : Passage)

/-- The blocks by their lines: each definition stands on a line of its own. -/
def blocks : List (List Text) :=
  p.before.map (·.map Definition.written) ++
    [p.line] :: p.after.map (·.map Definition.written)

/-- The source text, in which an empty line stands between blocks. -/
def text : Text := Text.unlines ([[]].intercalate p.blocks)

def definitions : List Definition := (p.before ++ p.after).flatten

/-- The paragraph as it is parsed. -/
def paragraph : Element := (Element.ofTag "p").withText p.line

theorem isPlain_definitions : ∀ d ∈ p.definitions, d.IsPlain := by
  intro d hd
  obtain ⟨ds, hds, hmem⟩ := List.mem_flatten.1 hd
  exact (p.isGroup ds hds).isPlain d hmem

theorem isInert_of_mem_blocks :
    ∀ b ∈ p.blocks, b ≠ [] ∧ ∀ l ∈ b, IsInert l ∧ ∃ c t, l = c :: t ∧ Text.isBlank c = false := by
  have hgroup : ∀ ds ∈ p.before ++ p.after, ds.map Definition.written ≠ [] ∧
      ∀ l ∈ ds.map Definition.written,
        IsInert l ∧ ∃ c t, l = c :: t ∧ Text.isBlank c = false := fun ds hds => by
    refine ⟨by simpa using (p.isGroup ds hds).ne_nil, fun l hl => ?_⟩
    have hprose := (p.isGroup ds hds).isProseLine l hl
    obtain ⟨c, t, hct, -⟩ := hprose.head
    exact ⟨hprose.isInert, c, t, hct, hprose.isBlank_head c (by rw [hct]; rfl)⟩
  obtain ⟨c, t, hct, -⟩ := p.isPassage.isLine.head
  rw [List.forall_mem_append] at hgroup
  rw [blocks, List.forall_mem_append, List.forall_mem_cons, List.forall_mem_map,
    List.forall_mem_map]
  exact ⟨hgroup.1, ⟨List.cons_ne_nil _ _, List.forall_mem_singleton.2
    ⟨p.isPassage.isInert, c, t, hct, p.isPassage.isBlank c (by rw [hct]; rfl)⟩⟩, hgroup.2⟩

theorem blocks_ne_nil : p.blocks ≠ [] :=
  List.append_ne_nil_of_right_ne_nil _ (List.cons_ne_nil _ _)

/-- The text begins with a line that is not blank. -/
theorem exists_lines :
    ∃ c t ls, [[]].intercalate p.blocks = (c :: t) :: ls ∧ Text.isBlank c = false := by
  obtain ⟨b, bs, hblocks⟩ := List.exists_cons_of_ne_nil p.blocks_ne_nil
  have hb := p.isInert_of_mem_blocks b (hblocks ▸ List.mem_cons_self)
  obtain ⟨l, b, rfl⟩ := List.exists_cons_of_ne_nil hb.1
  obtain ⟨ls, hls⟩ := exists_intercalate_cons l b bs
  obtain ⟨-, c, t, rfl, hc⟩ := hb.2 l List.mem_cons_self
  exact ⟨c, t, ls, hblocks ▸ hls, hc⟩

theorem allBlank_text : Text.allBlank p.text = false := by
  obtain ⟨c, t, ls, hls, hc⟩ := p.exists_lines
  rw [text, hls, Text.unlines_cons, List.cons_append, Text.allBlank, List.all_cons, hc,
    Bool.false_and]

/-- The lines of the text are inert. -/
theorem isInert_of_mem_lines : ∀ l ∈ Text.lines p.text, IsInert l := by
  have hinert : ∀ l ∈ [[]].intercalate p.blocks, IsInert l := forall_mem_intercalate isInert_nil
    fun b hb l hl => ((p.isInert_of_mem_blocks b hb).2 l hl).1
  obtain ⟨c, t, ls, hls, -⟩ := p.exists_lines
  rwa [text, lines_unlines_of_inert hinert (hls ▸ List.cons_ne_nil _ ls)]

theorem blocksOf_text : blocksOf (p.text ++ ['\n', '\n']) =
    groupBlocks p.before ++ p.line :: (groupBlocks p.after ++ [[]]) := by
  have hline : ∀ b ∈ p.blocks, b ≠ [] ∧ ∀ l ∈ b, l ≠ [] ∧ '\n' ∉ l := fun b hb =>
    ⟨(p.isInert_of_mem_blocks b hb).1, fun l hl => by
      obtain ⟨hinert, c, t, rfl, -⟩ := (p.isInert_of_mem_blocks b hb).2 l hl
      exact ⟨List.cons_ne_nil c t, hinert.not_mem (by decide)⟩⟩
  rw [text, blocksOf_unlines p.blocks_ne_nil hline, blocks, List.map_append, List.map_cons,
    List.append_assoc, List.cons_append]
  rfl

theorem length_definitions : p.definitions.length ≤ p.text.length := by
  have hlines : p.definitions.length + 1 = p.blocks.flatten.length := by
    simp only [definitions, blocks, List.length_flatten, List.map_append, List.map_map,
      List.map_cons, List.sum_append, List.sum_cons, List.length_cons, List.length_nil]
    rw [show List.length ∘ (List.map Definition.written ·) = List.length from
      funext fun _ => List.length_map _]
    omega
  have hflatten := length_flatten_le p.blocks
  have htext := length_unlines ([[]].intercalate p.blocks)
  rw [← text] at htext
  omega

/-- The paragraph is read between the definitions. -/
theorem parseText_text (opts : BlockOptions) :
    (parseText opts (.ofTag "div") (p.text ++ ['\n', '\n'])).run {} =
      ((Element.ofTag "div").push p.paragraph, definitionsOf p.definitions) := by
  have hgroup := p.isGroup
  rw [List.forall_mem_append] at hgroup
  have hlines : ∀ l ∈ Text.lines p.line, IsLine l := by
    rw [Text.lines_of_not_mem (p.isPassage.isLine.not_mem (by decide))]
    exact List.forall_mem_singleton.2 p.isPassage.isLine
  have hcode : ∀ more, extendCode? ((Element.ofTag "div").push p.paragraph) more = none :=
    fun _ => rfl
  have hdefinitions : p.before.flatten ++ p.after.flatten = p.definitions :=
    List.flatten_append.symm
  obtain ⟨m, hm⟩ : ∃ m, 4 * (p.text ++ ['\n', '\n']).length + 16 =
      p.before.flatten.length + ((p.after.flatten.length + (m + 1)) + 1) := by
    have hlength := p.length_definitions
    rw [← hdefinitions, List.length_append] at hlength
    refine ⟨4 * (p.text ++ ['\n', '\n']).length + 14 - p.before.flatten.length -
      p.after.flatten.length, ?_⟩
    rw [List.length_append]
    omega
  rw [parseText, blocksOf_text, hm]
  calc _ = (parseBlocks opts ((p.after.flatten.length + (m + 1)) + 1) .document (.ofTag "div")
        (p.line :: (groupBlocks p.after ++ [[]]))).run (definitionsOf p.before.flatten) :=
        run_groups hgroup.1 (by rintro _ ⟨⟩; exact isIndented_of_lines hlines) opts _ _ []
    _ = (parseBlocks opts (p.after.flatten.length + (m + 1)) .document
        ((Element.ofTag "div").push p.paragraph)
        (groupBlocks p.after ++ [[]])).run (definitionsOf p.before.flatten) := by
        rw [parseBlocks_paragraph p.isPassage.isLine p.isPassage.footnote p.isPassage.reference
          p.isPassage.isBlank]
        rfl
    _ = (parseBlocks opts (m + 1) .document ((Element.ofTag "div").push p.paragraph) [[]]).run
        (definitionsOf p.definitions) := by
        rw [run_groups hgroup.2 (by rintro _ ⟨⟩; rfl), hdefinitions]
    _ = ((Element.ofTag "div").push p.paragraph, definitionsOf p.definitions) := by
        rw [parseBlocks_empty opts m .document hcode]
        rfl

end Passage

theorem colon_not_mem_line {ts : List Token} (hts : ∀ t ∈ ts, t.IsPlain) : ':' ∉ line ts :=
  fun hmem => (isProse_line hts ':' hmem).ne (by decide) (by decide) rfl

namespace Document

variable (doc : Document)

theorem isProseLine_paragraph : IsProseLine (line doc.tokens) :=
  Prose.isProseLine_line doc.tokens_ne_nil doc.isPlain_tokens

/-- The line of words and links, with the definitions around it. -/
def passage : Passage where
  before := doc.before
  line := Prose.line doc.tokens
  after := doc.after
  isPassage :=
    have hcolon := colon_not_mem_line doc.isPlain_tokens
    { isLine := doc.isProseLine_paragraph.isLine
      isInert := doc.isProseLine_paragraph.isInert
      isBlank := doc.isProseLine_paragraph.isBlank_head
      footnote := readFootnote?_of_not_mem hcolon
      reference := readReference?_of_not_mem hcolon }
  isGroup := doc.isGroup

end Document

end WikiText.Prose
