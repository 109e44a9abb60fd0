import WikiText.Markdown.Block.Parse
import WikiText.Proofs.Html.Every
import WikiText.Proofs.Yields

/-!
# What reading blocks yields

The elements that blocks are read into have no class, and the definitions that are found on the way
keep the keys of footnotes apart.  Main statement: `yields_parseBlocks`.
-/

namespace WikiText

open Html

/-! ## Elements without classes -/

namespace Html.Element

/-- No element of the tree has a class. -/
def Plain (e : Element) : Prop := ∀ x ∈ e.elements, x.attribute? "class" = none

theorem plain_iff {e : Element} :
    e.Plain ↔ e.attribute? "class" = none ∧ ∀ c ∈ e.children, c.Plain := every_iff

theorem Plain.of_mem {e c : Element} (h : e.Plain) (hc : c ∈ e.children) : c.Plain :=
  (plain_iff.1 h).2 c hc

/-- Data and tags do not matter. -/
theorem Plain.congr {e e' : Element} (h : e.Plain) (hattributes : e'.attributes = e.attributes)
    (hchildren : e'.children = e.children) : e'.Plain := by
  rw [plain_iff] at h ⊢
  rwa [attribute?, hattributes, hchildren]

theorem plain_ofTag (tag : String) : (ofTag tag).Plain :=
  plain_iff.2 ⟨rfl, fun _ hc => absurd hc List.not_mem_nil⟩

theorem Plain.withTag {e : Element} (h : e.Plain) (t : Text) : (e.withTag t).Plain :=
  h.congr (e.attributes_withTag t) (e.children_withTag t)

theorem Plain.withData {e : Element} (h : e.Plain) (d : Data) : (e.withData d).Plain :=
  h.congr (e.attributes_withData d) (e.children_withData d)

theorem Plain.withText {e : Element} (h : e.Plain) (s : Text) : (e.withText s).Plain :=
  h.withData _

theorem Plain.withTail {e : Element} (h : e.Plain) (d : Data) : (e.withTail d).Plain :=
  h.congr (e.attributes_withTail d) (e.children_withTail d)

theorem Plain.withChildren {e : Element} (h : e.Plain) {cs : List Element}
    (hcs : ∀ c ∈ cs, c.Plain) : (e.withChildren cs).Plain := by
  rw [plain_iff] at h ⊢
  rw [attribute?, attributes_withChildren, children_withChildren]
  exact ⟨h.1, hcs⟩

theorem Plain.push {e child : Element} (h : e.Plain) (hchild : child.Plain) :
    (e.push child).Plain := by
  refine h.withChildren fun c hc => ?_
  rcases List.mem_append.1 hc with hc | hc
  · exact h.of_mem hc
  · exact List.mem_singleton.1 hc ▸ hchild

theorem lookup_setAttribute_of_ne {name name' : Text} (hne : name' ≠ name) (value : Text)
    (attributes : List (Text × Text)) :
    (setAttribute name value attributes).lookup name' = attributes.lookup name' := by
  have hbeq : (name' == name) = false := beq_false_of_ne hne
  induction attributes with
  | nil => simp [setAttribute, List.lookup_cons, hbeq]
  | cons a as ih =>
    obtain ⟨k, v⟩ := a
    rw [setAttribute]
    split
    · next hk =>
      obtain rfl : k = name := hk
      simp [List.lookup_cons, hbeq]
    · simp only [List.lookup_cons, ih]

theorem Plain.set {e : Element} (h : e.Plain) {name : String} (hname : "class".toList ≠ name.toList)
    (value : Text) : (e.set name value).Plain := by
  rw [plain_iff] at h ⊢
  cases e
  exact ⟨(lookup_setAttribute_of_ne hname _ _).trans h.1, h.2⟩

end Html.Element

namespace Markdown

open Element

variable {e parent : Element}

theorem plain_replaceLast (h : parent.Plain) (he : e.Plain) : (replaceLast parent e).Plain := by
  refine h.withChildren fun c hc => ?_
  rcases List.mem_append.1 hc with hc | hc
  · exact h.of_mem (List.dropLast_subset _ hc)
  · exact List.mem_singleton.1 hc ▸ he

theorem plain_lastChild (h : parent.Plain) (he : lastChild? parent = some e) : e.Plain :=
  h.of_mem (List.mem_of_getLast? he)

theorem plain_extendCode (h : parent.Plain) {more : Text} (he : extendCode? parent more = some e) :
    e.Plain := by
  simp only [extendCode?, Option.bind_eq_bind, Option.bind_eq_some_iff, Option.some.injEq] at he
  obtain ⟨pre, hpre, code, hcode, rfl⟩ := he
  have hplain := plain_lastChild h hpre
  refine plain_replaceLast h (hplain.withChildren fun c hc => ?_)
  rw [codeOf?] at hcode
  split at hcode
  · next code' rest hchildren =>
    split at hcode
    · obtain rfl := Option.some.inj hcode
      rw [hchildren, List.tail_cons] at hc
      rcases List.mem_cons.1 hc with rfl | hc
      · exact (hplain.of_mem (hchildren ▸ List.mem_cons_self)).withData _
      · exact hplain.of_mem (hchildren ▸ List.mem_cons_of_mem _ hc)
    · simp at hcode
  · simp at hcode

theorem plain_getD_extendCode (h : parent.Plain) (he : e.Plain) (more : Text) :
    ((extendCode? parent more).getD e).Plain := by
  cases hcode : extendCode? parent more with
  | none => exact he
  | some e => exact plain_extendCode h hcode

theorem plain_addCode (h : parent.Plain) (block : Text) : (addCode parent block).1.Plain :=
  plain_getD_extendCode h
    (h.push ((plain_ofTag "pre").push ((plain_ofTag "code").withData _))) _

theorem plain_addParagraph (h : parent.Plain) (place : Place) (block : Text) :
    (addParagraph place parent block).Plain := by
  rw [addParagraph]
  split
  · exact h
  · split
    · split
      · next hlast => exact plain_replaceLast h ((plain_lastChild h hlast).withTail _)
      · exact h.withText _
    · exact h.push ((plain_ofTag "p").withText _)

theorem plain_withTextWrapped (h : e.Plain) : (withTextWrapped e).Plain := by
  rw [withTextWrapped]
  split
  · exact h
  · refine (h.withText _).withChildren fun c hc => ?_
    rcases List.mem_cons.1 hc with rfl | hc
    · exact (plain_ofTag "p").withText _
    · exact h.of_mem hc

theorem plain_withTailWrapped (h : e.Plain) : (withTailWrapped e).Plain := by
  rw [withTailWrapped]
  split
  · next last hlast =>
    split
    · exact h
    · exact (plain_replaceLast h ((plain_lastChild h hlast).withTail _)).push
        ((plain_ofTag "p").withText _)
  · exact h

theorem plain_newList (opts : BlockOptions) (kind : ListKind) (digits : Text) :
    (newList opts kind digits).Plain := by
  rw [newList]
  split
  · exact (plain_ofTag _).set (by decide) _
  · exact plain_ofTag _

theorem plain_cellElements (tag : String) (columns : List (Option ColumnAlign)) (row : List Text) :
    ∀ c ∈ Table.cellElements tag columns row, c.Plain := by
  induction columns generalizing row with
  | nil => exact fun _ hc => absurd hc List.not_mem_nil
  | cons align columns ih =>
    intro c hc
    simp only [Table.cellElements, List.mem_cons] at hc
    rcases hc with rfl | hc
    · cases align with
      | none => exact (plain_ofTag tag).withText _
      | some a => exact ((plain_ofTag tag).withText _).set (by decide) _
    · exact ih _ c hc

theorem plain_table (t : Table) : t.element.Plain := by
  have hrow : ∀ tag row, (t.rowElement tag row).Plain := fun tag row =>
    (plain_ofTag "tr").withChildren (plain_cellElements tag _ row)
  have hempty : t.emptyRow.Plain := (plain_ofTag "tr").withChildren fun c hc => by
    obtain ⟨_, -, rfl⟩ := List.mem_map.1 hc
    exact plain_ofTag "td"
  have hbody : ∀ c ∈ if t.rows.isEmpty then [t.emptyRow] else t.rows.map (t.rowElement "td"),
      c.Plain := by
    intro c hc
    split at hc
    · exact List.mem_singleton.1 hc ▸ hempty
    · obtain ⟨row, -, rfl⟩ := List.mem_map.1 hc
      exact hrow "td" row
  refine (plain_ofTag "table").withChildren fun c hc => ?_
  simp only [List.mem_cons, List.not_mem_nil, or_false] at hc
  rcases hc with rfl | rfl
  · exact (plain_ofTag "thead").withChildren fun c hc => List.mem_singleton.1 hc ▸ hrow "th" _
  · exact (plain_ofTag "tbody").withChildren hbody

/-! ## Definitions found on the way -/

/-- The keys of footnotes stay where they are, and stay apart. -/
structure Definitions.Grows (d d' : Definitions) : Prop where
  keys : d.footnotes.keys <+: d'.footnotes.keys
  nodup : d.footnotes.keys.Nodup → d'.footnotes.keys.Nodup

namespace Definitions

instance : Std.Refl Grows := ⟨fun _ => ⟨List.prefix_refl _, id⟩⟩

instance : IsTrans Definitions Grows :=
  ⟨fun _ _ _ h h' => ⟨h.keys.trans h'.keys, h'.nodup ∘ h.nodup⟩⟩

theorem grows_insert (d : Definitions) (id text : Text) :
    Grows d { d with footnotes := d.footnotes.insert id text } := by
  have hkeys := Dictionary.keys_insert d.footnotes id text
  by_cases h : id ∈ d.footnotes.keys
  · rw [if_pos h] at hkeys
    exact ⟨hkeys ▸ List.prefix_refl _, fun hn => hkeys ▸ hn⟩
  · rw [if_neg h] at hkeys
    refine ⟨hkeys ▸ List.prefix_append _ _, fun hn => ?_⟩
    rw [hkeys, List.nodup_append]
    refine ⟨hn, by simp, ?_⟩
    rintro a ha b hb rfl
    exact h (List.mem_singleton.1 hb ▸ ha)

end Definitions

open Definitions (Grows)

/-! ## Blocks -/

theorem yields_modifyLast {f : Element → BlockM Element}
    (hf : ∀ e : Element, e.Plain → Yields Grows Plain (f e)) (steps : Nat) (he : e.Plain) :
    Yields Grows Plain (modifyLast f steps e) := by
  induction steps generalizing e with
  | zero => exact hf e he
  | succ n ih =>
    rw [modifyLast]
    split
    · next child hchild =>
      exact (ih (plain_lastChild he hchild)).bind fun c hc => .pure (plain_replaceLast he hc)
    · exact hf e he

section Reader

variable {parse : BlockReader} (hparse : ∀ place (e : Element) blocks, e.Plain →
  Yields Grows Plain (parse place e blocks))
include hparse

theorem yields_addBefore (place : Place) (h : parent.Plain) (before : Text) :
    Yields Grows Plain (addBefore parse place parent before) := by
  rw [addBefore]
  split
  · exact .pure h
  · exact hparse _ _ _ h

theorem yields_intoItem (block : Text) (he : e.Plain) :
    Yields Grows Plain (intoItem parse block e) := by
  rw [intoItem]
  split
  · exact hparse _ _ _ he
  split
  · exact yields_modifyLast (fun e he => hparse _ _ _ (plain_withTextWrapped he)) 1 he
  · exact (hparse _ _ _ (plain_ofTag "li")).bind fun li hli => .pure (he.push hli)

theorem yields_addIndented (place : Place) (h : parent.Plain) (block : Text) :
    Yields Grows Plain (addIndented parse place parent block) := by
  rw [addIndented]
  dsimp only
  split
  · split
    · exact yields_modifyLast (fun e he => hparse _ _ _ he) 1 h
    · exact hparse _ _ _ h
  · exact yields_modifyLast (fun e he => yields_intoItem hparse _ he) _ h

theorem yields_addItem {list : Element} (h : list.Plain) (item : Text) :
    Yields Grows Plain (addItem parse list item) := by
  rw [addItem]
  split
  · exact yields_modifyLast (fun e he => hparse _ _ _ he) 1 h
  · exact (hparse _ _ _ (plain_ofTag "li")).bind fun li hli => .pure (h.push hli)

theorem yields_addItems (opts : BlockOptions) (h : parent.Plain) (kind : ListKind) (digits : Text)
    (items : List Text) : Yields Grows Plain (addItems parse opts parent kind digits items) := by
  have hall : ∀ (list : Element) items, list.Plain →
      Yields Grows Plain (List.foldlM (addItem parse) list items) := fun list items hlist =>
    .foldlM (fun list hlist item _ => yields_addItem hparse hlist item) hlist
  unfold addItems
  split
  · next list first items hlist =>
    have hlist : list.Plain := plain_lastChild h (Option.filter_eq_some_iff.1 hlist).1
    refine (yields_modifyLast (fun e he => .pure
      (plain_withTailWrapped (plain_withTextWrapped he))) 1 hlist).bind fun list hlist => ?_
    refine (hparse _ _ _ (plain_ofTag "li")).bind fun li hli => ?_
    exact (hall _ items (hlist.push hli)).bind fun list hlist => .pure (plain_replaceLast h hlist)
  · split
    · exact hall _ _ h
    · exact (hall _ _ (plain_newList opts kind digits)).bind fun list hlist =>
        .pure (h.push hlist)

theorem yields_addQuote (h : parent.Plain) (text : Text) :
    Yields Grows Plain (addQuote parse parent text) := by
  rw [addQuote]
  split
  · next quote hquote =>
    have hquote : quote.Plain := plain_lastChild h (Option.filter_eq_some_iff.1 hquote).1
    exact (hparse _ _ _ hquote).bind fun quote hquote => .pure (plain_replaceLast h hquote)
  · exact (hparse _ _ _ (plain_ofTag "blockquote")).bind fun quote hquote =>
      .pure (h.push hquote)

end Reader

/-- Blocks are read into an element without classes, and definitions are only added. -/
theorem yields_parseBlocks (opts : BlockOptions) (fuel : Nat) (place : Place)
    (h : parent.Plain) (blocks : List Text) :
    Yields Grows Plain (parseBlocks opts fuel place parent blocks) := by
  induction fuel generalizing place parent blocks with
  | zero => exact .pure h
  | succ fuel ih =>
    have hparse : ∀ place (e : Element) blocks, e.Plain →
        Yields Grows Plain (parseBlocks opts fuel place e blocks) := fun place e blocks he =>
      ih place he blocks
    cases blocks with
    | nil => exact .pure h
    | cons block rest =>
      rw [parseBlocks]
      split
      · exact ih _ (plain_getD_extendCode h h _) _
      split
      · exact (yields_addIndented hparse place h block).bind fun _ h => ih _ h _
      split
      · exact ih _ (plain_addCode h block) _
      split
      · exact ih _ (h.push (plain_table _)) _
      split
      · exact (yields_addBefore hparse place h _).bind fun _ h =>
          ih _ (h.push (((plain_ofTag "h").withText _).withTag _)) _
      split
      · exact ih _ (h.push (((plain_ofTag "h").withText _).withTag _)) _
      split
      · exact (yields_addBefore hparse place h _).bind fun _ h => ih _ (h.push (plain_ofTag "hr")) _
      split
      · exact (yields_addItems hparse opts h _ _ _).bind fun _ h => ih _ h _
      split
      · exact (ih _ h _).bind fun _ h => (yields_addQuote hparse h _).bind fun _ h => ih _ h _
      split
      · next id text _ _ =>
        exact (Yields.of_modify fun d => d.grows_insert id text).bind fun _ _ => ih _ h _
      split
      · exact (Yields.of_modify fun d => ⟨List.prefix_refl _, fun hn => hn⟩).bind fun _ _ =>
          ih _ h _
      · exact ih _ (plain_addParagraph h place block) _

theorem yields_parseText (opts : BlockOptions) (h : parent.Plain) (s : Text) :
    Yields Grows Plain (parseText opts parent s) :=
  yields_parseBlocks opts _ _ h _

end Markdown

end WikiText
