import WikiText.Markdown.Inline.Tree
import WikiText.Proofs.Html.Every
import WikiText.Proofs.Markdown.Pieces
import WikiText.Proofs.Text.Pieces
import WikiText.Proofs.Text.Search

/-!
# Text that is left alone

Every rule looks for certain characters.  A text without them goes through all rules as it is, and a
tree in which there is no other text is read into itself: see `readBelow_of_still`.
-/

namespace WikiText.Markdown

open Html

/-! ## What the rules look for -/

section Miss

variable {c : Char} {s : Text} (before : Option Char)

theorem codeHit_of_ne (htick : c ≠ '\x60') (hescape : c ≠ '\\') :
    codeHit before (c :: s) = .miss := by
  rw [codeHit]
  split
  · rfl
  · exact (if_neg htick).trans (if_neg hescape)

theorem escapeHit_of_ne (ctx : InlineContext) (h : c ≠ '\\') :
    escapeHit ctx before (c :: s) = .miss := by
  rw [escapeHit]
  rintro _ _ he
  exact h (List.cons.inj he).1

theorem imageText?_of_ne (h : c ≠ '!') : imageText? (c :: s) = none := by
  rw [imageText?]
  rintro _ he
  exact h (List.cons.inj he).1

theorem angled?_of_ne (allowed : Char → Bool) (h : c ≠ '<') : angled? allowed (c :: s) = none := by
  rw [angled?]
  rintro _ he
  exact h (List.cons.inj he).1

theorem lineBreakHit_of_not_mem (h : '\n' ∉ s) : lineBreakHit before s = .miss := by
  rw [lineBreakHit]
  rintro rest rfl
  exact h (by simp)

theorem markup?_of_ne (h : c ≠ '<') : markup? (c :: s) = none := by
  have htag : tag? (c :: s) = none := by
    rw [tag?]
    rintro _ he
    exact h (List.cons.inj he).1
  have hcomment : comment? (c :: s) = none := by
    have hstrip : Text.strip? "<!--".toList (c :: s) = none := if_neg (Ne.symm h)
    rw [comment?, hstrip]
    rfl
  rw [markup?, htag, hcomment]
  rfl

theorem reference?_of_ne (h : c ≠ '&') : reference? (c :: s) = none := by
  rw [reference?]
  rintro _ he
  exact h (List.cons.inj he).1

theorem looseMarksHit_of_ne (hstar : c ≠ '*') (hline : c ≠ '_') :
    looseMarksHit before (c :: s) = .miss := by
  rw [looseMarksHit]
  exact if_neg (by simp [hstar, hline])

theorem emphasisHit_of_ne {mark : EmphasisMark} (h : c ≠ mark.char) :
    emphasisHit mark before (c :: s) = .miss := by
  rw [emphasisHit]
  exact if_neg (by simpa using h)

end Miss

/-- An image begins with two characters. -/
theorem imageText?_of_not_mem {c : Char} {s : Text} (h : '[' ∉ s) : imageText? (c :: s) = none := by
  rw [imageText?]
  rintro _ he
  exact h ((List.cons.inj he).2 ▸ List.mem_cons_self)

theorem nowhere_imageText?_of_not_mem {s : Text} (h : '[' ∉ s) : Text.Nowhere imageText? s := by
  induction s with
  | nil => trivial
  | cons c s ih =>
    have hs := List.not_mem_of_not_mem_cons h
    exact ⟨Option.isNone_iff_eq_none.2 (imageText?_of_not_mem hs), ih hs⟩

/-- The characters that rules other than that of anchors look for. -/
def triggers : Text := "\\\x60!<&*_\n".toList

/-- No rule but that of anchors finds anything in the text. -/
def Quiet (s : Text) : Prop := ∀ c ∈ s, c ∉ triggers

instance (s : Text) : Decidable (Quiet s) := inferInstanceAs (Decidable (∀ c ∈ s, c ∉ triggers))

theorem Quiet.not_mem {s : Text} (h : Quiet s) {d : Char} (hd : d ∈ triggers) : d ∉ s :=
  fun hmem => h d hmem hd

/-- No rule but those of anchors and of images finds anything in the text. -/
def Hushed (s : Text) : Prop := ∀ c ∈ s, c ∈ triggers → c = '!'

theorem Hushed.not_mem {s : Text} (h : Hushed s) {d : Char} (hd : d ∈ triggers) (hne : d ≠ '!') :
    d ∉ s :=
  fun hmem => hne (h d hmem hd)

theorem Quiet.hushed {s : Text} (h : Quiet s) : Hushed s := fun c hc hmem => absurd hmem (h c hc)

theorem Quiet.nowhere_imageText? {s : Text} (h : Quiet s) : Text.Nowhere imageText? s :=
  Text.nowhere_of_not_mem (fun _ _ hc => imageText?_of_ne hc) (h.not_mem (by decide))

namespace Rule

/-- The rules of images. -/
def imageRules : List Rule := [image, imageReference, shortImageReference]

theorem hit_of_hushed (ctx : InlineContext) (before : Option Char) {c : Char} {s : Text}
    (h : Hushed (c :: s)) {r : Rule} (himage : r ∈ imageRules → imageText? (c :: s) = none)
    (st : InlineState) : r.hit ctx before (c :: s) st = (.miss, st) := by
  have hne : ∀ d ∈ triggers, d ≠ '!' → c ≠ d := fun d hd hmark hcd =>
    h.not_mem hd hmark (hcd ▸ List.mem_cons_self)
  have hangled : ∀ f, angled? f (c :: s) = none := fun f =>
    angled?_of_ne f (hne _ (by decide) (by decide))
  cases r with
  | code =>
    exact congrArg (·, st) (codeHit_of_ne before (hne _ (by decide) (by decide))
      (hne _ (by decide) (by decide)))
  | escape =>
    exact congrArg (·, st) (escapeHit_of_ne before ctx (hne _ (by decide) (by decide)))
  | anchor => rfl
  | image => exact congrArg (·, st) (by rw [imageHit, himage (by decide)])
  | imageReference => exact congrArg (·, st) (by rw [imageReferenceHit, himage (by decide)])
  | shortImageReference =>
    exact congrArg (·, st) (by rw [shortImageReferenceHit, himage (by decide)])
  | url => exact congrArg (·, st) (by rw [urlHit, hangled])
  | mail => exact congrArg (·, st) (by rw [mailHit, hangled])
  | lineBreak =>
    exact congrArg (·, st) (lineBreakHit_of_not_mem before (h.not_mem (by decide) (by decide)))
  | markup =>
    rw [hit, rawHit, markup?_of_ne (hne _ (by decide) (by decide))]
  | reference =>
    rw [hit, rawHit, reference?_of_ne (hne _ (by decide) (by decide))]
  | looseMarks =>
    exact congrArg (·, st) (looseMarksHit_of_ne before (hne _ (by decide) (by decide))
      (hne _ (by decide) (by decide)))
  | emphasis mark =>
    refine congrArg (·, st) (emphasisHit_of_ne before ?_)
    cases mark with
    | asterisk => exact hne _ (by decide) (by decide)
    | lowLine => exact hne _ (by decide) (by decide)

theorem anchorHit_of_ne (b : Brackets) (before : Option Char) {c : Char} (hc : c ≠ '[') (s : Text)
    (st : InlineState) : anchorHit b before (c :: s) st = ((.miss, b), st) := by
  exact if_neg fun h => hc (Option.some.inj h.1)

/-- The rule leaves the text as it is: what it finds anywhere it lets pass, and it changes no
state. -/
def Leaves (ctx : InlineContext) (r : Rule) (s : Text) : Prop :=
  ∀ b before c t st, c :: t <:+ s → ∃ h b', r.find ctx b before (c :: t) st = ((h, b'), st) ∧
    (h = .miss ∨ ∃ rest, h = .pass rest ∧ rest <:+ t)

theorem leaves_of_hit (ctx : InlineContext) {r : Rule} (hr : r ≠ anchor) {s : Text}
    (h : ∀ before c t st, c :: t <:+ s → ∃ hit, r.hit ctx before (c :: t) st = (hit, st) ∧
      (hit = .miss ∨ ∃ rest, hit = .pass rest ∧ rest <:+ t)) : Leaves ctx r s := by
  intro b before c t st ht
  obtain ⟨hit, hhit, hkept⟩ := h before c t st ht
  refine ⟨hit, b, ?_, hkept⟩
  rw [find, if_neg hr, bind_apply, hhit]
  rfl

theorem leaves_of_hushed (ctx : InlineContext) {r : Rule} {s : Text} (h : Hushed s)
    (himage : r ∈ imageRules → Text.Nowhere imageText? s) (hr : r = anchor → '[' ∉ s) :
    Leaves ctx r s := by
  by_cases hanchor : r = anchor
  · intro b before c t st ht
    have hne : c ≠ '[' := fun hc => hr hanchor (ht.subset (hc ▸ List.mem_cons_self))
    refine ⟨.miss, b, ?_, .inl rfl⟩
    rw [find, if_pos hanchor, anchorHit_of_ne b before hne]
  · refine leaves_of_hit ctx hanchor fun before c t st ht => ⟨.miss, ?_, .inl rfl⟩
    refine hit_of_hushed ctx before (fun d hd => h d (ht.subset hd)) (fun hmem => ?_) st
    obtain ⟨g, rfl⟩ := ht
    exact (Text.nowhere_of_append (himage hmem)).eq_none

theorem leaves_of_quiet (ctx : InlineContext) {r : Rule} {s : Text} (h : Quiet s)
    (hr : r = anchor → '[' ∉ s) : Leaves ctx r s :=
  leaves_of_hushed ctx h.hushed (fun _ => h.nowhere_imageText?) hr

theorem Leaves.of_suffix {ctx : InlineContext} {r : Rule} {s t : Text} (h : Leaves ctx r s)
    (ht : t <:+ s) : Leaves ctx r t :=
  fun b before c u st hu => h b before c u st (hu.trans ht)

theorem passFrom_of_leaves {ctx : InlineContext} {r : Rule} {s : Text} (h : Leaves ctx r s)
    (finish : Element → InlineM Element) (fuel : Nat) (b : Brackets) (before : Option Char)
    (st : InlineState) : passFrom ctx finish r fuel b before s st = (s, st) := by
  induction fuel generalizing b before s with
  | zero => rfl
  | succ fuel ih =>
    cases s with
    | nil => rfl
    | cons c s =>
      obtain ⟨hit, b', hfind, rfl | ⟨rest, rfl, hrest⟩⟩ := h b before c s st List.suffix_rfl
      · rw [passFrom, bind_apply, hfind]
        dsimp only
        rw [bind_apply, ih (h.of_suffix (List.suffix_cons c s))]
        rfl
      · have hsuffix := hrest.trans (List.suffix_cons c s)
        rw [passFrom, bind_apply, hfind]
        dsimp only
        rw [bind_apply, ih (h.of_suffix hsuffix)]
        exact congrArg (·, st) (Text.eq_take_append_of_suffix hsuffix).symm

theorem applyWith_cons {ctx : InlineContext} {read : Reader} {r : Rule} {later : List Rule}
    {s out : Text} {st st' : InlineState}
    (h : pass ctx (finish read false r later) r s st = (out, st')) :
    applyWith ctx read false (r :: later) s st = applyWith ctx read false later out st' := by
  rw [applyWith, if_neg fun hlink => Bool.false_ne_true hlink.2, bind_apply, h]

theorem applyWith_cons_of_leaves {ctx : InlineContext} {r : Rule} {s : Text}
    (h : Leaves ctx r s) (read : Reader) (inLink : Bool) (later : List Rule) (st : InlineState) :
    applyWith ctx read inLink (r :: later) s st = applyWith ctx read inLink later s st := by
  rw [applyWith]
  split
  · rfl
  · rw [bind_apply, pass, passFrom_of_leaves h]

theorem applyWith_of_leaves (ctx : InlineContext) (read : Reader) (inLink : Bool)
    {rules : List Rule} {s : Text} (h : ∀ r ∈ rules, Leaves ctx r s) (st : InlineState) :
    applyWith ctx read inLink rules s st = (s, st) := by
  induction rules with
  | nil => rfl
  | cons r later ih =>
    rw [List.forall_mem_cons] at h
    rw [applyWith_cons_of_leaves h.1, ih h.2]

theorem applyTo_of_quiet (ctx : InlineContext) (depth : Nat) (inLink : Bool) {rules : List Rule}
    {s : Text} (h : Quiet s) (hanchor : anchor ∈ rules → '[' ∉ s) (st : InlineState) :
    applyTo ctx depth inLink rules s st = (s, st) := by
  cases depth with
  | zero => rfl
  | succ depth =>
    exact applyWith_of_leaves ctx _ inLink
      (fun r hr => leaves_of_quiet ctx h fun he => hanchor (he ▸ hr)) st

/-- An element with text in which nothing is found is finished. -/
theorem finish_of_quiet (ctx : InlineContext) (depth : Nat) (inLink : Bool) (r : Rule)
    {later : List Rule} (tag : Text) (attributes : List (Text × Text)) {s : Text} (h : Quiet s)
    (hanchor : anchor ∈ later → '[' ∉ s) (st : InlineState) :
    finish (applyTo ctx depth) inLink r later (.mk tag attributes ⟨s, false⟩ [] .empty) st =
      (.mk tag attributes ⟨s, false⟩ [] .empty, st) := by
  have hdata : ∀ inLink, finishData (applyTo ctx depth inLink later) ⟨s, false⟩ st =
      (⟨s, false⟩, st) := by
    intro inLink
    rw [finishData]
    split
    · rfl
    · rw [bind_apply, applyTo_of_quiet ctx depth inLink h hanchor]
      rfl
  have hinside : finishInside (applyTo ctx depth) inLink later
      (.mk tag attributes ⟨s, false⟩ [] .empty) st =
        (.mk tag attributes ⟨s, false⟩ [] .empty, st) := by
    rw [finishInside, bind_apply]
    dsimp only [Element.data]
    rw [hdata]
    rfl
  rw [finish]
  split
  · rfl
  · rw [bind_apply, hinside]
    rfl

/-- Of a text in which only the rule of anchors may find something, and leaves nothing else to be
found, the rules make what that rule makes of it. -/
theorem applyAll_of_leaves {ctx : InlineContext} {s out : Text} {st st' : InlineState}
    (h : Hushed s)
    (hpass : pass ctx (finish (applyTo ctx s.length) false anchor (all.drop 3)) anchor s st =
      (out, st'))
    (hout : ∀ r ∈ all.drop 3, Leaves ctx r out) : applyAll ctx false s st = (out, st') := by
  have hcode : Leaves ctx code s :=
    leaves_of_hushed ctx h (fun hmem => absurd hmem (by decide)) fun hr => by cases hr
  have hescape : Leaves ctx escape s :=
    leaves_of_hushed ctx h (fun hmem => absurd hmem (by decide)) fun hr => by cases hr
  calc applyAll ctx false s st
      = applyWith ctx (applyTo ctx s.length) false (code :: escape :: anchor :: all.drop 3) s st :=
        rfl
    _ = applyWith ctx (applyTo ctx s.length) false (anchor :: all.drop 3) s st := by
        rw [applyWith_cons_of_leaves hcode, applyWith_cons_of_leaves hescape]
    _ = applyWith ctx (applyTo ctx s.length) false (all.drop 3) out st' := applyWith_cons hpass
    _ = (out, st') := applyWith_of_leaves ctx _ false hout st'

end Rule

/-! ## Text without markers -/

namespace Node

/-- No marker of a piece stands in the text. -/
abbrev Unmarked : Text → Prop := Text.Nowhere marker?

theorem marker?_of_ne (c : Char) (s : Text) (h : c ≠ Stash.opening) : marker? (c :: s) = none := by
  have hstrip : Text.strip? opening (c :: s) = none := if_neg (Ne.symm h)
  rw [marker?, hstrip]
  rfl

theorem replaceMarkers_of_unmarked (f : Nat → Text) {s : Text} (h : Unmarked s) :
    replaceMarkers f s = s := by
  induction s with
  | nil =>
    rw [replaceMarkers]
    rfl
  | cons c s ih =>
    rw [replaceMarkers]
    split
    · next hsome => exact absurd (h.eq_none.symm.trans hsome) (Option.some_ne_none _).symm
    · exact congrArg (c :: ·) (ih h.2)

theorem restoreText_of_unmarked (nodes : Array Node) {s : Text} (h : Unmarked s) :
    restoreText nodes s = s := replaceMarkers_of_unmarked _ h

section Expand

variable (place : Element → Element) (nodes : Array Node)

theorem expandText_of_unmarked (fuel : Nat) {s : Text} (h : Unmarked s) :
    expandText place nodes fuel s = (⟨s, false⟩, []) := by
  induction fuel generalizing s with
  | zero => rfl
  | succ fuel ih =>
    cases s with
    | nil => rfl
    | cons c s =>
      rw [expandText, h.eq_none]
      dsimp only
      rw [ih h.2]
      rfl

theorem expandData_of_unmarked {d : Data} (h : Unmarked d.text) :
    expandData place nodes d = (d, []) := by
  rw [expandData, expandText_of_unmarked place nodes _ h]
  cases d
  simp

theorem expandInside_of_unmarked {e : Element} (h : Unmarked e.data.text) :
    expandInside place nodes e = e := by
  rw [expandInside, expandData_of_unmarked place nodes h]
  cases e
  exact ite_self _

theorem expandAfter_of_unmarked {e : Element} (h : Unmarked e.tail.text) :
    expandAfter place nodes e = [e] := by
  rw [expandAfter, expandData_of_unmarked place nodes h]
  cases e
  exact ite_self _

/-- An element without markers, in it and in and after its children, is in its place. -/
theorem placeElement_of_unmarked (fuel : Nat) {e : Element} (h : Unmarked e.data.text)
    (hchildren : ∀ c ∈ e.children, Unmarked c.data.text ∧ Unmarked c.tail.text) :
    placeElement nodes fuel e = e := by
  cases fuel with
  | zero => rfl
  | succ fuel =>
    have hsame : e.children.flatMap (fun child => expandAfter (placeElement nodes fuel) nodes
        (expandInside (placeElement nodes fuel) nodes child)) = e.children := by
      rw [List.flatMap_congr (g := fun c => [c]) fun c hc => ?_, List.flatMap_singleton']
      rw [expandInside_of_unmarked _ nodes (hchildren c hc).1,
        expandAfter_of_unmarked _ nodes (hchildren c hc).2]
    rw [placeElement, hsame]
    cases e
    exact expandInside_of_unmarked _ nodes h

end Expand

theorem expand_of_unmarked (nodes : Array Node) {d : Data} (h : Unmarked d.text) :
    expand nodes d = (d, []) := expandData_of_unmarked _ nodes h

end Node

/-! ## Trees -/

open Rule (bind_apply)

/-- The text in an element is not read, or there is nothing to be found in it; and no text stands
after the element. -/
def IsStill (e : Element) : Prop :=
  (e.data.final = true ∨ Quiet e.data.text ∧ '[' ∉ e.data.text ∧ Node.Unmarked e.data.text) ∧
    e.tail.isEmpty = true

theorem readInside_of_still (ctx : InlineContext) (inLink : Bool) {e : Element} (h : IsStill e)
    (st : InlineState) : readInside ctx inLink e st = ((e.data, []), st) := by
  rw [readInside]
  split
  · rfl
  · next hread =>
    rw [Bool.or_eq_true, not_or] at hread
    obtain ⟨hquiet, hbracket, hunmarked⟩ := h.1.resolve_left hread.1
    have hdata : (⟨e.data.text, false⟩ : Data) = e.data := by
      rw [← eq_false_of_ne_true hread.1]
    rw [bind_apply, Rule.applyAll, Rule.applyTo_of_quiet ctx _ _ hquiet fun _ => hbracket]
    refine congrArg (·, st) (.trans ?_ (Node.expand_of_unmarked st.nodes hunmarked))
    exact congrArg (Node.expand st.nodes) hdata

theorem readAfter_of_isEmpty (ctx : InlineContext) (inLink : Bool) {e : Element}
    (h : e.tail.isEmpty = true) : readAfter ctx inLink e = pure (e.tail, []) := by
  rw [readAfter, if_pos h]

theorem weight_pos (e : Element) : 0 < weight e := by
  cases e
  rw [weight]
  omega

theorem sweep_of_still (ctx : InlineContext) (inLink : Bool) (fuel : Nat) {es : List Element}
    (h : ∀ e ∈ es, IsStill e) (st : InlineState) :
    sweep ctx inLink fuel es st = (es.map (⟨·, []⟩), st) := by
  induction fuel generalizing es with
  | zero => rfl
  | succ fuel ih =>
    cases es with
    | nil => rfl
    | cons e es =>
      rw [List.forall_mem_cons] at h
      rw [sweep, bind_apply, readInside_of_still ctx inLink h.1,
        readAfter_of_isEmpty ctx inLink h.1.2]
      dsimp only
      rw [pure_bind, bind_apply, List.nil_append, ih h.2]
      cases e
      rfl

theorem mapM_apply_of_pure {α β : Type} {f : α → InlineM β} {g : α → β} {as : List α}
    (h : ∀ a ∈ as, ∀ st, f a st = (g a, st)) (st : InlineState) :
    as.mapM f st = (as.map g, st) := by
  induction as generalizing st with
  | nil => rfl
  | cons a as ih =>
    rw [List.forall_mem_cons] at h
    rw [List.mapM_cons, bind_apply, h.1, bind_apply, ih h.2]
    rfl

theorem readBelow_swept_of_still {read : Bool → List Element → InlineM (List Element)}
    (hread : ∀ inLink es st, (∀ e ∈ es, e.Every IsStill) → read inLink es st = (es, st))
    (inLink : Bool) {e : Element} (h : e.Every IsStill) (st : InlineState) :
    Swept.readBelow read inLink ⟨e, []⟩ st = (e, st) := by
  have hsame : e.withChildren e.children = e := by cases e; rfl
  rw [Swept.readBelow, List.mapM_nil, pure_bind, List.nil_append]
  split
  · next hnil =>
    rw [List.isEmpty_iff.1 hnil] at hsame
    exact congrArg (·, st) hsame
  · rw [bind_apply, hread _ _ _ (Element.every_iff.1 h).2]
    exact congrArg (·, st) hsame

/-- A tree without anything to be found in it is read into itself. -/
theorem readBelow_of_still (ctx : InlineContext) (fuel : Nat) (inLink : Bool) {es : List Element}
    (h : ∀ e ∈ es, e.Every IsStill) (st : InlineState) :
    readBelow ctx fuel inLink es st = (es, st) := by
  induction fuel generalizing inLink es st with
  | zero => rfl
  | succ fuel ih =>
    have hes : ∀ e ∈ es, IsStill e := fun e he => (Element.every_iff.1 (h e he)).1
    rw [readBelow, bind_apply, sweep_of_still ctx inLink _ hes]
    dsimp only
    rw [mapM_apply_of_pure (g := Swept.element)]
    · rw [List.map_map]
      exact congrArg (·, st) (List.map_id es)
    rintro _ hs st
    obtain ⟨e, he, rfl⟩ := List.mem_map.1 hs
    exact readBelow_swept_of_still (fun _ _ st hes => ih _ hes st) inLink (h e he) st

end WikiText.Markdown
