import WikiText.Markdown.Inline.Tree
import WikiText.Proofs.Markdown.Pieces

/-!
# What the reading of text does to a tree

Reading the text in a tree of blocks adds the elements that come out of it, and leaves every other
element where it is, with its tag and attributes: see `yields_readInline`.
-/

namespace WikiText.Markdown

open Html

/-! ## Lists side by side -/

section Forall₂

variable {α β γ : Type} {R : α → β → Prop} {as as' : List α} {bs : List β}

theorem exists_of_forall₂_append (h : List.Forall₂ R (as ++ as') bs) :
    ∃ bs₁ bs₂, bs = bs₁ ++ bs₂ ∧ List.Forall₂ R as bs₁ ∧ List.Forall₂ R as' bs₂ :=
  ⟨bs.take as.length, bs.drop as.length, (List.take_append_drop _ _).symm,
    (List.forall₂_take_append bs as as' h.flip).flip,
    (List.forall₂_drop_append bs as as' h.flip).flip⟩

theorem forall₂_comp {S : β → γ → Prop} {T : α → γ → Prop} {cs : List γ}
    (hT : ∀ a b c, R a b → S b c → T a c) (h : List.Forall₂ R as bs) (h' : List.Forall₂ S bs cs) :
    List.Forall₂ T as cs := by
  induction h generalizing cs with
  | nil =>
    cases h'
    exact .nil
  | cons hR _ ih =>
    cases h' with
    | cons hS hs => exact .cons (hT _ _ _ hR hS) (ih hs)

theorem exists_getElem?_of_forall₂ (h : List.Forall₂ R as bs) {i : Nat} {a : α}
    (ha : as[i]? = some a) : ∃ b, bs[i]? = some b ∧ R a b := by
  obtain ⟨hi, rfl⟩ := List.getElem?_eq_some_iff.1 ha
  exact ⟨bs.get ⟨i, h.length_eq ▸ hi⟩, List.getElem?_eq_getElem _, h.get hi _⟩

theorem exists_mem_of_forall₂ (h : List.Forall₂ R as bs) {a : α} (ha : a ∈ as) :
    ∃ b ∈ bs, R a b := by
  obtain ⟨i, hi⟩ := List.mem_iff_getElem?.1 ha
  obtain ⟨b, hb, hR⟩ := exists_getElem?_of_forall₂ h hi
  exact ⟨b, List.mem_of_getElem? hb, hR⟩

theorem exists_of_forall₂_pair {a a' : α} (h : List.Forall₂ R [a, a'] bs) :
    ∃ b b', bs = [b, b'] ∧ R a b ∧ R a' b' := by
  obtain ⟨b, _, hb, htail, rfl⟩ := List.forall₂_cons_left_iff.1 h
  obtain ⟨b', _, hb', hnil, rfl⟩ := List.forall₂_cons_left_iff.1 htail
  obtain rfl := List.forall₂_nil_left_iff.1 hnil
  exact ⟨b, b', rfl, hb, hb'⟩

end Forall₂

/-! ## Trees with their text read -/

mutual

/-- `e'` is `e` with its text read. New elements stand before its children, or after a child, and
only where there was text. -/
def ReadAs : Element → Element → Prop
  | .mk tag attributes data children _, e' =>
    e'.tag = tag ∧ e'.attributes = attributes ∧ ∃ fresh kept, e'.children = fresh ++ kept ∧
      (data.isEmpty = true → fresh = []) ∧ AllReadAs children kept

/-- Elements with their text read, and the text after them. -/
def AllReadAs : List Element → List Element → Prop
  | [], es' => es' = []
  | e :: es, es' => ∃ e' fresh kept, es' = e' :: (fresh ++ kept) ∧
      (e.tail.isEmpty = true → fresh = []) ∧ ReadAs e e' ∧ AllReadAs es kept

end

theorem readAs_iff {e e' : Element} : ReadAs e e' ↔ e'.tag = e.tag ∧ e'.attributes = e.attributes ∧
    ∃ fresh kept, e'.children = fresh ++ kept ∧ (e.data.isEmpty = true → fresh = []) ∧
      AllReadAs e.children kept := by
  cases e
  exact Iff.rfl

mutual

theorem readAs_refl : ∀ e : Element, ReadAs e e
  | .mk _ _ _ children _ => ⟨rfl, rfl, [], children, rfl, fun _ => rfl, allReadAs_refl children⟩

theorem allReadAs_refl : ∀ es : List Element, AllReadAs es es
  | [] => rfl
  | e :: es => ⟨e, [], es, rfl, fun _ => rfl, readAs_refl e, allReadAs_refl es⟩

end

theorem exists_of_allReadAs_append {es fs rs : List Element} (h : AllReadAs (es ++ fs) rs) :
    ∃ rs₁ rs₂, rs = rs₁ ++ rs₂ ∧ AllReadAs es rs₁ ∧ AllReadAs fs rs₂ := by
  induction es generalizing rs with
  | nil => exact ⟨[], rs, rfl, rfl, h⟩
  | cons e es ih =>
    obtain ⟨e', fresh, kept, rfl, hfresh, he, hkept⟩ := h
    obtain ⟨rs₁, rs₂, rfl, h₁, h₂⟩ := ih hkept
    exact ⟨e' :: (fresh ++ rs₁), rs₂, by simp, ⟨e', fresh, rs₁, rfl, hfresh, he, h₁⟩, h₂⟩

/-- Where no text follows the elements, nothing new stands among them. -/
theorem forall₂_of_allReadAs {es rs : List Element} (h : AllReadAs es rs)
    (htail : ∀ e ∈ es, e.tail.isEmpty = true) : List.Forall₂ ReadAs es rs := by
  induction es generalizing rs with
  | nil =>
    obtain rfl : rs = [] := h
    exact .nil
  | cons e es ih =>
    obtain ⟨e', fresh, kept, rfl, hfresh, he, hkept⟩ := h
    rw [List.forall_mem_cons] at htail
    rw [hfresh htail.1, List.nil_append]
    exact .cons he (ih hkept htail.2)

theorem exists_mem_of_allReadAs {es rs : List Element} (h : AllReadAs es rs) {e : Element}
    (he : e ∈ es) : ∃ r ∈ rs, ReadAs e r := by
  induction es generalizing rs with
  | nil => exact absurd he List.not_mem_nil
  | cons d es ih =>
    obtain ⟨e', fresh, kept, rfl, -, hd, hkept⟩ := h
    rcases List.mem_cons.1 he with rfl | he
    · exact ⟨e', List.mem_cons_self, hd⟩
    · obtain ⟨r, hr, hread⟩ := ih hkept he
      exact ⟨r, List.mem_cons_of_mem _ (List.mem_append_right _ hr), hread⟩

/-! ## One level of a tree -/

/-- An element whose own text was read; new elements only come out of text. -/
def Sweeps (e : Element) (s : Swept) : Prop :=
  s.element.tag = e.tag ∧ s.element.attributes = e.attributes ∧ s.element.children = e.children ∧
    (e.data.isEmpty = true → s.inserted = [])

/-- Elements whose own text was read, and the text after them. -/
def AllSwept : List Element → List Swept → Prop
  | [], ss => ss = []
  | e :: es, ss => ∃ s fresh kept, ss = s :: (fresh ++ kept) ∧
      (e.tail.isEmpty = true → fresh = []) ∧ Sweeps e s ∧ AllSwept es kept

theorem exists_of_allSwept_append {es fs : List Element} {ss : List Swept}
    (h : AllSwept (es ++ fs) ss) :
    ∃ ss₁ ss₂, ss = ss₁ ++ ss₂ ∧ AllSwept es ss₁ ∧ AllSwept fs ss₂ := by
  induction es generalizing ss with
  | nil => exact ⟨[], ss, rfl, rfl, h⟩
  | cons e es ih =>
    obtain ⟨s, fresh, kept, rfl, hfresh, he, hkept⟩ := h
    obtain ⟨ss₁, ss₂, rfl, h₁, h₂⟩ := ih hkept
    exact ⟨s :: (fresh ++ ss₁), ss₂, by simp, ⟨s, fresh, ss₁, rfl, hfresh, he, h₁⟩, h₂⟩

theorem allSwept_map (es : List Element) : AllSwept es (es.map fun e => ⟨e, []⟩) := by
  induction es with
  | nil => rfl
  | cons e es ih =>
    exact ⟨⟨e, []⟩, [], _, rfl, fun _ => rfl, ⟨rfl, rfl, rfl, fun _ => rfl⟩, ih⟩

section Yields

variable {R : InlineState → InlineState → Prop} [Std.Refl R] [IsTrans InlineState R]
  (ctx : InlineContext)
  (happly : ∀ inLink s, Yields R (fun _ => True) (Rule.applyAll ctx inLink s))
include happly

theorem yields_readInside (inLink : Bool) (e : Element) :
    Yields R (fun r => e.data.isEmpty = true → r.2 = []) (readInside ctx inLink e) := by
  rw [readInside]
  split
  · exact .pure fun _ => rfl
  · next hdata =>
    refine (happly _ _).bind fun s _ => .bind .get fun st _ => .pure fun h => ?_
    exact absurd (by rw [h, Bool.or_true]) hdata

theorem yields_readAfter (inLink : Bool) (e : Element) :
    Yields R (fun r => e.tail.isEmpty = true → r.2 = []) (readAfter ctx inLink e) := by
  rw [readAfter]
  split
  · exact .pure fun _ => rfl
  · next htail =>
    have hexpand : ∀ s : Text, Yields R (fun r => e.tail.isEmpty = true → r.2 = []) (do
        return Node.expand (← get).nodes ⟨s, e.tail.final⟩) := fun s =>
      .bind .get fun st _ => .pure fun h => absurd h htail
    split
    · exact hexpand e.tail.text
    · exact (happly _ _).bind fun s _ => hexpand s

theorem yields_sweep (inLink : Bool) (fuel : Nat) (es : List Element) :
    Yields R (AllSwept es) (sweep ctx inLink fuel es) := by
  induction fuel generalizing es with
  | zero => exact .pure (allSwept_map es)
  | succ fuel ih =>
    cases es with
    | nil => exact .pure rfl
    | cons e es =>
      rw [sweep]
      refine (yields_readInside ctx happly inLink e).bind fun (data, inserted) hinserted => ?_
      refine (yields_readAfter ctx happly inLink e).bind fun (tail, after) hafter => ?_
      refine (ih (after ++ es)).bind fun ss hss => .pure ?_
      obtain ⟨fresh, kept, rfl, hfresh, hkept⟩ := exists_of_allSwept_append hss
      refine ⟨_, fresh, kept, rfl, fun h => ?_, ?_, hkept⟩
      · rw [show after = [] from hafter h] at hfresh
        exact hfresh
      · cases e
        exact ⟨rfl, rfl, rfl, hinserted⟩

end Yields

/-! ## The levels below -/

/-- An element whose own text was read, with the text below it read. -/
def Completes (s : Swept) (r : Element) : Prop :=
  r.tag = s.element.tag ∧ r.attributes = s.element.attributes ∧
    ∃ fresh kept, r.children = fresh ++ kept ∧ (s.inserted = [] → fresh = []) ∧
      AllReadAs s.element.children kept

theorem readAs_of_completes {e r : Element} {s : Swept} (hs : Sweeps e s) (hr : Completes s r) :
    ReadAs e r := by
  obtain ⟨htag, hattributes, hchildren, hinserted⟩ := hs
  obtain ⟨htag', hattributes', fresh, kept, hr, hfresh, hkept⟩ := hr
  exact readAs_iff.2 ⟨htag'.trans htag, hattributes'.trans hattributes, fresh, kept, hr,
    fun h => hfresh (hinserted h), hchildren ▸ hkept⟩

theorem allReadAs_of_completes {es rs : List Element} {ss : List Swept} (hss : AllSwept es ss)
    (hrs : List.Forall₂ Completes ss rs) : AllReadAs es rs := by
  induction es generalizing ss rs with
  | nil =>
    obtain rfl : ss = [] := hss
    cases hrs
    rfl
  | cons e es ih =>
    obtain ⟨s, fresh, kept, rfl, hfresh, hs, hkept⟩ := hss
    cases hrs with
    | @cons _ r _ rs hr hrs =>
      obtain ⟨rs₁, rs₂, rfl, h₁, h₂⟩ := exists_of_forall₂_append hrs
      refine ⟨r, rs₁, rs₂, rfl, fun h => ?_, readAs_of_completes hs hr, ih hkept h₂⟩
      rw [hfresh h] at h₁
      exact List.forall₂_nil_left_iff.1 h₁

section Yields

variable {R : InlineState → InlineState → Prop} [Std.Refl R] [IsTrans InlineState R]
  (ctx : InlineContext)
  (happly : ∀ inLink s, Yields R (fun _ => True) (Rule.applyAll ctx inLink s))
include happly

theorem yields_readBelow (fuel : Nat) (inLink : Bool) (es : List Element) :
    Yields R (AllReadAs es) (readBelow ctx fuel inLink es) := by
  induction fuel generalizing inLink es with
  | zero => exact .pure (allReadAs_refl es)
  | succ fuel ih =>
    rw [readBelow]
    refine (yields_sweep ctx happly inLink _ es).bind fun ss hss => ?_
    refine (Yields.mapM (S := Completes) fun s _ => ?_).mono fun rs hrs =>
      allReadAs_of_completes hss hrs
    obtain ⟨e, inserted⟩ := s
    rw [Swept.readBelow]
    -- The new elements are read first, and then once more with the others.
    have hnew : ∀ i ∈ inserted, Yields R (fun _ => True) (do
        return i.withChildren (← readBelow ctx fuel ((inLink || e.hasTag "a") || i.hasTag "a")
          i.children)) := fun i _ => (ih _ _).bind fun _ _ => .pure trivial
    refine (Yields.mapM (S := fun _ _ => True) hnew).bind fun fresh hfresh => ?_
    have hempty : inserted = [] → fresh = [] := fun h =>
      List.forall₂_nil_left_iff.1 (h ▸ hfresh)
    split
    · next hchildren =>
      refine .pure ?_
      cases e with
      | mk tag attributes data children tail =>
        obtain rfl : children = [] := List.isEmpty_iff.1 hchildren
        exact ⟨rfl, rfl, fresh, [], (List.append_nil _).symm, hempty, rfl⟩
    · refine (ih _ _).bind fun rs hrs => .pure ?_
      obtain ⟨rs₁, rs₂, rfl, h₁, h₂⟩ := exists_of_allReadAs_append hrs
      have hnone : inserted = [] → rs₁ = [] := fun h => by
        rw [hempty h] at h₁
        exact h₁
      cases e
      exact ⟨rfl, rfl, rs₁, rs₂, rfl, hnone, h₂⟩

/-- Text is read everywhere in a tree. -/
theorem yields_readInline (root : Element) :
    Yields R (ReadAs root) (readInline ctx root) := by
  refine (yields_readBelow ctx happly _ _ _).bind fun rs hrs => .pure ?_
  cases root
  exact ⟨rfl, rfl, [], rs, rfl, fun _ => rfl, hrs⟩

end Yields

end WikiText.Markdown
