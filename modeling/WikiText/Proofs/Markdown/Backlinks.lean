import WikiText.Proofs.Markdown.Pieces

/-!
# First references

The first reference to a footnote carries the identifier to which the footnote links back.  While
the text of a document is read, such a reference is put aside for each footnote as it is registered,
and no other: the identifiers among the pieces are those of the registered footnotes, in their
order.  This is what `Leads` says of two states, and every rule keeps it (`leads_applyAll`).
-/

namespace WikiText.Markdown

open Html

/-- The identifier that a reference to a footnote carries. -/
def Node.referenceId? : Node → Option Text
  | .element e => if e.hasTag "sup" then e.attribute? "id" else none
  | .text _ => none

namespace InlineState

/-- The identifiers of the references put aside. -/
def referenceIds (st : InlineState) : List Text := st.nodes.toList.filterMap Node.referenceId?

/-- The footnotes registered on the way from one state to another are those to which references with
identifiers were put aside. -/
def Leads (st st' : InlineState) : Prop :=
  ∃ ids, st'.render.found = st.render.found ++ ids ∧
    st'.referenceIds = st.referenceIds ++ ids.map Anchor.footnoteReferenceId

theorem Leads.of_eq {st st' : InlineState} (hrender : st'.render = st.render)
    (hnodes : st'.nodes = st.nodes) : Leads st st' :=
  ⟨[], by rw [hrender, List.append_nil], by
    rw [referenceIds, hnodes, List.map_nil, List.append_nil, referenceIds]⟩

instance : Std.Refl Leads := ⟨fun _ => .of_eq rfl rfl⟩

instance : IsTrans InlineState Leads where
  trans st st' st'' := by
    rintro ⟨ids, hfound, hids⟩ ⟨more, hfound', hids'⟩
    exact ⟨ids ++ more, by rw [hfound', hfound, List.append_assoc],
      by rw [hids', hids, List.append_assoc, List.map_append]⟩

end InlineState

open InlineState (Leads)

theorem referenceIds_putAside (n : Node) (st : InlineState) :
    (Node.putAside n st).2.referenceIds = st.referenceIds ++ n.referenceId?.toList := by
  rw [Node.putAside, InlineState.referenceIds, Array.toList_push, List.filterMap_append,
    InlineState.referenceIds]
  cases h : n.referenceId? with
  | none => rw [List.filterMap_cons_none h]; rfl
  | some id => rw [List.filterMap_cons_some h]; rfl

theorem referenceId?_of_hasTag {e : Element} (h : e.hasTag "sup" = false) :
    (Node.element e).referenceId? = none := by rw [Node.referenceId?, h]; rfl

/-! ## One rule -/

/-- What was found carries the identifiers of the references to these footnotes. -/
def Hit.Carries (ids : List Text) : Hit → Prop
  | .piece n _ => n.referenceId?.toList = ids.map Anchor.footnoteReferenceId
  | _ => ids = []

theorem Hit.Level.carries {h : Hit} (hh : h.Level) : h.Carries [] := by
  cases h with
  | miss => rfl
  | pass rest => rfl
  | piece n rest =>
    cases n with
    | text s => rfl
    | element e => exact congrArg Option.toList (referenceId?_of_hasTag (hh e rest rfl))

/-- The element of an anchor carries the identifier of the anchor. -/
theorem referenceId?_element (a : Anchor) :
    (Node.element a.element).referenceId? = Anchor.present a.refId? := by
  have hsup (id : Option Text) (link : Element) :
      (Node.element ((Anchor.setIf "id" id (.ofTag "sup")).push link)).referenceId? = id := by
    cases id <;> rfl
  cases ha : a.target with
  | footnote href label refId =>
    rw [Anchor.element, ha, Anchor.refId?, ha]
    exact hsup _ _
  | link id href title =>
    rw [Anchor.refId?, ha]
    exact referenceId?_of_hasTag (Rule.hasTag_element_link ha)

/-- Noting an anchor registers the footnote whose identifier its element carries. -/
theorem carries_of_noted {st st' : RenderState} {a : Anchor} (rest : Text)
    (h : Anchor.Call.Noted st (some a) st') :
    ∃ ids, st'.found = st.found ++ ids ∧ (Hit.piece (.element a.element) rest).Carries ids := by
  have hids := congrArg Option.toList (referenceId?_element a)
  cases h with
  | other hfound _ ha =>
    rw [(ha a rfl).1] at hids
    exact ⟨[], by rw [hfound, List.append_nil], hids⟩
  | @footnote _ id _ _ _ href =>
    rw [href] at hids
    by_cases hid : id ∈ st.found
    · rw [if_pos hid] at hids
      exact ⟨[], by rw [RenderState.found_register_of_mem hid, List.append_nil], hids⟩
    · rw [if_neg hid] at hids
      exact ⟨[id], RenderState.found_register_of_not_mem hid, hids⟩

namespace Rule

/-- What a rule finds carries the identifiers of the footnotes that it registers. -/
def Registers (st st' : InlineState) (h : Hit) : Prop :=
  st'.nodes = st.nodes ∧ ∃ ids, st'.render.found = st.render.found ++ ids ∧ h.Carries ids

theorem Registers.of_level {st st' : InlineState} {h : Hit} (hh : h.Level)
    (hrender : st'.render = st.render) (hnodes : st'.nodes = st.nodes) : Registers st st' h :=
  ⟨hnodes, [], by rw [hrender, List.append_nil], hh.carries⟩

theorem registers_anchorHit (b : Brackets) (before : Option Char) (s : Text) (st : InlineState) :
    Registers st (anchorHit b before s st).2 (anchorHit b before s st).1.1 := by
  rw [anchorHit]
  split
  · have hnoted := Anchor.Call.noted
      ⟨Node.restoreText st.nodes, b, b.text.length - s.length⟩ st.render
    rw [Anchor.Call.resolve] at hnoted
    rcases hresolve : Anchor.resolve (Node.restoreText st.nodes) b (b.text.length - s.length)
      st.render with ⟨_ | a, b', render⟩
    · rw [hresolve] at hnoted
      cases hnoted with
      | other hfound =>
        exact ⟨rfl, [], by rw [List.append_nil]; exact hfound, rfl⟩
    · rw [hresolve] at hnoted
      exact ⟨rfl, carries_of_noted _ hnoted⟩
  · exact .of_level level_miss rfl rfl

theorem registers_find (ctx : InlineContext) (r : Rule) (b : Brackets) (before : Option Char)
    (s : Text) (st : InlineState) :
    Registers st (r.find ctx b before s st).2 (r.find ctx b before s st).1.1 := by
  rw [find]
  split
  · exact registers_anchorHit b before s st
  · obtain ⟨hrender, hnodes⟩ := hit_keeps ctx before s r st
    exact .of_level (level_hit ctx before s r st) hrender hnodes

/-- What was found is finished and put aside, and then its identifiers are among those put aside. -/
theorem leads_piece {read : Reader}
    (hread : ∀ inLink rules s, Yields Leads (fun _ => True) (read inLink rules s))
    (inLink : Bool) (r : Rule) (later : List Rule) {e : Element} {rest : Text}
    {found : List Text} {st st' : InlineState} (h : Registers st st' (.piece (.element e) rest))
    (hsound : Sound found (.piece (.element e) rest)) :
    Leads st (Node.putAside (.element (finish read inLink r later e st').1)
      (finish read inLink r later e st').2).2 := by
  obtain ⟨hnodes, ids, hfound, hids⟩ := h
  have hsame : st'.referenceIds = st.referenceIds := by
    rw [InlineState.referenceIds, hnodes, InlineState.referenceIds]
  rcases hsound e rest rfl with htag | ⟨-, a, href, label, refId, rfl, ha⟩
  · -- nothing is registered with an element that is not raised
    obtain ⟨⟨more, hmore, hmoreIds⟩, he⟩ := yields_finish hread inLink r later e st'
    have htag' : (finish read inLink r later e st').1.hasTag "sup" = false := by
      rwa [Element.hasTag, he]
    obtain rfl : ids = [] := by
      rw [Hit.Carries, referenceId?_of_hasTag htag] at hids
      exact List.map_eq_nil_iff.1 hids.symm
    refine ⟨more, ?_, ?_⟩
    · exact hmore.trans (by rw [hfound, List.append_nil])
    · rw [referenceIds_putAside, referenceId?_of_hasTag htag', hmoreIds, hsame]
      exact List.append_nil _
  · -- nothing stands inside a reference, so finishing it registers nothing
    rw [finish_footnote read inLink r later ha]
    exact ⟨ids, hfound, by rw [referenceIds_putAside, ← hids]; exact congrArg (· ++ _) hsame⟩

/-- Where nothing was found that could carry an identifier, nothing was registered. -/
theorem Registers.leads {st st' : InlineState} {h : Hit} (hregisters : Registers st st' h)
    (hnone : ∀ ids, h.Carries ids → ids = []) : Leads st st' := by
  obtain ⟨hnodes, ids, hfound, hids⟩ := hregisters
  obtain rfl := hnone ids hids
  exact ⟨[], hfound, by rw [InlineState.referenceIds, hnodes, List.map_nil, List.append_nil]; rfl⟩

theorem leads_passFrom (ctx : InlineContext) {read : Reader}
    (hread : ∀ inLink rules s, Yields Leads (fun _ => True) (read inLink rules s))
    (inLink : Bool) (r : Rule) (later : List Rule) (fuel : Nat) (b : Brackets)
    (before : Option Char) (s : Text) :
    Yields Leads (fun _ => True) (passFrom ctx (finish read inLink r later) r fuel b before s) := by
  induction fuel generalizing b before s with
  | zero => exact .pure trivial
  | succ fuel ih =>
    cases s with
    | nil => exact .pure trivial
    | cons c s =>
      intro st
      refine ⟨?_, trivial⟩
      have hregisters := registers_find ctx r b before (c :: s) st
      have hsound := (grows_find ctx r b before (c :: s) st).2
      rw [passFrom, bind_apply]
      generalize r.find ctx b before (c :: s) st = found at hregisters hsound
      obtain ⟨⟨hit, b'⟩, st'⟩ := found
      have hgoOn : ∀ (b : Brackets) (before : Option Char) (s : Text) (f : Text → Text),
          Yields Leads (fun _ => True)
            (do return f (← passFrom ctx (finish read inLink r later) r fuel b before s)) :=
        fun b before s f => (ih b before s).bind fun _ _ => .pure trivial
      cases hit with
      | miss =>
        exact trans_of Leads (hregisters.leads fun _ h => h) (hgoOn b' (some c) s (c :: ·) st').1
      | pass rest =>
        exact trans_of Leads (hregisters.leads fun _ h => h) (hgoOn b' _ rest _ st').1
      | piece n rest =>
        cases n with
        | text t =>
          have hput : Leads st' (Node.putAside (.text t) st').2 :=
            ⟨[], (List.append_nil _).symm, referenceIds_putAside _ _⟩
          exact trans_of Leads
            (trans_of Leads (hregisters.leads fun _ h => List.map_eq_nil_iff.1 h.symm) hput)
            (hgoOn (.ofText rest) (some Stash.closing) rest _ _).1
        | element e =>
          exact trans_of Leads (leads_piece hread inLink r later hregisters hsound)
            (hgoOn (.ofText rest) (some Stash.closing) rest _ _).1

/-- Rules put aside a reference with an identifier for each footnote that they register, and no
other. -/
theorem leads_applyAll (ctx : InlineContext) (inLink : Bool) (s : Text) :
    Yields Leads (fun _ => True) (applyAll ctx inLink s) :=
  yields_applyTo (fun _ hread inLink r later s => leads_passFrom ctx hread inLink r later _ _ _ s)
    _ inLink all s

end Rule

end WikiText.Markdown
