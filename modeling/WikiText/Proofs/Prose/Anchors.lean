import WikiText.Proofs.Prose.Links

/-!
# Links among words

A line of words and links is read by the rule of anchors from left to right: each link is put aside
whole, or stays and is reported, and what was reported before is not met again
(`comes_anchorsFrom`).  The pieces put aside then take their places (`sown_expand`).
-/

namespace WikiText.Prose

open Anchor (Outcome)
open Brackets (Agrees)
open Html (Data Element)
open Markdown
open Rule (bind_apply)
open Text (Balanced IsLetter)

/-! ## Lines -/

/-- A character of words and links. -/
def IsProse (c : Char) : Prop := IsLetter c ∨ c ∈ " []^()".toList

theorem IsProse.ne {c d : Char} (h : IsProse c) (hletter : ¬ IsLetter d)
    (hmark : d ∉ " []^()".toList) : c ≠ d := by
  rintro rfl
  exact h.elim hletter hmark

/-- A text in which links stand among other characters, nothing or a word behind each of them. -/
inductive Strewn : Text → List Written → Prop where
  | nil : Strewn [] []
  | char {c : Char} {s : Text} {ls : List Written} (hc : IsProse c) (hopen : c ≠ '[')
      (h : Strewn s ls) : Strewn (c :: s) ls
  | link {l : Written} {s : Text} {ls : List Written} (hl : l.IsPlain) (hs : Bounded s)
      (h : Strewn s ls) : Strewn (l.markup ++ s) (l :: ls)

theorem isProse_of_plain {w : Text} (h : Text.IsPlain w) : ∀ c ∈ w, IsProse c :=
  fun c hc => .inl (h.letters c hc)

theorem isProse_markup {l : Written} (hl : l.IsPlain) : ∀ c ∈ l.markup, IsProse c := by
  have hmark : ∀ c ∈ " []^()".toList, IsProse c := fun _ hc => .inr hc
  cases l with
  | footnote id =>
    have hid := isProse_of_plain hl
    simp only [Written.markup, Written.text, Written.secondPart, List.forall_mem_cons,
      List.forall_mem_append, List.cons_append]
    exact ⟨hmark _ (by decide), hmark _ (by decide), hid, hmark _ (by decide), by simp⟩
  | reference t g id =>
    obtain ⟨ht, rfl, hid⟩ := hl
    simp only [Written.markup, Written.text, Written.secondPart, List.forall_mem_cons,
      List.forall_mem_append, List.nil_append]
    exact ⟨hmark _ (by decide), isProse_of_plain ht, hmark _ (by decide), hmark _ (by decide),
      isProse_of_plain hid, hmark _ (by decide), by simp⟩
  | inline t u =>
    obtain ⟨ht, hu⟩ := hl
    simp only [Written.markup, Written.text, Written.secondPart, List.forall_mem_cons,
      List.forall_mem_append]
    exact ⟨hmark _ (by decide), isProse_of_plain ht, hmark _ (by decide), hmark _ (by decide),
      isProse_of_plain hu, hmark _ (by decide), by simp⟩
  | titled t u n mark w m => exact absurd hl not_false

theorem Strewn.isProse {s : Text} {ls : List Written} (h : Strewn s ls) : ∀ c ∈ s, IsProse c := by
  induction h with
  | nil => exact fun _ h => absurd h List.not_mem_nil
  | char hc _ _ ih => exact List.forall_mem_cons.2 ⟨hc, ih⟩
  | link hl _ _ ih => exact List.forall_mem_append.2 ⟨isProse_markup hl, ih⟩

theorem Strewn.append {w s : Text} {ls : List Written} (hw : ∀ c ∈ w, IsProse c ∧ c ≠ '[')
    (h : Strewn s ls) : Strewn (w ++ s) ls := by
  induction w with
  | nil => exact h
  | cons c w ih =>
    rw [List.forall_mem_cons] at hw
    exact .char hw.1.1 hw.1.2 (ih hw.2)

theorem bounded_of_word {w s : Text} (hw : Text.IsPlain w) (h : w <+: s) : Bounded (' ' :: s) := by
  obtain ⟨c, v, rfl⟩ := List.exists_cons_of_ne_nil hw.ne_nil
  obtain ⟨rest, rfl⟩ := h
  exact .inr ⟨c, v ++ rest, rfl, hw.letters c List.mem_cons_self⟩

theorem line_cons_cons (t u : Token) (ts : List Token) :
    line (t :: u :: ts) = t.written ++ ' ' :: line (u :: ts) := by
  simp [line, Text.joinWith]

theorem written_prefix_line (t : Token) (ts : List Token) : t.written <+: line (t :: ts) := by
  cases ts with
  | nil => exact List.prefix_rfl
  | cons u ts => exact line_cons_cons t u ts ▸ List.prefix_append _ _

theorem Strewn.token {t : Token} {s : Text} {ls : List Written} (ht : t.IsPlain)
    (hs : t.link? = none ∨ Bounded s) (h : Strewn s ls) :
    Strewn (t.written ++ s) (t.link?.toList ++ ls) := by
  cases t with
  | word w =>
    exact h.append fun c hc => ⟨isProse_of_plain ht c hc, (ht.letters c hc).ne (by decide)⟩
  | link l => exact .link ht (hs.resolve_left (Option.some_ne_none l)) h

theorem strewn_line {ts : List Token} (hts : ∀ t ∈ ts, t.IsPlain)
    (hapart : ts.IsChain fun t u => t.link? = none ∨ u.link? = none) :
    Strewn (line ts) (ts.filterMap Token.link?) := by
  induction ts with
  | nil => exact .nil
  | cons t ts ih =>
    rw [List.forall_mem_cons] at hts
    have hlinks : (t :: ts).filterMap Token.link? =
        t.link?.toList ++ ts.filterMap Token.link? := by
      rw [List.filterMap_cons]
      cases t.link? <;> rfl
    rw [hlinks]
    cases ts with
    | nil =>
      rw [line, List.map_singleton, Text.joinWith, ← List.append_nil t.written]
      exact .token hts.1 (.inr (.inl rfl)) .nil
    | cons u ts =>
      obtain ⟨hpair, hrest⟩ := List.isChain_cons_cons.1 hapart
      rw [line_cons_cons]
      refine .token hts.1 (hpair.imp_right fun hu => ?_)
        (.char (.inr (by decide)) (by decide) (ih hts.2 hrest))
      -- A link is followed by a word.
      cases u with
      | link l => cases hu
      | word w =>
        exact bounded_of_word (hts.2 _ List.mem_cons_self) (written_prefix_line (.word w) ts)

/-! ## Brackets -/

/-- Only brackets that are closed were asked for. -/
def AllClosed (s : Text) (b : Brackets) : Prop :=
  ∃ past, Agrees s past b ∧ ∀ t ∈ past, closer? s t ≠ none

theorem allClosed_ofText (s : Text) : AllClosed s (.ofText s) :=
  ⟨[], Brackets.agrees_ofText s, fun _ h => absurd h List.not_mem_nil⟩

/-- What is found, when a bracket comes to an anchor or to none. -/
def hitOf (s : Text) : Option Anchor → Hit
  | some a => .piece (.element a.element) (s.drop a.stop)
  | none => .miss

/-- A bracket of balanced text is found to be what it comes to. -/
theorem anchorHit_of_outcome {pre t rest : Text} (ht : Balanced t) {b : Brackets}
    (hb : AllClosed (pre ++ '[' :: (t ++ ']' :: rest)) b) {before : Option Char}
    (hbefore : before ≠ some '!') {st : InlineState} {a : Option Anchor} {render : RenderState}
    (h : Outcome (Node.restoreText st.nodes) rest
      ⟨t, pre.length, pre.length + t.length + 2⟩ st.render a render) :
    ∃ b', AllClosed (pre ++ '[' :: (t ++ ']' :: rest)) b' ∧
      Rule.anchorHit b before ('[' :: (t ++ ']' :: rest)) st =
        ((hitOf (pre ++ '[' :: (t ++ ']' :: rest)) a, b'), { st with render }) := by
  obtain ⟨past, hagrees, hpast⟩ := hb
  have hclose := closer?_balanced ht pre rest
  have hstart : b.text.length - ('[' :: (t ++ ']' :: rest)).length = pre.length := by
    rw [hagrees.text, List.length_append, Nat.add_sub_cancel]
  rw [Rule.anchorHit, if_pos ⟨rfl, hbefore⟩, hstart]
  generalize hresolve : Anchor.resolve (Node.restoreText st.nodes) b pre.length st.render = r
  obtain ⟨a', b', render'⟩ := r
  have houtcome := Anchor.outcome_of_closed hagrees hpast hclose hresolve
  rw [spanTo_balanced, drop_closing] at houtcome
  obtain ⟨rfl, rfl⟩ := houtcome.unique h
  have hagrees' := Anchor.agrees_resolve hagrees hresolve
  refine ⟨b', ⟨_, hagrees', Anchor.closed_append hpast hclose⟩, ?_⟩
  cases a' with
  | none => rfl
  | some a => rw [← hagrees'.text]; rfl

/-! ## The pass over a line -/

/-- The pieces put aside are elements that need nothing done to them. -/
def Tidy (nodes : Array Node) : Prop :=
  ∀ k, k < nodes.size → ∃ e, nodes[k]? = some (.element e) ∧ Neat e

theorem Tidy.push {nodes : Array Node} (h : Tidy nodes) {e : Element} (he : Neat e) :
    Tidy (nodes.push (.element e)) := by
  intro k hk
  rw [Array.getElem?_push]
  split
  · exact ⟨e, rfl, he⟩
  · next hlast =>
    rw [Array.size_push] at hk
    exact h k (by omega)

/-- A text of words, with the markers of the first `n` pieces put aside. -/
inductive Marked (n : Nat) : Text → Prop where
  | nil : Marked n []
  | char {c : Char} {s : Text} (hc : IsProse c) (h : Marked n s) : Marked n (c :: s)
  | marker {k : Nat} {s : Text} (hk : k < n) (h : Marked n s) : Marked n (Node.marker k ++ s)

/-- What reading a line with links comes to: the text that is left and the state after it. -/
structure Comes (st : InlineState) (ls : List Written) (r : Text × InlineState) : Prop where
  marked : Marked r.2.nodes.size r.1
  tidy : Tidy r.2.nodes
  size : st.nodes.size ≤ r.2.nodes.size
  stash : r.2.stash = st.stash
  reports : Reports st.render r.2.render (ls.filterMap (reported st.render))

section Comes

variable {st st' : InlineState} {ls : List Written} {r : Text × InlineState}

theorem Comes.char (h : Comes st ls r) {c : Char} (hc : IsProse c) : Comes st ls (c :: r.1, r.2) :=
  { h with marked := .char hc h.marked }

theorem Comes.append (h : Comes st ls r) {w : Text} (hw : ∀ c ∈ w, IsProse c) :
    Comes st ls (w ++ r.1, r.2) := by
  induction w with
  | nil => exact h
  | cons c w ih =>
    rw [List.forall_mem_cons] at hw
    exact (ih hw.2).char hw.1

/-- A link is reported, and then the rest is read. -/
theorem Comes.report (h : Comes st' ls r) {l : Written} (hstash : st'.stash = st.stash)
    (hsize : st.nodes.size ≤ st'.nodes.size)
    (hl : Reports st.render st'.render (reported st.render l).toList) : Comes st (l :: ls) r := by
  have hreports := hl.trans h.reports
  have hlist : (l :: ls).filterMap (reported st.render) =
      (reported st.render l).toList ++ ls.filterMap (reported st'.render) := by
    rw [hl.reported, List.filterMap_cons]
    cases reported st.render l <;> rfl
  rw [← hlist] at hreports
  exact ⟨h.marked, h.tidy, hsize.trans h.size, h.stash.trans hstash, hreports⟩

end Comes

section Pass

variable (ctx : InlineContext) (depth : Nat)

/-- The pass of the rule of anchors. -/
def anchorsFrom : (fuel : Nat) → Brackets → Option Char → Text → InlineM Text :=
  Rule.passFrom ctx (Rule.finish (Rule.applyTo ctx depth) false .anchor (Rule.all.drop 3)) .anchor

variable {ctx depth} {fuel : Nat} {b b' : Brackets} {before : Option Char} {c : Char}
  {s rest : Text} {st st' : InlineState} {ls : List Written}

theorem anchorsFrom_of_miss
    (h : Rule.anchorHit b before (c :: s) st = ((.miss, b'), st')) :
    anchorsFrom ctx depth (fuel + 1) b before (c :: s) st =
      (c :: (anchorsFrom ctx depth fuel b' (some c) s st').1,
        (anchorsFrom ctx depth fuel b' (some c) s st').2) := by
  rw [anchorsFrom, Rule.passFrom, bind_apply, Rule.find, if_pos rfl, h]
  rfl

theorem anchorsFrom_of_piece {e : Element} (he : Neat e)
    (h : Rule.anchorHit b before (c :: s) st = ((.piece (.element e) rest, b'), st')) :
    let r := anchorsFrom ctx depth fuel (.ofText rest) (some Stash.closing) rest
      { st' with nodes := st'.nodes.push (.element e) }
    anchorsFrom ctx depth (fuel + 1) b before (c :: s) st =
      (Node.marker st'.nodes.size ++ r.1, r.2) := by
  intro r
  rw [anchorsFrom, Rule.passFrom, bind_apply, Rule.find, if_pos rfl, h]
  dsimp only
  rw [map_eq_pure_bind, bind_assoc, bind_apply, he.finished]
  rfl

/-- A text without a bracket is passed over. -/
theorem anchorsFrom_append {w : Text} (hw : '[' ∉ w) :
    let r := anchorsFrom ctx depth fuel b (w.getLast?.or before) s st
    anchorsFrom ctx depth (w.length + fuel) b before (w ++ s) st = (w ++ r.1, r.2) := by
  induction w generalizing before with
  | nil =>
    rw [List.length_nil, Nat.zero_add]
    rfl
  | cons c w ih =>
    obtain ⟨hc, hw⟩ := List.ne_and_not_mem_of_not_mem_cons hw
    have hlast : (c :: w).getLast?.or before = w.getLast?.or (some c) := by
      cases hend : w.getLast? with
      | none =>
        rw [List.getLast?_eq_none_iff.1 hend]
        rfl
      | some d => rw [List.getLast?_cons, hend]; rfl
    rw [List.length_cons, Nat.add_right_comm, List.cons_append,
      anchorsFrom_of_miss (Rule.anchorHit_of_ne b before hc.symm _ st), ih hw, hlast]
    rfl

/-- Words before which no bracket stands are passed over. -/
theorem comes_anchorsFrom_append {w : Text} (hw : ∀ c ∈ w, IsProse c ∧ c ≠ '[')
    (h : ∀ before, before ≠ some '!' → Comes st ls (anchorsFrom ctx depth fuel b before s st))
    (hbefore : before ≠ some '!') :
    Comes st ls (anchorsFrom ctx depth (w.length + fuel) b before (w ++ s) st) := by
  rw [anchorsFrom_append fun hmem => (hw _ hmem).2 rfl]
  refine (h _ fun hmark => ?_).append fun c hc => (hw c hc).1
  cases hend : w.getLast? with
  | none => exact hbefore (by rwa [hend] at hmark)
  | some c =>
    rw [hend] at hmark
    exact (hw c (List.mem_of_getLast? hend)).1.ne (by decide) (by decide) (Option.some.inj hmark)

theorem balanced_of_plain {w : Text} (h : Text.IsPlain w) : Balanced w :=
  Text.balanced_of_not_mem (h.not_mem (by decide)) (h.not_mem (by decide))

theorem balanced_text {l : Written} (hl : l.IsPlain) : Balanced l.text := by
  cases l with
  | footnote id => exact Text.balanced_of_not_mem (List.not_mem_cons_of_ne_of_not_mem (by decide)
      (hl.not_mem (by decide))) (List.not_mem_cons_of_ne_of_not_mem (by decide)
      (hl.not_mem (by decide)))
  | reference t g id => exact balanced_of_plain hl.1
  | inline t u => exact balanced_of_plain hl.1
  | titled t u n mark w m => exact absurd hl not_false

theorem restoreText_of_plain (nodes : Array Node) {w : Text} (h : Text.IsPlain w) :
    Node.restoreText nodes w = w :=
  Node.restoreText_of_unmarked nodes (isBare_of_plain h).unmarked

/-- The brackets of a reference link that is not known are passed over one after the other: the
first one is reported, the second one is none of a link. -/
theorem comes_of_unknown {t id pre : Text} (ht : Text.IsPlain t) (hid : Text.IsPlain id)
    (hs : Bounded s) (hb : AllClosed (pre ++ (Written.markup (.reference t [] id) ++ s)) b)
    (hbefore : before ≠ some '!') {render : RenderState}
    (h : Outcome (Node.restoreText st.nodes) (Written.secondPart (.reference t [] id) ++ s)
      (Written.span pre.length (.reference t [] id)) st.render none render)
    (hreports : Reports st.render render (reported st.render (.reference t [] id)).toList)
    (hrest : ∀ b before, AllClosed (pre ++ (Written.markup (.reference t [] id) ++ s)) b →
      before ≠ some '!' →
      Comes { st with render } ls (anchorsFrom ctx depth fuel b before s { st with render })) :
    Comes st (.reference t [] id :: ls) (anchorsFrom ctx depth
      ((Written.markup (.reference t [] id)).length + fuel) b before
      (Written.markup (.reference t [] id) ++ s) st) := by
  have hbehind : Written.secondPart (.reference t [] id) ++ s = '[' :: (id ++ ']' :: s) := by
    simp [Written.secondPart]
  have htext : Written.markup (.reference t [] id) ++ s =
      '[' :: (t ++ ']' :: '[' :: (id ++ ']' :: s)) := by
    simp [Written.markup, Written.text, Written.secondPart]
  have hwhole : pre ++ '[' :: (t ++ ']' :: '[' :: (id ++ ']' :: s)) =
      (pre ++ '[' :: (t ++ [']'])) ++ '[' :: (id ++ ']' :: s) := by simp
  have hlength : (Written.markup (.reference t [] id)).length + fuel =
      (t ++ [']']).length + ((id ++ [']']).length + fuel + 1) + 1 := by
    simp only [Written.markup, Written.text, Written.secondPart, List.length_append,
      List.length_cons, List.length_nil]
    omega
  have hword : ∀ w, Text.IsPlain w → ∀ c ∈ w ++ [']'], IsProse c ∧ c ≠ '[' := by
    intro w hw c hc
    rcases List.mem_append.1 hc with hc | hc
    · exact ⟨isProse_of_plain hw c hc, (hw.letters c hc).ne (by decide)⟩
    · rw [List.mem_singleton.1 hc]
      exact ⟨.inr (by decide), by decide⟩
  rw [hbehind] at h
  rw [htext] at hb hrest
  obtain ⟨b₁, hb₁, hhit₁⟩ := anchorHit_of_outcome (balanced_of_plain ht) hb hbefore h
  let next : InlineState := { st with render }
  have hplain : ∀ n m, Outcome (Node.restoreText next.nodes) s ⟨id, n, m⟩ next.render none render :=
    fun n m => .plain (footnoteId?_of_plain hid n m) hs.referencePart? hs.inlinePart?
  rw [hlength, htext, anchorsFrom_of_miss hhit₁,
    show t ++ ']' :: '[' :: (id ++ ']' :: s) = (t ++ [']']) ++ '[' :: ((id ++ [']']) ++ s) by simp]
  have hopen : some '[' ≠ some '!' := by decide
  suffices hbelow : ∀ before, before ≠ some '!' → Comes next ls
      (anchorsFrom ctx depth ((id ++ [']']).length + fuel + 1) b₁ before
        ('[' :: ((id ++ [']']) ++ s)) next) from
    ((comes_anchorsFrom_append (hword t ht) hbelow hopen).char (.inr (by decide))).report rfl
      (Nat.le_refl _) hreports
  intro before hbefore
  rw [hwhole] at hb₁
  obtain ⟨b₂, hb₂, hhit₂⟩ := anchorHit_of_outcome (balanced_of_plain hid) hb₁ hbefore (hplain _ _)
  rw [← hwhole] at hb₂
  rw [show '[' :: ((id ++ [']']) ++ s) = '[' :: (id ++ ']' :: s) by simp, anchorsFrom_of_miss hhit₂,
    show id ++ ']' :: s = (id ++ [']']) ++ s by simp]
  exact (comes_anchorsFrom_append (hword id hid)
    (fun before hbefore => hrest b₂ before hb₂ hbefore) hopen).char (.inr (by decide))

/-- A link that is taken whole is put aside, and the rest is read. -/
theorem comes_of_taken {l : Written} (hl : l.IsPlain) {pre : Text}
    (hb : AllClosed (pre ++ (l.markup ++ s)) b) (hbefore : before ≠ some '!')
    (hnodes : Tidy st.nodes)
    (h : IsTaken (Node.restoreText st.nodes) st.render s pre.length l)
    (hrest : ∀ next : InlineState, Tidy next.nodes →
      Reports st.render next.render (reported st.render l).toList →
      Comes next ls (anchorsFrom ctx depth (l.text.length + 1 + l.secondPart.length + fuel)
        (.ofText s) (some Stash.closing) s next)) :
    Comes st (l :: ls)
      (anchorsFrom ctx depth (l.markup.length + fuel) b before (l.markup ++ s) st) := by
  obtain ⟨a, render, ho, hstop, hneat, hreports⟩ := h
  have htext : l.markup ++ s = '[' :: (l.text ++ ']' :: (l.secondPart ++ s)) := by
    simp [Written.markup]
  have hdrop : (pre ++ (l.markup ++ s)).drop a.stop = s := by
    rw [hstop, ← List.append_assoc, ← List.length_append, List.drop_left]
  have hlength : l.markup.length + fuel = l.text.length + 1 + l.secondPart.length + fuel + 1 := by
    simp only [Written.markup, List.length_append, List.length_cons]
    omega
  rw [htext] at hb hdrop
  obtain ⟨b', -, hhit⟩ := anchorHit_of_outcome (balanced_text hl) hb hbefore ho
  rw [hitOf, hdrop] at hhit
  rw [hlength, htext, anchorsFrom_of_piece hneat hhit]
  have hcomes := hrest { st with render, nodes := st.nodes.push (.element a.element) }
    (hnodes.push hneat) hreports
  have hsize := hcomes.size
  rw [Array.size_push] at hsize
  have hreport : Comes st (l :: ls) _ :=
    hcomes.report rfl (Nat.le_of_lt (Array.size_push _ ▸ Nat.lt_succ_self _)) hreports
  exact { hreport with marked := .marker hsize hcomes.marked }

/-- The run of the pass over a line. -/
theorem comes_anchorsFrom (h : Strewn s ls) {pre : Text} (hfuel : s.length ≤ fuel)
    (hb : AllClosed (pre ++ s) b) (hbefore : before ≠ some '!') (hst : Ready st.render)
    (hnodes : Tidy st.nodes) : Comes st ls (anchorsFrom ctx depth fuel b before s st) := by
  induction h generalizing fuel pre b before st with
  | nil =>
    cases fuel with
    | zero => exact ⟨.nil, hnodes, Nat.le_refl _, rfl, .refl _⟩
    | succ fuel => exact ⟨.nil, hnodes, Nat.le_refl _, rfl, .refl _⟩
  | @char c s ls hc hopen _ ih =>
    rw [List.length_cons] at hfuel
    obtain ⟨m, rfl⟩ := Nat.exists_eq_add_of_le' (Nat.le_trans (Nat.le_add_left 1 _) hfuel)
    rw [anchorsFrom_of_miss (Rule.anchorHit_of_ne b before hopen s st)]
    have hnext : AllClosed ((pre ++ [c]) ++ s) b := by simpa using hb
    refine (ih (Nat.le_of_succ_le_succ hfuel) hnext (fun hmark => ?_) hst hnodes).char hc
    exact hc.ne (by decide) (by decide) (Option.some.inj hmark)
  | @link l s ls hl hs _ ih =>
    rw [List.length_append] at hfuel
    obtain ⟨m, rfl⟩ := Nat.exists_eq_add_of_le (Nat.le_of_add_right_le hfuel)
    rcases outcome_of_plain hl s hst (fun w hw => restoreText_of_plain st.nodes hw) pre.length with
      htaken | ⟨t, id, rfl, ho, hreported⟩
    · refine comes_of_taken hl hb hbefore hnodes htaken fun next hnodes hreports => ?_
      have hclosed : AllClosed ([] ++ s) (.ofText s) := allClosed_ofText s
      have hlong : s.length ≤ l.text.length + 1 + l.secondPart.length + m := by omega
      exact ih hlong hclosed (by decide) (hreports.ready hst) hnodes
    · have hreports := reports_warn (.linkIdNotFound (Text.lower id)) st.render
      refine comes_of_unknown hl.1 hl.2.2 hs hb hbefore ho (hreported ▸ hreports)
        fun b before hb hbefore => ?_
      have hnext : AllClosed ((pre ++ Written.markup (.reference t [] id)) ++ s) b := by
        simpa using hb
      exact ih (by omega) hnext hbefore (hreports.ready hst) hnodes

end Pass

/-! ## The text with its pieces in place -/

theorem natOfDigits_copies (n : Nat) (s : Text) :
    Text.natOfDigits (Text.copies n '0' ++ s) = Text.natOfDigits s := by
  rw [Text.natOfDigits, List.foldl_append]
  congr 1
  induction n with
  | zero => rfl
  | succ n ih => exact ih

theorem marker?_marker (k : Nat) (s : Text) :
    Node.marker? (Node.marker k ++ s) = some (k, s) := by
  have hdigits : (Text.copies (4 - (Text.ofNat k).length) '0' ++ Text.ofNat k).all
      Text.isAsciiDigit = true := by
    rw [List.all_append, Text.all_isAsciiDigit_ofNat, Bool.and_true, List.all_eq_true]
    intro c hc
    rw [List.eq_of_mem_replicate hc]
    rfl
  have hmarker : Node.marker k ++ s = Node.opening ++
      ((Text.copies (4 - (Text.ofNat k).length) '0' ++ Text.ofNat k) ++ Stash.closing :: s) := by
    simp [Node.marker]
  rw [Node.marker?, hmarker, Text.strip?_append]
  simp only [Option.bind_eq_bind, Option.bind_some]
  rw [Text.takeWhile_append_cons hdigits rfl, List.drop_left]
  dsimp only
  rw [if_pos rfl, natOfDigits_copies, Text.natOfDigits_ofNat]

theorem IsProse.not_mem_triggers {c : Char} (h : IsProse c) : c ∉ triggers := by
  have hnot : ∀ d ∈ triggers, ¬ IsLetter d ∧ d ∉ " []^()".toList := by decide
  exact fun hmem => h.ne (hnot c hmem).1 (hnot c hmem).2 rfl

theorem quiet_marker (k : Nat) : Quiet (Node.marker k) := by
  have hdigit : ∀ c, Text.isAsciiDigit c = true → c ∉ triggers := by
    have hnot : ∀ d ∈ triggers, Text.isAsciiDigit d = false := by decide
    exact fun c hc hmem => Bool.false_ne_true ((hnot c hmem).symm.trans hc)
  simp only [Quiet, Node.marker, List.forall_mem_append, List.forall_mem_singleton]
  refine ⟨⟨⟨by decide, fun c hc => ?_⟩, fun c hc => ?_⟩, by decide⟩
  · rw [List.eq_of_mem_replicate hc]
    decide
  · exact hdigit c (List.all_eq_true.1 (Text.all_isAsciiDigit_ofNat k) c hc)

theorem Marked.quiet {n : Nat} {s : Text} (h : Marked n s) : Quiet s := by
  induction h with
  | nil => exact fun _ h => absurd h List.not_mem_nil
  | char hc _ ih => exact List.forall_mem_cons.2 ⟨hc.not_mem_triggers, ih⟩
  | marker _ _ ih => exact List.forall_mem_append.2 ⟨quiet_marker _, ih⟩

/-- The element of a link, with the words behind it. -/
def Sown (e : Element) : Prop :=
  ∃ e' t, Neat e' ∧ (∀ c ∈ t, IsProse c) ∧ e = e'.withTailText t

theorem sown_expandText {nodes : Array Node} (hnodes : Tidy nodes) {place : Element → Element}
    (hplace : ∀ e, Neat e → place e = e) {s : Text} (h : Marked nodes.size s) {fuel : Nat}
    (hfuel : s.length ≤ fuel) :
    (∀ c ∈ (Node.expandText place nodes fuel s).1.text, IsProse c) ∧
      ∀ e ∈ (Node.expandText place nodes fuel s).2, Sown e := by
  induction h generalizing fuel with
  | nil =>
    cases fuel <;>
      exact ⟨fun _ h => absurd h List.not_mem_nil, fun _ h => absurd h List.not_mem_nil⟩
  | @char c s hc _ ih =>
    obtain ⟨m, rfl⟩ := Nat.exists_eq_add_of_le' (Nat.le_trans (Nat.le_add_left 1 _) hfuel)
    have hmarker : Node.marker? (c :: s) = none :=
      Node.marker?_of_ne c s (hc.ne (by decide) (by decide))
    obtain ⟨htext, helements⟩ := ih (Nat.le_of_succ_le_succ hfuel)
    rw [Node.expandText, hmarker]
    exact ⟨List.forall_mem_cons.2 ⟨hc, htext⟩, helements⟩
  | @marker k s hk _ ih =>
    have hlength : s.length < (Node.marker k ++ s).length := by
      rw [List.length_append]
      exact Nat.lt_add_of_pos_left Nat.succ_pos'
    obtain ⟨m, rfl⟩ := Nat.exists_eq_add_of_le' (show 1 ≤ fuel by omega)
    obtain ⟨htext, helements⟩ := ih (show s.length ≤ m by omega)
    obtain ⟨e, he, hneat⟩ := hnodes k hk
    simp only [Node.expandText, marker?_marker, he, hplace e hneat]
    refine ⟨fun _ h => absurd h List.not_mem_nil, List.forall_mem_cons.2 ⟨?_, helements⟩⟩
    refine ⟨e, _, hneat, htext, ?_⟩
    rw [hneat.tail]
    rfl

theorem Neat.withTailText_nil {e : Element} (h : Neat e) : e.withTailText [] = e := by
  obtain ⟨tag, attributes, data, children, tail⟩ := e
  obtain rfl : tail = .empty := h.tail
  rfl

/-- A text with the marker of an element behind it is expanded into the text and the element. -/
theorem expandText_append_marker {place : Element → Element} {nodes : Array Node} {k : Nat}
    {e : Element} (he : nodes[k]? = some (.element e)) (hneat : Neat e) (hplace : place e = e)
    {s : Text} (hs : Stash.opening ∉ s) {fuel : Nat} (hfuel : s.length < fuel) :
    Node.expandText place nodes fuel (s ++ Node.marker k) = (⟨s, false⟩, [e]) := by
  obtain ⟨m, rfl⟩ : ∃ m, fuel = m + 1 := Nat.exists_eq_add_of_le' (Nat.zero_lt_of_lt hfuel)
  induction s generalizing m with
  | nil =>
    have hmarker : Node.marker? (Node.marker k) = some (k, []) := by
      simpa using marker?_marker k []
    have hrest : Node.expandText place nodes m [] = (.empty, []) := by cases m <;> rfl
    simp only [List.nil_append, Node.expandText, hmarker, he, hplace, hrest, Node.prependElement,
      hneat.tail]
    exact congrArg (fun e => (Html.Data.empty, [e])) hneat.withTailText_nil
  | cons c s ih =>
    obtain ⟨hc, hs⟩ := List.ne_and_not_mem_of_not_mem_cons hs
    have hlength : s.length < m := Nat.lt_of_succ_lt_succ hfuel
    obtain ⟨m, rfl⟩ : ∃ n, m = n + 1 := Nat.exists_eq_add_of_le' (Nat.zero_lt_of_lt hlength)
    have hmarker := Node.marker?_of_ne c (s ++ Node.marker k) (Ne.symm hc)
    rw [List.cons_append, Node.expandText, hmarker]
    dsimp only
    rw [ih hs m hlength]
    rfl

theorem expand_append_marker {nodes : Array Node} {k : Nat} {e : Element}
    (he : nodes[k]? = some (.element e)) (hneat : Neat e) {s : Text} (hs : Stash.opening ∉ s) :
    Node.expand nodes ⟨s ++ Node.marker k, false⟩ = (⟨s, false⟩, [e]) := by
  have hplace := Node.placeElement_of_unmarked nodes nodes.size hneat.unmarked hneat.unmarkedBelow
  have hlength : s.length < (s ++ Node.marker k).length := by
    rw [List.length_append]
    exact Nat.lt_add_of_pos_right Nat.succ_pos'
  rw [Node.expand, Node.expandData, expandText_append_marker he hneat hplace hs hlength]
  rfl

/-- The data and the elements that a line becomes. -/
theorem sown_expand {nodes : Array Node} (hnodes : Tidy nodes) {s : Text}
    (h : Marked nodes.size s) :
    (∀ c ∈ (Node.expand nodes ⟨s, false⟩).1.text, IsProse c) ∧
      ∀ e ∈ (Node.expand nodes ⟨s, false⟩).2, Sown e :=
  sown_expandText hnodes (fun _ he => Node.placeElement_of_unmarked nodes _ he.unmarked
    he.unmarkedBelow) h (Nat.le_refl _)

/-- All rules together come to what the rule of anchors comes to. -/
theorem comes_applyAll (ctx : InlineContext) {s : Text} {ls : List Written} (h : Strewn s ls)
    {st : InlineState} (hst : Ready st.render) (hnodes : Tidy st.nodes) :
    Comes st ls (Rule.applyAll ctx false s st) := by
  have hclosed : AllClosed ([] ++ s) (.ofText s) := allClosed_ofText s
  have hcomes : Comes st ls (anchorsFrom ctx s.length s.length (.ofText s) none s st) :=
    comes_anchorsFrom h (Nat.le_refl _) hclosed (by decide) hst hnodes
  have hquiet : Quiet s := fun c hc => (h.isProse c hc).not_mem_triggers
  rwa [Rule.applyAll_of_leaves hquiet.hushed rfl fun r hr =>
    Rule.leaves_of_quiet ctx hcomes.marked.quiet fun he => absurd (he ▸ hr) (by decide)]

end WikiText.Prose
