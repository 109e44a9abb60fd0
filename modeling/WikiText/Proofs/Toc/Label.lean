import WikiText.Proofs.Text.Blank
import WikiText.Proofs.Text.Pieces
import WikiText.Proofs.Text.Search
import WikiText.Toc.Label

/-!
# What a label keeps

A label is its content without the white space at the ends just when nothing stands in the content
that is dropped.  What is dropped is looked for in tags and between them alike: the tags with a name
that begins like that of a link (`IsLinkTag`), and what is written like an `id` attribute with white
space before it (`IsIdAttribute`).  Main statement: `label_eq_trim_iff`.
-/

namespace WikiText.Toc

open Text (isBlank isWord Nowhere Piece)

/-! ## Stretches that are dropped -/

/-- A tag of a link, or of another element with a name that begins with the name of a link and goes
on with what cannot stand in a word. -/
def IsLinkTag (t : Text) : Prop :=
  ∃ opening inside, (opening = "<a".toList ∨ opening = "</a".toList) ∧
    t = opening ++ (inside ++ ['>']) ∧ '>' ∉ inside ∧ ∀ c ∈ inside.head?, isWord c = false

/-- White space, and what is written like an `id` attribute. -/
def IsIdAttribute (t : Text) : Prop :=
  ∃ blanks value, blanks ≠ [] ∧ (∀ c ∈ blanks, isBlank c = true) ∧ '"' ∉ value ∧
    t = blanks ++ ("id=\"".toList ++ (value ++ ['"']))

theorem splitOnce?_eq_some_iff {d : Char} {s before after : Text} :
    Text.splitOnce? [d] s = some (before, after) ↔ s = before ++ d :: after ∧ d ∉ before := by
  constructor
  · intro h
    constructor
    · rw [Text.eq_append_of_splitOnce? h, List.append_assoc]
      rfl
    · intro hd
      obtain ⟨x, y, rfl⟩ := List.append_of_mem hd
      exact Text.not_infix_of_splitOnce? (List.cons_ne_nil d []) h ⟨x, y, by simp⟩
  · rintro ⟨rfl, hd⟩
    have hself := Text.splitOnce?_append_self (p := [d]) (List.cons_ne_nil d []) after
    rw [Text.splitOnce?_append_of_not_mem hd, show d :: after = [d] ++ after from rfl, hself]
    simp

theorem afterName?_eq_some_iff {opening s rest : Text} :
    afterName? opening s = some rest ↔
      s = opening ++ rest ∧ ∀ c ∈ rest.head?, isWord c = false := by
  have hhead : rest.head?.any isWord = false ↔ ∀ c ∈ rest.head?, isWord c = false := by
    cases rest.head? <;> simp
  constructor
  · intro h
    obtain rfl := eq_append_of_afterName? h
    refine ⟨rfl, hhead.1 ?_⟩
    rw [afterName?, Text.strip?_append] at h
    simp only [Option.bind_eq_bind, Option.bind_some] at h
    split at h
    · cases h
    · next hword => exact eq_false_of_ne_true hword
  · rintro ⟨rfl, hword⟩
    rw [afterName?, Text.strip?_append]
    simp [hhead.2 hword]

theorem afterLinkTag?_eq_some_iff {s rest : Text} :
    afterLinkTag? s = some rest ↔ ∃ t, IsLinkTag t ∧ s = t ++ rest := by
  have hhead : ∀ {inside rest : Text},
      (∀ c ∈ (inside ++ '>' :: rest).head?, isWord c = false) ↔
        ∀ c ∈ inside.head?, isWord c = false := by
    intro inside rest
    cases inside with
    | nil => exact iff_of_true (by rintro c ⟨⟩; decide) fun _ h => absurd h (by simp)
    | cons c inside => rfl
  constructor
  · intro h
    simp only [afterLinkTag?, Option.bind_eq_bind, Option.bind_eq_some_iff, Prod.exists] at h
    obtain ⟨r, hname, inside, rest', hend, h⟩ := h
    cases h
    obtain ⟨rfl, hinside⟩ := splitOnce?_eq_some_iff.1 hend
    rcases Option.or_eq_some_iff.1 hname with hname | ⟨-, hname⟩
    · obtain ⟨rfl, hword⟩ := afterName?_eq_some_iff.1 hname
      exact ⟨_, ⟨_, inside, .inl rfl, rfl, hinside, hhead.1 hword⟩, by simp⟩
    · obtain ⟨rfl, hword⟩ := afterName?_eq_some_iff.1 hname
      exact ⟨_, ⟨_, inside, .inr rfl, rfl, hinside, hhead.1 hword⟩, by simp⟩
  · rintro ⟨t, ⟨opening, inside, hopening, rfl, hinside, hword⟩, rfl⟩
    have hend : tagEnd? (inside ++ '>' :: rest) = some (inside, rest) :=
      splitOnce?_eq_some_iff.2 ⟨rfl, hinside⟩
    have hname : afterName? opening (opening ++ (inside ++ '>' :: rest)) =
        some (inside ++ '>' :: rest) := afterName?_eq_some_iff.2 ⟨rfl, hhead.2 hword⟩
    have hs : opening ++ (inside ++ ['>']) ++ rest = opening ++ (inside ++ '>' :: rest) := by simp
    have hor : (afterName? "<a".toList (opening ++ (inside ++ '>' :: rest))).or
        (afterName? "</a".toList (opening ++ (inside ++ '>' :: rest))) =
        some (inside ++ '>' :: rest) := by
      rcases hopening with rfl | rfl
      · rw [hname, Option.some_or]
      · rw [hname]
        rfl
    rw [hs, afterLinkTag?, hor]
    simp only [Option.bind_eq_bind, Option.bind_some, hend]

theorem afterId?_eq_some_iff {s rest : Text} :
    afterId? s = some rest ↔ ∃ t, IsIdAttribute t ∧ s = t ++ rest := by
  constructor
  · intro h
    simp only [afterId?, Option.bind_eq_bind, Option.bind_eq_some_iff] at h
    obtain ⟨r, hid, h⟩ := h
    split at h
    · next hblank =>
      simp only [Option.bind_eq_some_iff, Prod.exists] at h
      obtain ⟨value, rest', hvalue, h⟩ := h
      cases h
      obtain ⟨rfl, hmark⟩ := splitOnce?_eq_some_iff.1 hvalue
      refine ⟨_, ⟨s.takeWhile isBlank, value, ?_, ?_, hmark, rfl⟩, ?_⟩
      · cases s with
        | nil => cases hblank
        | cons c s =>
          rw [List.takeWhile_cons_of_pos (by simpa using hblank)]
          exact List.cons_ne_nil _ _
      · exact List.all_eq_true.1 List.all_takeWhile
      · have hs := (List.takeWhile_append_dropWhile (p := isBlank) (l := s)).symm
        rw [Text.eq_append_of_strip? hid] at hs
        simpa using hs
    · cases h
  · rintro ⟨t, ⟨blanks, value, hne, hblanks, hmark, rfl⟩, rfl⟩
    have hdrop : (blanks ++ ("id=\"".toList ++ (value ++ ['"'])) ++ rest).dropWhile isBlank =
        "id=\"".toList ++ (value ++ '"' :: rest) := by
      rw [List.append_assoc, List.dropWhile_append_of_pos hblanks]
      simp only [List.append_assoc, List.singleton_append]
      rfl
    have hhead :
        (blanks ++ ("id=\"".toList ++ (value ++ ['"'])) ++ rest).head?.any isBlank = true := by
      cases blanks with
      | nil => exact absurd rfl hne
      | cons c blanks => exact hblanks c List.mem_cons_self
    have hend : Text.splitOnce? ['"'] (value ++ '"' :: rest) = some (value, rest) :=
      splitOnce?_eq_some_iff.2 ⟨rfl, hmark⟩
    rw [afterId?, hdrop, Text.strip?_append]
    simp only [Option.bind_eq_bind, Option.bind_some, hhead, if_true, hend]

/-! ## Characters that are no white space

What is dropped takes some of them, and trimming takes none. -/

/-- The number of characters that are no white space. -/
def inked (s : Text) : Nat := s.countP (!isBlank ·)

theorem inked_append (s t : Text) : inked (s ++ t) = inked s + inked t := List.countP_append

theorem inked_of_isBlank {s : Text} (h : ∀ c ∈ s, isBlank c = true) : inked s = 0 := by
  refine List.countP_eq_zero.2 fun c hc => ?_
  simp [h c hc]

theorem inked_le_of_suffix {s t : Text} (h : s <:+ t) : inked s ≤ inked t :=
  h.sublist.countP_le

theorem inked_pos {s : Text} {c : Char} (hc : c ∈ s) (h : isBlank c = false) : 0 < inked s :=
  List.countP_pos_iff.2 ⟨c, hc, by simp [h]⟩

theorem inked_dropWhile (s : Text) : inked (s.dropWhile isBlank) = inked s := by
  conv => rhs; rw [← List.takeWhile_append_dropWhile (p := isBlank) (l := s)]
  rw [inked_append, inked_of_isBlank (List.all_eq_true.1 List.all_takeWhile), Nat.zero_add]

theorem inked_reverse (s : Text) : inked s.reverse = inked s := List.countP_reverse

theorem inked_trim (s : Text) : inked (Text.trim s) = inked s := by
  rw [Text.trim, Text.trimWhile, Text.dropEndWhile, inked_reverse, inked_dropWhile, inked_reverse,
    inked_dropWhile]

theorem inked_lt_of_afterLinkTag? {s rest : Text} (h : afterLinkTag? s = some rest) :
    inked rest < inked s := by
  obtain ⟨t, ⟨opening, inside, hopening, rfl, -⟩, rfl⟩ := afterLinkTag?_eq_some_iff.1 h
  have hmem : '<' ∈ opening ++ (inside ++ ['>']) := by
    rcases hopening with rfl | rfl
    · exact List.mem_cons_self
    · exact List.mem_cons_self
  rw [inked_append]
  exact Nat.lt_add_of_pos_left (inked_pos hmem (by decide))

theorem inked_lt_of_afterId? {s rest : Text} (h : afterId? s = some rest) :
    inked rest < inked s := by
  obtain ⟨t, ⟨blanks, value, -, -, -, rfl⟩, rfl⟩ := afterId?_eq_some_iff.1 h
  have hmem : '"' ∈ blanks ++ ("id=\"".toList ++ (value ++ ['"'])) := by simp
  rw [inked_append]
  exact Nat.lt_add_of_pos_left (inked_pos hmem (by decide))

theorem inked_lt_of_afterReference? {s rest : Text} (h : afterReference? s = some rest) :
    inked rest < inked s := by
  obtain ⟨inside, t, u, v, rfl, rfl, hv, hrest⟩ := exists_of_afterReference? h
  calc inked rest ≤ inked v := inked_le_of_suffix hrest
    _ < inked (t.dropWhile isBlank) := inked_lt_of_afterLinkTag? hv
    _ = inked t := inked_dropWhile t
    _ ≤ inked ("<sup".toList ++ (inside ++ '>' :: t)) :=
      inked_le_of_suffix (.trans ⟨inside ++ ['>'], by simp⟩ (List.suffix_append _ _))

/-! ## Dropping -/

section

variable {after? : Text → Option Text}
  {length_lt : ∀ {s rest}, after? s = some rest → rest.length < s.length}

theorem read?_stretches (b : Bool) (s : Text) :
    (stretches after? length_lt).read? b s = (after? s).map ((), ·) := rfl

theorem dropEach_of_nowhere {s : Text} (h : Nowhere after? s) :
    dropEach (stretches after? length_lt) s = s := by
  have hfill : ∀ b, Piece.fill (fun _ => []) ((stretches after? length_lt).pieces b s) = s := by
    induction s with
    | nil => exact fun b => by rw [Text.Reader.pieces_nil]; rfl
    | cons c s ih =>
      intro b
      have hnone : (stretches after? length_lt).read? b (c :: s) = none := by
        rw [read?_stretches, h.eq_none, Option.map_none]
      rw [Text.Reader.pieces_cons hnone, Piece.fill_char, ih h.2]
  exact hfill true

/-- What is dropped is missed, if there is more to it than white space. -/
theorem inked_dropEach (hlt : ∀ s rest, after? s = some rest → inked rest < inked s) (s : Text) :
    inked (dropEach (stretches after? length_lt) s) ≤ inked s ∧
      (inked (dropEach (stretches after? length_lt) s) = inked s → Nowhere after? s) := by
  rw [dropEach]
  generalize true = b
  fun_induction Text.Reader.pieces (stretches after? length_lt) b s with
  | case1 => exact ⟨Nat.le_refl _, fun _ => trivial⟩
  | case2 b c s a rest hread _ ih =>
    obtain ⟨_, hrest, he⟩ := Option.map_eq_some_iff.1 hread
    cases he
    have hless := hlt _ _ hrest
    rw [Piece.fill_part, List.nil_append]
    exact ⟨ih.1.trans hless.le, fun he => absurd (he ▸ ih.1) (Nat.not_le.2 hless)⟩
  | case3 b c s hread ih =>
    have hnone : after? (c :: s) = none := Option.map_eq_none_iff.1 hread
    have hcons : ∀ t : Text, inked (c :: t) = inked [c] + inked t := fun t => inked_append [c] t
    rw [Piece.fill_char, hcons, hcons s]
    refine ⟨Nat.add_le_add_left ih.1 _, fun he => ⟨by rw [hnone]; rfl, ih.2 ?_⟩⟩
    exact Nat.add_left_cancel he

end

theorem nowhere_iff {α : Type} {read? : Text → Option α} {s : Text} :
    Nowhere read? s ↔ ∀ t, t ≠ [] → t <:+ s → read? t = none := by
  induction s with
  | nil => exact iff_of_true trivial fun t hne ht => absurd (List.suffix_nil.1 ht) hne
  | cons c s ih =>
    rw [Nowhere, Option.isNone_iff_eq_none, ih]
    constructor
    · rintro ⟨hc, hs⟩ t hne ht
      rcases List.suffix_cons_iff.1 ht with rfl | ht
      · exact hc
      · exact hs t hne ht
    · intro h
      exact ⟨h _ (List.cons_ne_nil c s) List.suffix_rfl,
        fun t hne ht => h t hne (ht.trans (List.suffix_cons c s))⟩

/-- Nothing is found in a text just when no stretch of it is of the kind that is found. -/
theorem nowhere_iff_infix {after? : Text → Option Text} {IsFound : Text → Prop}
    (hafter : ∀ {s rest}, after? s = some rest ↔ ∃ t, IsFound t ∧ s = t ++ rest)
    (hnil : ¬ IsFound []) {s : Text} :
    Nowhere after? s ↔ ∀ t, t <:+: s → ¬ IsFound t := by
  rw [nowhere_iff]
  constructor
  · rintro h t ⟨x, y, rfl⟩ ht
    have hne : t ++ y ≠ [] := by
      intro he
      rw [List.append_eq_nil_iff.1 he |>.1] at ht
      exact hnil ht
    have hsome : after? (t ++ y) = some y := hafter.2 ⟨t, ht, rfl⟩
    have hnone : after? (t ++ y) = none := h _ hne ⟨x, by rw [List.append_assoc]⟩
    exact absurd (hsome.symm.trans hnone) (Option.some_ne_none y)
  · rintro h t - ⟨x, rfl⟩
    refine Option.eq_none_iff_forall_ne_some.2 fun rest hrest => ?_
    obtain ⟨u, hu, rfl⟩ := hafter.1 hrest
    exact h u ⟨x, rest, by rw [List.append_assoc]⟩ hu

/-- Where there is no tag of a link, there is no footnote reference. -/
theorem nowhere_afterReference? {s : Text} (h : Nowhere afterLinkTag? s) :
    Nowhere afterReference? s := by
  rw [nowhere_iff] at h ⊢
  intro t _ ht
  refine Option.eq_none_iff_forall_ne_some.2 fun rest hrest => ?_
  obtain ⟨inside, u, v, w, rfl, rfl, hw, -⟩ := exists_of_afterReference? hrest
  have hsuffix : u.dropWhile isBlank <:+ s :=
    ((List.dropWhile_suffix isBlank).trans ⟨"<sup".toList ++ (inside ++ ['>']), by simp⟩).trans ht
  have hne : u.dropWhile isBlank ≠ [] := by
    intro hnil
    rw [hnil] at hw
    cases hw
  exact absurd ((h _ hne hsuffix).symm.trans hw) (Option.some_ne_none w).symm

/-- Each of the three passes takes no more than the one before it has left, so that none takes
anything when trimming is all that is done. -/
theorem label_eq_trim_iff_nowhere {content : Text} :
    label content = Text.trim content ↔
      Nowhere afterLinkTag? content ∧ Nowhere afterId? content := by
  constructor
  · intro h
    have hinked := congrArg inked h
    rw [label, inked_trim, inked_trim] at hinked
    have hfirst := @inked_dropEach _ length_lt_of_afterReference?
      (fun _ _ => inked_lt_of_afterReference?) content
    have hsecond := @inked_dropEach _ length_lt_of_afterLinkTag?
      (fun _ _ => inked_lt_of_afterLinkTag?) (dropEach referenceReader content)
    have hthird := @inked_dropEach _ length_lt_of_afterId? (fun _ _ => inked_lt_of_afterId?)
      (dropEach linkTagReader (dropEach referenceReader content))
    have hreference : dropEach referenceReader content = content :=
      dropEach_of_nowhere
        (hfirst.2 (le_antisymm hfirst.1 (hinked ▸ hthird.1.trans hsecond.1)))
    rw [hreference] at hsecond hthird hinked
    have hlink : Nowhere afterLinkTag? content :=
      hsecond.2 (le_antisymm hsecond.1 (hinked ▸ hthird.1))
    have htags : dropEach linkTagReader content = content := dropEach_of_nowhere hlink
    rw [htags] at hthird hinked
    exact ⟨hlink, hthird.2 hinked⟩
  · rintro ⟨hlink, hid⟩
    have hreference : dropEach referenceReader content = content :=
      dropEach_of_nowhere (nowhere_afterReference? hlink)
    have htags : dropEach linkTagReader content = content := dropEach_of_nowhere hlink
    have hattributes : dropEach idReader content = content := dropEach_of_nowhere hid
    rw [label, hreference, htags, hattributes]

/-- A label is its content without the white space at the ends just when no tag of a link stands in
the content, and nowhere, be it in a tag or not, white space with what is written like an `id`
attribute. -/
theorem label_eq_trim_iff (content : Text) :
    label content = Text.trim content ↔
      ∀ t, t <:+: content → ¬ IsLinkTag t ∧ ¬ IsIdAttribute t := by
  have hlinks : Nowhere afterLinkTag? content ↔ ∀ t, t <:+: content → ¬ IsLinkTag t := by
    refine nowhere_iff_infix afterLinkTag?_eq_some_iff ?_
    rintro ⟨opening, inside, -, h, -⟩
    simp at h
  have hids : Nowhere afterId? content ↔ ∀ t, t <:+: content → ¬ IsIdAttribute t := by
    refine nowhere_iff_infix afterId?_eq_some_iff ?_
    rintro ⟨blanks, value, -, -, -, h⟩
    simp at h
  rw [label_eq_trim_iff_nowhere, hlinks, hids, ← forall₂_and]

/-- A heading that speaks of an attribute loses it, though there is no tag in it. -/
theorem label_loses_text :
    label "Set id=\"x\" now".toList = "Set now".toList ∧ '<' ∉ "Set id=\"x\" now".toList := by
  decide +kernel

end WikiText.Toc
