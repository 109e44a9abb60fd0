import WikiText.Proofs.Toc.Fragments
import WikiText.Proofs.Toc.Label

/-!
# Labels of generated markup

A label is made by three removals on the written text.  On the fragments of generated markup each of
them takes whole ones: a reference never ends in another, a tag is never cut, and no attribute
appears where something was taken out.  Main statement: `label_fragments`.
-/

namespace WikiText.Toc

open Text (isBlank isWord)
open Html (Dialect)

/-! ## Removals -/

section

variable {after? : Text → Option Text}
  {length_lt : ∀ {s rest}, after? s = some rest → rest.length < s.length}

theorem pieces_stretches (b : Bool) (s : Text) :
    (stretches after? length_lt).pieces b s = (stretches after? length_lt).pieces true s := by
  cases s with
  | nil => rw [Text.Reader.pieces_nil, Text.Reader.pieces_nil]
  | cons c s =>
    rw [Text.Reader.pieces, Text.Reader.pieces]
    rfl

theorem dropEach_nil (r : Text.Reader Unit) : dropEach r [] = [] := by
  rw [dropEach, Text.Reader.pieces_nil]
  rfl

theorem dropEach_of_some {s rest : Text} (h : after? s = some rest) :
    dropEach (stretches after? length_lt) s = dropEach (stretches after? length_lt) rest := by
  have hread : (stretches after? length_lt).read? true s = some ((), rest) := by
    rw [read?_stretches, h, Option.map_some]
  rw [dropEach, Text.Reader.pieces_of_read? hread, Text.Piece.fill_part, pieces_stretches]
  rfl

theorem dropEach_append {g rest : Text}
    (h : ∀ t, t ≠ [] → t <:+ g → after? (t ++ rest) = none) :
    dropEach (stretches after? length_lt) (g ++ rest) =
      g ++ dropEach (stretches after? length_lt) rest := by
  have hskips : (stretches after? length_lt).Skips true g rest :=
    Text.Reader.skips_of_forall
      (fun b t hne ht => by rw [read?_stretches, h t hne ht, Option.map_none]) true
  rw [dropEach, hskips.pieces, Text.Piece.fill_append, Text.Piece.fill_map_char, pieces_stretches]
  rfl

/-- Characters with which nothing begins stay. -/
theorem dropEach_append_of_forall {g : Text} (h : ∀ c ∈ g, ∀ s, after? (c :: s) = none)
    (rest : Text) :
    dropEach (stretches after? length_lt) (g ++ rest) =
      g ++ dropEach (stretches after? length_lt) rest := by
  refine dropEach_append fun t hne ht => ?_
  obtain ⟨c, t, rfl⟩ := List.exists_cons_of_ne_nil hne
  exact h c (ht.subset List.mem_cons_self) _

end

section

variable {after? : Text → Option Text}
  {length_lt : ∀ {s rest}, after? s = some rest → rest.length < s.length}
  (hread : ∀ {c s}, c ≠ '<' → after? (c :: s) = none)
include hread

/-- Text stays if what is looked for begins with the mark of a tag. -/
theorem dropEach_text {s : Text} (hs : '<' ∉ s) (rest : Text) :
    dropEach (stretches after? length_lt) (s ++ rest) =
      s ++ dropEach (stretches after? length_lt) rest :=
  dropEach_append_of_forall (fun _ hc _ => hread fun he => hs (he ▸ hc)) rest

/-- It can begin at the front of a tag only. -/
theorem dropEach_tag {t : Tag} {rest : Text} (hnone : after? (t.markup ++ rest) = none) :
    dropEach (stretches after? length_lt) (t.markup ++ rest) =
      t.markup ++ dropEach (stretches after? length_lt) rest := by
  obtain ⟨g, hg, hlt, -, -⟩ := t.exists_markup
  refine dropEach_append fun u hne hu => ?_
  rw [hg, List.suffix_cons_iff] at hu
  rcases hu with rfl | hu
  · rwa [← hg]
  · obtain ⟨c, u, rfl⟩ := List.exists_cons_of_ne_nil hne
    refine hread fun hc => ?_
    have hmem := hu.subset List.mem_cons_self
    simp [hc, hlt] at hmem

end

/-! ## Footnote references are dropped -/

theorem infix_of_marksFootnote {before : Option Char} {s : Text}
    (h : marksFootnote before s = true) : "rel=\"footnote\"".toList <:+: s := by
  induction s generalizing before with
  | nil => cases h
  | cons c s ih =>
    rw [marksFootnote, Bool.or_eq_true, Bool.and_eq_true] at h
    rcases h with ⟨-, h⟩ | h
    · obtain ⟨rest, hrest⟩ := Option.isSome_iff_exists.1 h
      exact ⟨[], rest, (Text.eq_append_of_strip? hrest).symm⟩
    · exact (ih h).trans (List.infix_cons List.infix_rfl)

theorem marksFootnote_append (before : Option Char) (s rest : Text) :
    marksFootnote before (s ++ (" rel=\"footnote\"".toList ++ rest)) = true := by
  induction s generalizing before with
  | nil =>
    have hspace : isWord ' ' = false := by decide
    have hmark : " rel=\"footnote\"".toList ++ rest =
        ' ' :: 'r' :: ("el=\"footnote\"".toList ++ rest) := rfl
    have hstart : Text.startsWith "rel=\"footnote\"".toList
        ('r' :: ("el=\"footnote\"".toList ++ rest)) = true := by
      rw [Text.startsWith]
      exact congrArg Option.isSome (Text.strip?_append "rel=\"footnote\"".toList rest)
    rw [List.nil_append, hmark, marksFootnote, marksFootnote, hstart]
    simp [hspace]
  | cons c s ih => rw [List.cons_append, marksFootnote, ih, Bool.or_true]

/-- A mark of a footnote is the value of an attribute.  It cannot begin in one value and end in the
next, since a space stands between them. -/
theorem exists_value_of_mark {slashed : Bool} {as : List Attribute} {x y front : Text}
    (hfront : '"' ∉ front)
    (h : x ++ ("rel=".toList ++ '"' :: ("footnote".toList ++ '"' :: y)) =
      front ++ (as.flatMap Attribute.markup ++ if slashed then [' ', '/'] else [])) :
    ∃ a ∈ as, a.value = "footnote".toList := by
  induction as generalizing x front with
  | nil =>
    have hmem : '"' ∈ x ++ ("rel=".toList ++ '"' :: ("footnote".toList ++ '"' :: y)) := by simp
    rw [h] at hmem
    cases slashed <;> simp [hfront] at hmem
  | cons a as ih =>
    obtain ⟨rest, hrest⟩ : ∃ rest, rest =
        as.flatMap Attribute.markup ++ if slashed then [' ', '/'] else [] := ⟨_, rfl⟩
    have hright : front ++ ((a :: as).flatMap Attribute.markup ++
        if slashed then [' ', '/'] else []) =
        (front ++ ' ' :: (a.name ++ ['='])) ++ '"' :: (a.value ++ '"' :: rest) := by
      simp [Attribute.markup, hrest]
    have hname : '"' ∉ front ++ ' ' :: (a.name ++ ['=']) := by
      simp [hfront, a.unmarked_name.quote]
    have hspace : ∀ t : Text, 'f' :: t ≠ rest := by
      rintro t rfl
      cases as with
      | nil => cases slashed <;> simp at hrest
      | cons b as => simp [Attribute.markup] at hrest
    rw [hright] at h
    by_cases hx : '"' ∈ x
    · obtain ⟨x₁, x₂, rfl, hx₁⟩ := List.eq_append_cons_of_mem hx
      rw [List.append_assoc, List.cons_append] at h
      obtain ⟨-, h⟩ := Text.eq_of_append_cons hx₁ hname h
      by_cases hx₂ : '"' ∈ x₂
      · obtain ⟨x₃, x₄, rfl, hx₃⟩ := List.eq_append_cons_of_mem hx₂
        rw [List.append_assoc, List.cons_append] at h
        obtain ⟨-, h⟩ := Text.eq_of_append_cons hx₃ a.unmarked_value.quote h
        obtain ⟨b, hb, hvalue⟩ := ih List.not_mem_nil (h.trans hrest)
        exact ⟨b, List.mem_cons_of_mem a hb, hvalue⟩
      · rw [← List.append_assoc] at h
        obtain ⟨-, h⟩ := Text.eq_of_append_cons (by simp [hx₂]) a.unmarked_value.quote h
        exact absurd h (hspace _)
    · rw [← List.append_assoc] at h
      obtain ⟨-, h⟩ := Text.eq_of_append_cons (by simp [hx]) hname h
      obtain ⟨hvalue, -⟩ := Text.eq_of_append_cons (by decide) a.unmarked_value.quote h
      exact ⟨a, List.mem_cons_self, hvalue.symm⟩

theorem afterReference?_cons {c : Char} (hc : c ≠ '<') (s : Text) :
    afterReference? (c :: s) = none := by
  refine Option.eq_none_iff_forall_ne_some.2 fun rest h => ?_
  obtain ⟨inside, t, u, v, he, -⟩ := exists_of_afterReference? h
  exact hc (List.cons.inj he).1

theorem afterLink?_append {s : Text} (hs : '<' ∉ s) (rest : Text) :
    afterLink? (s ++ ("</a></sup>".toList ++ rest)) = some rest := by
  induction s with
  | nil =>
    have hlink : Text.strip? "</a>".toList ("</a></sup>".toList ++ rest) =
        some ("</sup>".toList ++ rest) := Text.strip?_append "</a>".toList ("</sup>".toList ++ rest)
    have htrim : Text.trimStart ("</sup>".toList ++ rest) = "</sup>".toList ++ rest :=
      List.dropWhile_cons_of_neg (by decide)
    have hcons : "</a></sup>".toList ++ rest = '<' :: ("/a></sup>".toList ++ rest) := rfl
    rw [List.nil_append, hcons, afterLink?, ← hcons, hlink, Option.bind_some, htrim,
      Text.strip?_append]
  | cons c s ih =>
    rw [List.mem_cons, not_or] at hs
    have hlink : Text.strip? "</a>".toList (c :: (s ++ ("</a></sup>".toList ++ rest))) = none :=
      if_neg hs.1
    rw [List.cons_append, afterLink?, hlink, Option.bind_none, ih hs.2]

theorem isWord_head_append {inside : Text} (h : ∀ c ∈ inside.head?, isWord c = false)
    (rest : Text) : ∀ c ∈ (inside ++ '>' :: rest).head?, isWord c = false := by
  cases inside with
  | nil =>
    rintro c ⟨⟩
    decide
  | cons c inside => exact h

theorem not_mem_of_isAngle {s : Text} (h : ∀ c ∈ s, Anchor.isAngle c = false) :
    '<' ∉ s ∧ '>' ∉ s :=
  ⟨fun hmem => absurd (h _ hmem) (by decide), fun hmem => absurd (h _ hmem) (by decide)⟩

/-- The label of a reference holds no tag, so that the reference ends where it is meant to. -/
theorem afterReference?_reference (d : Dialect) (span : Span) (stop : Nat)
    (href label refId : Option Text) (rest : Text) :
    afterReference? ((Fragment.reference span stop href label refId).markup d ++ rest) =
      some rest := by
  obtain ⟨idPart, hrefPart, labelPart, hid, hidHead, hhref, hhrefHead, hlabel, hmarkup⟩ :=
    exists_reference_markup d span stop href label refId
  have hmark : '>' ∉ hrefPart ++ " rel=\"footnote\"".toList := by
    simp [(not_mem_of_isAngle hhref).2]
  have hmarkHead : ∀ c ∈ (hrefPart ++ " rel=\"footnote\"".toList).head?, isWord c = false := by
    cases hrefPart with
    | nil =>
      rintro c ⟨⟩
      decide
    | cons c hrefPart => exact hhrefHead
  obtain ⟨last, hlast⟩ : ∃ last, last = labelPart ++ ("</a></sup>".toList ++ rest) := ⟨_, rfl⟩
  obtain ⟨link, hlink⟩ : ∃ link, link = "<a".toList ++
      ((hrefPart ++ " rel=\"footnote\"".toList) ++ '>' :: last) := ⟨_, rfl⟩
  have hsplit : (Fragment.reference span stop href label refId).markup d ++ rest =
      "<sup".toList ++ (idPart ++ '>' :: link) := by
    rw [hmarkup, hlink, hlast]
    simp only [List.append_assoc, List.cons_append]
  have hsup : afterName? "<sup".toList ("<sup".toList ++ (idPart ++ '>' :: link)) =
      some (idPart ++ '>' :: link) :=
    afterName?_eq_some_iff.2 ⟨rfl, isWord_head_append hidHead link⟩
  have hsupEnd : tagEnd? (idPart ++ '>' :: link) = some (idPart, link) :=
    splitOnce?_eq_some_iff.2 ⟨rfl, (not_mem_of_isAngle hid).2⟩
  have htrim : Text.trimStart link = link := by
    rw [hlink]
    exact List.dropWhile_cons_of_neg (by decide)
  have hname : afterName? "<a".toList link =
      some ((hrefPart ++ " rel=\"footnote\"".toList) ++ '>' :: last) :=
    afterName?_eq_some_iff.2 ⟨hlink, isWord_head_append hmarkHead last⟩
  have hend : tagEnd? ((hrefPart ++ " rel=\"footnote\"".toList) ++ '>' :: last) =
      some (hrefPart ++ " rel=\"footnote\"".toList, last) :=
    splitOnce?_eq_some_iff.2 ⟨rfl, hmark⟩
  have hmarks : marksFootnote (some 'a') (hrefPart ++ " rel=\"footnote\"".toList) = true := by
    simpa using marksFootnote_append (some 'a') hrefPart []
  rw [hsplit, afterReference?, hsup]
  simp only [Option.bind_eq_bind, Option.bind_some, hsupEnd, htrim, hname, hend, hmarks, if_true]
  rw [hlast]
  exact afterLink?_append (not_mem_of_isAngle hlabel).1 rest

/-- A tag goes up to the first mark of its end. -/
theorem Tag.eq_of_markup_append {t : Tag} {s rest v : Text} (h : t.markup ++ rest = s ++ '>' :: v)
    (hs : '>' ∉ s) : s = t.opening ++ t.inside ∧ v = rest := by
  obtain ⟨g, hg, -, hgt, hopening⟩ := t.exists_markup
  have hsplit : s ++ '>' :: v = ('<' :: g) ++ '>' :: rest := by
    rw [← h, hg]
    simp
  rw [hopening]
  exact Text.eq_of_append_cons hs (by simp [hgt]) hsplit

theorem Tag.value_of_marksFootnote {t : Tag} {before : Option Char} {inside rest v : Text}
    (h : t.markup ++ rest = "<a".toList ++ (inside ++ '>' :: v)) (hinside : '>' ∉ inside)
    (hmarks : marksFootnote before inside = true) :
    ∃ a ∈ t.attributes, a.value = "footnote".toList := by
  obtain ⟨x, y, hxy⟩ := infix_of_marksFootnote hmarks
  have hquote : '"' ∉ t.opening := by
    have hname : '"' ∉ t.name := t.not_mem_name (by decide)
    rw [opening]
    cases t.closing <;> simp [hname]
  rw [← List.append_assoc] at h
  obtain ⟨hfront, -⟩ := Tag.eq_of_markup_append h (by simp [hinside])
  refine @exists_value_of_mark t.slashed t.attributes ("<a".toList ++ x) y t.opening hquote ?_
  calc "<a".toList ++ x ++ ("rel=".toList ++ '"' :: ("footnote".toList ++ '"' :: y))
      = "<a".toList ++ inside := by
        rw [← hxy]
        simp
    _ = t.opening ++ t.inside := hfront

/-- Between a tag and the next one nothing can make a reference of them. -/
theorem marksFootnote_eq_false {d : Dialect} {fs : List Fragment}
    (hfs : ∀ t, .tag t ∈ fs → ∀ a ∈ t.attributes, a.value ≠ "footnote".toList)
    {u inside v : Text}
    (hname : afterName? "<a".toList (Text.trimStart (fs.flatMap (Fragment.markup d))) = some u)
    (hend : tagEnd? u = some (inside, v)) : marksFootnote (some 'a') inside = false := by
  obtain ⟨rfl, hinside⟩ := splitOnce?_eq_some_iff.1 hend
  have hfront := (afterName?_eq_some_iff.1 hname).1
  have hkeep : ∀ {s : Text}, Text.trimStart ('<' :: s) = '<' :: s :=
    List.dropWhile_cons_of_neg (by decide)
  induction fs with
  | nil => cases hfront
  | cons f fs ih =>
    replace ih := ih fun t ht => hfs t (List.mem_cons_of_mem f ht)
    rw [List.flatMap_cons] at hname hfront
    cases f with
    | text s hopening hclosing =>
      rw [Fragment.markup, Text.trimStart, List.dropWhile_append] at hname hfront
      split at hfront
      · next hblank => exact ih (by rwa [if_pos hblank] at hname) hfront
      · next hinked =>
        -- The text would have to begin with the mark of a tag.
        obtain ⟨c, w, hw⟩ := List.exists_cons_of_ne_nil (mt List.isEmpty_iff.2 hinked)
        rw [hw] at hfront
        have hc : c ∈ s := (List.dropWhile_suffix isBlank).subset (hw ▸ List.mem_cons_self)
        have hlt : c = '<' := (List.cons.inj hfront).1
        exact absurd (hlt ▸ hc) hopening
    | reference span stop href label refId =>
      obtain ⟨idPart, hrefPart, labelPart, -, -, -, -, -, hmarkup⟩ :=
        exists_reference_markup d span stop href label refId
      rw [hmarkup] at hfront
      have hsecond := (List.cons.inj (List.cons.inj (hkeep.symm.trans hfront)).2).1
      exact absurd hsecond (by decide)
    | tag t =>
      obtain ⟨g, hg, -, -, -⟩ := t.exists_markup
      rw [Fragment.markup, hg, List.cons_append, hkeep, ← List.cons_append, ← hg] at hfront
      refine eq_false_of_ne_true fun hmarks => ?_
      obtain ⟨a, ha, hvalue⟩ := Tag.value_of_marksFootnote hfront hinside hmarks
      exact hfs t List.mem_cons_self a ha hvalue

theorem dropEach_referenceReader (d : Dialect) {fs : List Fragment}
    (hfs : ∀ t, .tag t ∈ fs → ∀ a ∈ t.attributes, a.value ≠ "footnote".toList) :
    dropEach referenceReader (fs.flatMap (Fragment.markup d)) =
      (fs.filter (!·.isReference)).flatMap (Fragment.markup d) := by
  induction fs with
  | nil => exact dropEach_nil _
  | cons f fs ih =>
    replace ih := ih fun t ht => hfs t (List.mem_cons_of_mem f ht)
    rw [referenceReader] at ih ⊢
    cases f with
    | text s hopening hclosing =>
      rw [List.flatMap_cons, List.filter_cons_of_pos rfl, List.flatMap_cons, ← ih]
      exact dropEach_text (fun hc => afterReference?_cons hc _) hopening _
    | reference span stop href label refId =>
      rw [List.flatMap_cons, List.filter_cons_of_neg Bool.false_ne_true, ← ih]
      exact dropEach_of_some (afterReference?_reference d span stop href label refId _)
    | tag t =>
      rw [List.flatMap_cons, List.filter_cons_of_pos rfl, List.flatMap_cons, ← ih]
      refine dropEach_tag (fun hc => afterReference?_cons hc _) ?_
      refine Option.eq_none_iff_forall_ne_some.2 fun rest h => ?_
      simp only [afterReference?, Option.bind_eq_bind, Option.bind_eq_some_iff, Prod.exists] at h
      obtain ⟨s₁, hs₁, inside, s₂, hs₂, s₃, hs₃, inside₂, s₄, hs₄, h⟩ := h
      -- The tag that the raised text begins with is this one, so the rest of the markup follows it.
      obtain ⟨rfl, hinside⟩ := splitOnce?_eq_some_iff.1 hs₂
      have hraised := (afterName?_eq_some_iff.1 hs₁).1
      rw [← List.append_assoc] at hraised
      obtain ⟨-, rfl⟩ := Tag.eq_of_markup_append hraised (by simp [hinside])
      rw [marksFootnote_eq_false (fun t ht => hfs t (List.mem_cons_of_mem _ ht)) hs₃ hs₄] at h
      cases h

/-! ## The tags of links are dropped -/

theorem afterLinkTag?_cons {c : Char} (hc : c ≠ '<') (s : Text) :
    afterLinkTag? (c :: s) = none := by
  refine Option.eq_none_iff_forall_ne_some.2 fun rest h => ?_
  obtain ⟨t, ⟨opening, inside, rfl | rfl, rfl, -⟩, he⟩ := afterLinkTag?_eq_some_iff.1 h
  · exact hc (List.cons.inj he).1
  · exact hc (List.cons.inj he).1

theorem exists_cons_of_isWord_head {s : Text} (hs : ∀ c ∈ s.head?, isWord c = false) (rest : Text) :
    ∃ c t, isWord c = false ∧ s ++ '>' :: rest = c :: t := by
  have hhead := isWord_head_append hs rest
  cases h : s ++ '>' :: rest with
  | nil => simp at h
  | cons c t => exact ⟨c, t, by simpa [h] using hhead, rfl⟩

/-- A tag that begins like that of a link has the name of one, since a name ends where no character
of a word follows. -/
theorem Tag.name_of_opening {t : Tag} {opening : Text}
    (hopening : opening = "<a".toList ∨ opening = "</a".toList) {c d : Char} {s u : Text}
    (hc : isWord c = false) (hd : isWord d = false)
    (h : t.opening ++ c :: s = opening ++ d :: u) : t.name = ['a'] := by
  have hword : t.name.all isWord = true :=
    List.all_eq_true.2 fun c hc => (t.plain.letters c hc).1
  have hsame : t.name ++ c :: s = ['a'] ++ d :: u → t.name = ['a'] := fun h => by
    rw [← Text.takeWhile_append_cons hword hc s, h,
      Text.takeWhile_append_cons (by decide) hd]
  have hslash : '/' ∉ t.name := t.not_mem_name (by decide)
  obtain ⟨e, name, hname⟩ := List.exists_cons_of_ne_nil t.plain.ne_nil
  rw [Tag.opening] at h
  generalize t.closing = closing at h
  -- If one of the two is an end tag, the other one is as well.
  rcases hopening with rfl | rfl <;> cases closing
  · exact hsame (List.cons.inj h).2
  · exact absurd (List.cons.inj (List.cons.inj h).2).1 (by decide)
  · rw [hname] at h
    have he : e = '/' := (List.cons.inj (List.cons.inj h).2).1
    exact absurd (hname ▸ he ▸ List.mem_cons_self) hslash
  · exact hsame (List.cons.inj (List.cons.inj h).2).2

/-- A tag is that of a link if it has the name of one. -/
theorem afterLinkTag?_tag (t : Tag) (rest : Text) :
    afterLinkTag? (t.markup ++ rest) = if t.isLink then some rest else none := by
  split
  · next hlink =>
    have hname : t.name = ['a'] := of_decide_eq_true hlink
    refine afterLinkTag?_eq_some_iff.2 ⟨t.markup, ⟨t.opening, t.inside, ?_, rfl,
      t.angle_not_mem_inside.2, t.isWord_head_inside⟩, rfl⟩
    rw [Tag.opening, hname]
    cases t.closing
    · exact .inl rfl
    · exact .inr rfl
  · next hlink =>
    refine Option.eq_none_iff_forall_ne_some.2 fun r h => hlink (decide_eq_true ?_)
    obtain ⟨u, ⟨opening, inside, hopening, rfl, -, hinside⟩, he⟩ := afterLinkTag?_eq_some_iff.1 h
    obtain ⟨c, s, hc, htag⟩ := exists_cons_of_isWord_head t.isWord_head_inside rest
    obtain ⟨d, u, hd, hlinkTag⟩ := exists_cons_of_isWord_head hinside r
    have hfront : t.opening ++ c :: s = opening ++ d :: u := by
      rw [← htag, ← hlinkTag]
      simpa [Tag.markup] using he
    exact Tag.name_of_opening hopening hc hd hfront

theorem dropEach_linkTagReader (d : Dialect) {fs : List Fragment}
    (hfs : ∀ f ∈ fs, f.isReference = false) :
    dropEach linkTagReader (fs.flatMap (Fragment.markup d)) =
      (fs.filter (!·.isLink)).flatMap (Fragment.markup d) := by
  induction fs with
  | nil => exact dropEach_nil _
  | cons f fs ih =>
    rw [List.forall_mem_cons] at hfs
    replace ih := ih hfs.2
    rw [linkTagReader] at ih ⊢
    cases f with
    | text s hopening hclosing =>
      rw [List.flatMap_cons, List.filter_cons_of_pos rfl, List.flatMap_cons, ← ih]
      exact dropEach_text (fun hc => afterLinkTag?_cons hc _) hopening _
    | reference => exact absurd hfs.1.symm Bool.false_ne_true
    | tag t =>
      have hread := afterLinkTag?_tag t (fs.flatMap (Fragment.markup d))
      rw [List.flatMap_cons]
      cases hlink : t.isLink with
      | true =>
        rw [List.filter_cons_of_neg (by simp [Fragment.isLink, hlink]), ← ih]
        exact dropEach_of_some (by rwa [hlink, if_pos rfl] at hread)
      | false =>
        rw [List.filter_cons_of_pos (by simp [Fragment.isLink, hlink]), List.flatMap_cons, ← ih]
        refine dropEach_tag (fun hc => afterLinkTag?_cons hc _) ?_
        rwa [hlink, if_neg Bool.false_ne_true] at hread

/-! ## The `id` attributes are dropped -/

theorem afterId?_cons {c : Char} (hc : isBlank c = false) (s : Text) :
    afterId? (c :: s) = none := by
  refine Option.eq_none_iff_forall_ne_some.2 fun rest h => ?_
  obtain ⟨t, ⟨blanks, value, hne, hblanks, -, rfl⟩, he⟩ := afterId?_eq_some_iff.1 h
  obtain ⟨b, blanks, rfl⟩ := List.exists_cons_of_ne_nil hne
  have hb : c = b := (List.cons.inj he).1
  exact Bool.false_ne_true (hc.symm.trans (hb ▸ hblanks b List.mem_cons_self))

/-- What is written like an attribute begins in front of a quotation mark. -/
theorem infix_of_afterId? {s front rest r : Text} (hs : s = front ++ '"' :: rest)
    (hfront : '"' ∉ front) (h : afterId? s = some r) :
    ∃ blanks, blanks ≠ [] ∧ (∀ c ∈ blanks, isBlank c = true) ∧ front = blanks ++ "id=".toList := by
  obtain ⟨t, ⟨blanks, value, hne, hblanks, -, rfl⟩, he⟩ := afterId?_eq_some_iff.1 h
  refine ⟨blanks, hne, hblanks, ?_⟩
  have hquote : '"' ∉ blanks := fun hmem => absurd (hblanks _ hmem) (by decide)
  have hsplit : front ++ '"' :: rest =
      (blanks ++ "id=".toList) ++ '"' :: (value ++ '"' :: r) := by
    rw [← hs, he]
    simp
  exact (Text.eq_of_append_cons hfront (by simp [hquote]) hsplit).1

/-- Only a name can be taken for that of an `id` attribute. -/
theorem Attribute.isId_of_afterId? {a : Attribute} {rest r : Text}
    (h : afterId? (a.markup ++ rest) = some r) : a.isId = true := by
  have hsplit : a.markup ++ rest =
      (' ' :: (a.name ++ ['='])) ++ '"' :: (a.value ++ '"' :: rest) := by
    simp [markup]
  obtain ⟨blanks, hne, hblanks, he⟩ :=
    infix_of_afterId? hsplit (by simp [a.unmarked_name.quote]) h
  obtain ⟨b, blanks, rfl⟩ := List.exists_cons_of_ne_nil hne
  have hname : a.name = blanks ++ "id".toList := by
    have hlast : a.name ++ ['='] = (blanks ++ "id".toList) ++ ['='] := by
      rw [(List.cons.inj he).2, List.append_assoc]
      rfl
    exact List.append_cancel_right hlast
  cases blanks with
  | nil => exact decide_eq_true hname
  | cons c blanks =>
    have hinked := a.inked c (hname ▸ List.mem_cons_self)
    exact absurd (hinked.symm.trans (hblanks c (by simp))) Bool.false_ne_true

theorem dropEach_attribute {a : Attribute} (ha : ¬ "id=".toList <:+: a.value) (rest : Text) :
    dropEach idReader (a.markup ++ rest) =
      (if a.isId then [] else a.markup) ++ dropEach idReader rest := by
  rw [idReader]
  split
  · next hid =>
    have hname : a.name = "id".toList := of_decide_eq_true hid
    refine dropEach_of_some (afterId?_eq_some_iff.2 ⟨a.markup, ⟨[' '], a.value, by decide,
      by decide, a.unmarked_value.quote, ?_⟩, rfl⟩)
    rw [Attribute.markup, hname]
    rfl
  · next hid =>
    have hparts : ∀ s : Text,
        a.markup ++ s = [' '] ++ ((a.name ++ ['=', '"']) ++ (a.value ++ (['"'] ++ s))) := by
      simp [Attribute.markup]
    have hspace : ∀ t : Text, t ≠ [] → t <:+ [' '] →
        afterId? (t ++ ((a.name ++ ['=', '"']) ++ (a.value ++ (['"'] ++ rest)))) = none := by
      intro t hne ht
      obtain rfl : t = [' '] := (List.suffix_cons_iff.1 ht).resolve_right
        fun h => hne (List.suffix_nil.1 h)
      refine Option.eq_none_iff_forall_ne_some.2 fun r h => hid ?_
      exact Attribute.isId_of_afterId? ((hparts rest).symm ▸ h)
    have hmarks : ∀ c ∈ ['=', '"'], isBlank c = false := by decide
    have hname : ∀ c ∈ a.name ++ ['=', '"'], ∀ s, afterId? (c :: s) = none := fun c hc =>
      afterId?_cons ((List.mem_append.1 hc).elim (a.inked c) (hmarks c))
    have hvalue : ∀ t : Text, t ≠ [] → t <:+ a.value →
        afterId? (t ++ (['"'] ++ rest)) = none := by
      intro t _ ht
      refine Option.eq_none_iff_forall_ne_some.2 fun r h => ha ?_
      obtain ⟨blanks, -, -, rfl⟩ :=
        infix_of_afterId? rfl (fun hmem => a.unmarked_value.quote (ht.subset hmem)) h
      exact (List.suffix_append blanks _).isInfix.trans ht.isInfix
    have hquote : ∀ c ∈ ['"'], ∀ s, afterId? (c :: s) = none := by
      intro c hc
      rw [List.mem_singleton.1 hc]
      exact afterId?_cons (hmarks _ (by simp))
    rw [hparts, hparts, dropEach_append hspace, dropEach_append_of_forall hname,
      dropEach_append hvalue, dropEach_append_of_forall hquote]

theorem dropEach_attributes {as : List Attribute} (has : ∀ a ∈ as, ¬ "id=".toList <:+: a.value)
    (rest : Text) :
    dropEach idReader (as.flatMap Attribute.markup ++ rest) =
      (as.filter (!·.isId)).flatMap Attribute.markup ++ dropEach idReader rest := by
  induction as with
  | nil => rfl
  | cons a as ih =>
    rw [List.forall_mem_cons] at has
    rw [List.flatMap_cons, List.append_assoc, dropEach_attribute has.1, ih has.2]
    cases hid : a.isId with
    | true =>
      rw [List.filter_cons_of_neg (by simp [hid])]
      rfl
    | false =>
      rw [List.filter_cons_of_pos (by simp [hid]), List.flatMap_cons, List.append_assoc]
      rfl

/-- No attribute begins with the space before a slash. -/
theorem dropEach_tagEnd (slashed : Bool) (rest : Text) :
    dropEach idReader ((if slashed then [' ', '/'] else []) ++ ['>'] ++ rest) =
      (if slashed then [' ', '/'] else []) ++ ['>'] ++ dropEach idReader rest := by
  refine dropEach_append fun u hne hu => ?_
  obtain ⟨c, u, rfl⟩ := List.exists_cons_of_ne_nil hne
  have hinked : ∀ c ∈ ['/', '>'], isBlank c = false := by decide
  cases slashed with
  | false =>
    have hc : c ∈ ['>'] := hu.subset List.mem_cons_self
    exact afterId?_cons (hinked c (List.mem_cons_of_mem _ hc)) _
  | true =>
    rcases List.suffix_cons_iff.1 hu with he | hu
    · rw [he]
      rfl
    · exact afterId?_cons (hinked c (hu.subset List.mem_cons_self)) _

theorem Tag.isBlank_opening {t : Tag} {c : Char} (hc : c ∈ t.opening) : isBlank c = false := by
  have hmarks : c ∈ ['<', '/'] ∨ c ∈ t.name := by
    rw [opening] at hc
    generalize t.closing = closing at hc
    cases closing with
    | false => exact (List.mem_cons.1 hc).imp (fun he => by simp [he]) id
    | true =>
      rcases List.mem_cons.1 hc with rfl | hc
      · exact .inl List.mem_cons_self
      · exact (List.mem_cons.1 hc).imp (fun he => by simp [he]) id
  have hinked : ∀ c ∈ ['<', '/'], isBlank c = false := by decide
  exact hmarks.elim (hinked c) fun hc => (t.plain.letters c hc).isBlank

theorem dropEach_withoutIds {t : Tag} (ht : ∀ a ∈ t.attributes, ¬ "id=".toList <:+: a.value)
    (rest : Text) :
    dropEach idReader (t.markup ++ rest) = t.withoutIds.markup ++ dropEach idReader rest := by
  have hmarkup : ∀ (t : Tag) (s : Text), t.markup ++ s = t.opening ++
      (t.attributes.flatMap Attribute.markup ++
        ((if t.slashed then [' ', '/'] else []) ++ ['>'] ++ s)) := by
    intro t s
    simp [Tag.markup, Tag.inside]
  have hopening : ∀ c ∈ t.opening, ∀ s, afterId? (c :: s) = none := fun c hc =>
    afterId?_cons (Tag.isBlank_opening hc)
  calc dropEach idReader (t.markup ++ rest)
      = t.opening ++ dropEach idReader (t.attributes.flatMap Attribute.markup ++
          ((if t.slashed then [' ', '/'] else []) ++ ['>'] ++ rest)) := by
        rw [hmarkup]
        exact dropEach_append_of_forall hopening _
    _ = t.withoutIds.markup ++ dropEach idReader rest := by
        rw [dropEach_attributes ht, dropEach_tagEnd, hmarkup t.withoutIds]
        rfl

/-- What stands before the next tag is text. -/
theorem takeWhile_markup_isPrefix (d : Dialect) {fs : List Fragment}
    (hfs : ∀ f ∈ fs, f.isReference = false) :
    (fs.flatMap (Fragment.markup d)).takeWhile (· ≠ '<') <+: fs.flatMap Fragment.visible := by
  induction fs with
  | nil => exact List.nil_prefix
  | cons f fs ih =>
    rw [List.forall_mem_cons] at hfs
    rw [List.flatMap_cons, List.flatMap_cons]
    cases f with
    | text s hopening hclosing =>
      rw [Fragment.markup, Text.takeWhile_ne_append hopening]
      exact (List.prefix_append_right_inj s).2 (ih hfs.2)
    | reference => exact absurd hfs.1.symm Bool.false_ne_true
    | tag t =>
      obtain ⟨g, hg, -⟩ := t.exists_markup
      rw [Fragment.markup, hg, List.cons_append, List.takeWhile_cons_of_neg (by simp)]
      exact List.nil_prefix

/-- What is written like an attribute in the text has its beginning there, up to the sign. -/
theorem infix_of_afterId?_text (d : Dialect) {fs : List Fragment}
    (hfs : ∀ f ∈ fs, f.isReference = false) {s r : Text} (hs : '<' ∉ s)
    (h : afterId? (s ++ fs.flatMap (Fragment.markup d)) = some r) :
    "id=".toList <:+: s ++ fs.flatMap Fragment.visible := by
  obtain ⟨t, ⟨blanks, value, -, hblanks, -, rfl⟩, he⟩ := afterId?_eq_some_iff.1 h
  have hfront : '<' ∉ blanks ++ "id=".toList := by
    rw [List.mem_append, not_or]
    exact ⟨fun hc => absurd (hblanks _ hc) (by decide), by decide⟩
  have hprefix : blanks ++ "id=".toList <+: s ++ fs.flatMap Fragment.visible := by
    refine List.IsPrefix.trans ?_ ((List.prefix_append_right_inj s).2
      (takeWhile_markup_isPrefix d hfs))
    have hsplit : s ++ fs.flatMap (Fragment.markup d) =
        (blanks ++ "id=".toList) ++ ('"' :: (value ++ '"' :: r)) := by
      rw [he]
      simp
    rw [← Text.takeWhile_ne_append hs, hsplit, Text.takeWhile_ne_append hfront]
    exact List.prefix_append _ _
  exact (List.suffix_append blanks _).isInfix.trans hprefix.isInfix

theorem dropEach_idReader (d : Dialect) {fs : List Fragment}
    (hfs : ∀ f ∈ fs, f.isReference = false)
    (hvalue : ∀ t, .tag t ∈ fs → ∀ a ∈ t.attributes, ¬ "id=".toList <:+: a.value)
    (htext : ¬ "id=".toList <:+: fs.flatMap Fragment.visible) :
    dropEach idReader (fs.flatMap (Fragment.markup d)) =
      (fs.map Fragment.withoutIds).flatMap (Fragment.markup d) := by
  induction fs with
  | nil => exact dropEach_nil _
  | cons f fs ih =>
    rw [List.flatMap_cons] at htext
    replace ih := ih (fun f hf => hfs f (List.mem_cons_of_mem _ hf))
      (fun t ht => hvalue t (List.mem_cons_of_mem f ht))
      fun h => htext (h.trans (List.suffix_append _ _).isInfix)
    rw [List.flatMap_cons, List.map_cons, List.flatMap_cons, ← ih]
    cases f with
    | text s hopening hclosing =>
      refine dropEach_append fun t _ ht => Option.eq_none_iff_forall_ne_some.2 fun r h => htext ?_
      refine (infix_of_afterId?_text d (fun f hf => hfs f (List.mem_cons_of_mem _ hf))
        (fun hmem => hopening (ht.subset hmem)) h).trans ?_
      obtain ⟨u, rfl⟩ := ht
      exact ⟨u, [], by simp [Fragment.visible]⟩
    | reference => exact absurd (hfs _ List.mem_cons_self).symm Bool.false_ne_true
    | tag t => exact dropEach_withoutIds (hvalue t List.mem_cons_self) _

/-! ## Labels -/

/-- The fragments that a label keeps, without their `id` attributes: all but the footnote references
and the tags of links. -/
def kept (fs : List Fragment) : List Fragment :=
  ((fs.filter (!·.isReference)).filter (!·.isLink)).map Fragment.withoutIds

theorem visible_filter {p : Fragment → Bool} (hp : ∀ f, p f = false → f.visible = [])
    (fs : List Fragment) :
    (fs.filter p).flatMap Fragment.visible = fs.flatMap Fragment.visible := by
  induction fs with
  | nil => rfl
  | cons f fs ih =>
    rw [List.flatMap_cons, ← ih]
    cases hf : p f with
    | true => rw [List.filter_cons_of_pos hf, List.flatMap_cons]
    | false =>
      rw [List.filter_cons_of_neg (by simp [hf]), hp f hf]
      rfl

theorem visible_of_isReference {f : Fragment} (h : (!f.isReference) = false) : f.visible = [] := by
  cases f with
  | text => cases h
  | reference => rfl
  | tag => rfl

theorem visible_of_isLink {f : Fragment} (h : (!f.isLink) = false) : f.visible = [] := by
  cases f with
  | text => cases h
  | reference => rfl
  | tag => rfl

theorem visible_kept (fs : List Fragment) :
    (kept fs).flatMap Fragment.visible = fs.flatMap Fragment.visible := by
  have hids : ∀ f : Fragment, f.withoutIds.visible = f.visible := by
    intro f
    cases f <;> rfl
  simp only [kept, List.flatMap_map, hids]
  rw [visible_filter fun f => visible_of_isLink, visible_filter fun f => visible_of_isReference]

theorem mem_kept {fs : List Fragment} {k : Fragment} (hk : k ∈ kept fs) :
    ∃ f ∈ fs, f.isReference = false ∧ f.isLink = false ∧ k = f.withoutIds := by
  obtain ⟨f, hf, rfl⟩ := List.mem_map.1 hk
  simp only [List.mem_filter, Bool.not_eq_true'] at hf
  exact ⟨f, hf.1.1, hf.1.2, hf.2, rfl⟩

section

variable (d : Dialect) {fs : List Fragment}
  (hvalue : ∀ t, .tag t ∈ fs → ∀ a ∈ t.attributes, ¬ "id=".toList <:+: a.value)
  (htext : ¬ "id=".toList <:+: fs.flatMap Fragment.visible)
include hvalue htext

/-- The three removals take away what is not kept. -/
theorem label_eq_trim_kept
    (hfootnote : ∀ t, .tag t ∈ fs → ∀ a ∈ t.attributes, a.value ≠ "footnote".toList) :
    label (fs.flatMap (Fragment.markup d)) =
      Text.trim ((kept fs).flatMap (Fragment.markup d)) := by
  have hreference : ∀ f ∈ fs.filter (!·.isReference), f.isReference = false := by
    simp
  have hlink : ∀ f ∈ (fs.filter (!·.isReference)).filter (!·.isLink), f ∈ fs ∧
      f.isReference = false := by
    simp only [List.mem_filter, Bool.not_eq_true']
    exact fun f hf => ⟨hf.1.1, hf.1.2⟩
  rw [label, dropEach_referenceReader d hfootnote, dropEach_linkTagReader d hreference,
    dropEach_idReader d (fun f hf => (hlink f hf).2) (fun t ht => hvalue t (hlink _ ht).1)]
  · rfl
  · rwa [visible_filter fun f => visible_of_isLink, visible_filter fun f => visible_of_isReference]

/-- Among the fragments that are kept, the removals find nothing more. -/
theorem nowhere_kept :
    Text.Nowhere afterLinkTag? ((kept fs).flatMap (Fragment.markup d)) ∧
      Text.Nowhere afterId? ((kept fs).flatMap (Fragment.markup d)) := by
  have hreference : ∀ k ∈ kept fs, k.isReference = false := by
    intro k hk
    obtain ⟨f, -, hf, -, rfl⟩ := mem_kept hk
    cases f <;> exact hf
  have hlink : (kept fs).filter (!·.isLink) = kept fs := by
    refine List.filter_eq_self.2 fun k hk => ?_
    obtain ⟨f, -, -, hf, rfl⟩ := mem_kept hk
    rw [Bool.not_eq_true']
    cases f <;> exact hf
  have hids : (kept fs).map Fragment.withoutIds = kept fs := by
    refine (List.map_congr_left fun k hk => ?_).trans (List.map_id _)
    obtain ⟨f, -, -, -, rfl⟩ := mem_kept hk
    cases f with
    | text => rfl
    | reference => rfl
    | tag t => simp [Fragment.withoutIds, Tag.withoutIds]
  have hkept : ∀ t, .tag t ∈ kept fs → ∀ a ∈ t.attributes, ¬ "id=".toList <:+: a.value := by
    intro t ht a ha
    obtain ⟨f, hf, -, -, he⟩ := mem_kept ht
    cases f with
    | text => cases he
    | reference => cases he
    | tag u =>
      cases he
      exact hvalue u hf a (List.mem_filter.1 ha).1
  have hlinks := dropEach_linkTagReader d hreference
  rw [hlink] at hlinks
  have hattributes := dropEach_idReader d hreference hkept (by rwa [visible_kept])
  rw [hids] at hattributes
  exact ⟨(inked_dropEach (fun _ _ => inked_lt_of_afterLinkTag?) _).2 (congrArg inked hlinks),
    (inked_dropEach (fun _ _ => inked_lt_of_afterId?) _).2 (congrArg inked hattributes)⟩

end

theorem trim_infix (s : Text) : Text.trim s <:+: s :=
  (List.rdropWhile_prefix isBlank _).isInfix.trans (List.dropWhile_suffix isBlank).isInfix

theorem nowhere_afterLinkTag?_iff {s : Text} :
    Text.Nowhere afterLinkTag? s ↔ ∀ t, t <:+: s → ¬ IsLinkTag t := by
  refine nowhere_iff_infix afterLinkTag?_eq_some_iff ?_
  rintro ⟨opening, inside, -, h, -⟩
  simp at h

theorem nowhere_afterId?_iff {s : Text} :
    Text.Nowhere afterId? s ↔ ∀ t, t <:+: s → ¬ IsIdAttribute t := by
  refine nowhere_iff_infix afterId?_eq_some_iff ?_
  rintro ⟨blanks, value, -, -, -, h⟩
  simp at h

/-- The label of generated markup is what is kept of its fragments, without the white space at the
ends.  A footnote reference goes with its label, the tags of a link go and what is between them
stays, and a tag that stays loses its `id` attributes.  No tag of a link and no `id` attribute is in
the label. -/
theorem label_fragments (d : Dialect) {fs : List Fragment}
    (hfootnote : ∀ a ∈ fs.flatMap Fragment.attributes, a.value ≠ "footnote".toList)
    (hvalue : ∀ a ∈ fs.flatMap Fragment.attributes, ¬ "id=".toList <:+: a.value)
    (htext : ¬ "id=".toList <:+: fs.flatMap Fragment.visible) :
    label (fs.flatMap (Fragment.markup d)) =
        Text.trim ((kept fs).flatMap (Fragment.markup d)) ∧
      ∀ t, t <:+: label (fs.flatMap (Fragment.markup d)) → ¬ IsLinkTag t ∧ ¬ IsIdAttribute t := by
  have hmem : ∀ t, .tag t ∈ fs → ∀ a ∈ t.attributes, a ∈ fs.flatMap Fragment.attributes :=
    fun t ht a ha => List.mem_flatMap.2 ⟨.tag t, ht, ha⟩
  replace hvalue : ∀ t, .tag t ∈ fs → ∀ a ∈ t.attributes, ¬ "id=".toList <:+: a.value :=
    fun t ht a ha => hvalue a (hmem t ht a ha)
  have hlabel := label_eq_trim_kept d hvalue htext fun t ht a ha => hfootnote a (hmem t ht a ha)
  obtain ⟨hlinks, hids⟩ := nowhere_kept d hvalue htext
  refine ⟨hlabel, fun t ht => ?_⟩
  have hkept := ht.trans (hlabel ▸ trim_infix _)
  exact ⟨nowhere_afterLinkTag?_iff.1 hlinks t hkept, nowhere_afterId?_iff.1 hids t hkept⟩

/-- A reference, a link, and a tag with an `id` attribute and another one. -/
theorem label_fragments_heading :
    let emphasis : Tag := ⟨false, "em".toList, by decide,
      [⟨"id".toList, "x".toList, by decide, by decide, by decide⟩,
        ⟨"class".toList, "y".toList, by decide, by decide, by decide⟩], false⟩
    let link : Tag := ⟨false, "a".toList, by decide,
      [⟨"href".toList, "u".toList, by decide, by decide, by decide⟩], false⟩
    let fs : List Fragment :=
      [.text "Set ".toList (by decide) (by decide), .tag emphasis,
        .text "up".toList (by decide) (by decide),
        .tag { emphasis with closing := true, attributes := [] },
        .reference ⟨"^f".toList, 0, 4⟩ 4 (some "#f".toList) (some "[1]".toList) (some "r".toList),
        .tag link, .text " now ".toList (by decide) (by decide),
        .tag { link with closing := true, attributes := [] }]
    fs.flatMap (Fragment.markup .closed) =
        "Set <em id=\"x\" class=\"y\">up</em><sup id=\"r\"><a href=\"#f\" rel=\"footnote\">".toList ++
          "[1]</a></sup><a href=\"u\"> now </a>".toList ∧
      label (fs.flatMap (Fragment.markup .closed)) =
        "Set <em class=\"y\">up</em> now".toList := by
  intro emphasis link fs
  refine ⟨by decide, ?_⟩
  obtain ⟨hlabel, -⟩ := @label_fragments .closed fs (by decide) (by decide)
    (by decide)
  exact hlabel.trans (by decide)

end WikiText.Toc
