import Mathlib.Tactic.IntervalCases
import WikiText.Proofs.Toc.Spaces

/-!
# What a placeholder asks for

A placeholder may have a parameter behind its name, and a parameter may name a range of levels.
Both are given here as grammars, `IsBody` and `IsRange`, and the readers are shown to accept what
the grammars derive; for the range, that and nothing else (`levelRange?_eq_some_iff`).  So the table
is known from how the line is written.  Main statement: `expandLine_written`.
-/

namespace WikiText.Toc

open Text (isSpace copies)

/-! ## Ranges of levels -/

/-- A digit that is the number of a level. -/
structure IsLevel (n : Int) (c : Char) : Prop where
  first_le : 1 ≤ n
  le_last : n ≤ 6
  digit : [c] = Text.ofInt n

/-- Where a range starts: at no level, or at a level behind its letter. -/
inductive StartsAt : Option Int → Text → Prop where
  | none : StartsAt none []
  | level {n : Int} {h c : Char} (hletter : h.toLower = 'h') (hlevel : IsLevel n c) :
      StartsAt (some n) [h, c]

/-- A hyphen, or two dots or more. -/
inductive IsSeparator : Text → Prop where
  | hyphen : IsSeparator ['-']
  | dots (n : Nat) : IsSeparator (copies (n + 2) '.')

/-- Where a range stops: at no level, or at a level with its letter or without. -/
inductive StopsAt : Option Int → Text → Prop where
  | none : StopsAt none []
  | digit {n : Int} {c : Char} (hlevel : IsLevel n c) : StopsAt (some n) [c]
  | level {n : Int} {h c : Char} (hletter : h.toLower = 'h') (hlevel : IsLevel n c) :
      StopsAt (some n) [h, c]

/-- A parameter that names the levels of a range, of which one at least is there. -/
inductive IsRange : Option Int → Option Int → Text → Prop where
  | mk {first last : Option Int} {start separator stop : Text} (hstart : StartsAt first start)
      (hseparator : IsSeparator separator) (hstop : StopsAt last stop)
      (hsome : first.isSome ∨ last.isSome) : IsRange first last (start ++ (separator ++ stop))

theorem level?_eq_some_iff {n : Int} {c : Char} : level? c = some n ↔ IsLevel n c := by
  constructor
  · intro h
    rw [level?] at h
    split at h
    · next hc =>
      have hlow : 49 ≤ c.toNat := hc.1
      have hhigh : c.toNat ≤ 54 := hc.2
      obtain rfl := Option.some.inj h
      refine ⟨by omega, by omega, ?_⟩
      have hchar : c = Char.ofNat c.toNat := (Char.ofNat_toNat c).symm
      generalize c.toNat = k at hchar hlow hhigh
      subst hchar
      interval_cases k <;> rfl
    · simp at h
  · rintro ⟨hfirst, hlast, hdigit⟩
    have hc : ∀ d : Char, [d] = Text.ofInt n → c = d := fun d hd =>
      List.singleton_inj.1 (hdigit.trans hd.symm)
    interval_cases n
    · obtain rfl := hc '1' rfl; rfl
    · obtain rfl := hc '2' rfl; rfl
    · obtain rfl := hc '3' rfl; rfl
    · obtain rfl := hc '4' rfl; rfl
    · obtain rfl := hc '5' rfl; rfl
    · obtain rfl := hc '6' rfl; rfl

theorem exists_startsAt_firstLevel (p : Text) :
    ∃ start, StartsAt (firstLevel p).1 start ∧ p = start ++ (firstLevel p).2 := by
  rw [firstLevel.eq_def]
  split
  · next h c s =>
    split
    · next hletter =>
      split
      · next n hn => exact ⟨_, .level hletter (level?_eq_some_iff.1 hn), rfl⟩
      · exact ⟨[], .none, rfl⟩
    · exact ⟨[], .none, rfl⟩
  · exact ⟨[], .none, rfl⟩

/-- No separator begins with the letter of a level. -/
theorem firstLevel_append {first : Option Int} {start separator : Text}
    (hstart : StartsAt first start) (hseparator : IsSeparator separator) (s : Text) :
    firstLevel (start ++ (separator ++ s)) = (first, separator ++ s) := by
  cases hstart with
  | level hletter hlevel =>
    simp [firstLevel, hletter, level?_eq_some_iff.2 hlevel]
  | none =>
    cases hseparator with
    | hyphen => cases s <;> simp [firstLevel]
    | dots n => simp [firstLevel, copies, List.replicate_succ]

theorem exists_isSeparator_of_afterSeparator? {s t : Text} (h : afterSeparator? s = some t) :
    ∃ separator, IsSeparator separator ∧ s = separator ++ t := by
  rw [afterSeparator?.eq_def] at h
  split at h
  · obtain rfl := Option.some.inj h
    exact ⟨_, .hyphen, rfl⟩
  · next s =>
    obtain rfl := Option.some.inj h
    refine ⟨_, .dots (s.takeWhile (· = '.')).length, ?_⟩
    have hdots : copies (s.takeWhile (· = '.')).length '.' = s.takeWhile (· = '.') := by
      refine (List.eq_replicate_of_mem fun c hc => ?_).symm
      simpa using List.mem_takeWhile_imp hc
    show '.' :: '.' :: s = '.' :: '.' :: (copies (s.takeWhile (· = '.')).length '.' ++ _)
    rw [hdots, List.takeWhile_append_dropWhile]
  · simp at h

/-- Where a range stops there is no dot, so the separator takes all dots. -/
theorem afterSeparator?_append {last : Option Int} {separator stop : Text}
    (hseparator : IsSeparator separator) (hstop : StopsAt last stop) :
    afterSeparator? (separator ++ stop) = some stop := by
  cases hseparator with
  | hyphen => rfl
  | dots n =>
    show some ((copies n '.' ++ stop).dropWhile (· = '.')) = some stop
    have hdots : ∀ c ∈ copies n '.', decide (c = '.') = true := fun c hc =>
      decide_eq_true (List.eq_of_mem_replicate hc)
    rw [List.dropWhile_append_of_pos hdots]
    cases hstop with
    | none => rfl
    | digit hlevel =>
      rw [List.dropWhile_cons_of_neg]
      intro hdot
      rw [of_decide_eq_true hdot] at hlevel
      exact absurd (level?_eq_some_iff.2 hlevel) (by simp [level?])
    | level hletter hlevel =>
      rw [List.dropWhile_cons_of_neg]
      intro hdot
      rw [of_decide_eq_true hdot] at hletter
      exact absurd hletter (by decide)

/-- All of the text is read. -/
theorem lastLevel?_eq_some_iff {last : Option Int} {s : Text} (hs : '\n' ∉ s) :
    lastLevel? s = some last ↔ StopsAt last s := by
  have hline : s.getLast? ≠ some '\n' := fun h => hs (List.mem_of_getLast? h)
  rw [lastLevel?.eq_def, if_neg hline]
  split
  · constructor
    · intro h
      obtain rfl : none = last := Option.some.inj h
      exact .none
    · rintro ⟨⟩
      rfl
  · rw [Option.map_eq_some_iff]
    constructor
    · rintro ⟨n, hn, rfl⟩
      exact .digit (level?_eq_some_iff.1 hn)
    · rintro ⟨⟩
      next hlevel => exact ⟨_, level?_eq_some_iff.2 hlevel, rfl⟩
  · constructor
    · intro h
      split at h
      · next hletter =>
        obtain ⟨n, hn, rfl⟩ := Option.map_eq_some_iff.1 h
        exact .level hletter (level?_eq_some_iff.1 hn)
      · simp at h
    · rintro ⟨⟩
      next hletter hlevel =>
      rw [if_pos hletter, level?_eq_some_iff.2 hlevel]
      rfl
  · next hnil hone htwo =>
    refine iff_of_false (by simp) ?_
    rintro ⟨⟩
    · exact hnil rfl
    · exact hone _ rfl
    · exact htwo _ _ rfl

/-- A parameter names a range if it is written as one, and then it names no other. -/
theorem levelRange?_eq_some_iff {p : Text} (hp : '\n' ∉ p) {range : Int × Int} :
    levelRange? p = some range ↔
      ∃ first last, IsRange first last p ∧ range = (first.getD 1, last.getD 6) := by
  rw [levelRange?]
  simp only [Option.bind_eq_bind, Option.bind_eq_some_iff]
  constructor
  · rintro ⟨s, hs, last, hlast, h⟩
    obtain ⟨start, hstart, hsplit⟩ := exists_startsAt_firstLevel p
    obtain ⟨separator, hseparator, hrest⟩ := exists_isSeparator_of_afterSeparator? hs
    rw [hrest] at hsplit
    have hstop : StopsAt last s := by
      refine (lastLevel?_eq_some_iff fun hmem => hp ?_).1 hlast
      rw [hsplit]
      simp [hmem]
    split at h
    · simp at h
    · next hsome =>
      obtain rfl := Option.some.inj h
      have hlevel : (firstLevel p).1.isSome ∨ last.isSome := by
        simpa [Option.isSome_iff_ne_none, imp_iff_not_or] using hsome
      have hrange : IsRange _ _ (start ++ (separator ++ s)) := .mk hstart hseparator hstop hlevel
      rw [← hsplit] at hrange
      exact ⟨_, last, hrange, rfl⟩
  · rintro ⟨first, last, ⟨hstart, hseparator, hstop, hsome⟩, rfl⟩
    next start separator stop =>
    have hline : '\n' ∉ stop := fun hmem =>
      hp (List.mem_append_right _ (List.mem_append_right _ hmem))
    rw [firstLevel_append hstart hseparator]
    refine ⟨stop, afterSeparator?_append hseparator hstop, last,
      (lastLevel?_eq_some_iff hline).2 hstop, if_neg ?_⟩
    rintro ⟨hfirst, hlast⟩
    rcases hsome with h | h
    · exact Option.not_isSome_iff_eq_none.2 (Option.isNone_iff_eq_none.1 hfirst) h
    · exact Option.not_isSome_iff_eq_none.2 (Option.isNone_iff_eq_none.1 hlast) h

/-! ## What stands behind the name -/

/-- A parameter as it is meant: something on one line with no spaces around it. -/
structure IsParameter (p : Text) : Prop where
  ne_nil : p ≠ []
  newline : '\n' ∉ p
  head : p.head? ≠ some ' '
  last : p.getLast? ≠ some ' '

/-- What stands between the name and the brace: one space at most, or else a parameter behind a
colon or behind spaces, with spaces after it. -/
inductive IsBody : Option Text → Text → Prop where
  | bare {spaces : Text} (hspaces : spaces.all isSpace = true) (hone : spaces.length ≤ 1) :
      IsBody none spaces
  | colon {p spaces : Text} (hp : IsParameter p) (hspaces : spaces.all isSpace = true) :
      IsBody (some p) (':' :: (p ++ spaces))
  | spaced {before p spaces : Text} (hbefore : before.all isSpace = true) (hne : before ≠ [])
      (hp : IsParameter p) (hspaces : spaces.all isSpace = true) :
      IsBody (some p) (before ++ (p ++ spaces))

/-- What a parameter asks for: the first and the last level, and what is reported. -/
inductive Asks : Option Text → Int → Int → List Warning → Prop where
  | all : Asks none 1 6 []
  | levels {first last : Option Int} {p : Text} (h : IsRange first last p) :
      Asks (some p) (first.getD 1) (last.getD 6) []
  | illegal {p : Text} (h : ∀ first last, ¬ IsRange first last p) :
      Asks (some p) 1 6 [.illegalTocParameter p]

theorem newline_not_mem_spaces {spaces : Text} (h : spaces.all isSpace = true) : '\n' ∉ spaces :=
  fun hmem => absurd (List.all_eq_true.1 h _ hmem) (by decide)

theorem IsParameter.exists_cons {p : Text} (h : IsParameter p) : ∃ c t, p = c :: t ∧ c ≠ ' ' := by
  obtain ⟨c, t, rfl⟩ := List.exists_cons_of_ne_nil h.ne_nil
  exact ⟨c, t, rfl, fun hc => h.head (hc ▸ rfl)⟩

theorem IsParameter.parameter_append {p spaces : Text} (h : IsParameter p)
    (hspaces : spaces.all isSpace = true) : parameter (p ++ spaces) = p := by
  obtain ⟨t, c, rfl⟩ := (List.eq_nil_or_concat' p).resolve_left h.ne_nil
  have hc : isSpace c = false := decide_eq_false fun he => h.last (by simp [he])
  have hdrop : Text.dropEndWhile isSpace (t ++ [c]) = t ++ [c] :=
    List.rdropWhile_concat_neg _ _ _ (by simp [hc])
  rw [Toc.parameter_append hspaces, parameter, hdrop]
  cases t <;> rfl

/-- A parameter is read as it is meant. -/
theorem IsBody.parameterOf? {q : Option Text} {body : Text} (h : IsBody q body) :
    parameterOf? body = some q := by
  cases h with
  | bare hspaces hone =>
    match body, hspaces, hone with
    | [], _, _ => rfl
    | [c], hspaces, _ =>
      have hc : c = ' ' := by simpa [isSpace] using hspaces
      rw [hc]
      rfl
  | colon hp hspaces =>
    next p spaces =>
    obtain ⟨c, t, rfl, -⟩ := hp.exists_cons
    show some (some (parameter (c :: t ++ spaces))) = _
    rw [hp.parameter_append hspaces]
  | spaced hbefore hne hp hspaces =>
    next before p spaces =>
    obtain ⟨c, t, rfl, hc⟩ := hp.exists_cons
    obtain ⟨d, before, rfl⟩ := List.exists_cons_of_ne_nil hne
    rw [List.all_cons, Bool.and_eq_true] at hbefore
    have hd : d = ' ' := of_decide_eq_true hbefore.1
    have hdrop : (before ++ (c :: t ++ spaces)).dropWhile isSpace = c :: t ++ spaces := by
      exact Text.dropWhile_append_cons hbefore.2 (by simpa [isSpace] using hc) _
    have hread : Toc.parameterOf? (' ' :: (before ++ (c :: t ++ spaces))) =
        some (some (parameter ((before ++ (c :: t ++ spaces)).dropWhile isSpace))) := by
      cases before <;> rfl
    rw [hd, List.cons_append, hread, hdrop, hp.parameter_append hspaces]

theorem IsBody.newline {q : Option Text} {body : Text} (h : IsBody q body) : '\n' ∉ body := by
  cases h with
  | bare hspaces _ => exact newline_not_mem_spaces hspaces
  | colon hp hspaces => simp [hp.newline, newline_not_mem_spaces hspaces]
  | spaced hbefore _ hp hspaces =>
    simp [newline_not_mem_spaces hbefore, hp.newline, newline_not_mem_spaces hspaces]

/-- The parameter of a placeholder is on one line. -/
theorem IsBody.newline_of_some {p body : Text} (h : IsBody (some p) body) : '\n' ∉ p := by
  cases h with
  | colon hp _ => exact hp.newline
  | spaced _ _ hp _ => exact hp.newline

/-! ## The table -/

theorem exists_asks (parameter : Option Text) : ∃ first last reported,
    Asks parameter first last reported := by
  cases parameter with
  | none => exact ⟨1, 6, [], .all⟩
  | some p =>
    by_cases h : ∃ first last, IsRange first last p
    · obtain ⟨first, last, h⟩ := h
      exact ⟨_, _, _, .levels h⟩
    · exact ⟨_, _, _, .illegal fun first last hrange => h ⟨first, last, hrange⟩⟩

theorem Asks.ofParameter {parameter : Option Text} {first last : Int} {reported : List Warning}
    (h : Asks parameter first last reported) (hparameter : ∀ p, parameter = some p → '\n' ∉ p)
    (side : Option Side) :
    Request.ofParameter side parameter = (⟨side, first, last⟩, reported) := by
  cases h with
  | all => rfl
  | levels h =>
    rw [Request.ofParameter, (levelRange?_eq_some_iff (hparameter _ rfl)).2 ⟨_, _, h, rfl⟩]
  | illegal h =>
    next p =>
    have hnone : levelRange? p = none := Option.eq_none_iff_forall_ne_some.2 fun range hrange => by
      obtain ⟨first, last, hp, -⟩ := (levelRange?_eq_some_iff (hparameter p rfl)).1 hrange
      exact h first last hp
    rw [Request.ofParameter, hnone]

/-- The class of a side, behind the class of the container. -/
def sideClass : Option Side → Text
  | none => []
  | some .left => " left".toList
  | some .right => " right".toList

theorem classes_eq (cssClass : Text) (side : Option Side) :
    classes cssClass side = cssClass ++ sideClass side := by
  match side with
  | none => exact (List.append_nil _).symm
  | some .left => rfl
  | some .right => rfl

/-- Only the first heading is compared with the first level asked for. -/
theorem structureWarnings_eq (headings : List Heading) (r : Request) :
    structureWarnings headings r = ((headings.take 1).filter (r.first < ·.level)).map fun h =>
      .illegalHeadingStructure r.first h.level := by
  cases headings with
  | nil => rfl
  | cons h headings =>
    have hbelow : h.level ≥ r.first + 1 ↔ r.first < h.level := Int.add_one_le_iff
    simp only [structureWarnings, hbelow]
    by_cases hlevel : r.first < h.level
    · simp [hlevel]
    · simp [hlevel]

/-- A placeholder line lists what it asks for: the container with its classes holds one item for
each heading of a level asked for, in the order of the document, and nothing else.  A parameter that
names no range asks for all levels and is reported as it is written. -/
theorem expandLine_written (src : Source) {side : Option Side} {parameter : Option Text}
    {front body after : Text} (hfront : IsOpening side front) (hbody : IsBody parameter body)
    (hafter : after.all isSpace = true) :
    (∃ first last reported, Asks parameter first last reported) ∧
      ∀ first last reported, Asks parameter first last reported →
        let asked := src.headings.filter fun h => first ≤ h.level ∧ h.level ≤ last
        expandLine src (front ++ (body ++ '\x7d' :: after)) =
            ("\n\n<div class=\"".toList ++ (src.cssClass ++ sideClass side) ++
                "\"><ul>".toList ++
                asked.flatMap (fun h =>
                  "<li class=\"heading".toList ++ Text.ofInt h.level ++ "\"><a href=\"#".toList ++
                    h.id ++ "\">".toList ++ label h.content ++ "</a></li>\n".toList) ++
                "</ul></div>\n\n".toList,
              reported ++ ((src.headings.take 1).filter (first < ·.level)).map fun h =>
                .illegalHeadingStructure first h.level) ∧
          ∀ w ∈ reported, ∃ p, parameter = some p ∧
            w.message = "illegal TOC parameter - ".toList ++ p ++
              " (valid example: 'h2..h4')".toList := by
  refine ⟨exists_asks parameter, fun first last reported hasks => ⟨?_, fun w hw => ?_⟩⟩
  · have hline : Placeholder.ofLine? (front ++ (body ++ '\x7d' :: after)) =
        some ⟨side, parameter⟩ :=
      Placeholder.ofLine?_eq_some_iff.2
        ⟨front, body, after, hfront, hafter, hbody.newline, hbody.parameterOf?, rfl⟩
    have hrequest := hasks.ofParameter (fun p hp => (hp ▸ hbody).newline_of_some) side
    rw [expandLine_of_ofLine? src hline, ofPlaceholder, hrequest, ← classes_eq,
      ← structureWarnings_eq src.headings ⟨side, first, last⟩]
    rfl
  · cases hasks with
    | all => simp at hw
    | levels _ => simp at hw
    | illegal _ =>
      rw [List.mem_singleton] at hw
      exact ⟨_, rfl, hw ▸ rfl⟩

/-- Spaces, a side, letters in both cases, a separator of three dots and a level without its letter.
The first heading lies above the range, the last below it. -/
theorem expandLine_written_levels :
    let src : Source :=
      ⟨[⟨1, "a".toList, "A".toList⟩, ⟨3, "b".toList, "B".toList⟩, ⟨5, "c".toList, "C".toList⟩],
        "toc".toList⟩
    IsOpening (some .left) " \x7b <ToC".toList ∧
      IsBody (some "H2...4".toList) "  H2...4 ".toList ∧
      expandLine src " \x7b <ToC  H2...4 \x7d ".toList =
        ("\n\n<div class=\"toc left\"><ul>".toList ++
          "<li class=\"heading3\"><a href=\"#b\">B</a></li>\n</ul></div>\n\n".toList, []) := by
  intro src
  have hfront : IsOpening (some .left) " \x7b <ToC".toList :=
    @IsOpening.mk (some .left) [' '] [' '] "ToC".toList (by decide) (by decide) (by decide)
      (by decide)
  have hbody : IsBody (some "H2...4".toList) "  H2...4 ".toList :=
    @IsBody.spaced [' ', ' '] "H2...4".toList [' '] (by decide) (by decide)
      ⟨by decide, by decide, by decide, by decide⟩ (by decide)
  have hrange : IsRange (some 2) (some 4) "H2...4".toList :=
    @IsRange.mk (some 2) (some 4) ['H', '2'] "...".toList ['4']
      (.level (by decide) ⟨by decide, by decide, rfl⟩) (.dots 1)
      (.digit ⟨by decide, by decide, rfl⟩) (.inl rfl)
  obtain ⟨htable, -⟩ := (@expandLine_written src _ _ _ _ [' '] hfront hbody (by decide)).2 2 4 []
    (.levels hrange)
  exact ⟨hfront, hbody, htable.trans (by decide +kernel)⟩

end WikiText.Toc
