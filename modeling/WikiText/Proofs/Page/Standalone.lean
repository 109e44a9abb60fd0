import WikiText.Page.Standalone
import WikiText.Proofs.Html.Escape
import WikiText.Proofs.Text.Blank
import WikiText.Proofs.Text.Search

/-!
# The parts of a page

Three texts are put into a page, and only the title is escaped.  That is enough to keep it apart
from the rest: in its place there is no markup, and it is read back whole, although it may come from
a heading whose references were decoded before.  Which title that is, is said by `IsTitle`, and
there is just one (`isTitle_iff`).  Main statement: `standalone_parts`.
-/

namespace WikiText.Page

open Html (Drops escape unescape)

/-! ## Titles -/

/-- What a markup shows: its comments are dropped and then its tags, the words that are left are set
one space apart, and references are decoded last. -/
def Shows (content shown : Text) : Prop :=
  ∃ u v ws, Drops "<!--".toList "-->".toList content u ∧ Drops ['<'] ['>'] u v ∧
    Text.SplitsInto v ws ∧ shown = unescape (Text.joinWith [' '] ws)

/-- A markup shows one text. -/
theorem shows_iff {content shown : Text} :
    Shows content shown ↔ Html.visibleText content = shown := by
  obtain ⟨u, hcomments, htags⟩ := Html.exists_drops_withoutTags content
  constructor
  · rintro ⟨u', v, ws, hcomments', htags', hwords, rfl⟩
    obtain rfl := hcomments.unique hcomments'
    obtain rfl := htags.unique htags'
    obtain rfl := Text.splitsInto_iff.1 hwords
    rfl
  · rintro rfl
    exact ⟨u, _, _, hcomments, htags, Text.splitsInto_words _, rfl⟩

/-- The title of a page, from the one given and the headings. -/
inductive IsTitle (given : Option Text) (headings : List Heading) : Text → Prop
  | given {t : Text} (h : given = some t) (ht : t ≠ []) : IsTitle given headings t
  | heading {first : Heading} {t : Text} (hgiven : given.getD [] = [])
      (hfirst : headings.head? = some first) (hshows : Shows first.content t) (ht : t ≠ []) :
      IsTitle given headings t
  | untitled (hgiven : given.getD [] = [])
      (hshows : ∀ first ∈ headings.head?, Shows first.content []) :
      IsTitle given headings "Document".toList

theorem title_none_cons (first : Heading) (headings : List Heading) :
    title none (first :: headings) =
      if Html.visibleText first.content = [] then defaultTitle
      else Html.visibleText first.content := by
  rw [title, List.head?_cons, Option.bind_some]
  generalize Html.visibleText first.content = t
  cases t <;> rfl

theorem title_eq_title_none {given : Option Text} (h : given.getD [] = [])
    (headings : List Heading) : title given headings = title none headings := by
  cases given with
  | none => rfl
  | some t => exact (show t = [] from h) ▸ rfl

theorem isTitle_title (given : Option Text) (headings : List Heading) :
    IsTitle given headings (title given headings) := by
  by_cases hgiven : given.getD [] = []
  · rw [title_eq_title_none hgiven]
    cases headings with
    | nil => exact .untitled hgiven nofun
    | cons first headings =>
      have hshows : Shows first.content (Html.visibleText first.content) := shows_iff.2 rfl
      rw [title_none_cons]
      split
      · next h =>
        rw [h] at hshows
        exact .untitled hgiven fun _ hfirst => Option.some.inj hfirst ▸ hshows
      · next h => exact .heading hgiven rfl hshows h
  · cases given with
    | none => exact absurd rfl hgiven
    | some t =>
      cases t with
      | nil => exact absurd rfl hgiven
      | cons c t => exact .given rfl (List.cons_ne_nil c t)

/-- The title is determined. -/
theorem isTitle_iff {given : Option Text} {headings : List Heading} {t : Text} :
    IsTitle given headings t ↔ title given headings = t := by
  refine ⟨fun h => ?_, fun h => h ▸ isTitle_title given headings⟩
  cases h with
  | given h ht =>
    cases t with
    | nil => exact absurd rfl ht
    | cons c t => exact h ▸ rfl
  | heading hgiven hfirst hshows ht =>
    obtain ⟨rest, rfl⟩ := List.head?_eq_some_iff.1 hfirst
    rw [title_eq_title_none hgiven, title_none_cons, shows_iff.1 hshows, if_neg ht]
  | untitled hgiven hshows =>
    rw [title_eq_title_none hgiven]
    cases headings with
    | nil => rfl
    | cons first headings =>
      rw [title_none_cons, shows_iff.1 (hshows first rfl), if_pos rfl]
      rfl

/-! ## What a reader finds -/

/-- What stands between the first `opening` and the first `closing` behind it. -/
def between? (opening closing s : Text) : Option Text := do
  let (_, inside) ← Text.splitOnce? opening s
  let (within, _) ← Text.splitOnce? closing inside
  some within

set_option maxRecDepth 4000 in
/-- The tag of the title stands once before the title, at the end. -/
theorem map_snd_splitOnce?_beforeTitle :
    (Text.splitOnce? "<title>".toList beforeTitle).map Prod.snd = some [] := by
  -- the search is evaluated on the characters, which are not read from the string at each of them
  have hchars : beforeTitle = _ := String.toList_ofList
  rw [hchars]
  decide +kernel

/-- Text without a tag is found whole between the tags of the title. -/
theorem between?_title {shown : Text} (h : '<' ∉ shown) (rest : Text) :
    between? "<title>".toList "</title>".toList (beforeTitle ++ (shown ++ (afterTitle ++ rest))) =
      some shown := by
  obtain ⟨⟨front, _⟩, hfront, rfl⟩ := Option.map_eq_some_iff.1 map_snd_splitOnce?_beforeTitle
  have hopen := Text.splitOnce?_append hfront (shown ++ (afterTitle ++ rest))
  rw [List.nil_append] at hopen
  obtain ⟨behind, hbehind⟩ : ∃ behind, afterTitle = "</title>".toList ++ behind :=
    ⟨afterTitle.drop 8, by decide⟩
  have hclose : Text.splitOnce? "</title>".toList (shown ++ (afterTitle ++ rest)) =
      some (shown, behind ++ rest) := by
    rw [hbehind, List.append_assoc]
    exact Text.splitOnce?_append_of_head_not_mem h _
  simp only [between?, hopen, hclose, Option.bind_eq_bind, Option.bind_some]

theorem between?_standalone (t stylesheet body : Text) :
    between? "<title>".toList "</title>".toList (standalone t stylesheet body) =
      some (escape .numbered t) := by
  simp only [standalone, List.append_assoc]
  exact between?_title (Html.lt_not_mem_escape (by decide) (by decide) t) _

theorem not_mem_escape_numbered {c : Char} (hc : c ∈ ['<', '>', '"', '\x27']) (t : Text) :
    c ∉ escape .numbered t := by
  have hhides : ∀ c ∈ ['<', '>', '"', '\x27'], Html.QuoteStyle.numbered.Hides c := by decide
  exact (hhides c hc).not_mem_escape t

theorem exists_eq_append_standalone (t stylesheet body : Text) :
    ∃ front, standalone t stylesheet body = front ++ "</html>\n".toList := by
  obtain ⟨front, hfront⟩ : ∃ front, afterBody = front ++ "</html>\n".toList :=
    ⟨afterBody.take (afterBody.length - 8), by decide⟩
  rw [standalone, hfront, ← List.append_assoc]
  exact ⟨_, rfl⟩

/-- Pages with the same stylesheet are the same only if their titles and documents are. -/
theorem standalone_inj {t t' stylesheet body body' : Text}
    (h : standalone t stylesheet body = standalone t' stylesheet body') :
    t = t' ∧ body = body' := by
  have hshown : escape .numbered t = escape .numbered t' := by
    have hsame := congrArg (between? "<title>".toList "</title>".toList) h
    rw [between?_standalone, between?_standalone] at hsame
    exact Option.some.inj hsame
  have ht : t = t' := by
    rw [← Html.unescape_escape Html.isSound_numbered t, hshown,
      Html.unescape_escape Html.isSound_numbered]
  subst ht
  exact ⟨rfl, List.append_cancel_left (List.append_cancel_right h)⟩

/-- The title of a page is the one given, else what its first heading shows, else a fixed one.  The
page is made of fixed text with its three parts in order, the title escaped and the others as they
are, and ends with a line end behind its last tag.  What a reader finds between the tags of the
title has no character of markup, and is the title when its references are decoded. -/
theorem standalone_parts (given : Option Text) (headings : List Heading) (stylesheet body : Text) :
    IsTitle given headings (title given headings) ∧
      ∃ shown, shown = escape .numbered (title given headings) ∧
        standalone (title given headings) stylesheet body =
          beforeTitle ++ shown ++ afterTitle ++ stylesheet ++ afterStylesheet ++ body ++
            afterBody ∧
        (∃ front, standalone (title given headings) stylesheet body =
          front ++ "</html>\n".toList) ∧
        between? "<title>".toList "</title>".toList
          (standalone (title given headings) stylesheet body) = some shown ∧
        (∀ c ∈ ['<', '>', '"', '\x27'], c ∉ shown) ∧
        unescape shown = title given headings := by
  refine ⟨isTitle_title given headings, _, rfl, rfl, exists_eq_append_standalone _ _ _,
    between?_standalone _ _ _, fun c hc => not_mem_escape_numbered hc _, ?_⟩
  exact Html.unescape_escape Html.isSound_numbered _

end WikiText.Page
