import Mathlib.Data.List.Infix
import WikiText.Proofs.Macro.Cut
import WikiText.Proofs.Text.Blank

/-!
# Tokens of a text in its markup

A renderer puts tags around a text and writes some of its characters in escaped form.  No token
comes into a markup that way: what is put in holds no brace and can stand in the arguments of a
token only, and there it can be taken out again.  Main statement: `Wraps.tokens_eq_nil`.
-/

namespace WikiText.Macro

/-! ## Markup around a text -/

/-- Text that can stand in a token in its arguments only, and does not end them. -/
structure IsInset (g : Text) : Prop where
  ne_nil : g ≠ []
  head : ∀ c ∈ g.head?, Text.isWord c = false ∧ c ≠ '('
  marks : ∀ c ∈ g, c ≠ '\x7b' ∧ c ≠ '\x7d' ∧ c ≠ ')'

instance (g : Text) : Decidable (IsInset g) :=
  decidable_of_iff (g ≠ [] ∧ (∀ c ∈ g.head?.toList, Text.isWord c = false ∧ c ≠ '(') ∧
      ∀ c ∈ g, c ≠ '\x7b' ∧ c ≠ '\x7d' ∧ c ≠ ')')
    ⟨fun h => ⟨h.1, fun c hc => h.2.1 c (Option.mem_toList.2 hc), h.2.2⟩,
      fun h => ⟨h.ne_nil, fun c hc => h.head c (Option.mem_toList.1 hc), h.marks⟩⟩

/-- The markup has the characters of the text, but for insets, which may stand for some of them. -/
inductive Wraps : (markup s : Text) → Prop
  | nil : Wraps [] []
  | keep (c : Char) {m s : Text} : Wraps m s → Wraps (c :: m) (c :: s)
  | put {g r m s : Text} : IsInset g → '\x7d' ∉ r → Wraps m s → Wraps (g ++ m) (r ++ s)

/-- A character that begins no inset. -/
def IsFirm (c : Char) : Prop :=
  Text.isWord c = true ∨ c = '(' ∨ c = ')' ∨ c = '\x7b' ∨ c = '\x7d'

theorem IsInset.not_isFirm {c : Char} {g : Text} (h : IsInset (c :: g)) : ¬ IsFirm c := by
  obtain ⟨hword, hparenthesis⟩ := h.head c rfl
  obtain ⟨hopen, hclose, hend⟩ := h.marks c List.mem_cons_self
  rintro (hfirm | hfirm | hfirm | hfirm | hfirm)
  · exact Bool.false_ne_true (hword.symm.trans hfirm)
  · exact hparenthesis hfirm
  · exact hend hfirm
  · exact hopen hfirm
  · exact hclose hfirm

namespace Wraps

variable {m s : Text} {c : Char}

/-- Such a character is one of the text. -/
theorem exists_of_cons (h : Wraps (c :: m) s) (hc : IsFirm c) : ∃ s', s = c :: s' ∧ Wraps m s' := by
  generalize hm : c :: m = m' at h
  cases h with
  | nil => cases hm
  | keep d h =>
    obtain ⟨rfl, rfl⟩ := List.cons.inj hm
    exact ⟨_, rfl, h⟩
  | @put g g' m' s hg hg' h =>
    obtain ⟨d, g, rfl⟩ := List.exists_cons_of_ne_nil hg.ne_nil
    obtain ⟨rfl, -⟩ := List.cons.inj hm
    exact absurd hc hg.not_isFirm

theorem exists_of_word {w : Text} (h : Wraps (w ++ m) s) (hw : w.all Text.isWord = true) :
    ∃ s', s = w ++ s' ∧ Wraps m s' := by
  induction w generalizing s with
  | nil => exact ⟨s, rfl, h⟩
  | cons c w ih =>
    rw [List.all_cons, Bool.and_eq_true] at hw
    obtain ⟨s₁, rfl, h₁⟩ := h.exists_of_cons (.inl hw.1)
    obtain ⟨s₂, rfl, h₂⟩ := ih h₁ hw.2
    exact ⟨s₂, rfl, h₂⟩

/-- The markup is cut with the text before a character that no inset holds. -/
theorem exists_of_append {a : Text} (h : Wraps (a ++ c :: m) s)
    (hc : c = '\x7b' ∨ c = '\x7d' ∨ c = ')') :
    ∃ a' s', s = a' ++ c :: s' ∧ Wraps m s' ∧ ('\x7d' ∉ a → '\x7d' ∉ a') := by
  generalize hm : a ++ c :: m = m' at h
  induction h generalizing a with
  | nil => exact absurd hm (by simp)
  | keep d h ih =>
    cases a with
    | nil =>
      obtain ⟨rfl, rfl⟩ := List.cons.inj hm
      exact ⟨[], _, rfl, h, id⟩
    | cons b a =>
      obtain ⟨rfl, htail⟩ := List.cons.inj hm
      obtain ⟨a', s', rfl, hs', ha'⟩ := ih htail
      refine ⟨b :: a', s', rfl, hs', fun hno => ?_⟩
      rw [List.mem_cons, not_or] at hno ⊢
      exact ⟨hno.1, ha' hno.2⟩
  | @put g g' m' s hg hg' h ih =>
    -- the character stands behind the inset
    obtain ⟨a, rfl, hrest⟩ : ∃ b, a = g ++ b ∧ b ++ c :: m = m' := by
      rcases List.append_eq_append_iff.1 hm with ⟨q, rfl, hq⟩ | ⟨q, rfl, hq⟩
      · cases q with
        | nil => exact ⟨[], by rw [List.append_nil, List.append_nil], hq⟩
        | cons d q =>
          obtain rfl := (List.cons.inj hq).1
          obtain ⟨hopen, hclose, hend⟩ := hg.marks c (by simp)
          rcases hc with hc | hc | hc
          · exact absurd hc hopen
          · exact absurd hc hclose
          · exact absurd hc hend
      · exact ⟨q, rfl, hq.symm⟩
    obtain ⟨a', s', rfl, hs', ha'⟩ := ih hrest
    refine ⟨g' ++ a', s', (List.append_assoc _ _ _).symm, hs', fun hno => ?_⟩
    rw [List.mem_append, not_or] at hno ⊢
    exact ⟨hg', ha' hno.2⟩

/-- A token of the markup is one of the text. -/
theorem exists_source {t : Token} {rest : Text} (ht : t.WellFormed)
    (h : Wraps (t.source ++ rest) s) :
    ∃ (t' : Token) (rest' : Text), t'.WellFormed ∧ s = t'.source ++ rest' := by
  obtain ⟨e, w, args⟩ := t
  obtain ⟨hne, hw, hargs⟩ := ht
  have hopen : IsFirm '\x7b' := by simp [IsFirm]
  have hclose : IsFirm '\x7d' := by simp [IsFirm]
  have hsource : Token.source ⟨e, w, args⟩ ++ rest =
      '\x7b' :: '\x7b' :: (w ++ (Token.parenthesised args ++ '\x7d' :: '\x7d' :: rest)) := by
    simp [Token.source]
  rw [hsource] at h
  obtain ⟨s₁, rfl, h₁⟩ := h.exists_of_cons hopen
  obtain ⟨s₂, rfl, h₂⟩ := h₁.exists_of_cons hopen
  obtain ⟨s₃, rfl, h₃⟩ := h₂.exists_of_word hw
  cases args with
  | none =>
    obtain ⟨s₄, rfl, h₄⟩ := h₃.exists_of_cons hclose
    obtain ⟨s₅, rfl, -⟩ := h₄.exists_of_cons hclose
    refine ⟨⟨false, w, none⟩, s₅, ⟨hne, hw, List.not_mem_nil⟩, ?_⟩
    simp [Token.source, Token.parenthesised]
  | some a =>
    have h₃ : Wraps ('(' :: (a ++ ')' :: '\x7d' :: '\x7d' :: rest)) s₃ := by
      simpa [Token.parenthesised] using h₃
    obtain ⟨s₄, rfl, h₄⟩ := h₃.exists_of_cons (by simp [IsFirm])
    obtain ⟨a', s₅, rfl, h₅, ha'⟩ := h₄.exists_of_append (by simp)
    obtain ⟨s₆, rfl, h₆⟩ := h₅.exists_of_cons hclose
    obtain ⟨s₇, rfl, -⟩ := h₆.exists_of_cons hclose
    refine ⟨⟨false, w, some a'⟩, s₇, ⟨hne, hw, ha' hargs⟩, ?_⟩
    simp [Token.source, Token.parenthesised]

end Wraps

/-! ## Texts without tokens -/

theorem tokens_eq_nil_iff {s : Text} :
    tokens s = [] ↔ ∀ t : Token, t.WellFormed → ¬ t.source <:+: s := by
  obtain ⟨hleft, hmarkup⟩ := Cut.leftmost_ofPieces s
  rw [← Cut.tokens_ofPieces]
  cases hcut : Cut.ofPieces (pieces s) with
  | last g =>
    rw [hcut] at hleft hmarkup
    obtain rfl : g = s := hmarkup
    refine iff_of_true rfl fun t ht => ?_
    rintro ⟨u, v, huv⟩
    have ht' : Token.WellFormed ⟨false, t.written, t.arguments⟩ := ht
    refine Token.Free.ne_append hleft ht' u v ?_
    rw [← huv, List.append_assoc]
    rfl
  | token g t c =>
    rw [hcut] at hleft hmarkup
    rw [Cut.markup_token] at hmarkup
    refine iff_of_false (List.cons_ne_nil _ _) fun h => h t hleft.2.1 ?_
    rw [← hmarkup, Token.markup]
    split
    · exact ⟨g ++ ['!'], c.markup, by simp⟩
    · exact ⟨g, c.markup, by simp⟩

/-- A text without tokens has none in its markup. -/
theorem Wraps.tokens_eq_nil {m s : Text} (h : Wraps m s) (hs : tokens s = []) : tokens m = [] := by
  rw [tokens_eq_nil_iff] at hs ⊢
  rintro t ht ⟨u, v, rfl⟩
  have hsource : ∃ r, t.source ++ v = '\x7b' :: r := ⟨_, rfl⟩
  obtain ⟨r, hr⟩ := hsource
  rw [List.append_assoc, hr] at h
  obtain ⟨u', s', rfl, hs', -⟩ := h.exists_of_append (.inl rfl)
  have hfront : Wraps (t.source ++ v) ('\x7b' :: s') := hr ▸ hs'.keep '\x7b'
  obtain ⟨t', v', ht', hs''⟩ := hfront.exists_source ht
  exact hs t' ht' ⟨u', v', by rw [hs'', List.append_assoc]⟩

end WikiText.Macro
