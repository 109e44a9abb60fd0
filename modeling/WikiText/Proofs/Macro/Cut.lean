import Mathlib.Data.List.TakeWhile
import WikiText.Macro.Token

/-!
# The cut of a markup at its tokens

A token can be told from its writing alone, and the reader finds exactly these tokens
(`Token.read?_eq_some_iff`).  So a markup has one cut at its leftmost tokens
(`Cut.Leftmost.unique`), and the parts that the reader makes of it are this cut
(`Cut.leftmost_ofPieces`).
-/

namespace WikiText.Macro

namespace Token

/-! ## What a token looks like -/

/-- A token has a name, made of word characters, and no closing brace in its arguments. -/
def WellFormed (t : Token) : Prop :=
  t.written ≠ [] ∧ t.written.all Text.isWord = true ∧ '\x7d' ∉ t.rawArgs

instance (t : Token) : Decidable t.WellFormed := inferInstanceAs (Decidable (_ ∧ _ ∧ _))

/-- Whether a token stands at the front of a text. -/
def Begins (s : Text) : Prop := ∃ t rest, WellFormed t ∧ s = t.markup ++ rest

theorem arguments?_append {args : Text} (h : '\x7d' ∉ args) (rest : Text) :
    arguments? (args ++ ')' :: '\x7d' :: '\x7d' :: rest) = some (args, rest) := by
  have hne : '\x7d' ∉ args ++ [')'] := by simp [h]
  rw [arguments?, List.append_cons, Text.takeWhile_ne_append hne, Text.dropWhile_ne_append hne]
  simp

theorem not_mem_of_arguments? {s args rest : Text} (h : arguments? s = some (args, rest)) :
    '\x7d' ∉ args := by
  intro hmem
  unfold arguments? at h
  split at h
  · next a r ha hr =>
    simp only [Option.some.injEq, Prod.mk.injEq] at h
    obtain ⟨rfl, rfl⟩ := h
    have hin : '\x7d' ∈ s.takeWhile (· ≠ '\x7d') := by
      rw [← List.mem_reverse, ha]
      exact List.mem_cons_of_mem _ (List.mem_reverse.1 hmem)
    simpa using List.mem_takeWhile_imp hin
  · simp at h

theorem body?_source {t : Token} (h : t.WellFormed) {s rest : Text}
    (hs : '\x7b' :: '\x7b' :: s = t.source ++ rest) : body? t.escaped s = some (t, rest) := by
  obtain ⟨e, w, args⟩ := t
  obtain ⟨hne, hw, hargs⟩ := h
  cases args with
  | none =>
    have hs : s = w ++ '\x7d' :: '\x7d' :: rest := by simpa [source, parenthesised] using hs
    rw [body?, hs, Text.takeWhile_append_cons hw (by decide),
      Text.dropWhile_append_cons hw (by decide)]
    exact if_neg hne
  | some a =>
    have ha : '\x7d' ∉ a := hargs
    have hs : s = w ++ '(' :: (a ++ ')' :: '\x7d' :: '\x7d' :: rest) := by
      simpa [source, parenthesised] using hs
    rw [body?, hs, Text.takeWhile_append_cons hw (by decide),
      Text.dropWhile_append_cons hw (by decide)]
    simp only [arguments?_append ha rest, Option.map_some]
    exact if_neg hne

theorem wellFormed_of_body? {e : Bool} {s rest : Text} {t : Token}
    (h : body? e s = some (t, rest)) : t.WellFormed := by
  unfold body? at h
  simp only at h
  split at h
  · simp at h
  · next hne =>
    have hw : (s.takeWhile Text.isWord).all Text.isWord = true := List.all_takeWhile
    split at h
    · simp only [Option.some.injEq, Prod.mk.injEq] at h
      obtain ⟨rfl, -⟩ := h
      exact ⟨hne, hw, by simp [rawArgs]⟩
    · simp only [Option.map_eq_some_iff, Prod.exists, Prod.mk.injEq] at h
      obtain ⟨args, r, ha, rfl, -⟩ := h
      exact ⟨hne, hw, not_mem_of_arguments? ha⟩
    · simp at h

/-- The reader finds a token exactly where one is written. -/
theorem read?_eq_some_iff {s rest : Text} {t : Token} :
    read? s = some (t, rest) ↔ t.WellFormed ∧ s = t.markup ++ rest := by
  constructor
  · intro h
    refine ⟨?_, eq_append_of_read? h⟩
    unfold read? at h
    split at h
    · exact wellFormed_of_body? h
    · exact wellFormed_of_body? h
    · simp at h
  · rintro ⟨ht, rfl⟩
    have hsource : ∃ s, t.source ++ rest = '\x7b' :: '\x7b' :: s := ⟨_, rfl⟩
    obtain ⟨s, hs⟩ := hsource
    have hbody := body?_source ht hs.symm
    cases he : t.escaped with
    | false =>
      rw [he] at hbody
      rw [markup, if_neg (by simp [he]), hs, read?, hbody]
    | true =>
      rw [he] at hbody
      rw [markup, if_pos he, List.cons_append, hs, read?, hbody]

theorem read?_eq_none_iff {s : Text} : read? s = none ↔ ¬ Begins s := by
  rw [← not_iff_not, not_not, ← ne_eq, Option.ne_none_iff_exists']
  simp only [Prod.exists, read?_eq_some_iff, Begins]

instance (s : Text) : Decidable (Begins s) :=
  decidable_of_iff (¬ read? s = none) (by rw [read?_eq_none_iff, not_not])

/-- The writing tells the tokens apart, whatever stands behind them. -/
theorem WellFormed.append_inj {t t' : Token} {rest rest' : Text} (h : t.WellFormed)
    (h' : t'.WellFormed) (heq : t.markup ++ rest = t'.markup ++ rest') : t = t' ∧ rest = rest' := by
  have hread : some (t, rest) = some (t', rest') :=
    (read?_eq_some_iff.2 ⟨h, rfl⟩).symm.trans (read?_eq_some_iff.2 ⟨h', heq⟩)
  simpa using hread

/-! ## Where no token begins -/

/-- No token begins in the text `g` when `rest` follows it. -/
def Free (g rest : Text) : Prop := ∀ i < g.length, ¬ Begins ((g ++ rest).drop i)

instance (g rest : Text) : Decidable (Free g rest) :=
  inferInstanceAs (Decidable (∀ i < g.length, _))

@[simp] theorem free_nil (rest : Text) : Free [] rest := by
  intro i hi
  simp at hi

@[simp] theorem free_cons {a : Char} {g rest : Text} :
    Free (a :: g) rest ↔ ¬ Begins (a :: (g ++ rest)) ∧ Free g rest := by
  constructor
  · intro h
    exact ⟨h 0 (by simp), fun i hi => h (i + 1) (by simpa using hi)⟩
  · rintro ⟨h₀, h⟩ i hi
    cases i with
    | zero => exact h₀
    | succ i => exact h i (by simpa using hi)

/-- A gap reaches no further than the first token. -/
theorem Free.length_le {g rest g' rest' : Text} (h : Free g rest) (hb : Begins rest')
    (heq : g ++ rest = g' ++ rest') : g.length ≤ g'.length := by
  by_contra hlt
  refine h g'.length (by omega) ?_
  rw [heq, List.drop_left]
  exact hb

theorem WellFormed.begins {t : Token} (h : t.WellFormed) (rest : Text) :
    Begins (t.markup ++ rest) := ⟨t, rest, h, rfl⟩

theorem length_markup_pos (t : Token) : 0 < t.markup.length := by
  unfold markup
  split <;> simp [source]

theorem Free.ne_append {g : Text} (h : Free g []) {t : Token} (ht : t.WellFormed)
    (g' rest : Text) : g ≠ g' ++ (t.markup ++ rest) := by
  intro heq
  have hle := h.length_le (ht.begins rest) ((List.append_nil g).trans heq)
  have hpos := t.length_markup_pos
  rw [heq, List.length_append, List.length_append] at hle
  omega

end Token

/-! ## Cuts -/

/-- A text cut at tokens: each with the gap before it, and the gap behind the last one. -/
inductive Cut where
  | last (gap : Text)
  | token (gap : Text) (t : Token) (rest : Cut)
deriving DecidableEq

namespace Cut

/-- The tokens from left to right. -/
def tokens : Cut → List Token
  | .last _ => []
  | .token _ t c => t :: c.tokens

/-- The gaps, with other texts between them in the places of the tokens. -/
def fill : Cut → List Text → Text
  | .last g, _ => g
  | .token g _ c, rs => g ++ rs.headD [] ++ c.fill rs.tail

/-- The text that is cut. -/
def markup (c : Cut) : Text := c.fill (c.tokens.map Token.markup)

/-- The cut is made at the leftmost tokens that do not overlap: none begins in a gap. -/
def Leftmost : Cut → Prop
  | .last g => Token.Free g []
  | .token g t c => Token.Free g (t.markup ++ c.markup) ∧ t.WellFormed ∧ c.Leftmost

instance decidableLeftmost : (c : Cut) → Decidable c.Leftmost
  | .last g => inferInstanceAs (Decidable (Token.Free g []))
  | .token g t c =>
    have := decidableLeftmost c
    inferInstanceAs (Decidable (Token.Free g (t.markup ++ c.markup) ∧ t.WellFormed ∧ c.Leftmost))

@[simp] theorem markup_last (g : Text) : (Cut.last g).markup = g := rfl

@[simp] theorem markup_token (g : Text) (t : Token) (c : Cut) :
    (Cut.token g t c).markup = g ++ (t.markup ++ c.markup) := List.append_assoc _ _ _

/-- A text has one cut at its leftmost tokens. -/
theorem Leftmost.unique {c c' : Cut} (h : c.Leftmost) (h' : c'.Leftmost)
    (heq : c.markup = c'.markup) : c = c' := by
  induction c generalizing c' with
  | last g =>
    cases c' with
    | last g' =>
      rw [markup_last, markup_last] at heq
      rw [heq]
    | token g' t' c' =>
      rw [markup_last, markup_token] at heq
      exact absurd heq (Token.Free.ne_append h h'.2.1 _ _)
  | token g t c ih =>
    obtain ⟨hfree, ht, hc⟩ := h
    cases c' with
    | last g' =>
      rw [markup_last, markup_token] at heq
      exact absurd heq.symm (Token.Free.ne_append h' ht _ _)
    | token g' t' c' =>
      obtain ⟨hfree', ht', hc'⟩ := h'
      rw [markup_token, markup_token] at heq
      have hlength : g.length = g'.length :=
        Nat.le_antisymm (hfree.length_le (ht'.begins _) heq)
          (hfree'.length_le (ht.begins _) heq.symm)
      obtain ⟨rfl, hrest⟩ := List.append_inj heq hlength
      obtain ⟨rfl, hmarkup⟩ := ht.append_inj ht' hrest
      rw [ih hc hc' hmarkup]

/-- A character more at the front. -/
def cons (a : Char) : Cut → Cut
  | .last g => .last (a :: g)
  | .token g t c => .token (a :: g) t c

@[simp] theorem tokens_cons (a : Char) (c : Cut) : (c.cons a).tokens = c.tokens := by
  cases c <;> rfl

@[simp] theorem fill_cons (a : Char) (c : Cut) (rs : List Text) :
    (c.cons a).fill rs = a :: c.fill rs := by
  cases c <;> rfl

@[simp] theorem markup_cons (a : Char) (c : Cut) : (c.cons a).markup = a :: c.markup := by
  rw [markup, tokens_cons, fill_cons, markup]

theorem leftmost_cons {a : Char} {c : Cut} :
    (c.cons a).Leftmost ↔ ¬ Token.Begins (a :: c.markup) ∧ c.Leftmost := by
  cases c with
  | last g => simp [cons, Leftmost]
  | token g t c => simp [cons, Leftmost, and_assoc]

/-- The cut that the parts of a markup make. -/
def ofPieces : List Piece → Cut
  | [] => .last []
  | .char a :: ps => (ofPieces ps).cons a
  | .token t :: ps => .token [] t (ofPieces ps)

/-- The parts that the reader makes of a text are those of its cut at the leftmost tokens. -/
theorem leftmost_ofPieces (s : Text) :
    (ofPieces (pieces s)).Leftmost ∧ (ofPieces (pieces s)).markup = s := by
  fun_induction pieces s with
  | case1 s t rest h _ ih =>
    obtain ⟨ht, hs⟩ := Token.read?_eq_some_iff.1 h
    refine ⟨⟨Token.free_nil _, ht, ih.1⟩, ?_⟩
    rw [ofPieces, markup_token, ih.2, hs]
    rfl
  | case2 h =>
    exact ⟨Token.free_nil _, rfl⟩
  | case3 a s h ih =>
    obtain ⟨hleft, hs⟩ := ih
    rw [ofPieces, markup_cons, leftmost_cons, hs]
    exact ⟨⟨Token.read?_eq_none_iff.1 h, hleft⟩, rfl⟩

theorem tokens_ofPieces (s : Text) : (ofPieces (pieces s)).tokens = Macro.tokens s := by
  rw [Macro.tokens]
  induction pieces s with
  | nil => rfl
  | cons p ps ih =>
    cases p with
    | char a => rw [ofPieces, tokens_cons, ih]; rfl
    | token t => rw [ofPieces, tokens, ih]; rfl

end Cut

end WikiText.Macro
