import WikiText.Proofs.Macro.Expansion
import WikiText.Proofs.Text.Search

/-!
# Markup made literal

A mark before the braces of each token, escaped or not, makes a markup literal: what an expansion
makes of it is the markup without these marks.  A mark can stand inside a token only in its
arguments, and a token is left when it is taken away (`Token.WellFormed.exists_without_mark`), so
the new marks make no token out of what was none before (`Token.not_begins_marked`).  Main
statement: `expand_escapeTokens`.
-/

namespace WikiText.Macro

namespace Token

/-! ## A mark inside a token -/

/-- The mark before the braces. -/
def outside (t : Token) : Text := if t.escaped then ['!'] else []

/-- The token between its mark and the braces that close it. -/
def inside (t : Token) : Text := '\x7b' :: '\x7b' :: t.written ++ parenthesised t.arguments

theorem source_eq (t : Token) : t.source = t.inside ++ ['\x7d', '\x7d'] := rfl

theorem markup_eq (t : Token) : t.markup = t.outside ++ t.source := by
  rw [markup, outside]
  split <;> rfl

theorem markup_append (t : Token) (rest : Text) :
    t.markup ++ rest = (t.outside ++ t.inside) ++ '\x7d' :: '\x7d' :: rest := by
  rw [markup_eq, source_eq]
  simp

variable {t : Token}

theorem WellFormed.not_mem_written (h : t.WellFormed) {c : Char} (hc : Text.isWord c = false) :
    c ∉ t.written := fun hmem =>
  Bool.false_ne_true (hc.symm.trans (List.all_eq_true.1 h.2.1 c hmem))

theorem WellFormed.brace_not_mem (h : t.WellFormed) : '\x7d' ∉ t.outside ++ t.inside := by
  have hwritten := h.not_mem_written (c := '\x7d') (by decide)
  have hargs := h.2.2
  have houtside : '\x7d' ∉ t.outside := by
    rw [outside]
    split <;> decide
  rw [rawArgs] at hargs
  rw [List.mem_append, not_or]
  refine ⟨houtside, ?_⟩
  cases harguments : t.arguments with
  | none => simp [inside, harguments, parenthesised, hwritten]
  | some a =>
    rw [harguments] at hargs
    have ha : '\x7d' ∉ a := hargs
    simp [inside, harguments, parenthesised, hwritten, ha]

/-- Before a token's arguments a mark can only be the one that escapes it. -/
theorem eq_nil_of_outside_append {s u v : Text} (hs : '!' ∉ s)
    (h : t.outside ++ s = u ++ '!' :: v) : u = [] := by
  cases u with
  | nil => rfl
  | cons c u =>
    refine absurd ?_ hs
    rw [outside] at h
    split at h
    · have hs : s = u ++ '!' :: v := (List.cons.inj h).2
      simp [hs]
    · have hs : s = (c :: u) ++ '!' :: v := h
      simp [hs]

/-- Behind the first character of a token a mark can only stand among the arguments. -/
theorem exists_of_mark (hwritten : '!' ∉ t.written) {u v : Text} (hu : u ≠ [])
    (heq : t.outside ++ t.inside = u ++ '!' :: v) :
    ∃ x y, t.arguments = some (x ++ '!' :: y) ∧ v = y ++ [')'] ∧
      u = t.outside ++ ('\x7b' :: '\x7b' :: t.written ++ '(' :: x) := by
  rw [inside] at heq
  cases ha : t.arguments with
  | none =>
    rw [ha] at heq
    exact absurd (eq_nil_of_outside_append (by simp [parenthesised, hwritten]) heq) hu
  | some a =>
    have hfront : '!' ∉ '\x7b' :: '\x7b' :: t.written ++ ['('] := by simpa using hwritten
    obtain ⟨x, rfl, hx⟩ : ∃ x, u = t.outside ++ ('\x7b' :: '\x7b' :: t.written ++ ['(']) ++ x ∧
        a ++ [')'] = x ++ '!' :: v := by
      have hsplit : (t.outside ++ ('\x7b' :: '\x7b' :: t.written ++ ['('])) ++ (a ++ [')']) =
          u ++ '!' :: v := by
        rw [← heq, ha]
        simp [parenthesised]
      rcases List.append_eq_append_iff.1 hsplit with ⟨x, hux, hx⟩ | ⟨x, hux, hx⟩
      · exact ⟨x, hux, hx⟩
      · cases x with
        | nil => exact ⟨[], by simpa using hux.symm, by simpa using hx.symm⟩
        | cons d x =>
          obtain ⟨rfl, -⟩ := List.cons.inj hx
          exact absurd (eq_nil_of_outside_append hfront hux) hu
    -- The parenthesis that closes the arguments stands behind the mark.
    obtain rfl | ⟨y, d, rfl⟩ := List.eq_nil_or_concat' v
    · simpa using congrArg List.getLast? hx
    · obtain ⟨rfl, hd⟩ : a = x ++ '!' :: y ∧ [')'] = [d] := by
        refine List.append_inj' ?_ rfl
        simpa using hx
      exact ⟨x, y, rfl, by rw [hd], by simp⟩

/-- Without a mark behind its first character, a token is still a token. -/
theorem WellFormed.exists_without_mark (h : t.WellFormed) {u v : Text} (hu : u ≠ [])
    (heq : t.outside ++ t.inside = u ++ '!' :: v) :
    ∃ t' : Token, t'.WellFormed ∧ t'.outside ++ t'.inside = u ++ v := by
  obtain ⟨x, y, hxy, rfl, rfl⟩ := exists_of_mark (h.not_mem_written (by decide)) hu heq
  refine ⟨{ t with arguments := some (x ++ y) }, ⟨h.1, h.2.1, fun hmem => h.2.2 ?_⟩, ?_⟩
  · rw [rawArgs, hxy]
    rcases List.mem_append.1 hmem with hmem | hmem
    · exact List.mem_append_left _ hmem
    · exact List.mem_append_right _ (List.mem_cons_of_mem _ hmem)
  · simp [outside, inside, parenthesised]

/-- A mark before the braces of a token makes no token begin further in front. -/
theorem not_begins_marked (h : t.WellFormed) {u rest : Text} (hu : u ≠ [])
    (hfree : ¬ Begins (u ++ (t.source ++ rest))) (rest' : Text) :
    ¬ Begins (u ++ '!' :: (t.source ++ rest')) := by
  rintro ⟨t₀, rest₀, h₀, heq⟩
  refine hfree ?_
  rw [markup_append] at heq
  by_cases hbrace : '\x7d' ∈ u
  · -- The token closes before the mark.
    obtain ⟨k, l, rfl, hk⟩ := List.eq_append_cons_of_mem hbrace
    rw [List.append_assoc, List.cons_append] at heq
    obtain ⟨rfl, hl⟩ := Text.eq_of_append_cons hk h₀.brace_not_mem heq
    cases l with
    | nil => exact absurd (List.cons.inj hl).1 (by decide)
    | cons d l =>
      obtain ⟨rfl, -⟩ := List.cons.inj hl
      exact ⟨t₀, l ++ (t.source ++ rest), h₀, by rw [markup_append]; simp⟩
  · -- It closes with the token behind the mark, and holds the mark.
    have hsource : u ++ '!' :: (t.source ++ rest') =
        (u ++ '!' :: t.inside) ++ '\x7d' :: '\x7d' :: rest' := by simp [source_eq]
    have hinside : '\x7d' ∉ u ++ '!' :: t.inside := by
      have := h.brace_not_mem
      simp only [List.mem_append, List.mem_cons, not_or] at this ⊢
      exact ⟨hbrace, by decide, this.2⟩
    obtain ⟨hcore, -⟩ := Text.eq_of_append_cons hinside h₀.brace_not_mem (hsource ▸ heq)
    obtain ⟨t₁, h₁, ht₁⟩ := h₀.exists_without_mark hu hcore.symm
    exact ⟨t₁, rest, h₁, by rw [markup_append, ht₁, source_eq]; simp⟩

/-! ## The token behind a mark -/

/-- The token with one mark more before its braces. -/
def marked (t : Token) : Text := t.outside ++ '!' :: t.source

/-- The token that stands in its place then: it is escaped, and a mark that it had is outside. -/
def escape (t : Token) : Token := { t with escaped := true }

theorem WellFormed.escape (h : t.WellFormed) : t.escape.WellFormed := h

theorem markup_escape (t : Token) : t.escape.markup = '!' :: t.source := rfl

theorem free_append {g g' rest : Text} :
    Free (g ++ g') rest ↔ Free g (g' ++ rest) ∧ Free g' rest := by
  induction g with
  | nil => simp
  | cons a g ih => rw [List.cons_append, free_cons, free_cons, ih, List.append_assoc, and_assoc]

theorem free_outside (t : Token) (rest : Text) : Free t.outside (t.escape.markup ++ rest) := by
  rw [outside]
  split
  · -- Two marks in a row begin no token.
    exact free_cons.2 ⟨read?_eq_none_iff.1 rfl, free_nil _⟩
  · exact free_nil _

/-- No token begins before a token that is marked. -/
theorem Free.marked {g rest : Text} (hg : Free g (t.markup ++ rest)) (h : t.WellFormed)
    (rest' : Text) : Free (g ++ t.outside) (t.escape.markup ++ rest') := by
  refine free_append.2 ⟨fun i hi => ?_, free_outside t rest'⟩
  have hfree := hg i hi
  have hne : g.drop i ++ t.outside ≠ [] := by
    simp only [ne_eq, List.append_eq_nil_iff, List.drop_eq_nil_iff, not_and_or]
    exact .inl (Nat.not_le.2 hi)
  rw [List.drop_append_of_le_length (Nat.le_of_lt hi), markup_eq, List.append_assoc,
    ← List.append_assoc] at hfree
  rw [List.drop_append_of_le_length (Nat.le_of_lt hi), markup_escape, ← List.append_assoc,
    List.cons_append]
  exact not_begins_marked h hne hfree rest'

end Token

/-! ## The cut of the marked text -/

namespace Cut

/-- The text that is cut, with a mark before the braces of each token. -/
def marked (c : Cut) : Text := c.fill (c.tokens.map Token.marked)

/-- The cut at the tokens that are escaped then. -/
def escape : Cut → Cut
  | .last g => .last g
  | .token g t c => .token (g ++ t.outside) t.escape c.escape

theorem markup_escape (c : Cut) : c.escape.markup = c.marked := by
  induction c with
  | last g => rfl
  | token g t c ih =>
    rw [escape, markup_token, ih, Token.markup_escape, marked, marked, tokens, List.map_cons, fill,
      List.headD_cons, List.tail_cons, Token.marked]
    simp

theorem Leftmost.escape {c : Cut} (h : c.Leftmost) : c.escape.Leftmost := by
  induction c with
  | last g => exact h
  | token g t c ih =>
    obtain ⟨hfree, ht, hc⟩ := h
    exact ⟨hfree.marked ht _, ht.escape, ih hc⟩

theorem escaped_of_mem_escape {c : Cut} : ∀ t ∈ c.escape.tokens, t.escaped = true := by
  induction c with
  | last g => exact fun _ h => absurd h List.not_mem_nil
  | token g t c ih => exact List.forall_mem_cons.2 ⟨rfl, ih⟩

/-- Without the marks the text is as it was. -/
theorem fill_source_escape (c : Cut) :
    c.escape.fill (c.escape.tokens.map Token.source) = c.markup := by
  induction c with
  | last g => rfl
  | token g t c ih =>
    rw [escape, tokens, List.map_cons, fill, List.headD_cons, List.tail_cons, ih, markup_token,
      Token.markup_eq]
    simp [Token.source, Token.escape]

/-- The reader cuts the marked text at these tokens. -/
theorem Leftmost.ofPieces_marked {c : Cut} (h : c.Leftmost) :
    ofPieces (pieces c.marked) = c.escape := by
  obtain ⟨hleft, hmarkup⟩ := leftmost_ofPieces c.marked
  exact hleft.unique h.escape (hmarkup.trans c.markup_escape.symm)

end Cut

/-! ## Expansion -/

variable {σ ε : Type} [Cause ε]

/-- Where all tokens are escaped, nothing is called. -/
theorem expandPieces_of_escaped (r : Resolver σ ε) {ps : List Piece}
    (h : ∀ t ∈ (Cut.ofPieces ps).tokens, t.escaped = true) (st : σ) :
    expandPieces r ps st =
      (((Cut.ofPieces ps).fill ((Cut.ofPieces ps).tokens.map Token.source), []), st) := by
  induction ps with
  | nil => rfl
  | cons p ps ih =>
    cases p with
    | char a =>
      rw [Cut.ofPieces, Cut.tokens_cons] at h
      simp only [expandPieces, ih h, Cut.ofPieces, Cut.tokens_cons, Cut.fill_cons]
    | token t =>
      rw [Cut.ofPieces, Cut.tokens, List.forall_mem_cons] at h
      simp only [expandPieces, ih h.2, h.1, if_true, Cut.ofPieces, Cut.tokens, Cut.fill]
      rfl

/-- A markup with one mark more before the braces of each of its tokens, escaped or not. -/
def escapeTokens (markup : Text) : Text :=
  (pieces markup).flatMap fun
    | .char a => [a]
    | .token t => t.marked

theorem escapeTokens_eq (markup : Text) :
    escapeTokens markup = (Cut.ofPieces (pieces markup)).marked := by
  rw [escapeTokens]
  induction pieces markup with
  | nil => rfl
  | cons p ps ih =>
    cases p with
    | char a =>
      rw [List.flatMap_cons, ih, Cut.marked, Cut.marked, Cut.ofPieces, Cut.tokens_cons,
        Cut.fill_cons]
      rfl
    | token t =>
      rw [List.flatMap_cons, ih]
      rfl

/-- A markup whose tokens, those of its leftmost cut, are all escaped once more is literal: it comes
back as it was, no resolver is called, and nothing is reported. -/
theorem expand_escapeTokens (markup : Text) (st : σ) :
    (∃ c : Cut, c.Leftmost ∧ c.markup = markup ∧ escapeTokens markup = c.marked) ∧
      (∀ resolver : Option (Resolver σ ε),
        expand resolver (escapeTokens markup) st = ((markup, []), st)) ∧
      ∀ resolver : Resolver σ ε,
        expand (some resolver.recorded) (escapeTokens markup) (st, []) =
          ((markup, []), st, []) := by
  obtain ⟨hleft, hmarkup⟩ := Cut.leftmost_ofPieces markup
  have hmarked := escapeTokens_eq markup
  have hpieces := hleft.ofPieces_marked
  rw [← hmarked] at hpieces
  have hexpand : ∀ {τ : Type} (r : Resolver τ ε) (s : τ),
      expandPieces r (pieces (escapeTokens markup)) s = ((markup, []), s) := by
    intro τ r s
    rw [expandPieces_of_escaped r (hpieces ▸ Cut.escaped_of_mem_escape) s, hpieces,
      Cut.fill_source_escape, hmarkup]
  exact ⟨⟨_, hleft, hmarkup, hmarked⟩, fun resolver => hexpand _ st,
    fun resolver => hexpand _ (st, [])⟩

end WikiText.Macro
