import WikiText.Macro.Registry
import WikiText.Proofs.Macro.Expansion
import WikiText.Proofs.Text.Blank

/-!
# Calls as they are written

A call is written as a name in doubled braces, with its arguments in parentheses if it has any.
The arguments stand one after the other, with a comma between two, and they come back as they were
written: only a comma, a closing brace and white space at the ends may not stand in one.  Main
statement: `calls_of_isCall`.
-/

namespace WikiText.Macro

open Text (trim splitOn)

/-! ## Arguments -/

/-- What can be written as an argument: a text without commas and closing braces, with no white
space at its ends. -/
structure IsArgument (a : Text) : Prop where
  comma : ',' ∉ a
  brace : '\x7d' ∉ a
  ends : a = [] ∨ Text.IsTrimmed a

instance (a : Text) : Decidable (IsArgument a) :=
  decidable_of_iff (',' ∉ a ∧ '\x7d' ∉ a ∧ (a = [] ∨ Text.IsTrimmed a))
    ⟨fun h => ⟨h.1, h.2.1, h.2.2⟩, fun h => ⟨h.comma, h.brace, h.ends⟩⟩

/-- Arguments one after the other, with a comma between two, behind which a space may follow. -/
inductive Joined : List Text → Text → Prop where
  | one (a : Text) : Joined [a] a
  | comma (a : Text) {args : List Text} {s : Text} (h : Joined args s) :
      Joined (a :: args) (a ++ ',' :: s)
  | spaced (a : Text) {args : List Text} {s : Text} (h : Joined args s) :
      Joined (a :: args) (a ++ ',' :: ' ' :: s)

theorem IsArgument.trim {a : Text} (h : IsArgument a) : trim a = a := by
  rcases h.ends with rfl | ha
  · rfl
  · exact Text.trim_eq_self ha

theorem trim_space (s : Text) : trim (' ' :: s) = trim s := rfl

/-- A space at the front is trimmed from the first piece. -/
theorem map_trim_splitOn_space (s : Text) :
    (splitOn ',' (' ' :: s)).map trim = (splitOn ',' s).map trim := by
  rw [splitOn, if_neg (by decide)]
  cases h : splitOn ',' s with
  | nil => exact absurd h (Text.splitOn_ne_nil _ _)
  | cons l ls => rw [List.map_cons, List.map_cons, trim_space]

namespace Joined

variable {args : List Text} {s : Text}

/-- Arguments are told apart by their commas. -/
theorem map_trim_splitOn (h : Joined args s) (hargs : ∀ a ∈ args, IsArgument a) :
    (splitOn ',' s).map trim = args := by
  induction h with
  | one a =>
    have ha := hargs a (List.mem_singleton_self a)
    rw [Text.splitOn_of_not_mem ha.comma, List.map_singleton, ha.trim]
  | comma a _ ih =>
    obtain ⟨ha, hrest⟩ := List.forall_mem_cons.1 hargs
    rw [Text.splitOn_append_cons ha.comma, List.map_cons, ha.trim, ih hrest]
  | spaced a _ ih =>
    obtain ⟨ha, hrest⟩ := List.forall_mem_cons.1 hargs
    rw [Text.splitOn_append_cons ha.comma, List.map_cons, ha.trim, map_trim_splitOn_space, ih hrest]

theorem brace_not_mem (h : Joined args s) (hargs : ∀ a ∈ args, IsArgument a) : '\x7d' ∉ s := by
  induction h with
  | one a => exact (hargs a (List.mem_singleton_self a)).brace
  | comma a _ ih =>
    obtain ⟨ha, hrest⟩ := List.forall_mem_cons.1 hargs
    simp [ha.brace, ih hrest]
  | spaced a _ ih =>
    obtain ⟨ha, hrest⟩ := List.forall_mem_cons.1 hargs
    simp [ha.brace, ih hrest]

/-- Only one empty argument leaves nothing between the parentheses. -/
theorem eq_of_nil (h : Joined args s) (hs : s = []) : args = [[]] := by
  cases h with
  | one a => rw [hs]
  | comma a h => exact absurd hs (by simp)
  | spaced a h => exact absurd hs (by simp)

end Joined

/-! ## Calls -/

/-- How the call of a name is written: with its arguments in parentheses, or without if there are
none. -/
inductive IsCall (name : Text) : List Text → Text → Prop where
  | bare : IsCall name [] ('\x7b' :: '\x7b' :: name ++ ['\x7d', '\x7d'])
  | given {args : List Text} {s : Text} (h : Joined args s) :
      IsCall name args ('\x7b' :: '\x7b' :: name ++ '(' :: s ++ [')', '\x7d', '\x7d'])

/-- A call that is written is one token, which is not escaped. -/
theorem IsCall.exists_token {name call : Text} {args : List Text} (h : IsCall name args call)
    (hname : name ≠ []) (hword : name.all Text.isWord = true) (hargs : ∀ a ∈ args, IsArgument a)
    (hne : args ≠ [[]]) :
    ∃ t : Token, t.WellFormed ∧ t.markup = call ∧ t.escaped = false ∧
      t.call = (Text.lower name, args) := by
  cases h with
  | bare =>
    refine ⟨⟨false, name, none⟩, ⟨hname, hword, List.not_mem_nil⟩, ?_, rfl, rfl⟩
    simp [Token.markup, Token.source, Token.parenthesised]
  | given h =>
    next s =>
    refine ⟨⟨false, name, some s⟩, ⟨hname, hword, h.brace_not_mem hargs⟩, ?_, rfl, ?_⟩
    · simp [Token.markup, Token.source, Token.parenthesised]
    · have hs : s ≠ [] := fun hs => hne (h.eq_of_nil hs)
      have hraw : Token.args ⟨false, name, some s⟩ = (splitOn ',' s).map Text.trim :=
        if_neg fun hempty => hs (List.isEmpty_iff.1 hempty)
      rw [Token.call, hraw, h.map_trim_splitOn hargs]
      rfl

theorem pieces_nil : pieces [] = [] := by
  rw [pieces]
  rfl

/-- A token that stands alone is the only part of its markup. -/
theorem Token.WellFormed.pieces {t : Token} (h : t.WellFormed) : pieces t.markup = [.token t] := by
  have hread := Token.read?_eq_some_iff.2 ⟨h, (List.append_nil t.markup).symm⟩
  rw [Macro.pieces.eq_def]
  split
  · next t' rest hread' =>
    obtain ⟨rfl, rfl⟩ := Prod.mk.inj (Option.some.inj (hread.symm.trans hread'))
    rw [pieces_nil]
  · next hnone => simp [hread] at hnone

variable {σ ε : Type} [Cause ε]

/-- A written call makes one call, of its name in lower case and with the arguments as they were
written, whatever these hold besides. -/
theorem calls_of_isCall (resolver : Resolver σ ε) (st : σ) {name call : Text} {args : List Text}
    (hname : name ≠ []) (hword : name.all Text.isWord = true) (hargs : ∀ a ∈ args, IsArgument a)
    (hne : args ≠ [[]]) (hcall : IsCall name args call) :
    (expand (some resolver.recorded) call (st, [])).2 =
      ((resolver (Text.lower name) args st).2, [(Text.lower name, args)]) := by
  obtain ⟨t, ht, rfl, hescaped, htcall⟩ := hcall.exists_token hname hword hargs hne
  obtain ⟨hlower, rfl⟩ := Prod.mk.inj htcall
  rw [expand, ht.pieces, Option.getD_some, expandPieces_recorded, ← hlower]
  simp [expandPieces, Cut.ofPieces, Cut.tokens, hescaped, Token.call]

/-- Parentheses, braces that open, quotation marks, line ends and empty arguments come through. -/
theorem calls_of_isCall_unbalanced :
    let resolver : Resolver Nat Template.Error := fun _ _ n => (.ok none, n + 1)
    let args : List Text := ["a)(".toList, "\x7b\x7bx(".toList, [], "\"q\"\nr".toList]
    let call : Text := "\x7b\x7bFig(a)(, \x7b\x7bx(,,\"q\"\nr)\x7d\x7d".toList
    ("Fig".toList ≠ [] ∧ "Fig".toList.all Text.isWord = true ∧ (∀ a ∈ args, IsArgument a) ∧
        args ≠ [[]] ∧ IsCall "Fig".toList args call) ∧
      (expand (some resolver.recorded) call (0, [])).2 = (1, [("fig".toList, args)]) := by
  intro resolver args call
  have hargs : ∀ a ∈ args, IsArgument a := by decide
  have hcall : IsCall "Fig".toList args call :=
    .given (.spaced _ (.comma _ (.comma _ (.one _))))
  refine ⟨⟨by decide, by decide, hargs, by decide, hcall⟩, ?_⟩
  have hlower : Text.lower "Fig".toList = "fig".toList := by decide
  rw [calls_of_isCall resolver 0 (by decide) (by decide) hargs (by decide) hcall, hlower]

end WikiText.Macro
