import WikiText.Proofs.Macro.Expansion
import WikiText.Proofs.Macro.Registered
import WikiText.Proofs.Macro.Written
import WikiText.Proofs.Template.Written

/-!
# Templates as macros

A template that is written piece by piece is filled in piece by piece, and what the arguments hold
is never read as a template. As a macro it puts this text, or the notice of its failure, in the
place of one token, and the rest of the markup is expanded as it is without it. Main statement:
`expand_template`.
-/

namespace WikiText

/-! ## Pieces that have a value -/

namespace Template.Piece

/-- There is an argument with this number, and the number can be read. -/
def IsGiven (args : List Text) (i : Nat) : Prop := i < args.length ∧ i ≤ greatestNumber

instance (args : List Text) (i : Nat) : Decidable (IsGiven args i) :=
  inferInstanceAs (Decidable (_ ∧ _))

variable {args : List Text} {i : Nat}

theorem failure?_of_isGiven (h : IsGiven args i) : (positional i).failure? args = none := by
  rw [failure?, if_neg (Nat.not_lt.2 h.2), if_pos h.1]

theorem failure?_of_not_isGiven (h : ¬ IsGiven args i) :
    (positional i).failure? args =
      some (if i ≤ greatestNumber then .indexOutOfRange i else .tooManyDigits) := by
  rw [failure?]
  by_cases hi : i ≤ greatestNumber
  · rw [if_neg (Nat.not_lt.2 hi), if_neg fun hlt => h ⟨hlt, hi⟩, if_pos hi]
  · rw [if_pos (Nat.lt_of_not_le hi), if_neg hi]

theorem findSome?_failure? {ps : List Piece} (h : ∀ i, positional i ∈ ps → IsGiven args i) :
    ps.findSome? (failure? args) = none := by
  refine List.findSome?_eq_none_iff.2 fun p hp => ?_
  cases p with
  | literal s => rfl
  | positional i => exact failure?_of_isGiven (h i hp)
  | all => rfl

theorem fill_of_isGiven {ps : List Piece} (h : ∀ i, positional i ∈ ps → IsGiven args i) :
    fill args ps = .ok (ps.flatMap (text args)) := by
  rw [fill, findSome?_failure? h]

/-- The first number without an argument says what is wrong. -/
theorem fill_of_not_isGiven {qs : List Piece} (hqs : ∀ j, positional j ∈ qs → IsGiven args j)
    (hi : ¬ IsGiven args i) (rs : List Piece) :
    fill args (qs ++ positional i :: rs) =
      .error (if i ≤ greatestNumber then .indexOutOfRange i else .tooManyDigits) := by
  rw [fill, List.findSome?_append, findSome?_failure? hqs, List.findSome?_cons,
    failure?_of_not_isGiven hi]
  rfl

end Template.Piece

namespace Macro

open Template.Piece (IsGiven)

theorem ofTemplate_written (ps : List Template.Piece) (args : List Text) :
    ofTemplate (ps.flatMap Template.Piece.written) args = Template.Piece.fill args ps :=
  Template.fill_written args ps

/-! ## One token among the parts of a markup -/

variable {σ ε : Type} [Cause ε]

/-- A registry keeps no state. -/
theorem expandPieces_resolver_snd (r : Registry (Pure ε)) (ps : List Piece) (st : σ) :
    (expandPieces r.resolver ps st).2 = st := by
  induction ps with
  | nil => rfl
  | cons p ps ih =>
    cases p with
    | char a => exact ih
    | token t =>
      simp only [expandPieces, Registry.resolver]
      split
      · exact ih
      · exact ih

theorem expandPieces_token (r : Registry (Pure ε)) {t : Token} (ht : t.escaped = false)
    (before after : List Piece) (st : σ) :
    let front := (expandPieces r.resolver before st).1
    let own := replacement t (r.call t.name t.args)
    let back := (expandPieces r.resolver after st).1
    expandPieces r.resolver (before ++ .token t :: after) st =
      ((front.1 ++ own.1 ++ back.1, front.2 ++ own.2 ++ back.2), st) := by
  simp only [expandPieces_append, expandPieces_resolver_snd, expandPieces, ht, Bool.false_eq_true,
    if_false, List.append_assoc]
  rfl

omit [Cause ε] in
theorem Registry.call_ofTemplate {r : Registry (Pure ε)} {name template : Text}
    {cause : Template.Error → ε} (h : r.get? name = some (.ofTemplate cause template))
    (args : List Text) :
    r.call name args = match ofTemplate template args with
      | .ok s => .ok (some s)
      | .error e => .error (cause e) := by
  rw [call, h]
  rfl

/-- A template of pieces gives its texts as they are, the arguments that its numbers name and all
arguments with commas between them, whatever characters they hold. The first number that names none
makes it fail, and so does one too great to be read. A token that calls the template by a name it is
registered under, and is not escaped, is replaced by that text, but stays when there is none; after
a failure the notice stands in its place and one warning is left. The rest of the markup is expanded
as if the token were not there. -/
theorem expand_template (cause : Template.Error → ε) (ps : List Template.Piece) :
    let template := ps.flatMap Template.Piece.written
    (∀ args, (∀ i, .positional i ∈ ps → IsGiven args i) →
      ofTemplate template args = .ok (ps.flatMap (Template.Piece.text args))) ∧
    (∀ args qs i rs, ps = qs ++ .positional i :: rs →
      (∀ j, .positional j ∈ qs → IsGiven args j) → ¬ IsGiven args i →
        ofTemplate template args =
          .error (if i ≤ Template.greatestNumber then .indexOutOfRange i else .tooManyDigits)) ∧
    ∀ (r : Registry (Pure ε)) (markup : Text) (st : σ) (before : List Piece) (t : Token)
      (after : List Piece),
      pieces markup = before ++ .token t :: after → t.escaped = false →
      r.get? t.name = some (.ofTemplate cause template) →
        let front := (expandPieces r.resolver before st).1
        let back := (expandPieces r.resolver after st).1
        expand (some r.resolver) markup st = match ofTemplate template t.args with
          | .ok s =>
            ((front.1 ++ (if s = [] then t.source else s) ++ back.1, front.2 ++ back.2), st)
          | .error e =>
            let message := Cause.message (cause e)
            ((front.1 ++ notice t.name message ++ back.1,
              front.2 ++ [.macroFailed t.name message] ++ back.2), st) := by
  intro template
  refine ⟨fun args hgiven => ?_, fun args qs i rs hps hqs hi => ?_, ?_⟩
  · rw [ofTemplate_written, Template.Piece.fill_of_isGiven hgiven]
  · rw [ofTemplate_written, hps, Template.Piece.fill_of_not_isGiven hqs hi]
  · intro r markup st before t after hpieces ht hget front back
    rw [expand, Option.getD_some, hpieces, expandPieces_token r ht,
      Registry.call_ofTemplate hget]
    cases ofTemplate template t.args with
    | error e => rfl
    | ok s =>
      cases s with
      | nil => simp only [replacement, if_true, List.append_nil]; rfl
      | cons c s => simp only [replacement, reduceCtorEq, if_false, List.append_nil]; rfl

/-- Braces of the text are doubled; those of the arguments, their marks and colons are left alone.
Without an argument the same template fails. -/
theorem expand_template_braces :
    let ps : List Template.Piece :=
      [.literal "\x7b".toList, .positional 1, .literal "\x7d ".toList, .all]
    let r : Registry (Pure Template.Error) :=
      .ofTemplates ⟨[("tag".toList, ps.flatMap Template.Piece.written)]⟩
    let t : Token := ⟨false, "Tag".toList, some "\x7b0!r, a:b".toList⟩
    let bare : Token := ⟨false, "tag".toList, none⟩
    ps.flatMap Template.Piece.written = "\x7b\x7b\x7b1\x7d\x7d\x7d \x7bargs\x7d".toList ∧
      ofTemplate (ps.flatMap Template.Piece.written) t.args =
        .ok "\x7ba:b\x7d \x7b0!r, a:b".toList ∧
      ofTemplate (ps.flatMap Template.Piece.written) [] = .error (.indexOutOfRange 1) ∧
      expand (some r.resolver) t.markup () =
        (("\x7ba:b\x7d \x7b0!r, a:b".toList, []), ()) ∧
      expand (some r.resolver) bare.markup () =
        ((notice "tag".toList (Template.Error.indexOutOfRange 1).message,
          [.macroFailed "tag".toList (Template.Error.indexOutOfRange 1).message]), ()) := by
  intro ps r t bare
  obtain ⟨hgiven, hnot, hexpand⟩ := @expand_template Unit Template.Error _ id ps
  have hok : ofTemplate (ps.flatMap Template.Piece.written) t.args =
      .ok "\x7ba:b\x7d \x7b0!r, a:b".toList :=
    (hgiven t.args (by simp [ps]; decide)).trans rfl
  have herror : ofTemplate (ps.flatMap Template.Piece.written) [] = .error (.indexOutOfRange 1) :=
    (hnot [] [.literal "\x7b".toList] 1 _ rfl (by simp) (by simp [IsGiven])).trans rfl
  refine ⟨rfl, hok, herror, ?_, ?_⟩
  · have hpieces : pieces t.markup = [.token t] :=
      Token.WellFormed.pieces ⟨by decide, by decide, by decide⟩
    have h := hexpand r t.markup () [] t [] hpieces rfl (by rw [Pure.ofTemplate_id]; rfl)
    rw [hok] at h
    exact h
  · have hpieces : pieces bare.markup = [.token bare] :=
      Token.WellFormed.pieces ⟨by decide, by decide, by decide⟩
    have hargs : bare.args = [] := rfl
    have h := hexpand r bare.markup () [] bare [] hpieces rfl (by rw [Pure.ofTemplate_id]; rfl)
    rw [hargs, herror] at h
    exact h

/-- A number that is too great to be read is no number without an argument. -/
theorem ofTemplate_tooManyDigits :
    let template := [Template.Piece.positional 9223372036854775808].flatMap Template.Piece.written
    template = "\x7b9223372036854775808\x7d".toList ∧
      ofTemplate template [] = .error .tooManyDigits ∧
      ofTemplate template [] ≠ .error (.indexOutOfRange 9223372036854775808) := by
  intro template
  have h : ofTemplate template [] = .error .tooManyDigits := ofTemplate_written _ _
  refine ⟨by decide, h, ?_⟩
  rw [h]
  exact nofun

end Macro

end WikiText
