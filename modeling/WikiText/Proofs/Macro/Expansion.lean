import WikiText.Macro.Expand
import WikiText.Proofs.Macro.Cut

/-!
# One pass over the tokens

What an expansion makes of a markup is told from its cut at the leftmost tokens and from what the
resolver answers to the calls of these tokens, made once each and in order.  Main statement:
`expand_leftmost`.
-/

namespace WikiText.Macro

variable {σ ε : Type}

/-- What a resolver returns: a text, no answer, or a failure. -/
abbrev Answer (ε : Type) := Except ε (Option Text)

/-- What a token calls for. -/
def Token.call (t : Token) : Text × List Text := (t.name, t.args)

namespace Resolver

/-- What becomes of a token: an escaped one calls nothing. -/
def outcome (r : Resolver σ ε) (t : Token) (st : σ) : Option (Answer ε) × σ :=
  if t.escaped then (none, st)
  else
    let (answer, st) := r t.name t.args st
    (some answer, st)

/-- What becomes of tokens in a row, each in the state that the ones before it left. -/
def outcomes (r : Resolver σ ε) : List Token → σ → List (Option (Answer ε)) × σ
  | [], st => ([], st)
  | t :: ts, st =>
    let (o, st) := r.outcome t st
    let (os, st) := r.outcomes ts st
    (o :: os, st)

/-- The resolver with a list of the calls made to it. -/
def recorded (r : Resolver σ ε) : Resolver (σ × List (Text × List Text)) ε :=
  fun name args (st, calls) =>
    let (a, st) := r name args st
    (a, st, calls ++ [(name, args)])

end Resolver

variable [Cause ε]

/-- The text in the place of a token: its source when it is escaped or has no answer, else the
answer, or the notice of the failure. -/
def replaced (t : Token) : Option (Answer ε) → Text
  | none => t.source
  | some (.ok answer) => if answer.getD [] = [] then t.source else answer.getD []
  | some (.error e) => notice t.name (Cause.message e)

/-- The words of the warning of a token that failed. -/
def failure? (t : Token) : Option (Answer ε) → Option Text
  | some (.error e) => some ("macro failed - ".toList ++ t.name ++ ": ".toList ++ Cause.message e)
  | _ => none

theorem replacement_fst (t : Token) (a : Answer ε) : (replacement t a).1 = replaced t (some a) := by
  match a with
  | .ok none => rfl
  | .ok (some []) => rfl
  | .ok (some (c :: r)) => rfl
  | .error e => rfl

theorem replacement_snd (t : Token) (a : Answer ε) :
    (replacement t a).2.map Warning.message = (failure? t (some a)).toList := by
  match a with
  | .ok none => rfl
  | .ok (some []) => rfl
  | .ok (some (c :: r)) => rfl
  | .error e => rfl

/-- What one pass over the parts of a markup makes of them, by the tokens among them. -/
theorem expandPieces_eq (r : Resolver σ ε) (ps : List Piece) (st : σ) :
    let c := Cut.ofPieces ps
    let os := (r.outcomes c.tokens st).1
    (expandPieces r ps st).1.1 = c.fill (List.zipWith replaced c.tokens os) ∧
      (expandPieces r ps st).1.2.map Warning.message =
        (List.zipWith failure? c.tokens os).filterMap id ∧
      (expandPieces r ps st).2 = (r.outcomes c.tokens st).2 := by
  induction ps generalizing st with
  | nil => exact ⟨rfl, rfl, rfl⟩
  | cons p ps ih =>
    cases p with
    | char a =>
      obtain ⟨htext, hwarnings, hst⟩ := ih st
      simp only [Cut.ofPieces, Cut.tokens_cons, Cut.fill_cons, expandPieces]
      exact ⟨congrArg _ htext, hwarnings, hst⟩
    | token t =>
      cases he : t.escaped with
      | true =>
        obtain ⟨htext, hwarnings, hst⟩ := ih st
        simp only [Cut.ofPieces, Cut.tokens, Cut.fill, expandPieces, Resolver.outcomes,
          Resolver.outcome, he, if_true]
        exact ⟨congrArg _ htext, hwarnings, hst⟩
      | false =>
        obtain ⟨htext, hwarnings, hst⟩ := ih (r t.name t.args st).2
        simp only [Cut.ofPieces, Cut.tokens, Cut.fill, expandPieces, Resolver.outcomes,
          Resolver.outcome, he]
        refine ⟨?_, ?_, hst⟩
        · show (replacement t (r t.name t.args st).1).1 ++ _ = [] ++ _ ++ _
          rw [replacement_fst, htext]
          rfl
        · show ((replacement t (r t.name t.args st).1).2 ++ _).map Warning.message = _
          rw [List.map_append, replacement_snd, hwarnings]
          cases hf : failure? t (some (r t.name t.args st).1) with
          | none => simp [hf]
          | some w => simp [hf]

/-- What stands behind is expanded in the state that was left by what stands before. -/
theorem expandPieces_append (r : Resolver σ ε) (ps qs : List Piece) (st : σ) :
    expandPieces r (ps ++ qs) st =
      let front := expandPieces r ps st
      let back := expandPieces r qs front.2
      ((front.1.1 ++ back.1.1, front.1.2 ++ back.1.2), back.2) := by
  induction ps generalizing st with
  | nil => rfl
  | cons p ps ih =>
    cases p with
    | char a =>
      simp only [List.cons_append, expandPieces, ih]
    | token t =>
      simp only [List.cons_append, expandPieces, ih]
      split <;> simp only [List.append_assoc]

/-- A record changes nothing, and holds the calls of the tokens that are not escaped. -/
theorem expandPieces_recorded (r : Resolver σ ε) (ps : List Piece) (st : σ)
    (calls : List (Text × List Text)) :
    expandPieces r.recorded ps (st, calls) =
      ((expandPieces r ps st).1, (expandPieces r ps st).2,
        calls ++ ((Cut.ofPieces ps).tokens.filter (!·.escaped)).map Token.call) := by
  induction ps generalizing st calls with
  | nil => simp [expandPieces, Cut.ofPieces, Cut.tokens]
  | cons p ps ih =>
    cases p with
    | char a =>
      simp only [expandPieces, ih, Cut.ofPieces, Cut.tokens_cons]
    | token t =>
      cases he : t.escaped with
      | true =>
        simp only [expandPieces, he, if_true, ih, Cut.ofPieces, Cut.tokens]
        simp [he]
      | false =>
        simp only [expandPieces, he, ih, Cut.ofPieces, Cut.tokens, Resolver.recorded]
        simp [he, Token.call]

/-- An expansion is one pass from left to right.  The markup is cut at its leftmost tokens, in one
way, and put together again with the gaps unchanged.  Each token that is not escaped is called once,
in order, and nothing else is; a failure leaves one warning. -/
theorem expand_leftmost (resolver : Resolver σ ε) (markup : Text) (st : σ) :
    ∃ c : Cut,
      (c.Leftmost ∧ c.markup = markup ∧ ∀ c' : Cut, c'.Leftmost → c'.markup = markup → c' = c) ∧
      c.tokens = tokens markup ∧
      let os := resolver.outcomes c.tokens st
      let expanded := expand (some resolver) markup st
      (expanded.1.1 = c.fill (List.zipWith replaced c.tokens os.1) ∧
        expanded.1.2.map Warning.message = (List.zipWith failure? c.tokens os.1).filterMap id ∧
        expanded.2 = os.2) ∧
      expand (some resolver.recorded) markup (st, []) =
        (expanded.1, expanded.2, (c.tokens.filter (!·.escaped)).map Token.call) := by
  obtain ⟨hleft, hmarkup⟩ := Cut.leftmost_ofPieces markup
  refine ⟨Cut.ofPieces (pieces markup), ⟨hleft, hmarkup, ?_⟩, Cut.tokens_ofPieces markup,
    expandPieces_eq resolver _ st, ?_⟩
  · intro c' hleft' hmarkup'
    exact hleft'.unique hleft (hmarkup'.trans hmarkup.symm)
  · exact expandPieces_recorded resolver _ st []

/-- Without a resolver only the marks of escaped tokens go. -/
theorem expand_none (markup : Text) (st : σ) :
    let c := Cut.ofPieces (pieces markup)
    expand (none : Option (Resolver σ ε)) markup st =
      ((c.fill (c.tokens.map Token.source), []), st) := by
  show expandPieces (fun _ _ st => (.ok none, st)) (pieces markup) st = _
  induction pieces markup with
  | nil => rfl
  | cons p ps ih =>
    cases p with
    | char a => simp only [expandPieces, ih, Cut.ofPieces, Cut.fill_cons, Cut.tokens_cons]
    | token t =>
      simp only [expandPieces, ih, Cut.ofPieces, Cut.tokens, Cut.fill]
      split <;> rfl

end WikiText.Macro
