import WikiText.Proofs.Text.Framed
import WikiText.Render

/-!
# Renders that fail

A render fails as a whole.  Its stages are the reading of blocks, the reading of their text, the
completion of the document, its writing, the answers to macro calls, and the highlighting of code.
Those that note warnings do not fail, and those that fail note none, so the page that is shown in
place of the document comes with the warnings of all stages before the one that failed.  Main
statement: `render_degrades`.
-/

namespace WikiText

open Text (Piece)

/-! ## Engines -/

namespace Code

variable {σ ε : Type}

/-- The engine fails, whatever the code. -/
def Engine.Raises (e : Engine σ ε) : Prop :=
  ∀ code language st, (e code language st).1.isOk = false

/-- The engine does not fail, whatever the code. -/
def Engine.NeverRaises (e : Engine σ ε) : Prop :=
  ∀ code language st, (e code language st).1.isOk = true

/-- The engine with a note of every call. -/
def Engine.recorded (e : Engine σ ε) : Engine (σ × List (Text × Text)) ε :=
  fun code language (st, calls) =>
    ((e code language st).1, (e code language st).2, calls ++ [(code, language)])

theorem neverRaises_plainEngine : (plainEngine : Engine σ ε).NeverRaises := fun _ _ _ => rfl

theorem isOk_map {α β : Type} (f : α → β) (r : Except ε α) : (r.map f).isOk = r.isOk := by
  cases r <;> rfl

theorem isOk_mapError {α ε' : Type} (f : ε → ε') (r : Except ε α) :
    (r.mapError f).isOk = r.isOk := by
  cases r <;> rfl

variable (e : Engine σ ε) (cssClass : Text)

theorem isOk_highlightPieces_char (c : Char) (ps : List (Piece Block)) (st : σ) :
    (highlightPieces e cssClass (.char c :: ps) st).1.isOk =
      (highlightPieces e cssClass ps st).1.isOk :=
  isOk_map _ _

theorem isOk_highlightPieces_part (b : Block) (ps : List (Piece Block)) (st : σ) :
    (highlightPieces e cssClass (.part b :: ps) st).1.isOk =
      ((e b.code b.tag st).1.isOk &&
        (highlightPieces e cssClass ps (e b.code b.tag st).2).1.isOk) := by
  rw [highlightPieces]
  rcases e b.code b.tag st with ⟨_ | out, st⟩
  · rfl
  · exact isOk_map _ _

/-- Without a block there is nothing that could fail. -/
theorem isOk_highlightPieces_of_parts {ps : List (Piece Block)}
    (h : (Piece.parts ps).isEmpty = true) (st : σ) :
    (highlightPieces e cssClass ps st).1.isOk = true := by
  induction ps with
  | nil => rfl
  | cons p ps ih =>
    cases p with
    | char c => rw [isOk_highlightPieces_char, ih h]
    | part b => exact absurd h Bool.false_ne_true

variable {e}

theorem isOk_highlightPieces_of_neverRaises (he : e.NeverRaises) (ps : List (Piece Block))
    (st : σ) : (highlightPieces e cssClass ps st).1.isOk = true := by
  induction ps generalizing st with
  | nil => rfl
  | cons p ps ih =>
    cases p with
    | char c => rw [isOk_highlightPieces_char, ih]
    | part b => rw [isOk_highlightPieces_part, he, ih, Bool.and_true]

theorem isOk_highlightPieces_of_raises (he : e.Raises) (ps : List (Piece Block)) (st : σ) :
    (highlightPieces e cssClass ps st).1.isOk = (Piece.parts ps).isEmpty := by
  induction ps with
  | nil => rfl
  | cons p ps ih =>
    cases p with
    | char c => rw [isOk_highlightPieces_char, ih, Piece.parts_char]
    | part b =>
      rw [isOk_highlightPieces_part, he, Bool.false_and, Piece.parts_part, List.isEmpty_cons]

variable (e)

/-- Noting its calls changes nothing else, and the engine is called if there is a block. -/
theorem highlightPieces_recorded (ps : List (Piece Block)) (st : σ) (calls : List (Text × Text)) :
    ∃ made, highlightPieces e.recorded cssClass ps (st, calls) =
        ((highlightPieces e cssClass ps st).1, (highlightPieces e cssClass ps st).2,
          calls ++ made) ∧
      made.isEmpty = (Piece.parts ps).isEmpty := by
  induction ps generalizing st calls with
  | nil => exact ⟨[], by rw [List.append_nil]; rfl, rfl⟩
  | cons p ps ih =>
    cases p with
    | char c =>
      obtain ⟨made, h, hmade⟩ := ih st calls
      exact ⟨made, by rw [highlightPieces, h]; rfl, hmade⟩
    | part b =>
      rw [highlightPieces, highlightPieces, Engine.recorded]
      rcases e b.code b.tag st with ⟨_ | out, st⟩
      · exact ⟨[(b.code, b.tag)], rfl, rfl⟩
      · obtain ⟨made, h, -⟩ := ih st (calls ++ [(b.code, b.tag)])
        refine ⟨(b.code, b.tag) :: made, ?_, rfl⟩
        simp only [h, List.append_assoc, List.singleton_append]

end Code

/-! ## Stages -/

open Markdown (Options)

variable {σ ε τ δ τ' δ' : Type} [Cause ε] [Cause δ] [Cause δ']

/-- The highlighter does not fail on code. -/
def Highlighter.NeverRaises : Highlighter τ δ → Prop
  | .engine e => e.NeverRaises
  | .plain => True

theorem isOk_highlightStage_engine (config : Config) (e : Code.Engine τ δ) (markup : Text)
    (blocks : τ) :
    (highlightStage config (.engine e) markup blocks).1.isOk =
      (Code.highlight e config.highlightClass markup blocks).1.isOk :=
  Code.isOk_mapError _ _

theorem blocks_highlightStage_engine (config : Config) (e : Code.Engine τ δ) (markup : Text)
    (blocks : τ) :
    (highlightStage config (.engine e) markup blocks).2 =
      (Code.highlight e config.highlightClass markup blocks).2 := rfl

/-- If the engine does not fail, the markup does not decide whether the stage does. -/
theorem isOk_highlightStage_of_neverRaises (config : Config) {highlighter : Highlighter τ δ}
    (h : highlighter.NeverRaises) (markup markup' : Text) (blocks blocks' : τ) :
    (highlightStage config highlighter markup blocks).1.isOk =
      (highlightStage config highlighter markup' blocks').1.isOk := by
  cases highlighter with
  | engine e =>
    rw [isOk_highlightStage_engine, isOk_highlightStage_engine, Code.highlight, Code.highlight,
      Code.isOk_highlightPieces_of_neverRaises _ h, Code.isOk_highlightPieces_of_neverRaises _ h]
  | plain =>
    rw [highlightStage, highlightStage]
    cases Code.Style.ofName config.style with
    | error _ => rfl
    | ok _ =>
      have hplain : ∀ markup blocks, (highlightStage config
          (.engine Code.plainEngine : Highlighter τ δ) markup blocks).1.isOk = true := by
        intro markup blocks
        rw [isOk_highlightStage_engine, Code.highlight,
          Code.isOk_highlightPieces_of_neverRaises _ Code.neverRaises_plainEngine]
      exact (hplain markup blocks).trans (hplain markup' blocks').symm

/-- The markup of a document once its macro calls are answered, and the state of the render then. -/
def untilHighlighting (config : Config) (resolver : Option (Macro.Resolver σ ε)) (s : Text)
    (calls : σ) : Except Markdown.Failure Text × RenderState :=
  match Markdown.convert config s with
  | (.error e, st) => (.error e, st)
  | (.ok markup, st) =>
    let ((markup, reported), _) := Macro.expand resolver markup calls
    (.ok markup, { st with warnings := st.warnings ++ reported })

/-- What becomes of a document once its macro calls are answered. -/
def highlightAfter (config : Config) (highlighter : Highlighter τ δ) (s : Text) (blocks : τ) :
    Except Markdown.Failure Text × RenderState → Rendered × τ
  | (.error e, st) => (.failure s e.message st.warnings, blocks)
  | (.ok markup, st) => match highlightStage config highlighter markup blocks with
    | (.error message, blocks) => (.failure s message st.warnings, blocks)
    | (.ok html, blocks) => ({ html, warnings := st.warnings, headings := st.headings }, blocks)

variable (config : Config) (resolver : Option (Macro.Resolver σ ε)) (highlighter : Highlighter τ δ)
  (s : Text) (calls : σ) (blocks : τ)

theorem warnings_highlightAfter (u : Except Markdown.Failure Text × RenderState) :
    (highlightAfter config highlighter s blocks u).1.warnings = u.2.warnings := by
  rcases u with ⟨_ | markup, st⟩
  · rfl
  · rw [highlightAfter]
    rcases highlightStage config highlighter markup blocks with ⟨_ | _, _⟩ <;> rfl

theorem failed_highlightAfter_ok (markup : Text) (st : RenderState) :
    (highlightAfter config highlighter s blocks (.ok markup, st)).1.failed =
      !(highlightStage config highlighter markup blocks).1.isOk := by
  rw [highlightAfter]
  rcases highlightStage config highlighter markup blocks with ⟨_ | _, _⟩ <;> rfl

theorem blocks_highlightAfter_ok (markup : Text) (st : RenderState) :
    (highlightAfter config highlighter s blocks (.ok markup, st)).2 =
      (highlightStage config highlighter markup blocks).2 := by
  rw [highlightAfter]
  rcases highlightStage config highlighter markup blocks with ⟨_ | _, _⟩ <;> rfl

theorem render_eq : ((render config resolver highlighter s calls blocks).1,
    (render config resolver highlighter s calls blocks).2.2) =
      highlightAfter config highlighter s blocks (untilHighlighting config resolver s calls) := by
  rw [render, untilHighlighting]
  rcases Markdown.convert config s with ⟨_ | markup, st⟩
  · rfl
  · dsimp only
    rw [highlightAfter]
    rcases highlightStage config highlighter (Macro.expand resolver markup calls).1.1 blocks with
      ⟨_ | html, blocks⟩ <;> rfl

theorem fst_render : (render config resolver highlighter s calls blocks).1 =
    (highlightAfter config highlighter s blocks (untilHighlighting config resolver s calls)).1 :=
  congrArg Prod.fst (render_eq config resolver highlighter s calls blocks)

theorem blocks_render : (render config resolver highlighter s calls blocks).2.2 =
    (highlightAfter config highlighter s blocks (untilHighlighting config resolver s calls)).2 :=
  congrArg Prod.snd (render_eq config resolver highlighter s calls blocks)

/-- The stages of a render that may fail. -/
inductive Stage where
  | extensions
  | blocks
  | completion
  | highlighting

/-- A stage fails with a message. The state of the render is that in which the stage began. -/
inductive FailsIn : Stage → RenderState → (message : Text) → Prop
  | extensions {e} (h : Options.ofConfig config = .error e) : FailsIn .extensions {} e.message
  | blocks {opts e} (hopts : Options.ofConfig config = .ok opts) (hs : Text.allBlank s = false)
      (h : Markdown.parse opts s = .error e) : FailsIn .blocks {} e.message
  | completion {opts p root st e} (hopts : Options.ofConfig config = .ok opts)
      (hs : Text.allBlank s = false) (hp : Markdown.parse opts s = .ok p)
      (hread : p.readText opts = (root, st))
      (h : Markdown.complete opts p.definitions st root = .error e) :
      FailsIn .completion st.render e.message
  | highlighting {markup st message}
      (hmarkup : untilHighlighting config resolver s calls = (.ok markup, st))
      (h : (highlightStage config highlighter markup blocks).1 = .error message) :
      FailsIn .highlighting st message

variable {config resolver highlighter s calls blocks}

theorem exists_failsIn_of_convert {e : Markdown.Failure} {st : RenderState}
    (h : Markdown.convert config s = (.error e, st)) :
    ∃ stage, FailsIn config resolver highlighter s calls blocks stage st e.message := by
  rw [Markdown.convert] at h
  cases hopts : Options.ofConfig config with
  | error e =>
    rw [hopts] at h
    cases h
    exact ⟨_, .extensions hopts⟩
  | ok opts =>
    rw [hopts] at h
    cases hs : Text.allBlank s with
    | true => simp [hs] at h
    | false =>
      simp only [hs, Bool.false_eq_true, if_false] at h
      cases hp : Markdown.parse opts s with
      | error e =>
        rw [hp] at h
        cases h
        exact ⟨_, .blocks hopts hs hp⟩
      | ok p =>
        rw [hp] at h
        simp only [Markdown.Parsed.write] at h
        cases hc : Markdown.complete opts p.definitions (p.readText opts).2 (p.readText opts).1 with
        | error e =>
          rw [hc] at h
          cases h
          exact ⟨_, .completion hopts hs hp rfl hc⟩
        | ok r =>
          rw [hc] at h
          simp at h

theorem exists_failsIn_of_untilHighlighting {e : Markdown.Failure} {st : RenderState}
    (h : untilHighlighting config resolver s calls = (.error e, st)) :
    ∃ stage, FailsIn config resolver highlighter s calls blocks stage st e.message := by
  rw [untilHighlighting] at h
  cases hc : Markdown.convert config s with
  | mk r st => cases r with
    | error e =>
      rw [hc] at h
      cases h
      exact exists_failsIn_of_convert hc
    | ok markup => simp [hc] at h

/-- A render fails for a failure of one of its stages. -/
theorem exists_failsIn_of_failed
    (h : (render config resolver highlighter s calls blocks).1.failed = true) :
    ∃ stage st message, FailsIn config resolver highlighter s calls blocks stage st message ∧
      (render config resolver highlighter s calls blocks).1 = .failure s message st.warnings := by
  rw [fst_render] at h ⊢
  rcases hu : untilHighlighting config resolver s calls with ⟨e | markup, st⟩
  · obtain ⟨stage, hstage⟩ : ∃ stage, FailsIn config resolver highlighter s calls blocks stage st
        e.message := exists_failsIn_of_untilHighlighting hu
    exact ⟨stage, st, e.message, hstage, rfl⟩
  · rw [hu, highlightAfter] at h
    rw [highlightAfter]
    rcases hh : highlightStage config highlighter markup blocks with ⟨message | html, blocks'⟩
    · exact ⟨.highlighting, st, message, .highlighting hu (congrArg Prod.fst hh), rfl⟩
    · rw [hh] at h
      exact absurd h Bool.false_ne_true

/-- A render that does not fail shows the state that its stages leave. -/
theorem exists_untilHighlighting_of_not_failed
    (h : (render config resolver highlighter s calls blocks).1.failed = false) :
    ∃ markup st, untilHighlighting config resolver s calls = (.ok markup, st) ∧
      (render config resolver highlighter s calls blocks).1.headings = st.headings ∧
      (render config resolver highlighter s calls blocks).1.warnings = st.warnings := by
  rw [fst_render] at h ⊢
  rcases hu : untilHighlighting config resolver s calls with ⟨e | markup, st⟩
  · rw [hu] at h
    exact absurd h.symm Bool.false_ne_true
  · rw [hu, highlightAfter] at h
    rw [highlightAfter]
    rcases hh : highlightStage config highlighter markup blocks with ⟨message | html, blocks'⟩
    · rw [hh] at h
      exact absurd h.symm Bool.false_ne_true
    · exact ⟨markup, st, rfl, rfl, rfl⟩

/-! ## Engines that raise -/

section Raising

variable {raising : Code.Engine τ δ} (hraising : raising.Raises) (e : Code.Engine τ' δ')
  (config : Config) (resolver : Option (Macro.Resolver σ ε)) (s : Text) (calls : σ) (blocks : τ)
  (blocks' : τ')
include hraising

/-- An engine that raises makes a render fail just when it is called. -/
theorem failed_raising_iff :
    let recording := render config resolver (.engine e.recorded) s calls (blocks', [])
    (render config resolver (.engine raising) s calls blocks).1.failed = true ↔
      recording.2.2.2 ≠ [] ∨ recording.1.failed = true := by
  intro recording
  rw [show recording = render config resolver (.engine e.recorded) s calls (blocks', []) from rfl,
    fst_render, fst_render, blocks_render]
  rcases untilHighlighting config resolver s calls with ⟨cause | markup, st⟩
  · exact iff_of_true rfl (.inr rfl)
  · rw [failed_highlightAfter_ok, failed_highlightAfter_ok, blocks_highlightAfter_ok,
      isOk_highlightStage_engine, isOk_highlightStage_engine, blocks_highlightStage_engine,
      Code.highlight, Code.highlight, Code.isOk_highlightPieces_of_raises _ hraising]
    obtain ⟨made, hrecorded, hmade⟩ := Code.highlightPieces_recorded e config.highlightClass
      (Code.Block.reader.pieces true markup) blocks' []
    rw [hrecorded, ← hmade, List.nil_append]
    cases hempty : made.isEmpty with
    | false =>
      have hne : made ≠ [] := List.isEmpty_eq_false_iff.1 hempty
      exact iff_of_true rfl (.inl hne)
    | true =>
      have hnil : made = [] := List.isEmpty_iff.1 hempty
      have hok := Code.isOk_highlightPieces_of_parts e config.highlightClass
        (hmade.symm.trans hempty) blocks'
      rw [hok]
      exact iff_of_false Bool.false_ne_true
        (not_or_intro (fun hne => hne hnil) Bool.false_ne_true)

end Raising

/-- The highlighter does not matter to the warnings. -/
theorem warnings_render :
    (render config resolver highlighter s calls blocks).1.warnings =
      (untilHighlighting config resolver s calls).2.warnings := by
  rw [fst_render, warnings_highlightAfter]

/-! ## Macros -/

/-- If its engine does not fail, macros do not decide whether a render does. -/
theorem not_failed_of_neverRaises (resolver : Option (Macro.Resolver σ ε))
    (hnever : highlighter.NeverRaises)
    (h : (render config (none : Option (Macro.Resolver σ ε)) highlighter s calls blocks).1.failed =
      false) :
    (render config resolver highlighter s calls blocks).1.failed = false := by
  rw [fst_render, untilHighlighting] at h ⊢
  rcases hconvert : Markdown.convert config s with ⟨e | markup, st⟩
  · rwa [hconvert] at h
  · rw [hconvert, failed_highlightAfter_ok] at h
    rw [failed_highlightAfter_ok]
    rwa [isOk_highlightStage_of_neverRaises config hnever]

/-- A text is a cause in words. -/
instance : Cause Text := ⟨id⟩

end WikiText
