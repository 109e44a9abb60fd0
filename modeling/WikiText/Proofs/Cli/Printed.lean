import WikiText.Proofs.Cli.Delivery
import WikiText.Proofs.Render.Failure

/-!
# What a render prints

A render that reads what it needs prints a document, also when rendering fails: then the document
shows the cause and the source.  The page of its own is the exception, since it needs the stylesheet
of its style once more: with a style that does not exist nothing is printed, although the render
itself was answered with its fallback.  Main statement: `run_render_printed`.
-/

namespace WikiText

namespace Code

/-- The style exists. -/
def IsStyle (name : Text) : Prop := ∃ style, Style.ofName name = .ok style

theorem isStyle_iff {name : Text} :
    IsStyle name ↔ name = "monokai".toList ∨ name = "default".toList := by
  rw [IsStyle, Style.ofName]
  split
  · next h => exact iff_of_true ⟨.dark, rfl⟩ (.inl h)
  split
  · next h => exact iff_of_true ⟨.light, rfl⟩ (.inr h)
  · next hdark hlight => exact iff_of_false nofun (not_or_intro hdark hlight)

instance (name : Text) : Decidable (IsStyle name) := decidable_of_iff _ isStyle_iff.symm

theorem ofName_of_not_isStyle {name : Text} (h : ¬ IsStyle name) :
    Style.ofName name = .error ⟨name⟩ := by
  rw [isStyle_iff, not_or] at h
  rw [Style.ofName, if_neg h.1, if_neg h.2]

end Code

open Code (IsStyle)

section Style

variable {σ ε τ δ : Type} [Cause ε] [Cause δ] {config : Config}

/-- Plain code needs a style, whether or not there is code in the document. -/
theorem failed_of_not_isStyle (h : ¬ IsStyle config.style) (resolver : Option (Macro.Resolver σ ε))
    (s : Text) (calls : σ) (blocks : τ) :
    (render config resolver (.plain : Highlighter τ δ) s calls blocks).1.failed = true := by
  rw [fst_render]
  rcases untilHighlighting config resolver s calls with ⟨e | markup, st⟩
  · rfl
  · rw [failed_highlightAfter_ok, highlightStage, Code.ofName_of_not_isStyle h]
    rfl

end Style

namespace Cli

/-- The document shows why a stage of the render failed, and the source, both escaped. -/
def ShowsFailure (config : Config) (s d : Text) : Prop :=
  ∃ stage st message,
    FailsIn config (some (Macro.Registry.ofTemplates config.macros).resolver)
      (.plain : Highlighter Unit Empty) s () () stage st message ∧
    Page.fallback s message <:+: d

variable {config : Config} {s d : Text} {standalone : Bool}

theorem stylesheet_of_isStyle (h : IsStyle config.style) :
    ∃ sheet, stylesheet config = .ok sheet := by
  obtain ⟨style, hstyle⟩ := h
  exact ⟨style.sheet config.highlightClass, by rw [stylesheet, hstyle]; rfl⟩

theorem stylesheet_of_not_isStyle (h : ¬ IsStyle config.style) :
    stylesheet config = .error (.style ⟨config.style⟩) := by
  rw [stylesheet, Code.ofName_of_not_isStyle h]
  rfl

theorem document_page (config : Config) (r : Rendered) :
    document config true r = (stylesheet config).map fun sheet =>
      Page.standalone (Page.title none r.headings) sheet r.html := by
  simp only [document, if_true]
  cases stylesheet config <;> rfl

/-- There is a document unless it is a page of its own in a style that does not exist. -/
theorem exists_document (h : standalone = true → IsStyle config.style) (r : Rendered) :
    ∃ d, document config standalone r = .ok d := by
  cases standalone with
  | false => exact ⟨endLine r.html, rfl⟩
  | true =>
    obtain ⟨sheet, hsheet⟩ := stylesheet_of_isStyle (h rfl)
    exact ⟨_, by rw [document_page, hsheet, Except.map]⟩

theorem document_of_not_isStyle (h : ¬ IsStyle config.style) (r : Rendered) :
    document config true r = .error (.style ⟨config.style⟩) := by
  rw [document_page, stylesheet_of_not_isStyle h, Except.map]

/-- The markup of a render stands in its document as it is. -/
theorem infix_of_document {r : Rendered} (h : document config standalone r = .ok d) :
    r.html <:+: d := by
  rcases document_cases h with ⟨-, hd⟩ | ⟨-, sheet, -, hd⟩
  · rw [hd, endLine]
    split
    · exact List.infix_rfl
    · exact (List.prefix_append r.html ['\n']).isInfix
  · rw [hd, Page.standalone]
    exact List.infix_append _ r.html _

/-- A render that fails is answered, and its document shows that. -/
theorem showsFailure_of_failed (hfailed : (renderPlain config s).failed = true)
    (h : document config standalone (renderPlain config s) = .ok d) : ShowsFailure config s d := by
  obtain ⟨stage, st, message, hstage, hrendered⟩ := exists_failsIn_of_failed hfailed
  have hhtml : (renderPlain config s).html = Page.fallback s message :=
    congrArg Rendered.html hrendered
  exact ⟨stage, st, message, hstage, hhtml ▸ infix_of_document h⟩

theorem exitStatus_le_one (failOnWarning : Bool) (r : Rendered) :
    exitStatus failOnWarning r = 0 ∨ exitStatus failOnWarning r = 1 := by
  rw [exitStatus]
  split
  · exact .inr rfl
  · exact .inl rfl

section Run

variable {fs : Files} {o : RenderOptions} (hreads : Reads fs o config s)
include hreads

theorem run_render_of_document (hprint : o.output = none)
    (hd : document config o.standalone (renderPlain config s) = .ok d) :
    (Command.render o).run fs = .ok {
      status := exitStatus o.failOnWarning (renderPlain config s)
      stdout := d
      stderr := (reportLines fs o.source (renderPlain config s)).flatMap line } := by
  refine run_render_iff.2 ⟨config, s, d, { stdout := d }, hreads, hd, ?_, rfl⟩
  rw [hprint]
  rfl

theorem run_render_of_not_isStyle (hstyle : ¬ IsStyle config.style) (hpage : o.standalone = true) :
    (Command.render o).run fs = .error (.style ⟨config.style⟩) := by
  have hd := document_of_not_isStyle hstyle (renderPlain config s)
  simp only [Command.run, runRender, hreads.level, hreads.config, hreads.source, hpage, hd, bind,
    Except.bind]

end Run

/-- A configuration that is loaded, from a test of it. -/
theorem exists_loadConfig {fs : Files} {p : Config → Bool}
    (h : ((loadConfig fs none).toOption.any p) = true) :
    ∃ config, loadConfig fs none = .ok config ∧ p config = true := by
  cases hconfig : loadConfig fs none with
  | error e =>
    rw [hconfig] at h
    exact absurd h Bool.false_ne_true
  | ok config =>
    rw [hconfig] at h
    exact ⟨config, rfl, h⟩

end Cli

end WikiText
