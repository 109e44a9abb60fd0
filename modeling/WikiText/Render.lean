import WikiText.Code.Highlight
import WikiText.Code.PlainText
import WikiText.Code.Stylesheet
import WikiText.Macro.Registry
import WikiText.Markdown.Convert
import WikiText.Page.Fallback

/-! # Rendering

A document is converted to markup, then its macro calls are answered, then its code is highlighted.
A failure of any stage but the second yields a page that shows the cause and the source text.
-/

namespace WikiText

/-- A rendered document. -/
structure Rendered where
  html : Text
  warnings : List Warning
  headings : List Heading := []
  failed : Bool := false

/-- The page for a text that could not be rendered, with the warnings up to the failure. -/
def Rendered.failure (s message : Text) (warnings : List Warning) : Rendered :=
  { html := Page.fallback s message, warnings, failed := true }

/-- What highlights the code of a render: an engine, or plain text in a style. -/
inductive Highlighter (σ ε : Type) where
  | engine (e : Code.Engine σ ε)
  | plain

/-- The engine that shows code as plain text. -/
def Code.plainEngine {σ ε : Type} : Code.Engine σ ε := fun code _ st => (.ok (plain code), st)

variable {σ ε τ δ : Type} [Cause ε] [Cause δ]

/-- The stage of highlighting. Plain text needs a style that exists. -/
def highlightStage (config : Config) (highlighter : Highlighter τ δ) (markup : Text) (st : τ) :
    Except Text Text × τ :=
  let run (e : Code.Engine τ δ) : Except Text Text × τ :=
    let (r, st) := Code.highlight e config.highlightClass markup st
    (r.mapError Cause.message, st)
  match highlighter with
  | .engine e => run e
  | .plain => match Code.Style.ofName config.style with
    | .error e => (.error e.message, st)
    | .ok _ => run Code.plainEngine

/-- Render a document with a resolver of macros, which works on a state `σ`, and a highlighter,
which works on a state `τ`. -/
def render (config : Config) (resolver : Option (Macro.Resolver σ ε))
    (highlighter : Highlighter τ δ) (s : Text) (calls : σ) (blocks : τ) : Rendered × σ × τ :=
  match Markdown.convert config s with
  | (.error e, st) => (.failure s e.message st.warnings, calls, blocks)
  | (.ok markup, st) =>
    let ((markup, reported), calls) := Macro.expand resolver markup calls
    let warnings := st.warnings ++ reported
    match highlightStage config highlighter markup blocks with
    | (.error message, blocks) => (.failure s message warnings, calls, blocks)
    | (.ok html, blocks) => ({ html, warnings, headings := st.headings }, calls, blocks)

instance : Cause Empty := ⟨Empty.elim⟩

/-- Render a document with the macros of its configuration and plain code. -/
def renderPlain (config : Config) (s : Text) : Rendered :=
  let resolver : Macro.Resolver Unit Template.Error :=
    (Macro.Registry.ofTemplates config.macros).resolver
  (render config (some resolver) (.plain : Highlighter Unit Empty) s () ()).1

end WikiText
