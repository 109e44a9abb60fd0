import WikiText.Cli.Run
import WikiText.Proofs.Returns

/-!
# Where a document is delivered

A render that writes its document to a file and one that prints it do the same in all else: see
`run_render_output`. What a render reads does not depend on where its document goes, and neither
does what it reports.
-/

namespace WikiText.Cli

open Returns (of_pure of_bind)

/-- What a render reads, if it knows its level of logging: its configuration, and the text of its
source. -/
structure Reads (fs : Files) (o : RenderOptions) (config : Config) (s : Text) : Prop where
  level : checkLevel o.logLevel = .ok ()
  config : loadConfig fs o.config = .ok config
  source : sourceText fs o.source = .ok s

/-- The lines about a render: its warnings in order, and then its failure. -/
def reportLines (fs : Files) (source : Path) (r : Rendered) : List Text :=
  (r.warnings.map fun w => "warning: ".toList ++ w.message) ++
    if r.failed = true then ["error: could not render ".toList ++ source.shown fs.directory] else []

/-- The exit status of a render, which tells of warnings and failures if it is asked to. -/
def exitStatus (failOnWarning : Bool) (r : Rendered) : Nat :=
  if failOnWarning = true ∧ (r.warnings ≠ [] ∨ r.failed = true) then 1 else 0

theorem report_eq (fs : Files) (source : Path) (r : Rendered) :
    report fs source r = (reportLines fs source r).flatMap line := by
  rw [report, reportLines, List.flatMap_append, List.flatMap_map]
  cases r.failed <;> simp

theorem status_eq (failOnWarning : Bool) (r : Rendered) :
    (if failOnWarning && !(r.warnings.isEmpty && !r.failed) then 1 else 0) =
      exitStatus failOnWarning r := by
  unfold exitStatus
  congr 1
  cases failOnWarning <;> cases r.failed <;> simp

theorem endLine_eq (s : Text) :
    endLine s = if s.getLast? = some '\n' then s else s ++ ['\n'] := by
  have h : Text.endsWith ['\n'] s = true ↔ s.getLast? = some '\n' := by
    rw [List.getLast?_eq_head?_reverse, Text.endsWith, Text.startsWith, List.reverse_singleton]
    cases s.reverse with
    | nil => simp [Text.strip?]
    | cons c t =>
      rw [Text.strip?, List.head?_cons, Option.some.injEq]
      split
      · next hc => exact iff_of_true (by rw [Text.strip?_nil]; rfl) hc.symm
      · next hc => exact iff_of_false Bool.false_ne_true fun h => hc h.symm
  simp only [endLine, h]

/-- A render gives something if it reads what it needs, there is a document for it, and this can be
delivered. -/
theorem run_render_iff {fs : Files} {o : RenderOptions} {out : Outcome} :
    (Command.render o).run fs = .ok out ↔ ∃ config s d delivered, Reads fs o config s ∧
      document config o.standalone (renderPlain config s) = .ok d ∧
      deliver fs o.output d = .ok delivered ∧
      out = { delivered with
        status := exitStatus o.failOnWarning (renderPlain config s)
        stderr := (reportLines fs o.source (renderPlain config s)).flatMap line } := by
  constructor
  · intro h
    obtain ⟨⟨⟩, hlevel, h⟩ := of_bind (m := Except Failure) h
    obtain ⟨config, hconfig, h⟩ := of_bind (m := Except Failure) h
    obtain ⟨s, hsource, h⟩ := of_bind (m := Except Failure) h
    obtain ⟨d, hd, h⟩ := of_bind (m := Except Failure) h
    obtain ⟨delivered, hdelivered, h⟩ := of_bind (m := Except Failure) h
    refine ⟨config, s, d, delivered, ⟨hlevel, hconfig, hsource⟩, hd, hdelivered, ?_⟩
    rw [← report_eq, ← status_eq]
    exact of_pure h
  · rintro ⟨config, s, d, delivered, hreads, hd, hdelivered, rfl⟩
    rw [← report_eq, ← status_eq]
    simp only [Command.run, runRender, hreads.level, hreads.config, hreads.source, hd, hdelivered,
      bind, Except.bind, pure, Except.pure]

theorem document_cases {config : Config} {standalone : Bool} {r : Rendered} {d : Text}
    (h : document config standalone r = .ok d) :
    (standalone = false ∧ d = endLine r.html) ∨
      standalone = true ∧ ∃ sheet, stylesheet config = .ok sheet ∧
        d = Page.standalone (Page.title none r.headings) sheet r.html := by
  cases standalone with
  | false => exact .inl ⟨rfl, of_pure (m := Except Failure) h⟩
  | true =>
    obtain ⟨sheet, hsheet, h⟩ := of_bind (m := Except Failure) h
    exact .inr ⟨rfl, sheet, hsheet, of_pure (m := Except Failure) h⟩

end WikiText.Cli
