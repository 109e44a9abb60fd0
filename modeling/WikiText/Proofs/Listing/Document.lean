import Mathlib.Data.List.Infix
import WikiText.Markdown.Block.Indent
import WikiText.Markdown.Fence
import WikiText.Proofs.Prose.Document
import WikiText.Toc.Expand

/-!
# Documents of code and placeholders

A document of paragraphs of plain words, fenced code, indented code and placeholders of tables of
contents, with empty lines between these parts.  Nothing is said of the lines of code but that they
are code: they may look like placeholders.  What is to become of each part can be read off it alone
(`Part.markup`, `Part.warnings`).
-/

namespace WikiText.Listing

open Markdown (Fence)

/-! ## Indented code -/

/-- A line of indented code as it stands in the source.  An empty line stays empty. -/
def indent (l : Text) : Text := if l = [] then [] else Markdown.indentation 1 ++ l

/-- Lines that stand in the source as one block of indented code.  White space before an empty line
is no part of the code, and a reference by number would be completed. -/
structure IsCode (code : List Text) : Prop where
  ne_nil : code ≠ []
  first : code.head? ≠ some []
  last : code.getLast? ≠ some []
  ends : (code ++ [[]]).IsChain fun l m => m = [] → Text.trimEnd l = l
  references : ∀ l ∈ code, ¬ "&#".toList <:+: l

instance (code : List Text) : Decidable (IsCode code) :=
  decidable_of_iff (code ≠ [] ∧ code.head? ≠ some [] ∧ code.getLast? ≠ some [] ∧
      ((code ++ [[]]).IsChain fun l m => m = [] → Text.trimEnd l = l) ∧
      ∀ l ∈ code, ¬ "&#".toList <:+: l)
    ⟨fun h => ⟨h.1, h.2.1, h.2.2.1, h.2.2.2.1, h.2.2.2.2⟩,
      fun h => ⟨h.1, h.2, h.3, h.4, h.5⟩⟩

/-! ## Parts -/

/-- A part of a document: words in a line, lines of code between two lines of the same fence or
behind four spaces, or a placeholder. -/
inductive Part where
  | paragraph (words : List Text)
  | fenced (marks language : Text) (code : List Text)
  | indented (code : List Text)
  | placeholder (line : Text)
deriving DecidableEq, Repr

namespace Part

/-- The lines of a part in the source. -/
def lines : Part → List Text
  | .paragraph words => [Prose.line (words.map .word)]
  | .fenced marks language code => (marks ++ language) :: code ++ [marks]
  | .indented code => code.map indent
  | .placeholder line => [line]

def IsSound : Part → Prop
  | .paragraph words => words ≠ [] ∧ ∀ w ∈ words, Text.IsPlain w
  | .fenced marks language code =>
    Fence.ofLine? (marks ++ language) = some { marks, language } ∧
      ∀ l ∈ code, ({ marks, language } : Fence).closes l = false
  | .indented code => IsCode code
  | .placeholder line => Toc.isPlaceholder line = true

instance : (p : Part) → Decidable p.IsSound
  | .paragraph _ => inferInstanceAs (Decidable (_ ∧ _))
  | .fenced _ _ _ => inferInstanceAs (Decidable (_ ∧ _))
  | .indented code => inferInstanceAs (Decidable (IsCode code))
  | .placeholder _ => inferInstanceAs (Decidable (_ = _))

def isIndented : Part → Bool
  | .indented _ => true
  | _ => false

/-- What is to become of a part. -/
def markup (src : Toc.Source) : Part → Text
  | .paragraph words => "<p>".toList ++ Prose.line (words.map .word) ++ "</p>".toList
  | .fenced marks language code => ({ marks, language } : Fence).markup code
  | .indented code =>
    "<pre><code>".toList ++ Html.escape .plain (code.flatMap (· ++ ['\n'])) ++
      "</code></pre>".toList
  | .placeholder line => (Toc.expandLine src line).1

/-- What is to be reported of a part. -/
def warnings (src : Toc.Source) : Part → List Warning
  | .placeholder line => (Toc.expandLine src line).2
  | _ => []

end Part

/-! ## Documents -/

/-- Parts of which no two that stand side by side are indented code, for that would be one part. -/
structure Document where
  parts : List Part
  isSound : ∀ p ∈ parts, p.IsSound
  apart : parts.IsChain fun p q => p.isIndented = false ∨ q.isIndented = false

namespace Document

variable (doc : Document) (cssClass : Text)

/-- What is to become of the document: what is to become of its parts, line by line. -/
def html : Text := Text.trim (Text.unlines (doc.parts.map (Part.markup ⟨[], cssClass⟩)))

def warnings : List Warning := doc.parts.flatMap (Part.warnings ⟨[], cssClass⟩)

end Document

/-- The lines are those of some parts, with an empty line behind each and more of them anywhere
between the parts. -/
inductive Spaced {α : Type} (linesOf : α → List Text) : List Text → List α → Prop
  | nil : Spaced linesOf [[]] []
  | gap {ls : List Text} {as : List α} : Spaced linesOf ls as → Spaced linesOf ([] :: ls) as
  | cons (a : α) {ls : List Text} {as : List α} :
      Spaced linesOf ls as → Spaced linesOf (linesOf a ++ [] :: ls) (a :: as)

end WikiText.Listing
