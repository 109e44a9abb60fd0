import WikiText.Proofs.Anchor.Written
import WikiText.Proofs.Text.Letters

/-!
# Documents of plain words

A document with one paragraph, in which links stand among plain words, and with the definitions of
footnotes and reference links in blocks before and after the paragraph.  What is to be reported of
it can be read off its words: a warning for each link that refers to nothing (`Document.warnings`).
-/

namespace WikiText

open Text (IsLetter)

/-- A link made of plain words, without a gap and without a title. -/
def Written.IsPlain : Written → Prop
  | .footnote id => Text.IsPlain id
  | .reference t gap id => Text.IsPlain t ∧ gap = [] ∧ Text.IsPlain id
  | .inline t url => Text.IsPlain t ∧ Text.IsPlain url
  | .titled _ _ _ _ _ _ => False

instance : (l : Written) → Decidable l.IsPlain
  | .footnote _ => inferInstanceAs (Decidable (Text.IsPlain _))
  | .reference _ _ _ => inferInstanceAs (Decidable (_ ∧ _ ∧ _))
  | .inline _ _ => inferInstanceAs (Decidable (_ ∧ _))
  | .titled _ _ _ _ _ _ => .isFalse id

namespace Prose

/-! ## The parts of a document -/

/-- A word, or a link in its place. -/
inductive Token where
  | word (w : Text)
  | link (l : Written)
deriving DecidableEq, Repr

namespace Token

def written : Token → Text
  | .word w => w
  | .link l => l.markup

def IsPlain : Token → Prop
  | .word w => Text.IsPlain w
  | .link l => l.IsPlain

instance : (t : Token) → Decidable t.IsPlain
  | .word _ => inferInstanceAs (Decidable (Text.IsPlain _))
  | .link l => inferInstanceAs (Decidable l.IsPlain)

def link? : Token → Option Written
  | .word _ => none
  | .link l => some l

end Token

/-- Tokens with a space between each two. -/
def line (ts : List Token) : Text := Text.joinWith [' '] (ts.map Token.written)

/-- The definition of a footnote by words, or of a reference link. -/
inductive Definition where
  | footnote (id : Text) (words : List Text)
  | reference (id url : Text)
deriving DecidableEq, Repr

namespace Definition

/-- The words of a footnote in a line. -/
def body (words : List Text) : Text := line (words.map .word)

def written : Definition → Text
  | .footnote id words => '[' :: '^' :: (id ++ ']' :: ':' :: ' ' :: body words)
  | .reference id url => '[' :: (id ++ ']' :: ':' :: ' ' :: url)

def IsPlain : Definition → Prop
  | .footnote id words => Text.IsPlain id ∧ words ≠ [] ∧ ∀ w ∈ words, Text.IsPlain w
  | .reference id url => Text.IsPlain id ∧ Text.IsPlain url

instance : (d : Definition) → Decidable d.IsPlain
  | .footnote _ _ => inferInstanceAs (Decidable (_ ∧ _ ∧ _))
  | .reference _ _ => inferInstanceAs (Decidable (_ ∧ _))

def footnoteId? : Definition → Option Text
  | .footnote id _ => some id
  | .reference _ _ => none

def referenceId? : Definition → Option Text
  | .footnote _ _ => none
  | .reference id _ => some id

end Definition

/-- Definitions of one kind, which stand together. -/
structure IsGroup (ds : List Definition) : Prop where
  ne_nil : ds ≠ []
  isPlain : ∀ d ∈ ds, d.IsPlain
  kind : (∀ d ∈ ds, d.referenceId? = none) ∨ ∀ d ∈ ds, d.footnoteId? = none

instance (ds : List Definition) : Decidable (IsGroup ds) :=
  decidable_of_iff (ds ≠ [] ∧ (∀ d ∈ ds, d.IsPlain) ∧
      ((∀ d ∈ ds, d.referenceId? = none) ∨ ∀ d ∈ ds, d.footnoteId? = none))
    ⟨fun h => ⟨h.1, h.2.1, h.2.2⟩, fun h => ⟨h.1, h.2, h.3⟩⟩

/-- A paragraph of plain words and links, of which no two stand side by side, with groups of
definitions before and after it. -/
structure Document where
  before : List (List Definition)
  tokens : List Token
  after : List (List Definition)
  tokens_ne_nil : tokens ≠ []
  isPlain_tokens : ∀ t ∈ tokens, t.IsPlain
  apart : tokens.IsChain fun t u => t.link? = none ∨ u.link? = none
  isGroup : ∀ ds ∈ before ++ after, IsGroup ds

namespace Document

variable (doc : Document)

/-- The blocks by their lines: each definition stands on a line of its own. -/
def blocks : List (List Text) :=
  doc.before.map (·.map Definition.written) ++
    [line doc.tokens] :: doc.after.map (·.map Definition.written)

/-- The source text, in which an empty line stands between blocks. -/
def text : Text := Text.unlines ([[]].intercalate doc.blocks)

def definitions : List Definition := (doc.before ++ doc.after).flatten

/-- The links from left to right. -/
def links : List Written := doc.tokens.filterMap Token.link?

/-- The ids of the footnotes that are defined. -/
def footnoteIds : List Text := doc.definitions.filterMap Definition.footnoteId?

/-- The ids of the reference links that are defined. -/
def referenceIds : List Text := doc.definitions.filterMap Definition.referenceId?

/-- What is to be reported of a link: a footnote that is not defined, or a reference link that is
not, whose id counts in either case. -/
def warning? : Written → Option Warning
  | .footnote id => if id ∈ doc.footnoteIds then none else some (.undefinedFootnote id)
  | .reference _ _ id =>
    if Text.lower id ∈ doc.referenceIds.map Text.lower then none
    else some (.linkIdNotFound (Text.lower id))
  | .inline _ _ | .titled _ _ _ _ _ _ => none

/-- What is to be reported: one warning for each link that refers to nothing, from left to right. -/
def warnings : List Warning := doc.links.filterMap doc.warning?

end Document

end Prose

end WikiText
