import WikiText.Anchor.Basic
import WikiText.Anchor.SecondPart
import WikiText.RenderState
import WikiText.Text.Lower

/-! # Resolving brackets

A span is a footnote reference, a reference link, an inline link or plain text, in this order.
-/

namespace WikiText

/-- The footnote id that a span names after a caret. -/
def Span.footnoteId? (span : Span) : Option Text :=
  match span.text with
  | '^' :: c :: id => some (c :: id)
  | _ => none

namespace Anchor

/-- The element identifier of a footnote. -/
def footnoteElementId (id : Text) : Text := "footnote:".toList ++ id

/-- The element identifier of the first reference to a footnote. -/
def footnoteReferenceId (id : Text) : Text := "footnote-ref:".toList ++ id

/-- The label of a footnote. -/
def footnoteLabel (n : Nat) : Text := '[' :: Text.ofNat n ++ [']']

/-- The label of a footnote that is not defined. -/
def missingLabel : Text := "[?]".toList

def resolveFootnote (span : Span) (id : Text) (st : RenderState) : Anchor × RenderState :=
  if st.footnotes.contains id then
    let isFirst := !st.found.elem id
    let (n, st) := st.footnoteNumber id
    (⟨span, span.stop, .footnote (some ('#' :: footnoteElementId id)) (some (footnoteLabel n))
      (if isFirst then some (footnoteReferenceId id) else none)⟩, st)
  else
    (⟨span, span.stop, .footnote none (some missingLabel) none⟩, st.warn (.undefinedFootnote id))

def resolveReference (span : Span) (id : Text) (stop : Nat) (st : RenderState) :
    Option Anchor × RenderState :=
  let key := Text.lower (if id.isEmpty then span.text else id)
  match st.urls.get? key with
  | some url => (some ⟨span, stop, .link (some key) (some url) (st.titles.get? key)⟩, st)
  | none => (none, st.warn (.linkIdNotFound key))

def inlineAnchor (unescape : Text → Text) (span : Span) (part : InlinePart) (stop : Nat) :
    Anchor :=
  let url := unescape part.url
  let url := if url = ['#'] then '#' :: unescape span.text else url
  let title := part.title.map fun t =>
    (unescape t).flatMap fun c => if c = '"' then "&quot;".toList else [c]
  ⟨span, stop, .link none (some url) title⟩

/-- Resolve the bracket at `start`. No anchor means that the source stays as it is. Targets and
titles of inline links go through `unescape`. -/
def resolve (unescape : Text → Text) (b : Brackets) (start : Nat) (st : RenderState) :
    Option Anchor × Brackets × RenderState :=
  match b.span? start with
  | (none, b) => (none, b, st)
  | (some span, b) =>
    match span.footnoteId? with
    | some id =>
      let (anchor, st) := resolveFootnote span id st
      (some anchor, b, st)
    | none =>
      let after := b.text.drop span.stop
      let stopAt (rest : Text) := span.stop + (after.length - rest.length)
      match referencePart? after with
      | some (id, rest) =>
        let (anchor, st) := resolveReference span id (stopAt rest) st
        (anchor, b, st)
      | none =>
        match inlinePart? after with
        | some part => (some (inlineAnchor unescape span part (stopAt part.rest)), b, st)
        | none => (none, b, st)

/-- The index of the first opening bracket in `s`, which begins at index `i`. -/
def nextBracket? (i : Nat) : Text → Option Nat
  | [] => none
  | c :: s => if c = '[' then some i else nextBracket? (i + 1) s

/-- Resolve the brackets from index `i` on, from left to right: an anchor is passed over whole, of
any other bracket only the bracket. Each step moves on, so `fuel` is the text's length. -/
def resolveFrom (unescape : Text → Text) (b : Brackets) (st : RenderState) :
    (fuel i : Nat) → List Anchor × RenderState
  | 0, _ => ([], st)
  | fuel + 1, i =>
    match nextBracket? i (b.text.drop i) with
    | none => ([], st)
    | some start =>
      match resolve unescape b start st with
      | (some anchor, b, st) =>
        let (anchors, st) := resolveFrom unescape b st fuel anchor.stop
        (anchor :: anchors, st)
      | (none, b, st) => resolveFrom unescape b st fuel (start + 1)

/-- The anchors of a text, from left to right. -/
def resolveEach (unescape : Text → Text) (s : Text) (st : RenderState) :
    List Anchor × RenderState :=
  resolveFrom unescape (.ofText s) st s.length 0

/-- The anchors of a text in which nothing is escaped. -/
def resolveAll (s : Text) (st : RenderState) : List Anchor × RenderState := resolveEach id s st

end Anchor

end WikiText
