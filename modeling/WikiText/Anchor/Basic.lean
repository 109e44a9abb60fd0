import WikiText.Anchor.Brackets

/-! # Anchors -/

namespace WikiText

/-- What a resolved span is: a reference to a footnote, with the target, the visible label and the
identifier of the reference itself; or a link, with its id if it has one, its target and its
title. -/
inductive AnchorTarget where
  | footnote (href label refId : Option Text)
  | link (id href title : Option Text)
deriving DecidableEq, Repr

/-- A resolved span, and the index just past the source that it takes, its second part included. -/
structure Anchor where
  span : Span
  stop : Nat
  target : AnchorTarget
deriving DecidableEq, Repr

end WikiText
