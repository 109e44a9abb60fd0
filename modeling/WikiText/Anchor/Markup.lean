import WikiText.Anchor.Basic
import WikiText.Html.Element

/-! # Anchors as elements -/

namespace WikiText.Anchor

open Html

def present (v : Option Text) : Option Text := v.filter (!·.isEmpty)

def setIf (name : String) (v : Option Text) (e : Element) : Element :=
  match v with
  | some v => e.set name v
  | none => e

/-- A footnote reference is raised and its label is final; a link holds the text of its span. -/
def element (a : Anchor) : Element :=
  match a.target with
  | .footnote href label refId =>
    let link := (setIf "href" (present href) (.ofTag "a")).set "rel" "footnote".toList
    (setIf "id" (present refId) (.ofTag "sup")).push (link.withData ⟨label.getD [], true⟩)
  | .link _ href title =>
    (setIf "title" title ((Element.ofTag "a").set "href" (href.getD []))).withText a.span.text

end WikiText.Anchor
