import WikiText.Heading
import WikiText.Html.Tags
import WikiText.Markdown.Finish
import WikiText.Markdown.Slug

/-! # Identifiers of headings -/

namespace WikiText.Markdown

open Html

/-- The level of a heading's element. -/
def headingLevel? (e : Element) : Option Nat :=
  (["h1", "h2", "h3", "h4", "h5", "h6"].idxOf? (String.ofList e.tag)).map (· + 1)

/-- The markup between the first tag of a text and the last one. -/
private def betweenTags (s : Text) : Text :=
  ((s.dropWhile (· ≠ '>')).tail.reverse.dropWhile (· ≠ '<')).tail.reverse

/-- The markup inside an element as it will be once it is finished. -/
def innerMarkup (stash : Stash) (e : Element) : Text :=
  let inner := Text.trim (betweenTags (Node.unescape (e.markup .closed)))
  finishAmpersands (finishFootnotes (restoreBlocks stash inner))

/-- What is known while identifiers are given: those in use, and the headings so far. -/
structure Progress where
  used : List Text
  headings : List Heading := []

/-- Give a heading an identifier made of its visible words. -/
def identify (separator : Text) (stash : Stash) (e : Element) :
    StateT Progress (Except Failure) Element := do
  match headingLevel? e with
  | none => return e
  | some level =>
    let content := innerMarkup stash e
    let slug ← Slug.ofWords separator (visibleText content)
    let progress ← get
    let id := Slug.unique progress.used slug
    set (Progress.mk (id :: progress.used)
      (progress.headings ++ [⟨level, Node.unescape id, content⟩]))
    return e.set "id" id

/-- Give every heading an identifier of its own: the document and its headings. -/
def identifyHeadings (separator : Text) (stash : Stash) (root : Element) :
    Except Failure (Element × List Heading) := do
  let used := root.elements.filterMap (·.attribute? "id")
  let (root, progress) ← (root.mapM (identify separator stash)).run ⟨used, []⟩
  return (root, progress.headings)

end WikiText.Markdown
