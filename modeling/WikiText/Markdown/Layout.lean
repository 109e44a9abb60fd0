import WikiText.Html.Traverse
import WikiText.Markdown.Tag
import WikiText.Text.Blank

/-! # Line ends between blocks

Each block begins a line, and so does what follows a break. Code ends with one line end.
-/

namespace WikiText.Markdown

open Html

def lineEnd : Data := ⟨['\n'], false⟩

mutual

def layOutBlocks : Element → Element
  | .mk tag attributes data children tail =>
    let tail := if Text.allBlank tail.text then lineEnd else tail
    if isBlockTag tag && tag ≠ "pre".toList then
      let beginsWithBlock := children.head?.any fun c => isBlockTag c.tag
      let data := if Text.allBlank data.text && beginsWithBlock then lineEnd else data
      .mk tag attributes data (layOutEach children) tail
    else .mk tag attributes data children tail

def layOutEach : List Element → List Element
  | [] => []
  | e :: es => (if isBlockTag e.tag then layOutBlocks e else e) :: layOutEach es

end

def layOutBreak (e : Element) : Element :=
  if e.hasTag "br" then
    e.withTailText ('\n' :: (if Text.allBlank e.tail.text then [] else e.tail.text))
  else e

def layOutCode (e : Element) : Element :=
  match e.children with
  | code :: rest =>
    if e.hasTag "pre" && code.hasTag "code" && code.children.isEmpty then
      e.withChildren (code.withData ⟨Text.trimEnd code.data.text ++ ['\n'], true⟩ :: rest)
    else e
  | [] => e

/-- Set the line ends in a document. -/
def layOut (root : Element) : Element :=
  (layOutBlocks root).map fun e => layOutCode (layOutBreak e)

end WikiText.Markdown
