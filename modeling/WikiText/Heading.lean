import WikiText.Text.Basic

/-! # Headings -/

namespace WikiText

/-- A heading of a rendered document: its level, the identifier of its element, and the markup
inside it. -/
structure Heading where
  level : Int
  id : Text
  content : Text
deriving DecidableEq, Repr, Inhabited

/-- A heading with the headings below it. -/
inductive Outline where
  | mk (heading : Heading) (below : List Outline)
deriving Inhabited

mutual

/-- The headings of an outline in document order. -/
def Outline.headings : Outline → List Heading
  | .mk h below => h :: Outline.headingsOf below

def Outline.headingsOf : List Outline → List Heading
  | [] => []
  | o :: os => o.headings ++ Outline.headingsOf os

end

end WikiText
