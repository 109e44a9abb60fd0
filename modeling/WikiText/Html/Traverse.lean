import WikiText.Html.Element

/-! # Steps applied throughout a tree of elements -/

namespace WikiText.Html.Element

mutual

/-- Apply a step to every element of a tree. An element comes after its children. -/
def mapM {m : Type → Type} [Monad m] (f : Element → m Element) : Element → m Element
  | .mk tag attributes data children tail => do
    f (.mk tag attributes data (← mapListM f children) tail)

def mapListM {m : Type → Type} [Monad m] (f : Element → m Element) :
    List Element → m (List Element)
  | [] => pure []
  | e :: es => do
    let e ← mapM f e
    return e :: (← mapListM f es)

end

/-- Apply a function to every element of a tree. -/
def map (f : Element → Element) (e : Element) : Element := Id.run (mapM (fun e => pure (f e)) e)

mutual

/-- The elements of a tree in document order. -/
def elements : Element → List Element
  | .mk tag attributes data children tail =>
    .mk tag attributes data children tail :: elementsOf children

def elementsOf : List Element → List Element
  | [] => []
  | e :: es => elements e ++ elementsOf es

end

end WikiText.Html.Element
