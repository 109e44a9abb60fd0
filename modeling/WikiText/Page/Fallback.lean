import WikiText.Html.Escape

/-! # The page shown when rendering fails -/

namespace WikiText.Page

/-- The message of a failure and the text that could not be rendered, both escaped. -/
def fallback (text message : Text) : Text :=
  "<pre>problem parsing wiki text: ".toList ++ Html.escape .plain message ++
    "\noriginal text: \n".toList ++ Html.escape .plain text ++ "</pre>".toList

end WikiText.Page
