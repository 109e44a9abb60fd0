import WikiText.Heading
import WikiText.Html.Escape
import WikiText.Html.Tags

/-! # Pages of their own

A rendered document becomes a page with a title and a stylesheet. Only the title is escaped: the
stylesheet and the document are markup already.
-/

namespace WikiText.Page

/-- The title of a page that has none. -/
def defaultTitle : Text := "Document".toList

private def nonEmpty (s : Text) : Option Text := if s.isEmpty then none else some s

/-- The title given, else the text of the first heading, else the default. -/
def title (given : Option Text) (headings : List Heading) : Text :=
  let first := headings.head?.bind fun h => nonEmpty (Html.visibleText h.content)
  ((given.bind nonEmpty).or first).getD defaultTitle

/-- What stands before the title. -/
def beforeTitle : Text := "<!DOCTYPE html>
<html lang=\"en\">
<head>
  <meta charset=\"utf-8\">
  <meta name=\"viewport\" content=\"width=device-width, initial-scale=1\">
  <meta name=\"generator\" content=\"mdextra\">
  <title>".toList

/-- What stands between the title and the stylesheet. -/
def afterTitle : Text := "</title>
  <style>
".toList

private def indentRule (level : Nat) : Text :=
  "    .toc .heading".toList ++ Text.ofNat level ++ " \x7b padding-left: ".toList ++
    Text.ofNat (level - 1) ++ "em; \x7d\n".toList

/-- What stands between the stylesheet and the document: rules for tables of contents and
notices. -/
def afterStylesheet : Text := "
    .toc \x7b border: 1px solid #ddd; padding: 0.5em 1em; \x7d
    .toc.right \x7b float: right; margin-left: 1em; \x7d
    .toc.left \x7b float: left; margin-right: 1em; \x7d
    .toc ul \x7b list-style: none; margin: 0; padding: 0; \x7d
".toList ++ [2, 3, 4, 5, 6].flatMap indentRule ++
  "    .flash.error \x7b color: #a00; border: 1px solid #a00; padding: 0.5em; \x7d
  </style>
</head>
<body>
<main>
".toList

/-- What stands after the document. -/
def afterBody : Text := "
</main>
</body>
</html>
".toList

/-- A page with a title, a stylesheet and a document. -/
def standalone (title stylesheet body : Text) : Text :=
  beforeTitle ++ Html.escape .numbered title ++ afterTitle ++ stylesheet ++ afterStylesheet ++
    body ++ afterBody

end WikiText.Page
