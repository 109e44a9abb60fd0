import WikiText.Text.Lower

/-! # Block-level tags -/

namespace WikiText.Markdown

/-- The elements that stand in place of a paragraph. -/
def blockTags : List Text := ([
  "address", "article", "aside", "blockquote", "details", "div", "dl", "fieldset", "figcaption",
  "figure", "footer", "form", "h1", "h2", "h3", "h4", "h5", "h6", "header", "hgroup", "hr", "main",
  "menu", "nav", "ol", "p", "pre", "section", "table", "ul", "canvas", "colgroup", "dd", "body",
  "dt", "group", "html", "iframe", "li", "legend", "math", "map", "noscript", "output", "object",
  "option", "progress", "script", "style", "summary", "tbody", "td", "textarea", "tfoot", "th",
  "thead", "tr", "video", "center"] : List String).map (·.toList)

/-- Whether a tag is of block level, in either case and with or without a slash at its end. -/
def isBlockTag (tag : Text) : Bool :=
  blockTags.elem (Text.dropEndWhile (· = '/') (Text.lower tag))

end WikiText.Markdown
