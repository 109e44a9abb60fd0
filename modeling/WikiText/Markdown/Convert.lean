import WikiText.Config.Basic
import WikiText.Markdown.Fence
import WikiText.Markdown.HeadingIds
import WikiText.Markdown.Inline.Tree
import WikiText.Markdown.Layout
import WikiText.Markdown.RawHtml
import WikiText.Markdown.Source
import WikiText.Toc.Token

/-! # From source text to markup

What must not be read as text is put aside first: fenced code, then placeholders of tables of
contents, then raw blocks. The rest is read into a tree of blocks, then the text in them, and the
tree is written out.
-/

namespace WikiText.Markdown

open Html

/-- How a document is read and written. -/
structure Options where
  blocks : BlockOptions
  slugSeparator : Text
  tocClass : Text

/-- The extensions that exist. -/
def extensionNames : List Text := ([
  "abbr", "admonition", "attr_list", "codehilite", "def_list", "extra", "fenced_code", "footnotes",
  "legacy_attrs", "legacy_em", "md_in_html", "meta", "nl2br", "sane_lists", "smarty", "tables",
  "toc", "wikilinks"] : List String).map (·.toList)

/-- An extension's name without what may stand before it. -/
private def shortName (name : Text) : Text :=
  (Text.strip? "markdown.extensions.".toList name).getD name

/-- What is looked for first when an extension is unknown. -/
private def firstPart (name : Text) : Text := name.takeWhile fun c => c ≠ '.' && c ≠ ':'

private def checkExtensions : List Text → Except Failure Unit
  | [] => .ok ()
  | name :: names =>
    if extensionNames.elem (shortName name) then checkExtensions names
    else .error (.unknownExtension (firstPart name))

/-- The options that a configuration asks for. -/
def Options.ofConfig (config : Config) : Except Failure Options := do
  checkExtensions config.extensions
  let has (name : String) : Bool := config.extensions.any fun n => shortName n = name.toList
  return ⟨⟨has "tables", has "sane_lists"⟩, config.slugSeparator, config.tocClass⟩

/-! ## Reading -/

/-- A document read into a tree, with what it defines and what was put aside. -/
structure Parsed where
  root : Element
  definitions : Definitions
  stash : Stash
  placeholders : List Text

/-- Read the blocks of a source text. -/
def parse (opts : Options) (s : Text) : Except Failure Parsed := do
  let (lines, stash) := stashFences (sourceLines s) {}
  let recorded := Toc.record lines stash
  let (text, stash) := stashRawBlocks (Text.unlines recorded.lines) recorded.stash
  let (root, definitions) := (parseText opts.blocks (.ofTag "div") text).run {}
  let (root, definitions) ← Footnotes.add opts.blocks root definitions
  return ⟨root, definitions, stash, recorded.placeholders⟩

/-- The state in which the text of a document is read. -/
def Definitions.renderState (defs : Definitions) : RenderState :=
  let links := defs.references.entries.map fun (id, target) => (Text.lower id, target)
  let titled := links.filterMap fun (id, _, title) =>
    (title.filter (!·.isEmpty)).map fun title => (id, title)
  { urls := .ofList (links.map fun (id, url, _) => (id, url))
    titles := .ofList titled
    footnotes := defs.footnotes }

/-- The characters that a backslash escapes. -/
def escapable (opts : Options) : Text :=
  "\\\x60*_\x7b\x7d[]()>#+-.!".toList ++ if opts.blocks.tables then ['|'] else []

/-- Read the text in the blocks of a document. -/
def Parsed.readText (opts : Options) (p : Parsed) : Element × InlineState :=
  let ctx : InlineContext := ⟨p.definitions.references, escapable opts⟩
  (readInline ctx p.root).run { stash := p.stash, render := p.definitions.renderState }

/-- Order the footnotes, set the line ends and give the headings their identifiers, once the text of
a document is read. -/
def complete (opts : Options) (defs : Definitions) (st : InlineState) (root : Element) :
    Except Failure (Element × List Heading) := do
  let root ← Footnotes.reorder defs st.render.found root
  identifyHeadings opts.slugSeparator st.stash (layOut root)

/-! ## Writing -/

/-- A text with its escaped characters written as themselves, unless it is code. -/
def unescapeText (e : Element) : Element :=
  let data := if e.hasTag "code" then e.data else ⟨Node.unescape e.data.text, e.data.final⟩
  .mk e.tag (e.attributes.map fun (name, value) => (name, Node.unescape value)) data e.children
    ⟨Node.unescape e.tail.text, e.tail.final⟩

/-- The markup in a root element. -/
def writeInside (root : Element) : Text :=
  let written := (root.withTail .empty).markup .closed
  let inner := (Text.strip? "<div>".toList written).getD written
  Text.trim (inner.take (inner.length - "</div>".length))

/-- The markup of a complete document, but for its tables of contents. -/
def writeTree (stash : Stash) (root : Element) : Text :=
  let markup := restoreBlocks stash (writeInside (root.map unescapeText))
  finishAmpersands (finishFootnotes markup)

/-- Read the text of a document and write the document out. -/
def Parsed.write (opts : Options) (p : Parsed) : Except Failure Text × RenderState :=
  let (root, st) := p.readText opts
  match complete opts p.definitions st root with
  | .error e => (.error e, st.render)
  | .ok (root, headings) =>
    let (markup, reported) :=
      Toc.restore ⟨headings, opts.tocClass⟩ p.placeholders (writeTree st.stash root)
    (.ok (Text.trim markup),
      { st.render with headings, warnings := st.render.warnings ++ reported })

/-- The markup of a source text, or the cause for which there is none, with the state of the render
as far as it went. -/
def convert (config : Config) (s : Text) : Except Failure Text × RenderState :=
  match Options.ofConfig config with
  | .error e => (.error e, {})
  | .ok opts =>
    if Text.allBlank s then (.ok [], {})
    else match parse opts s with
      | .error e => (.error e, {})
      | .ok p => p.write opts

end WikiText.Markdown
