import WikiText.Anchor.Basic
import WikiText.Anchor.Brackets
import WikiText.Anchor.Markup
import WikiText.Anchor.Resolve
import WikiText.Anchor.SecondPart
import WikiText.Cli.Command
import WikiText.Cli.Files
import WikiText.Cli.Path
import WikiText.Cli.Run
import WikiText.Code.Block
import WikiText.Code.Highlight
import WikiText.Code.PlainText
import WikiText.Code.Stylesheet
import WikiText.Config.Basic
import WikiText.Config.Build
import WikiText.Config.Load
import WikiText.Config.Value
import WikiText.Dictionary
import WikiText.Heading
import WikiText.Html.Element
import WikiText.Html.Escape
import WikiText.Html.NameTable
import WikiText.Html.Reference
import WikiText.Html.ReferenceTable
import WikiText.Html.Tags
import WikiText.Html.Traverse
import WikiText.Macro.Expand
import WikiText.Macro.Registry
import WikiText.Macro.Token
import WikiText.Main
import WikiText.Markdown.AttributeList
import WikiText.Markdown.Block.Definition
import WikiText.Markdown.Block.Indent
import WikiText.Markdown.Block.Parse
import WikiText.Markdown.Block.Shape
import WikiText.Markdown.Block.Table
import WikiText.Markdown.Convert
import WikiText.Markdown.Failure
import WikiText.Markdown.Fence
import WikiText.Markdown.Finish
import WikiText.Markdown.Footnotes
import WikiText.Markdown.HeadingIds
import WikiText.Markdown.Inline.Emphasis
import WikiText.Markdown.Inline.LinkPart
import WikiText.Markdown.Inline.Node
import WikiText.Markdown.Inline.Piece
import WikiText.Markdown.Inline.Rule
import WikiText.Markdown.Inline.Tree
import WikiText.Markdown.Layout
import WikiText.Markdown.RawHtml
import WikiText.Markdown.Separator
import WikiText.Markdown.Slug
import WikiText.Markdown.Source
import WikiText.Markdown.StartTag
import WikiText.Markdown.Tag
import WikiText.Number.Binary64
import WikiText.Page.Fallback
import WikiText.Page.Standalone
import WikiText.Proofs.Anchor.Destination
import WikiText.Proofs.Anchor.LeftToRight
import WikiText.Proofs.Anchor.Numbering
import WikiText.Proofs.Anchor.Outcome
import WikiText.Proofs.Anchor.SecondPart
import WikiText.Proofs.Anchor.Written
import WikiText.Proofs.Brackets.Balance
import WikiText.Proofs.Brackets.Search
import WikiText.Proofs.Code.Region
import WikiText.Proofs.Code.Unclassed
import WikiText.Proofs.Code.Written
import WikiText.Proofs.Html.Escape
import WikiText.Proofs.Macro.Cut
import WikiText.Proofs.Macro.Expansion
import WikiText.Proofs.Text.Framed
import WikiText.Proofs.Text.Pieces
import WikiText.Proofs.Text.Search
import WikiText.Proofs.Toc.Expansion
import WikiText.Proofs.Toc.Line
import WikiText.Proofs.Toc.Marker
import WikiText.Proofs.Toc.Stashed
import WikiText.Render
import WikiText.RenderState
import WikiText.Stash
import WikiText.Template.Error
import WikiText.Template.Field
import WikiText.Template.Fill
import WikiText.Template.Lookup
import WikiText.Template.Spec
import WikiText.Text.Basic
import WikiText.Text.Blank
import WikiText.Text.CodePoints
import WikiText.Text.Digit
import WikiText.Text.DigitTable
import WikiText.Text.Latin
import WikiText.Text.LatinTable
import WikiText.Text.LineEnds
import WikiText.Text.Lower
import WikiText.Text.LowerTable
import WikiText.Text.PrintableTable
import WikiText.Text.Quoted
import WikiText.Text.Reader
import WikiText.Text.Utf8
import WikiText.Text.Word
import WikiText.Text.WordTable
import WikiText.Toc.Expand
import WikiText.Toc.Label
import WikiText.Toc.Placeholder
import WikiText.Toc.Request
import WikiText.Toc.Token
import WikiText.Warning
import WikiText.Yaml.Construct
import WikiText.Yaml.Cursor
import WikiText.Yaml.Kind
import WikiText.Yaml.Lexer
import WikiText.Yaml.Node
import WikiText.Yaml.Scalar
import WikiText.Yaml.Timestamp
import WikiText.Yaml.Token
import WikiText.Proofs.Anchor.Locality
import WikiText.Proofs.Render.Failure
import WikiText.Proofs.Markdown.Blocks
import WikiText.Proofs.Markdown.Pieces
import WikiText.Proofs.Markdown.Reading
import WikiText.Proofs.Markdown.Frame
import WikiText.Proofs.Markdown.FootnoteOrder
import WikiText.Proofs.Markdown.FootnoteList
import WikiText.Proofs.Render.Footnotes
import WikiText.Proofs.Text.Lower
import WikiText.Proofs.Text.Blank
import WikiText.Proofs.Returns
import WikiText.Proofs.Dictionary
import WikiText.Proofs.Config.Normal
import WikiText.Proofs.Config.Sections
import WikiText.Proofs.Cli.Delivery
import WikiText.Proofs.Markdown.Backlinks
import WikiText.Proofs.Render.Backlinks
import WikiText.Proofs.Html.Every
import WikiText.Proofs.Text.Letters
import WikiText.Proofs.Markdown.Settled
import WikiText.Proofs.Markdown.Quiet
import WikiText.Proofs.Markdown.Inert
import WikiText.Proofs.Markdown.Lines
import WikiText.Proofs.Prose.Document
import WikiText.Proofs.Prose.Links
import WikiText.Proofs.Prose.Anchors
import WikiText.Proofs.Prose.Blocks
import WikiText.Proofs.Prose.Footnotes
import WikiText.Proofs.Prose.Warnings
import WikiText.Proofs.Anchor.Parentheses
import WikiText.Proofs.Anchor.Reports
import WikiText.Proofs.Toc.Label
import WikiText.Proofs.Listing.Document
import WikiText.Proofs.Listing.Aside
import WikiText.Proofs.Listing.Boxes
import WikiText.Proofs.Listing.Parse
import WikiText.Proofs.Listing.Tree
import WikiText.Proofs.Listing.Restored
import WikiText.Proofs.Listing.Convert
import WikiText.Proofs.Listing.Rendered
import WikiText.Proofs.Toc.Spaces
import WikiText.Proofs.Toc.Levels
import WikiText.Proofs.Toc.Fragments
import WikiText.Proofs.Toc.Removals
import WikiText.Proofs.Macro.Literal
import WikiText.Proofs.Macro.Written
import WikiText.Proofs.Anchor.Markup
import WikiText.Proofs.Code.Idempotence
import WikiText.Proofs.Brackets.Nesting
import WikiText.Proofs.Anchor.Effects
import WikiText.Proofs.Cli.Printed
import WikiText.Proofs.Page.Fallback
import WikiText.Proofs.Page.Standalone
import WikiText.Proofs.Macro.Registered
import WikiText.Proofs.Template.Written
import WikiText.Proofs.Macro.Templates
import WikiText.Proofs.Markdown.Fence
import WikiText.Proofs.Listing.Tagged
import WikiText.Proofs.Macro.Wrapped
import WikiText.Proofs.Listing.Found
import WikiText.Proofs.Listing.Highlighted
import WikiText.Proofs.Markdown.Written
import WikiText.Proofs.Prose.Listed
import WikiText.Proofs.Prose.Rendered
import WikiText.Proofs.Prose.Sentence
