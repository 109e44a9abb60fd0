import WikiText.Heading
import WikiText.Toc.Label
import WikiText.Toc.Request

/-! # Tables of contents in place of placeholders

A line can be expanded alone, or all placeholders of a text in one pass over it.
-/

namespace WikiText.Toc

/-- What a table is made from: the headings of the document, and the class of the container. -/
structure Source where
  headings : List Heading
  cssClass : Text := "toc".toList

/-- The list item for a heading. -/
def item (h : Heading) : Text :=
  "<li class=\"heading".toList ++ Text.ofInt h.level ++ "\"><a href=\"#".toList ++ h.id ++
    "\">".toList ++ label h.content ++ "</a></li>\n".toList

/-- The classes of the container. -/
def classes (cssClass : Text) : Option Side → Text
  | none => cssClass
  | some .left => cssClass ++ " left".toList
  | some .right => cssClass ++ " right".toList

/-- A document whose first heading lies below the first level asked for is reported. -/
def structureWarnings (headings : List Heading) (r : Request) : List Warning :=
  match headings with
  | [] => []
  | h :: _ => if h.level ≥ r.first + 1 then [.illegalHeadingStructure r.first h.level] else []

/-- The container with an item for each heading asked for. -/
def render (src : Source) (r : Request) : Text × List Warning :=
  let items := (src.headings.filter fun h => r.includes h.level).flatMap item
  ("\n\n<div class=\"".toList ++ classes src.cssClass r.side ++ "\"><ul>".toList ++ items ++
    "</ul></div>\n\n".toList, structureWarnings src.headings r)

/-- The table that a placeholder asks for. -/
def ofPlaceholder (src : Source) (p : Placeholder) : Text × List Warning :=
  let (request, reported) := Request.ofParameter p.side p.parameter
  let (table, more) := render src request
  (table, reported ++ more)

/-- Expand a line if it is a placeholder. -/
def expandLine (src : Source) (line : Text) : Text × List Warning :=
  match Placeholder.ofLine? line with
  | some p => ofPlaceholder src p
  | none => (line, [])

/-- Expand every placeholder of a text. -/
def expand (src : Source) (s : Text) : Text × List Warning :=
  let pieces := Placeholder.reader.pieces true s
  (Text.Piece.fill (fun p => (ofPlaceholder src p).1) pieces,
    (Text.Piece.parts pieces).flatMap fun p => (ofPlaceholder src p).2)

end WikiText.Toc
