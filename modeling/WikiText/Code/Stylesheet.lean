import WikiText.Text.Quoted

/-! # Stylesheets of highlighted code -/

namespace WikiText.Code

/-- A style: the colours of a marked line and of a whole block, and for each kind of token its
class, its look and its name. -/
structure Style where
  marked : String
  block : String
  tokens : List (String × String × String)

/-- Light text on a dark ground. -/
def Style.dark : Style where
  marked := "background-color: #49483e"
  block := "background: #272822; color: #F8F8F2"
  tokens := [
    ("c", "color: #959077", "Comment"),
    ("err", "color: #ED007E; background-color: #1E0010", "Error"),
    ("esc", "color: #F8F8F2", "Escape"), ("g", "color: #F8F8F2", "Generic"),
    ("k", "color: #66D9EF", "Keyword"), ("l", "color: #AE81FF", "Literal"),
    ("n", "color: #F8F8F2", "Name"), ("o", "color: #FF4689", "Operator"),
    ("x", "color: #F8F8F2", "Other"), ("p", "color: #F8F8F2", "Punctuation"),
    ("ch", "color: #959077", "Comment.Hashbang"), ("cm", "color: #959077", "Comment.Multiline"),
    ("cp", "color: #959077", "Comment.Preproc"), ("cpf", "color: #959077", "Comment.PreprocFile"),
    ("c1", "color: #959077", "Comment.Single"), ("cs", "color: #959077", "Comment.Special"),
    ("gd", "color: #FF4689", "Generic.Deleted"),
    ("ge", "color: #F8F8F2; font-style: italic", "Generic.Emph"),
    ("ges", "color: #F8F8F2; font-weight: bold; font-style: italic", "Generic.EmphStrong"),
    ("gr", "color: #FF4689", "Generic.Error"), ("gh", "color: #F8F8F2", "Generic.Heading"),
    ("gi", "color: #A6E22E", "Generic.Inserted"), ("go", "color: #66D9EF", "Generic.Output"),
    ("gp", "color: #FF4689; font-weight: bold", "Generic.Prompt"),
    ("gs", "color: #F8F8F2; font-weight: bold", "Generic.Strong"),
    ("gu", "color: #959077", "Generic.Subheading"), ("gt", "color: #66D9EF", "Generic.Traceback"),
    ("kc", "color: #66D9EF", "Keyword.Constant"), ("kd", "color: #66D9EF", "Keyword.Declaration"),
    ("kn", "color: #FF4689", "Keyword.Namespace"), ("kp", "color: #66D9EF", "Keyword.Pseudo"),
    ("kr", "color: #66D9EF", "Keyword.Reserved"), ("kt", "color: #66D9EF", "Keyword.Type"),
    ("ld", "color: #E6DB74", "Literal.Date"), ("m", "color: #AE81FF", "Literal.Number"),
    ("s", "color: #E6DB74", "Literal.String"), ("na", "color: #A6E22E", "Name.Attribute"),
    ("nb", "color: #A6E22E", "Name.Builtin"), ("nc", "color: #A6E22E", "Name.Class"),
    ("no", "color: #66D9EF", "Name.Constant"), ("nd", "color: #A6E22E", "Name.Decorator"),
    ("ni", "color: #F8F8F2", "Name.Entity"), ("ne", "color: #A6E22E", "Name.Exception"),
    ("nf", "color: #A6E22E", "Name.Function"), ("nl", "color: #F8F8F2", "Name.Label"),
    ("nn", "color: #F8F8F2", "Name.Namespace"), ("nx", "color: #A6E22E", "Name.Other"),
    ("py", "color: #F8F8F2", "Name.Property"), ("nt", "color: #FF4689", "Name.Tag"),
    ("nv", "color: #F8F8F2", "Name.Variable"), ("ow", "color: #FF4689", "Operator.Word"),
    ("pm", "color: #F8F8F2", "Punctuation.Marker"), ("w", "color: #F8F8F2", "Text.Whitespace"),
    ("mb", "color: #AE81FF", "Literal.Number.Bin"),
    ("mf", "color: #AE81FF", "Literal.Number.Float"),
    ("mh", "color: #AE81FF", "Literal.Number.Hex"),
    ("mi", "color: #AE81FF", "Literal.Number.Integer"),
    ("mo", "color: #AE81FF", "Literal.Number.Oct"),
    ("sa", "color: #E6DB74", "Literal.String.Affix"),
    ("sb", "color: #E6DB74", "Literal.String.Backtick"),
    ("sc", "color: #E6DB74", "Literal.String.Char"),
    ("dl", "color: #E6DB74", "Literal.String.Delimiter"),
    ("sd", "color: #E6DB74", "Literal.String.Doc"),
    ("s2", "color: #E6DB74", "Literal.String.Double"),
    ("se", "color: #AE81FF", "Literal.String.Escape"),
    ("sh", "color: #E6DB74", "Literal.String.Heredoc"),
    ("si", "color: #E6DB74", "Literal.String.Interpol"),
    ("sx", "color: #E6DB74", "Literal.String.Other"),
    ("sr", "color: #E6DB74", "Literal.String.Regex"),
    ("s1", "color: #E6DB74", "Literal.String.Single"),
    ("ss", "color: #E6DB74", "Literal.String.Symbol"),
    ("bp", "color: #A6E22E", "Name.Builtin.Pseudo"),
    ("fm", "color: #A6E22E", "Name.Function.Magic"),
    ("vc", "color: #F8F8F2", "Name.Variable.Class"),
    ("vg", "color: #F8F8F2", "Name.Variable.Global"),
    ("vi", "color: #F8F8F2", "Name.Variable.Instance"),
    ("vm", "color: #F8F8F2", "Name.Variable.Magic"),
    ("il", "color: #AE81FF", "Literal.Number.Integer.Long")]

/-- Dark text on a light ground. -/
def Style.light : Style where
  marked := "background-color: #ffffcc"
  block := "background: #f8f8f8;"
  tokens := [
    ("c", "color: #3D7B7B; font-style: italic", "Comment"),
    ("err", "border: 1px solid #F00", "Error"),
    ("k", "color: #008000; font-weight: bold", "Keyword"), ("o", "color: #666", "Operator"),
    ("ch", "color: #3D7B7B; font-style: italic", "Comment.Hashbang"),
    ("cm", "color: #3D7B7B; font-style: italic", "Comment.Multiline"),
    ("cp", "color: #9C6500", "Comment.Preproc"),
    ("cpf", "color: #3D7B7B; font-style: italic", "Comment.PreprocFile"),
    ("c1", "color: #3D7B7B; font-style: italic", "Comment.Single"),
    ("cs", "color: #3D7B7B; font-style: italic", "Comment.Special"),
    ("gd", "color: #A00000", "Generic.Deleted"), ("ge", "font-style: italic", "Generic.Emph"),
    ("ges", "font-weight: bold; font-style: italic", "Generic.EmphStrong"),
    ("gr", "color: #E40000", "Generic.Error"),
    ("gh", "color: #000080; font-weight: bold", "Generic.Heading"),
    ("gi", "color: #008400", "Generic.Inserted"), ("go", "color: #717171", "Generic.Output"),
    ("gp", "color: #000080; font-weight: bold", "Generic.Prompt"),
    ("gs", "font-weight: bold", "Generic.Strong"),
    ("gu", "color: #800080; font-weight: bold", "Generic.Subheading"),
    ("gt", "color: #04D", "Generic.Traceback"),
    ("kc", "color: #008000; font-weight: bold", "Keyword.Constant"),
    ("kd", "color: #008000; font-weight: bold", "Keyword.Declaration"),
    ("kn", "color: #008000; font-weight: bold", "Keyword.Namespace"),
    ("kp", "color: #008000", "Keyword.Pseudo"),
    ("kr", "color: #008000; font-weight: bold", "Keyword.Reserved"),
    ("kt", "color: #B00040", "Keyword.Type"), ("m", "color: #666", "Literal.Number"),
    ("s", "color: #BA2121", "Literal.String"), ("na", "color: #687822", "Name.Attribute"),
    ("nb", "color: #008000", "Name.Builtin"),
    ("nc", "color: #00F; font-weight: bold", "Name.Class"), ("no", "color: #800", "Name.Constant"),
    ("nd", "color: #A2F", "Name.Decorator"),
    ("ni", "color: #717171; font-weight: bold", "Name.Entity"),
    ("ne", "color: #CB3F38; font-weight: bold", "Name.Exception"),
    ("nf", "color: #00F", "Name.Function"), ("nl", "color: #767600", "Name.Label"),
    ("nn", "color: #00F; font-weight: bold", "Name.Namespace"),
    ("nt", "color: #008000; font-weight: bold", "Name.Tag"),
    ("nv", "color: #19177C", "Name.Variable"),
    ("ow", "color: #A2F; font-weight: bold", "Operator.Word"),
    ("w", "color: #BBB", "Text.Whitespace"), ("mb", "color: #666", "Literal.Number.Bin"),
    ("mf", "color: #666", "Literal.Number.Float"), ("mh", "color: #666", "Literal.Number.Hex"),
    ("mi", "color: #666", "Literal.Number.Integer"), ("mo", "color: #666", "Literal.Number.Oct"),
    ("sa", "color: #BA2121", "Literal.String.Affix"),
    ("sb", "color: #BA2121", "Literal.String.Backtick"),
    ("sc", "color: #BA2121", "Literal.String.Char"),
    ("dl", "color: #BA2121", "Literal.String.Delimiter"),
    ("sd", "color: #BA2121; font-style: italic", "Literal.String.Doc"),
    ("s2", "color: #BA2121", "Literal.String.Double"),
    ("se", "color: #AA5D1F; font-weight: bold", "Literal.String.Escape"),
    ("sh", "color: #BA2121", "Literal.String.Heredoc"),
    ("si", "color: #A45A77; font-weight: bold", "Literal.String.Interpol"),
    ("sx", "color: #008000", "Literal.String.Other"),
    ("sr", "color: #A45A77", "Literal.String.Regex"),
    ("s1", "color: #BA2121", "Literal.String.Single"),
    ("ss", "color: #19177C", "Literal.String.Symbol"),
    ("bp", "color: #008000", "Name.Builtin.Pseudo"), ("fm", "color: #00F", "Name.Function.Magic"),
    ("vc", "color: #19177C", "Name.Variable.Class"),
    ("vg", "color: #19177C", "Name.Variable.Global"),
    ("vi", "color: #19177C", "Name.Variable.Instance"),
    ("vm", "color: #19177C", "Name.Variable.Magic"),
    ("il", "color: #666", "Literal.Number.Integer.Long")]

/-- A style that does not exist. -/
structure UnknownStyle where
  name : Text
deriving DecidableEq, Repr

def UnknownStyle.message (e : UnknownStyle) : Text :=
  "Could not find style module ".toList ++ Text.quote ("pygments.styles.".toList ++ e.name) ++ ['.']

/-- The style of a name. -/
def Style.ofName (name : Text) : Except UnknownStyle Style :=
  if name = "monokai".toList then .ok dark
  else if name = "default".toList then .ok light
  else .error ⟨name⟩

/-- A rule: a selector and its declarations. -/
private def rule (selector declarations : Text) : Text :=
  selector ++ " \x7b ".toList ++ declarations ++ " \x7d".toList

/-- Rules for line numbers, the same for all styles. -/
private def lineNumberRules : List Text := [
  rule "pre".toList
    "line-height: 125%;".toList,
  rule "td.linenos .normal".toList
    "color: inherit; background-color: transparent; padding-left: 5px; padding-right: 5px;".toList,
  rule "span.linenos".toList
    "color: inherit; background-color: transparent; padding-left: 5px; padding-right: 5px;".toList,
  rule "td.linenos .special".toList
    "color: #000000; background-color: #ffffc0; padding-left: 5px; padding-right: 5px;".toList,
  rule "span.linenos.special".toList
    "color: #000000; background-color: #ffffc0; padding-left: 5px; padding-right: 5px;".toList]

private def tokenRule (scope : Text) (t : String × String × String) : Text :=
  rule (scope ++ " .".toList ++ t.1.toList) t.2.1.toList ++ " /* ".toList ++ t.2.2.toList ++
    " */".toList

/-- The stylesheet of a style for the blocks of a class. -/
def Style.sheet (style : Style) (cssClass : Text) : Text :=
  let scope := '.' :: cssClass
  Text.unlines (lineNumberRules ++ [rule (scope ++ " .hll".toList) style.marked.toList,
    rule scope style.block.toList] ++ style.tokens.map (tokenRule scope))

end WikiText.Code
