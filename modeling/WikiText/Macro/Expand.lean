import WikiText.Html.Escape
import WikiText.Macro.Token
import WikiText.Warning

/-! # Macro tokens replaced by what they call for

One pass goes from left to right, and does not read its own results again.
-/

namespace WikiText

/-- A cause of failure that can be put into words. -/
class Cause (ε : Type) where
  message : ε → Text

namespace Macro

/-- What answers a macro call, given its name and arguments. It may keep a state `σ`, and it may
fail with a cause `ε`. No answer leaves the token as it is. -/
abbrev Resolver (σ ε : Type) := Text → List Text → σ → Except ε (Option Text) × σ

/-- The notice that stands for a call that failed. -/
def notice (name error : Text) : Text :=
  "<div class=\"flash error\">Error executing the <strong>".toList ++ Html.escape .named name ++
    "</strong> macro (".toList ++ Html.escape .named error ++ ")</div>".toList

variable {σ ε : Type} [Cause ε]

/-- The text that replaces a token, with what is to be reported. -/
def replacement (t : Token) : Except ε (Option Text) → Text × List Warning
  | .ok (some (c :: r)) => (c :: r, [])
  | .ok _ => (t.source, [])
  | .error e =>
    let message := Cause.message e
    (notice t.name message, [.macroFailed t.name message])

/-- Replace the tokens among the parts of a markup. -/
def expandPieces (resolver : Resolver σ ε) : List Piece → σ → (Text × List Warning) × σ
  | [], st => (([], []), st)
  | .char c :: ps, st =>
    let ((s, ws), st) := expandPieces resolver ps st
    ((c :: s, ws), st)
  | .token t :: ps, st =>
    if t.escaped then
      let ((s, ws), st) := expandPieces resolver ps st
      ((t.source ++ s, ws), st)
    else
      let (answer, st) := resolver t.name t.args st
      let (r, reported) := replacement t answer
      let ((s, ws), st) := expandPieces resolver ps st
      ((r ++ s, reported ++ ws), st)

/-- Replace the tokens of a markup. Without a resolver only the marks of escaped tokens go. -/
def expand (resolver : Option (Resolver σ ε)) (markup : Text) (st : σ) :
    (Text × List Warning) × σ :=
  expandPieces (resolver.getD fun _ _ st => (.ok none, st)) (pieces markup) st

end Macro

end WikiText
