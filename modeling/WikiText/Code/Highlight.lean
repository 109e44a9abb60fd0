import WikiText.Code.Block

/-! # Code blocks highlighted -/

namespace WikiText.Code

/-- What highlights code, given the code and its language. It may keep a state `σ`, and it may fail
with a cause `ε`. -/
abbrev Engine (σ ε : Type) := Text → Text → σ → Except ε Text × σ

variable {σ ε : Type}

/-- A block with highlighted code; its class tells so. -/
def highlighted (cssClass : Text) (b : Block) (code : Text) : Text :=
  "<pre><code class=\"".toList ++ b.tag ++ ' ' :: cssClass ++ "\">".toList ++ code ++ closing

/-- Highlight the blocks among the pieces of a markup. The first failure is the answer. -/
def highlightPieces (engine : Engine σ ε) (cssClass : Text) :
    List (Text.Piece Block) → σ → Except ε Text × σ
  | [], st => (.ok [], st)
  | .char c :: ps, st =>
    let (rest, st) := highlightPieces engine cssClass ps st
    (rest.map (c :: ·), st)
  | .part b :: ps, st =>
    match engine b.code b.tag st with
    | (.error e, st) => (.error e, st)
    | (.ok code, st) =>
      let (rest, st) := highlightPieces engine cssClass ps st
      (rest.map (highlighted cssClass b code ++ ·), st)

/-- Highlight every code block that has a language. -/
def highlight (engine : Engine σ ε) (cssClass : Text) (markup : Text) (st : σ) :
    Except ε Text × σ :=
  highlightPieces engine cssClass (Block.reader.pieces true markup) st

end WikiText.Code
