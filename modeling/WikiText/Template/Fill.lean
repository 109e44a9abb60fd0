import WikiText.Template.Field
import WikiText.Template.Lookup

/-! # Filling in templates -/

namespace WikiText.Template

/-- A value in quotes if a conversion asks for it. -/
def convert (value : Text) : Option Char → Except Error Text
  | none | some 's' => .ok value
  | some 'r' => .ok (Text.quote value)
  | some 'a' => .ok (Text.quoteAscii value)
  | some c => .error (.unknownConversion c)

/-- Fill in the parts of a template one after the other. Fields inside specifiers are filled in by
`inner`. A part takes a character at least, so `fuel` is the length of the template. -/
def fillParts (args : Arguments)
    (inner : Numbering → Text → Except Error (Text × Numbering)) :
    (fuel : Nat) → Numbering → Text → Except Error (Text × Numbering)
  | 0, numbering, _ => .ok ([], numbering)
  | _, numbering, [] => .ok ([], numbering)
  | fuel + 1, numbering, s => do
    let (part, rest) ← Part.read s
    match part.field with
    | none =>
      let (more, numbering) ← fillParts args inner fuel numbering rest
      .ok (part.literal ++ more, numbering)
    | some field =>
      let (value, numbering) ← lookup args numbering field.name
      let value ← convert value field.conversion
      let (spec, numbering) ← if field.nested then inner numbering field.spec
        else .ok (field.spec, numbering)
      let value ← formatText spec value
      let (more, numbering) ← fillParts args inner fuel numbering rest
      .ok (part.literal ++ value ++ more, numbering)

/-- Fill in a template in which fields are nested `depth` deep at most. -/
def fillDepth (args : Arguments) :
    (depth : Nat) → Numbering → Text → Except Error (Text × Numbering)
  | 0, _, _ => .error .nestedTooDeep
  | depth + 1, numbering, s => fillParts args (fillDepth args depth) s.length numbering s

/-- Fill in a template. Fields may stand inside specifiers, but not inside theirs. -/
def fill (template : Text) (args : Arguments) : Except Error Text :=
  (fillDepth args 2 .undecided template).map Prod.fst

end WikiText.Template
