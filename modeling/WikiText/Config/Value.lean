import WikiText.Number.Binary64
import WikiText.Text.Quoted

/-! # Values of configuration files -/

namespace WikiText

/-- A value. Of a value of another kind only its two texts are known, the plain and the quoted
one. -/
inductive Value where
  | null
  | bool (b : Bool)
  | int (n : Int)
  | float (x : Binary64)
  | text (s : Text)
  | bytes (b : List UInt8)
  | list (items : List Value)
  | tuple (items : List Value)
  | set (items : List Value)
  | mapping (entries : List (Value × Value))
  | other (plain quoted : Text)
deriving Repr

namespace Value

instance : Inhabited Value := ⟨.null⟩

private def boolText (b : Bool) : Text := (if b then "True" else "False").toList

mutual

/-- The text of a value as it stands inside another value, where texts are quoted. The items of a set
stand in the order in which they were given. -/
def quoted : Value → Text
  | .null => "None".toList
  | .bool b => boolText b
  | .int n => Text.ofInt n
  | .float x => x.toText
  | .text s => Text.quote s
  | .bytes b => 'b' :: Text.quoteAscii (b.map fun n => Char.ofNat n.toNat)
  | .list items => '[' :: Text.joinWith ", ".toList (quotedList items) ++ [']']
  | .tuple [v] => '(' :: v.quoted ++ ",)".toList
  | .tuple items => '(' :: Text.joinWith ", ".toList (quotedList items) ++ [')']
  | .set [] => "set()".toList
  | .set items => '\x7b' :: Text.joinWith ", ".toList (quotedList items) ++ ['\x7d']
  | .mapping entries => '\x7b' :: Text.joinWith ", ".toList (quotedEntries entries) ++ ['\x7d']
  | .other _ q => q

private def quotedList : List Value → List Text
  | [] => []
  | v :: vs => v.quoted :: quotedList vs

private def quotedEntries : List (Value × Value) → List Text
  | [] => []
  | (k, v) :: es => (k.quoted ++ ": ".toList ++ v.quoted) :: quotedEntries es

end

/-- The text of a value. -/
def toText : Value → Text
  | .text s => s
  | .other p _ => p
  | v => v.quoted

/-- Values that count as missing: null, false, nought, and what is empty. -/
def isVoid : Value → Bool
  | .null => true
  | .bool b => !b
  | .int n => n == 0
  | .float x => x.toInt? == some 0
  | .text s => s.isEmpty
  | .bytes b => b.isEmpty
  | .list items => items.isEmpty
  | .tuple items => items.isEmpty
  | .set items => items.isEmpty
  | .mapping entries => entries.isEmpty
  | .other _ _ => false

/-- The number that a value is equal to; the truth values are one and nought. -/
private def number? : Value → Option (Int ⊕ Binary64)
  | .bool b => some (.inl (if b then 1 else 0))
  | .int n => some (.inl n)
  | .float x => match x.toInt? with
    | some n => some (.inl n)
    | none => some (.inr x)
  | _ => none

private def sameNumber : Int ⊕ Binary64 → Int ⊕ Binary64 → Bool
  | .inl a, .inl b => a == b
  | .inr x, .inr y => x.numEq y
  | _, _ => false

mutual

/-- Whether two values are one key. Numbers are compared by what they count. -/
def sameKey : Value → Value → Bool
  | .null, .null => true
  | .text s, .text t => s == t
  | .bytes a, .bytes b => a == b
  | .tuple vs, .tuple ws => sameKeys vs ws
  | .other _ p, .other _ q => p == q
  | v, w => match number? v, number? w with
    | some a, some b => sameNumber a b
    | _, _ => false

private def sameKeys : List Value → List Value → Bool
  | [], [] => true
  | v :: vs, w :: ws => sameKey v w && sameKeys vs ws
  | _, _ => false

end

/-- The value under a text among entries. -/
def find? (key : Text) : List (Value × Value) → Option Value
  | [] => none
  | (.text k, v) :: es => if k = key then some v else find? key es
  | _ :: es => find? key es

end Value

end WikiText
