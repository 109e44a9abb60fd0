import WikiText.Text.Blank
import WikiText.Text.Lower
import WikiText.Text.LineEnds
import WikiText.Yaml.Lexer
import WikiText.Yaml.Node
import WikiText.Yaml.Timestamp

/-!
# Values of documents

Other mappings are merged into a mapping before its entries are read. No key may come twice, unless
it was merged.
-/

namespace WikiText.Yaml

/-- Why a text has no value. -/
inductive ReadError where
  | malformed
  | noInt (base : Nat) (digits : Text)
  | noFloat (text : Text)
  | noBool (text : Text)
  | badTimestamp (e : TimestampError)
  | collectionInKey (kind : String)
deriving DecidableEq, Repr

/-- The words of an error. A text that is malformed has none of its own. -/
def ReadError.message : ReadError → Text
  | .malformed => []
  | .noInt base digits =>
    "invalid literal for int() with base ".toList ++ Text.ofNat base ++ ": ".toList ++
      Text.quote digits
  | .noFloat s => "could not convert string to float: ".toList ++ Text.quote s
  | .noBool s => Text.quote s
  | .badTimestamp e => e.message
  | .collectionInKey kind => "unhashable type: '".toList ++ kind.toList ++ ['\x27']

namespace Node

/-! ## Merging -/

/-- The entries of a mapping that others are merged from, or of a list of such mappings, of which
the first one counts most. -/
private def mergedEntries? : Node → Option (List (Node × Node))
  | .mapping _ _ entries => some entries
  | .sequence _ items => do
    let parts ← items.mapM fun
      | .mapping _ _ entries => some entries
      | _ => none
    some parts.reverse.flatten
  | .scalar _ _ => none

/-- The entries that are merged into a mapping, and its own entries. -/
private def splitMerged? : List (Node × Node) →
    Option (List (Node × Node) × List (Node × Node))
  | [] => some ([], [])
  | (.scalar .merge _, v) :: es => do
    let (merged, own) ← splitMerged? es
    let entries ← mergedEntries? v
    if entries.isEmpty || merged.isEmpty then some (entries ++ merged, own) else none
  | (.scalar .defaultValue s, v) :: es => do
    let (merged, own) ← splitMerged? es
    some (merged, (.scalar .text s, v) :: own)
  | e :: es => do
    let (merged, own) ← splitMerged? es
    some (merged, e :: own)

mutual

/-- Merge mappings throughout a node. -/
private def merge? : Node → Option Node
  | .scalar kind s => some (.scalar kind s)
  | .sequence kind items => do return .sequence kind (← mergeItems? items)
  | .mapping kind _ entries => do
    let (merged, own) ← splitMerged? (← mergeEntries? entries)
    return .mapping kind (!merged.isEmpty) (merged ++ own)

private def mergeItems? : List Node → Option (List Node)
  | [] => some []
  | n :: ns => do return (← merge? n) :: (← mergeItems? ns)

private def mergeEntries? : List (Node × Node) → Option (List (Node × Node))
  | [] => some []
  | (k, v) :: es => do return (← merge? k, ← merge? v) :: (← mergeEntries? es)

end

/-! ## Scalars -/

/-- A text without its sign, and whether it is negative. -/
private def splitSign (s : Text) : Bool × Text :=
  match s with
  | c :: t => if c = '-' then (true, t) else if c = '+' then (false, t) else (false, s)
  | [] => (false, [])

private def digitsIn (base : Nat) (s : Text) : Option Nat :=
  let isDigit (c : Char) : Bool := (Text.hexDigit? c).any (· < base)
  if s.isEmpty || !s.all isDigit then none
  else some (s.foldl (fun n c => base * n + (Text.hexDigit? c).getD 0) 0)

/-- The number that digits stand for, if each of them is one. -/
private def nat (base : Nat) (digits : Text) : Except ReadError Nat :=
  match digitsIn base digits with
  | some n => .ok n
  | none => .error (.noInt base digits)

/-- The number to base 60 that parts between colons stand for. -/
private def sixties (parts : List Text) : Except ReadError Nat := do
  return (← parts.mapM (nat 10)).foldl (60 * · + ·) 0

/-- The number that digits stand for in the base that they tell. In the older version a zero in
front tells base 8. -/
private def natOf (v : Version) : Text → Except ReadError Nat
  | '0' :: 'b' :: d => nat 2 d
  | '0' :: 'x' :: d => nat 16 d
  | '0' :: 'o' :: d => nat 8 d
  | d =>
    match v with
    | .v12 => nat 10 d
    | .v11 => if d.head? = some '0' then nat 8 d else sixties (Text.splitOn ':' d)

private def int (v : Version) (s : Text) : Except ReadError Value := do
  let (negative, t) := splitSign (s.filter (· ≠ '_'))
  let n ← natOf v t
  return .int (if negative then -(n : Int) else n)

/-- The digits of a decimal, and the power of ten that they are multiplied with. -/
private def decimal (t : Text) : Except ReadError (Nat × Int) := do
  let whole := t.takeWhile Text.isAsciiDigit
  let (places, e) := match t.drop whole.length with
    | '.' :: u => (u.takeWhile Text.isAsciiDigit, u.dropWhile Text.isAsciiDigit)
    | u => ([], u)
  let power : Option Int := match e with
    | [] => some 0
    | 'e' :: u =>
      let (down, digits) := splitSign u
      (digitsIn 10 digits).map fun n => if down then -(n : Int) else n
    | _ => none
  match power, whole ++ places with
  | some p, c :: digits => return (Text.natOfDigits (c :: digits), p - places.length)
  | _, _ => throw (.noFloat t)

/-- A number with a point or an exponent. In the older version its whole digits may be to base
60. -/
private def float (v : Version) (s : Text) : Except ReadError Value := do
  let (negative, t) := splitSign (Text.lowerAscii (s.filter (· ≠ '_')))
  if t = ".inf".toList then return .float (.infinite negative)
  if t = ".nan".toList then return .float .nan
  match v, (Text.splitOn ':' t).reverse with
  | .v11, last :: part :: parts =>
    let n ← sixties (part :: parts).reverse
    let (digits, power) ← decimal last
    let total := 60 * n * Nat.pow 10 (-power).toNat + digits * Nat.pow 10 power.toNat
    return .float (.ofDecimal negative total (min power 0))
  | _, _ =>
    let (digits, power) ← decimal t
    return .float (.ofDecimal negative digits power)

private def bool (s : Text) : Except ReadError Value :=
  let t := Text.lower s
  if (["yes", "y", "true", "on"] : List String).any (·.toList = t) then .ok (.bool true)
  else if (["no", "n", "false", "off"] : List String).any (·.toList = t) then .ok (.bool false)
  else .error (.noBool t)

/-- The number of a digit to base 64. -/
private def sextet? (c : Char) : Option Nat :=
  if 'A' ≤ c && c ≤ 'Z' then some (c.toNat - 65)
  else if 'a' ≤ c && c ≤ 'z' then some (c.toNat - 71)
  else if Text.isAsciiDigit c then some (c.toNat + 4)
  else if c = '+' then some 62
  else if c = '/' then some 63
  else none

/-- The bytes that digits to base 64 stand for. Of a group of four digits `known` have been read and
leave the number `left`, and `filled` signs have been read that fill it up. What is no digit is passed
over, and nothing is read behind a group that is filled up. -/
private def bytesFrom? (known left filled : Nat) : Text → Option (List UInt8)
  | [] => if known = 0 then some [] else none
  | c :: s =>
    if c = '=' then
      if known < 2 then bytesFrom? known left filled s
      else if known + filled < 3 then bytesFrom? known left (filled + 1) s
      else some []
    else match sextet? c with
      | none => bytesFrom? known left filled s
      | some n => match known with
        | 0 => bytesFrom? 1 n 0 s
        | 1 => (bytesFrom? 2 (n % 16) 0 s).map (UInt8.ofNat (4 * left + n / 16) :: ·)
        | 2 => (bytesFrom? 3 (n % 4) 0 s).map (UInt8.ofNat (16 * left + n / 4) :: ·)
        | _ => (bytesFrom? 0 0 0 s).map (UInt8.ofNat (64 * left + n) :: ·)

private def bytes (s : Text) : Except ReadError Value :=
  if s.any (127 < ·.toNat) then .error .malformed
  else match bytesFrom? 0 0 0 s with
    | some b => .ok (.bytes b)
    | none => .error .malformed

private def scalarValue (s : Text) : Kind → Except ReadError Value
  | .null => .ok .null
  | .bool => bool s
  | .int v => int v s
  | .float v => float v s
  | .timestamp =>
    if Kind.ofPlain .v12 s = .timestamp then
      match Timestamp.ofText s with
      | .ok t => .ok t.value
      | .error e => .error (.badTimestamp e)
    else .error .malformed
  | .text => .ok (.text s)
  | .binary => bytes s
  | _ => .error .malformed

/-! ## Collections -/

mutual

/-- The kind of the first collection in a key that no key can be. -/
private def collectionIn? : Value → Option String
  | .list _ => some "list"
  | .mapping _ => some "dict"
  | .set _ => some "set"
  | .tuple items => collectionAmong? items
  | _ => none

private def collectionAmong? : List Value → Option String
  | [] => none
  | v :: vs => (collectionIn? v).or (collectionAmong? vs)

end

/-- A value as a key. A list counts as a tuple. -/
private def keyOf : Value → Except ReadError Value
  | .list items => .ok (.tuple items)
  | .mapping _ | .set _ => .error .malformed
  | v => .ok v

/-- Give a key its value. -/
private def insert (k v : Value) : List (Value × Value) → List (Value × Value)
  | [] => [(k, v)]
  | e :: es => if e.1.sameKey k then (e.1, v) :: es else e :: insert k v es

mutual

/-- The value of a node. -/
private def valueOf : Node → Except ReadError Value
  | .scalar kind s => scalarValue s kind
  | .sequence .list items => do return .list (← valuesOf items)
  | .sequence .orderedMapping items => do return .mapping (← orderedEntries [] items)
  | .sequence .pairs items => do return .list (← pairs items)
  | .sequence _ _ => .error .malformed
  | .mapping .mapping merged entries => do return .mapping (← entriesOf merged [] entries)
  | .mapping .set merged entries => do
    let entries ← entriesOf merged [] entries
    return .set (entries.map (·.1))
  | .mapping _ _ _ => .error .malformed

private def valuesOf : List Node → Except ReadError (List Value)
  | [] => .ok []
  | n :: ns => do
    let v ← valueOf n
    return v :: (← valuesOf ns)

private def entriesOf (merged : Bool) (known : List (Value × Value)) :
    List (Node × Node) → Except ReadError (List (Value × Value))
  | [] => .ok known
  | (k, v) :: es => do
    let k ← keyOf (← valueOf k)
    let v ← valueOf v
    if let some kind := collectionIn? k then throw (.collectionInKey kind)
    if !merged && known.any (·.1.sameKey k) then throw .malformed
    entriesOf merged (insert k v known) es

/-- The entries of mappings with one entry each. No key may come twice. -/
private def orderedEntries (known : List (Value × Value)) :
    List Node → Except ReadError (List (Value × Value))
  | [] => .ok known
  | .mapping _ false [(k, v)] :: ns => do
    let k ← valueOf k
    if let some kind := collectionIn? k then throw (.collectionInKey kind)
    if known.any (·.1.sameKey k) then throw .malformed
    let v ← valueOf v
    orderedEntries (known ++ [(k, v)]) ns
  | _ => .error .malformed

/-- The pairs that mappings with one entry each stand for. -/
private def pairs : List Node → Except ReadError (List Value)
  | [] => .ok []
  | .mapping _ false [(k, v)] :: ns => do
    let k ← valueOf k
    let v ← valueOf v
    return .tuple [k, v] :: (← pairs ns)
  | _ => .error .malformed

end

/-- The value of a node, with other mappings merged into its mappings. -/
def value (n : Node) : Except ReadError Value :=
  match merge? n with
  | some n => valueOf n
  | none => .error .malformed

end Node

/-- The value of the only document in a text. A text without a document has the value null. -/
def read (s : Text) : Except ReadError Value :=
  match (tokens? (Text.unifyLineEnds s)).bind Node.ofTokens? with
  | some (some n) => n.value
  | some none => .ok .null
  | none => .error .malformed

end WikiText.Yaml
