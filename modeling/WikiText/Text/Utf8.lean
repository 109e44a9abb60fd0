import WikiText.Text.Digit

/-! # Texts as bytes -/

namespace WikiText.Utf8

/-- Why bytes are no text. -/
inductive Reason where
  | badStart
  | badContinuation
  | incomplete
deriving DecidableEq, Repr

def Reason.message : Reason → Text
  | .badStart => "invalid start byte".toList
  | .badContinuation => "invalid continuation byte".toList
  | .incomplete => "unexpected end of data".toList

/-- Bytes that begin no character: the index and the value of the first one, and how many they
are. -/
structure DecodeError where
  index : Nat
  first : UInt8
  count : Nat
  reason : Reason
deriving DecidableEq, Repr

def DecodeError.message (e : DecodeError) : Text :=
  let place :=
    if e.count = 1 then
      "byte 0x".toList ++ Text.hex 2 e.first.toNat ++ " in position ".toList ++ Text.ofNat e.index
    else
      "bytes in position ".toList ++ Text.ofNat e.index ++ '-' :: Text.ofNat (e.index + e.count - 1)
  "'utf-8' codec can't decode ".toList ++ place ++ ": ".toList ++ e.reason.message

/-- The number of bytes behind a first byte, and the bits of the character in it. -/
private def lead? (b : UInt8) : Option (Nat × Nat) :=
  let n := b.toNat
  if n < 0x80 then some (0, n)
  else if n < 0xC2 then none
  else if n < 0xE0 then some (1, n - 0xC0)
  else if n < 0xF0 then some (2, n - 0xE0)
  else if n < 0xF5 then some (3, n - 0xF0)
  else none

/-- The bytes that may follow a first byte. A character has one form only, and code points above the
last one or between the halves of a pair are no characters. -/
private def maySecond (first b : UInt8) : Bool :=
  let n := b.toNat
  let low := if first = 0xE0 then 0xA0 else if first = 0xF0 then 0x90 else 0x80
  let high := if first = 0xED then 0xA0 else if first = 0xF4 then 0x90 else 0xC0
  low ≤ n && n < high

private def mayFollow (b : UInt8) : Bool := 0x80 ≤ b.toNat && b.toNat < 0xC0

/-- The code point that `left` more bytes complete, `taken` bytes after the first one. -/
private def complete (first : UInt8) : (left taken value : Nat) → List UInt8 →
    Except (Nat × Reason) (Nat × List UInt8)
  | 0, _, value, bs => .ok (value, bs)
  | left + 1, taken, value, bs => match bs with
    | [] => .error (taken + 1, .incomplete)
    | b :: bs =>
      if (if taken = 0 then maySecond first b else mayFollow b) then
        complete first left (taken + 1) (64 * value + (b.toNat - 0x80)) bs
      else .error (taken + 1, .badContinuation)

/-- Decode bytes from an index on. A character takes a byte at least, so `fuel` is their number. -/
private def decodeFrom : (fuel index : Nat) → List UInt8 → Except DecodeError Text
  | _, _, [] => .ok []
  | 0, _, _ => .ok []
  | fuel + 1, index, b :: bs => match lead? b with
    | none => .error ⟨index, b, 1, .badStart⟩
    | some (left, value) => match complete b left 0 value bs with
      | .error (count, reason) => .error ⟨index, b, count, reason⟩
      | .ok (value, rest) => do
        return Char.ofNat value :: (← decodeFrom fuel (index + 1 + left) rest)

/-- The text of bytes. -/
def decode (bs : List UInt8) : Except DecodeError Text := decodeFrom bs.length 0 bs

/-- The bytes of a text. -/
def encode (s : Text) : List UInt8 := (String.ofList s).toUTF8.toList

end WikiText.Utf8
